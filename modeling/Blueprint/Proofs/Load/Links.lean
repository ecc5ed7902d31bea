import Blueprint.Proofs.Load.Outlines

/-!
# The second pass, as the grammar has it

Links are read when the names of all objects are known, so that a link may lead to any of
them. `Blueprint.Load.links_yields` says that the second pass succeeds on a definition that
has passed the first one exactly when every object has its links in order, and gives them
object by object.
-/

namespace Blueprint

namespace Load

open Grammar

theorem linkTarget_yields (objects : List String) (t : Tree) (entity : Label) :
    Yields (linkTarget objects t entity) (IsOneOf objects t) (objects.idxOf t.trimmed) := by
  have h := findIdx?_yields objects id t.trimmed (.unresolvedLinkTarget entity t.trimmed)
  rw [List.map_id] at h
  exact text_bind_yields t entity "target" h

theorem LinkSlot.mem_all (s : LinkSlot) : s ∈ [LinkSlot.name, .target, .mandatory] := by
  cases s <;> decide

/-- What the slots of a link take. -/
def LinkSlot.Accepts (objects : List String) : LinkSlot → Tree → Prop
  | .name => IsIdentifier
  | .target => IsOneOf objects
  | .mandatory => IsBoolean

/-- What the slots of a link make of it. -/
def LinkSlot.read (objects : List String) : (s : LinkSlot) → Tree → s.Value
  | .name => Tree.trimmed
  | .target => fun t => objects.idxOf t.trimmed
  | .mandatory => fun t => t.asBoolean?.getD false

/-- The law of a link. -/
def linkLaw (objects : List String) (owner : Label) (position : Nat) :
    (linkForm objects owner position).Law where
  slots := [.name, .target, .mandatory]
  accepts _ := LinkSlot.Accepts objects
  value _ := LinkSlot.read objects
  slot?_eq_some_iff := by
    intro k s
    constructor
    · intro h
      simp only [linkForm] at h
      split at h <;> cases h <;> rfl
    · rintro rfl
      cases s <;> rfl
  mem_slots := LinkSlot.mem_all
  read_yields before s raw := by
    cases s with
    | name => exact identifier_yields _ _ _
    | target => exact linkTarget_yields _ _ _
    | mandatory => exact boolean_yields _ _ _

/-- **A link**, whose target is one of the objects. -/
theorem link_yields (objects : List String) (source : Nat) (owner : Label) (t : Tree)
    (position : Nat) :
    Yields (link objects source owner t position) (IsLink objects t)
      (Reading.link objects source t) := by
  let law := linkLaw objects owner position
  refine ((law.draft_yields t).bind fun _ =>
    (field_yields "name" Tree.trimmed).bind fun _ =>
    (field_yields "target" fun v => objects.idxOf v.trimmed).bind fun _ =>
    Yields.pure (⟨t.declaredName, source, objects.idxOf (t.textAt "target"),
      (law.draftOf t .mandatory).getD true⟩ : Link)).congr ?_ fun h => ?_
  · constructor
    · rintro ⟨⟨hfields, hslots⟩, hname, htarget, -⟩
      exact ⟨hfields, requires_iff.mpr ⟨hname, hslots .name⟩,
        requires_iff.mpr ⟨htarget, hslots .target⟩, hslots .mandatory⟩
    · rintro ⟨hfields, hname, htarget, hmandatory⟩
      obtain ⟨hname, hnames⟩ := requires_iff.mp hname
      obtain ⟨htarget, htargets⟩ := requires_iff.mp htarget
      exact ⟨⟨hfields, fun s => by cases s <;> assumption⟩, hname, htarget, trivial⟩
  · have hmandatory : law.draftOf t .mandatory = t.booleanAt? "mandatory" :=
      map_asBoolean? h.mandatory
    rw [hmandatory]
    rfl

theorem nextLink_yields (objects : List String) (source : Nat) (owner : Label) (done : List Link)
    (t : Tree) (position : Nat) :
    Yields (nextLink objects source owner done t position)
      (IsLink objects t ∧ t.declaredName ∉ done.map (·.name)) (Reading.link objects source t) :=
  unless_yields (link_yields objects source owner t position) any_beq_iff

/-- **The links of one object**, all their names different. -/
theorem objectLinks_yields (objects types : List String) (source : Nat) (t : Tree) :
    Yields (objectLinks objects source (objectOutlineOf types t)) (HasLinks objects t)
      (Reading.links objects source t) := by
  let owner := ownerLabel t.declaredName
  have hlist : ∀ v : Tree,
      Yields (items v owner "links" >>= eachAfter (nextLink objects source owner))
        (IsSequenceOf (IsLink objects) v ∧ (v.items.map Tree.declaredName).Nodup)
        (v.items.map (Reading.link objects source)) := by
    intro v
    refine (sequence_yields v owner "links" (eachAfter_distinct_yields (·.name)
      (nextLink_yields objects source owner) v.items)).congr ?_ fun _ => rfl
    rw [List.map_map]
    rfl
  refine (optional_items_yields "links" hlist).congr ?_ fun _ => rfl
  rw [allows_and_iff, allows_distinct_iff]
  exact ⟨fun h => ⟨h.1, h.2⟩, fun h => ⟨h.links, h.linkNames⟩⟩

/-- The links of all objects of a definition, object by object. -/
def linksOf (d : Tree) : List (List Link) :=
  (d.itemsAt "objects").zipIdx.map fun (t, i) => Reading.links (d.namesAt "objects") i t

/-- **The second pass.** -/
theorem links_yields (d : Tree) :
    Yields (links (outlineOf d)) (∀ t ∈ d.itemsAt "objects", HasLinks (d.namesAt "objects") t)
      (linksOf d) := by
  have hnames : (outlineOf d).objects.map (·.name) = d.namesAt "objects" := by
    rw [outlineOf, List.map_map]
    rfl
  rw [links, hnames]
  exact pass_yields (f := fun x => objectLinks (d.namesAt "objects") x.2 x.1)
    (objects_outlineOf d) fun t i => objectLinks_yields (d.namesAt "objects") _ i t

end Load

end Blueprint
