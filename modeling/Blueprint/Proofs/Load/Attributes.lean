import Blueprint.Proofs.Load.Fields

/-!
# Attributes, as the grammar has them

Both notations of attributes are read by adding one attribute after another to a map that
refuses a name it has. The map that comes of it lists the attributes declared, in order,
and it comes of them exactly when their names are distinct
(`Blueprint.Load.attributes_yields`).
-/

namespace Blueprint

namespace Load

open Grammar

/-! ### Adding attributes one by one -/

theorem contains_iff {m : AttributeMap} {name : String} :
    m.contains name = true ↔ name ∈ m.entries.map (·.1) := by
  rw [AttributeMap.contains, AttributeMap.get?, Option.isSome_map, List.find?_isSome, List.mem_map]
  exact exists_congr fun e => and_congr_right fun _ => beq_iff_eq

/-- An attribute is added when its name is new. -/
theorem addAttribute_yields (owner : Label) (m : AttributeMap) (name : String) (value : Scalar) :
    Yields (addAttribute owner m name value) (name ∉ m.entries.map (·.1))
      ⟨m.entries ++ [(name, value)]⟩ := by
  refine orError_yields fun a => ?_
  rw [AttributeMap.insert?]
  by_cases hmem : name ∈ m.entries.map (·.1)
  · rw [if_pos (contains_iff.mpr hmem)]
    exact iff_of_false (fun h => nomatch h) fun h => h.1 hmem
  · rw [if_neg (fun h => hmem (contains_iff.mp h)), Option.some.injEq, and_iff_right hmem]

/-- **Attributes added one after another**: each of them is read alike, and all are added
exactly when their names are distinct. -/
theorem foldlM_addAttribute_yields {γ : Type}
    {add : AttributeMap → γ → Except LoadError AttributeMap} {G : γ → Prop}
    {R : γ → String × Scalar}
    (h : ∀ m x, Yields (add m x) (G x ∧ (R x).1 ∉ m.entries.map (·.1)) ⟨m.entries ++ [R x]⟩)
    (xs : List γ) :
    Yields (xs.foldlM add .empty) ((∀ x ∈ xs, G x) ∧ (xs.map fun x => (R x).1).Nodup)
      ⟨xs.map R⟩ := by
  induction xs using List.reverseRecOn with
  | nil =>
    refine (Yields.pure _).congr (iff_of_true trivial ⟨?_, List.nodup_nil⟩) fun _ => rfl
    exact fun x hx => nomatch hx
  | append_singleton xs x ih =>
    have hstep : (xs ++ [x]).foldlM add .empty = (xs.foldlM add .empty >>= fun m => add m x) := by
      simp only [List.foldlM_append, List.foldlM_cons, List.foldlM_nil, bind_pure]
    rw [hstep]
    refine (ih.bind fun _ => h _ x).congr ?_ fun _ => ?_
    · rw [List.forall_mem_append, List.forall_mem_singleton, List.map_append, List.map_singleton,
        ← List.concat_eq_append, List.nodup_concat, List.map_map]
      constructor
      · rintro ⟨⟨hG, hnodup⟩, hx, hnew⟩
        exact ⟨⟨hG, hx⟩, hnew, hnodup⟩
      · rintro ⟨⟨hG, hx⟩, hnew, hnodup⟩
        exact ⟨⟨hG, hnodup⟩, hx, hnew⟩
    · rw [List.map_append, List.map_singleton]

/-! ### Both notations -/

/-- An entry of a mapping of attributes. -/
theorem addAttributeEntry_yields (owner : Label) (m : AttributeMap) (entry : String × Tree) :
    Yields (addAttributeEntry owner m entry)
      ((IsIdentifier (.string entry.1) ∧ IsAttributeValue entry.2) ∧
        trim entry.1 ∉ m.entries.map (·.1))
      ⟨m.entries ++ [(trim entry.1, Reading.attributeValue entry.2)]⟩ := by
  refine ((identifier_yields _ _ _).bind fun _ => (attributeValue_yields _ _).bind fun _ =>
    addAttribute_yields owner m _ _).congr ?_ fun _ => rfl
  rw [and_assoc]
  rfl

theorem AttributeSlot.mem_all (s : AttributeSlot) : s ∈ [AttributeSlot.name, .value] := by
  cases s <;> decide

/-- What the slots of an item take. -/
def AttributeSlot.Accepts : AttributeSlot → Tree → Prop
  | .name => IsIdentifier
  | .value => IsAttributeValue

/-- What the slots of an item make of it. -/
def AttributeSlot.read : (s : AttributeSlot) → Tree → s.Value
  | .name => Tree.trimmed
  | .value => Reading.attributeValue

/-- The law of an item of a list of attributes. -/
def attributeLaw (owner : Label) (position : Nat) : (attributeForm owner position).Law where
  slots := [.name, .value]
  accepts _ := AttributeSlot.Accepts
  value _ := AttributeSlot.read
  slot?_eq_some_iff := by
    intro k s
    constructor
    · intro h
      simp only [attributeForm] at h
      split at h <;> cases h <;> rfl
    · rintro rfl
      cases s <;> rfl
  mem_slots := AttributeSlot.mem_all
  read_yields before s raw := by
    cases s with
    | name => exact identifier_yields _ _ _
    | value => exact attributeValue_yields _ _

/-- An item of a list of attributes. -/
theorem attributeItem_yields (owner : Label) (t : Tree) (position : Nat) :
    Yields (attributeItem owner t position) (IsAttribute t) (Reading.attributeItem t) := by
  let law := attributeLaw owner position
  refine ((law.draft_yields t).bind fun _ =>
    (field_yields "name" Tree.trimmed).bind fun _ =>
    (field_yields "value" Reading.attributeValue).bind fun _ =>
    Yields.pure (Reading.attributeItem t)).congr ?_ fun _ => rfl
  constructor
  · rintro ⟨⟨hfields, hvalues⟩, hname, hvalue, -⟩
    exact ⟨hfields, requires_iff.mpr ⟨hname, hvalues .name⟩,
      requires_iff.mpr ⟨hvalue, hvalues .value⟩⟩
  · rintro ⟨hfields, hname, hvalue⟩
    obtain ⟨hname, hnames⟩ := requires_iff.mp hname
    obtain ⟨hvalue, hvalues⟩ := requires_iff.mp hvalue
    exact ⟨⟨hfields, fun s => by cases s <;> assumption⟩, hname, hvalue, trivial⟩

/-- An item of a list of attributes, after those before it. -/
theorem addAttributeItem_yields (owner : Label) (m : AttributeMap) (item : Tree × Nat) :
    Yields (addAttributeItem owner m item)
      (IsAttribute item.1 ∧ (Reading.attributeItem item.1).1 ∉ m.entries.map (·.1))
      ⟨m.entries ++ [Reading.attributeItem item.1]⟩ :=
  (attributeItem_yields owner item.1 item.2).bind fun _ => addAttribute_yields owner m _ _

/-- **Attributes in either notation**: they are accepted as the grammar has them, and the
map lists them in order. -/
theorem attributes_yields (t : Tree) (owner : Label) :
    Yields (attributes t owner) (IsAttributes t) (Reading.attributes t) := by
  cases t with
  | mapping entries =>
    refine (foldlM_addAttribute_yields (addAttributeEntry_yields owner) entries).congr ?_
      fun _ => rfl
    -- A mapping is no sequence, so the other notation is out of the question.
    constructor
    · exact fun h => .inl ⟨entries, rfl, h⟩
    · rintro (⟨_, ⟨⟩, h⟩ | ⟨⟨_, hsequence, _⟩, _⟩)
      · exact h
      · exact nomatch hsequence
  | sequence ts =>
    have hall := foldlM_addAttribute_yields (G := fun x => IsAttribute x.1)
      (R := fun x => Reading.attributeItem x.1) (addAttributeItem_yields owner) (ts.zipIdx 1)
    refine hall.congr ?_ ?_
    · rw [forall_mem_zipIdx, map_zipIdx fun t => (Reading.attributeItem t).1]
      constructor
      · exact fun h => .inr ⟨⟨ts, rfl, h.1⟩, h.2⟩
      · rintro (⟨_, hmapping, _⟩ | ⟨⟨_, ⟨⟩, hitems⟩, hnames⟩)
        · exact nomatch hmapping
        · exact ⟨hitems, hnames⟩
    · intro _
      rw [map_zipIdx Reading.attributeItem]
      rfl
  | _ =>
    refine Yields.error _ ?_
    rintro (⟨_, h, _⟩ | ⟨⟨_, h, _⟩, _⟩) <;> exact nomatch h

/-- The attributes of an entity, none when it declares none. -/
theorem getD_map_attributes (t : Tree) :
    ((t.get? "attributes").map Reading.attributes).getD .empty = Reading.attributesOf t := by
  rw [Reading.attributesOf, Tree.field]
  cases t.get? "attributes" with
  | none => rfl
  | some v => rfl

end Load

end Blueprint
