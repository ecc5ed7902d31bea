import Blueprint.Proofs.Project.Definition
import Blueprint.Proofs.Project.Shown

/-!
# Dumps are not ambiguous

Two loaded projects have the same dump only if everything in it is the same
(`Blueprint.Load.dump_unambiguous`). There is no escape in a dump, so this is asked of projects
whose texts have no line breaks (`Blueprint.Project.OnOneLine`). Names need no such condition,
since no name of a loaded project has a blank.

What a dump shows is less than the project (`Blueprint.Project.shown?`).

| part | shown by | not shown |
|---|---|---|
| attribute | name and text | whether `1` is a number |
| declared type | name and values | |
| property | name, type and whether it is mandatory | default, pattern, bounds, attributes |
| link | name, target and whether it is mandatory | |
| reverse link | name and source | |
| index | name, whether it is unique, and keys | |
| key | kind and name of what it refers to | |
| file | scope, input and output | |

A dump is made in one go from the project. That it is made of the lines of what is shown
(`Blueprint.Project.dumpLines?_of_shown`) holds of well-formed projects: keys are dumped with the
position that they say they have, and only enumerations with their values.
-/

namespace Blueprint

namespace Project

/-! ### What is shown of a project -/

/-- Attributes are shown by their names and texts. -/
def shownAttributes (m : AttributeMap) : List (String × String) :=
  m.entries.map fun (name, value) => (name, value.text)

/-- A property is shown with the name of its type. -/
def shownProperty? (p : Project) (q : Property) : Option ShownField := do
  let type ← p.dataTypes[q.dataType]?
  return ⟨q.name, type.name, q.mandatory⟩

/-- A link is shown with the name of its target. -/
def shownLink? (p : Project) (l : Link) : Option ShownField := do
  let target ← p.objectName l.target
  return ⟨l.name, target, l.mandatory⟩

/-- At its target, a link is shown with the name of its source. -/
def shownReverseLink? (p : Project) (h : LinkHandle) : Option (String × String) := do
  let link ← p.link? h
  let source ← p.objectName link.source
  return (link.name, source)

/-- A key is shown by the name of what it refers to. -/
def shownKey? (p : Project) (k : IndexKey) : Option (KeyKind × String) := do
  let name ← p.referenceName k.reference
  return (k.reference.kind, name)

def shownIndex? (p : Project) (x : Index) : Option ShownIndex := do
  let keys ← x.keys.mapM p.shownKey?
  return ⟨x.name, x.unique, keys⟩

/-- **What is shown of an object.** -/
def shownObject? (p : Project) (o : Object) : Option ShownObject := do
  let properties ← o.properties.mapM p.shownProperty?
  let links ← o.links.mapM p.shownLink?
  let reverseLinks ← o.reverseLinks.mapM p.shownReverseLink?
  let indexes ← o.indexes.mapM p.shownIndex?
  return ⟨o.name, shownAttributes o.attributes, properties, links, reverseLinks, indexes⟩

/-- **What is shown of a project**, when every reference in it resolves. -/
def shown? (p : Project) : Option Shown := do
  let objects ← p.objects.mapM p.shownObject?
  return ⟨p.name, shownAttributes p.attributes,
    p.userDataTypes.map fun t => (t.name, t.values), objects, p.files⟩

end Project

/-! ### Projects on one line -/

/-- A string has no line break. -/
def Scalar.OnOneLine : Scalar → Prop
  | .string s => IsLine s
  | _ => True

instance : DecidablePred Scalar.OnOneLine
  | .string s => inferInstanceAs (Decidable (IsLine s))
  | .boolean _ => .isTrue trivial
  | .number _ => .isTrue trivial

/-- **A project whose texts have no line breaks**: its name, the strings in the attributes that
are shown, the values of its types, and the paths of its files. -/
structure Project.OnOneLine (p : Project) : Prop where
  name : IsLine p.name
  attributes : ∀ entry ∈ p.attributes.entries, entry.2.OnOneLine
  dataTypes : ∀ t ∈ p.userDataTypes, ∀ v ∈ t.values, IsLine v
  objects : ∀ o ∈ p.objects, ∀ entry ∈ o.attributes.entries, entry.2.OnOneLine
  files : ∀ f ∈ p.files, IsLine f.input ∧ IsLine f.output

/-- A scalar that is on one line has a text of one line. -/
theorem Scalar.OnOneLine.isLine_text {x : Scalar} (h : x.OnOneLine) : IsLine x.text := by
  cases x with
  | boolean b => exact isLine_booleanText b
  | number n => exact isLine_number n
  | string s => exact h

/-! ### Lists worked out item by item -/

section Optional

variable {α β γ : Type} {f : α → Option β} {g : α → Option γ} {xs : List α} {bs : List β}

/-- As many items are worked out as there are. -/
theorem length_eq_of_mapM (h : xs.mapM f = some bs) : bs.length = xs.length := by
  have hmap : bs.map some = xs.map f := Render.map_eq_map_of_mapM (fun h => h.symm) h
  simpa using congrArg List.length hmap

/-- What has been worked out comes from some item. -/
theorem exists_of_mem_mapM {b : β} (h : xs.mapM f = some bs) (hb : b ∈ bs) :
    ∃ x ∈ xs, f x = some b := by
  have hmap : bs.map some = xs.map f := Render.map_eq_map_of_mapM (fun h => h.symm) h
  have hmem : some b ∈ xs.map f := hmap ▸ List.mem_map_of_mem hb
  exact List.mem_map.mp hmem

/-- Items worked out by way of others, with the positions of those. -/
theorem mapM_eq_some_zipIdx (line : β × Nat → γ) {n : Nat}
    (hline : ∀ (j : Nat) x b, xs[j]? = some x → f x = some b → g x = some (line (b, n + j)))
    (h : xs.mapM f = some bs) : xs.mapM g = some ((bs.zipIdx n).map line) := by
  induction xs generalizing bs n with
  | nil =>
    obtain rfl : [] = bs := Option.some.inj h
    rfl
  | cons x xs ih =>
    rw [List.mapM_cons] at h
    obtain ⟨b, hb, h⟩ := Option.bind_eq_some_iff.mp h
    obtain ⟨cs, hcs, h⟩ := Option.bind_eq_some_iff.mp h
    obtain rfl : b :: cs = bs := Option.some.inj h
    have hrest := ih (fun j y c hy hc => by
      rw [Nat.add_assoc, Nat.add_comm 1 j]
      exact hline (j + 1) y c hy hc) hcs
    rw [List.mapM_cons, hline 0 x b rfl hb, hrest]
    rfl

/-- **Items worked out by way of others.** -/
theorem mapM_eq_some_map {line : β → γ}
    (hline : ∀ x ∈ xs, ∀ b, f x = some b → g x = some (line b)) (h : xs.mapM f = some bs) :
    xs.mapM g = some (bs.map line) := by
  have hforget : (bs.zipIdx 0).map (fun b => line b.1) = bs.map line := by
    calc (bs.zipIdx 0).map (fun b => line b.1)
        = ((bs.zipIdx 0).map Prod.fst).map line := List.map_map.symm
      _ = bs.map line := by rw [List.zipIdx_map_fst]
  rw [← hforget]
  exact mapM_eq_some_zipIdx _ (fun _ x b hx => hline x (List.mem_of_getElem? hx) b) h

end Optional

namespace Project

variable {p : Project} {o : Object}

/-! ### The dump has the lines of what is shown -/

theorem size_eq_length (m : AttributeMap) : m.size = (shownAttributes m).length := by
  rw [shownAttributes, List.length_map, AttributeMap.size]

theorem attributeLines_eq (m : AttributeMap) :
    attributeLines m = (shownAttributes m).map Shown.attributeLine := by
  rw [attributeLines, shownAttributes, List.map_map]
  rfl

theorem propertyLine?_of_shown {q : Property} {f : ShownField} (h : p.shownProperty? q = some f) :
    p.propertyLine? q = some (Shown.fieldLine "- Property " " (type:" f) := by
  obtain ⟨type, htype, h⟩ := Option.bind_eq_some_iff.mp h
  obtain rfl := Option.some.inj h
  rw [propertyLine?, htype]
  rfl

theorem linkLine?_of_shown {l : Link} {f : ShownField} (h : p.shownLink? l = some f) :
    p.linkLine? l = some (Shown.fieldLine "- Link " " (target:" f) := by
  obtain ⟨target, htarget, h⟩ := Option.bind_eq_some_iff.mp h
  obtain rfl := Option.some.inj h
  rw [linkLine?, htarget]
  rfl

theorem reverseLinkLine?_of_shown {k : LinkHandle} {l : String × String}
    (h : p.shownReverseLink? k = some l) :
    p.reverseLinkLine? k = some (Shown.reverseLinkLine l) := by
  obtain ⟨link, hlink, h⟩ := Option.bind_eq_some_iff.mp h
  obtain ⟨source, hsource, h⟩ := Option.bind_eq_some_iff.mp h
  obtain rfl := Option.some.inj h
  rw [reverseLinkLine?, hlink, Option.bind_eq_bind, Option.bind_some, hsource]
  rfl

theorem keyLine?_of_shown {k : IndexKey} {s : KeyKind × String} (count : Nat)
    (h : p.shownKey? k = some s) :
    p.keyLine? count k = some (Shown.keyLine count (s, k.position)) := by
  obtain ⟨name, hname, h⟩ := Option.bind_eq_some_iff.mp h
  obtain rfl := Option.some.inj h
  rw [keyLine?, hname]
  rfl

/-- **The lines of an index**, whose keys are at their positions. -/
theorem indexLines?_of_shown {x : Index} {s : ShownIndex} {i : Nat} (hx : x.Settled i o)
    (h : p.shownIndex? x = some s) : p.indexLines? x = some (Shown.indexLines s) := by
  obtain ⟨keys, hkeys, h⟩ := Option.bind_eq_some_iff.mp h
  obtain rfl := Option.some.inj h
  -- The position that a key says it has is its place in the list.
  have hlines := mapM_eq_some_zipIdx (Shown.keyLine x.keys.length) (n := 1)
    (fun j k s hk hs => by
      rw [Nat.add_comm 1 j, ← hx.positions j k hk]
      exact keyLine?_of_shown _ hs) hkeys
  rw [indexLines?, hlines, ← length_eq_of_mapM hkeys]
  rfl

/-- The lines of entries that have one each. -/
theorem map_eq_flatMap_singleton {α : Type} (line : α → String) (as : List α) :
    as.map line = as.flatMap fun a => [line a] := List.map_eq_flatMap

/-- A group of an object has the entries under a heading. -/
theorem group_eq {α : Type} (title : String) (lines : α → List String) (as : List α) :
    group title as.length (as.flatMap lines) = Shown.grouped title lines as := rfl

/-- **The lines of an object.** -/
theorem objectLines?_of_shown {s : ShownObject} {i : Nat} (ho : o.Settled p i)
    (h : p.shownObject? o = some s) : p.objectLines? o = some (Shown.objectLines s) := by
  obtain ⟨properties, hproperties, h⟩ := Option.bind_eq_some_iff.mp h
  obtain ⟨links, hlinks, h⟩ := Option.bind_eq_some_iff.mp h
  obtain ⟨reverseLinks, hreverse, h⟩ := Option.bind_eq_some_iff.mp h
  obtain ⟨indexes, hindexes, h⟩ := Option.bind_eq_some_iff.mp h
  obtain rfl := Option.some.inj h
  rw [objectLines?, mapM_eq_some_map (fun _ _ _ => propertyLine?_of_shown) hproperties,
    mapM_eq_some_map (fun _ _ _ => linkLine?_of_shown) hlinks,
    mapM_eq_some_map (fun _ _ _ => reverseLinkLine?_of_shown) hreverse,
    mapM_eq_some_map (fun x hx _ => indexLines?_of_shown (ho.indexes x hx)) hindexes]
  simp only [Option.bind_eq_bind, Option.bind_some, Option.pure_def, Shown.objectLines,
    ← length_eq_of_mapM hproperties, ← length_eq_of_mapM hlinks, ← length_eq_of_mapM hreverse,
    ← length_eq_of_mapM hindexes, size_eq_length, attributeLines_eq, ← List.flatMap_def,
    map_eq_flatMap_singleton, group_eq, List.append_assoc, List.cons_append, List.nil_append]

theorem dataTypeLines_eq {t : DataType} (h : t.kind = .enumeration) :
    dataTypeLines t = Shown.dataTypeLines (t.name, t.values) := by
  rw [dataTypeLines, h, if_pos rfl]
  rfl

/-- **The lines of a well-formed project** are those of what is shown of it. -/
theorem dumpLines?_of_shown {options : LoadOptions} {s : Shown} (hp : p.WellFormed options)
    (h : p.shown? = some s) : p.dumpLines? = some s.lines := by
  obtain ⟨objects, hobjects, h⟩ := Option.bind_eq_some_iff.mp h
  obtain rfl := Option.some.inj h
  have hlines := mapM_eq_some_map (g := p.objectLines?) (fun o ho _ => by
    obtain ⟨i, hi⟩ := List.mem_iff_getElem?.mp ho
    exact objectLines?_of_shown (hp.objects i o hi)) hobjects
  -- A declared type that were no enumeration would be dumped without its values.
  have htypes : p.userDataTypes.flatMap dataTypeLines =
      (p.userDataTypes.map fun t => (t.name, t.values)).flatMap Shown.dataTypeLines := by
    rw [List.flatMap_map]
    exact List.flatMap_congr fun t ht => dataTypeLines_eq ((Load.dataTypes_eq hp).2 t ht).2.kind
  rw [dumpLines?, hlines]
  simp only [Option.bind_eq_bind, Option.bind_some, Option.pure_def, Shown.lines, counted,
    ← length_eq_of_mapM hobjects, size_eq_length, attributeLines_eq, htypes, ← List.flatMap_def,
    map_eq_flatMap_singleton, List.length_map, List.length_zipIdx, List.append_assoc,
    List.cons_append, List.nil_append]

/-! ### What is shown is legible -/

section Legible

variable {options : LoadOptions}

theorem isAttribute_of_mem_shown {m : AttributeMap} (hm : m.WellNamed)
    (hlines : ∀ entry ∈ m.entries, entry.2.OnOneLine) :
    ∀ a ∈ shownAttributes m, Shown.IsAttribute a :=
  List.forall_mem_map.mpr fun entry hentry =>
    ⟨hm.names entry hentry, (hlines entry hentry).isLine_text⟩

/-- The name of an object is a name. -/
theorem isName_objectName (hp : p.WellNamed options) {i : Nat} {name : String}
    (h : p.objectName i = some name) : IsName name := by
  obtain ⟨o, ho, rfl⟩ := Option.map_eq_some_iff.mp h
  exact (hp.objects o (List.mem_of_getElem? ho)).name

/-- The name of a link is a name, wherever it is looked up. -/
theorem isName_link (hp : p.WellNamed options) {k : LinkHandle} {l : Link}
    (h : p.link? k = some l) : IsName l.name := by
  obtain ⟨o, ho, hl⟩ := mem_links_of_link? h
  exact (hp.objects o ho).links l hl

/-- What a key refers to has a name. -/
theorem isName_referenceName (hp : p.WellNamed options) {r : KeyReference} {name : String}
    (h : p.referenceName r = some name) : IsName name := by
  cases r with
  | property k =>
    obtain ⟨q, hq, rfl⟩ := Option.map_eq_some_iff.mp h
    obtain ⟨o, ho, hq⟩ := Option.bind_eq_some_iff.mp hq
    exact ((hp.objects o (List.mem_of_getElem? ho)).properties q (List.mem_of_getElem? hq)).name
  | link k =>
    obtain ⟨l, hl, rfl⟩ := Option.map_eq_some_iff.mp h
    exact isName_link hp hl

theorem legible_property (hp : p.WellNamed options) {q : Property} (hq : q.WellNamed)
    {f : ShownField} (h : p.shownProperty? q = some f) : f.Legible := by
  obtain ⟨type, htype, h⟩ := Option.bind_eq_some_iff.mp h
  obtain rfl := Option.some.inj h
  exact ⟨hq.name, (hp.dataTypes type (List.mem_of_getElem? htype)).name⟩

theorem legible_link (hp : p.WellNamed options) {l : Link} (hl : IsName l.name)
    {f : ShownField} (h : p.shownLink? l = some f) : f.Legible := by
  obtain ⟨target, htarget, h⟩ := Option.bind_eq_some_iff.mp h
  obtain rfl := Option.some.inj h
  exact ⟨hl, isName_objectName hp htarget⟩

theorem isName_reverseLink (hp : p.WellNamed options) {k : LinkHandle} {l : String × String}
    (h : p.shownReverseLink? k = some l) : IsName l.1 ∧ IsName l.2 := by
  obtain ⟨link, hlink, h⟩ := Option.bind_eq_some_iff.mp h
  obtain ⟨source, hsource, h⟩ := Option.bind_eq_some_iff.mp h
  obtain rfl := Option.some.inj h
  exact ⟨isName_link hp hlink, isName_objectName hp hsource⟩

theorem legible_index (hp : p.WellNamed options) {x : Index} (hx : IsName x.name)
    {s : ShownIndex} (h : p.shownIndex? x = some s) : s.Legible := by
  obtain ⟨keys, hkeys, h⟩ := Option.bind_eq_some_iff.mp h
  obtain rfl := Option.some.inj h
  refine ⟨hx, fun key hkey => ?_⟩
  obtain ⟨k, -, hk⟩ := exists_of_mem_mapM hkeys hkey
  obtain ⟨name, hname, hk⟩ := Option.bind_eq_some_iff.mp hk
  obtain rfl := Option.some.inj hk
  exact isName_referenceName hp hname

/-- **An object is legible**, since its names are names. -/
theorem legible_object (hp : p.WellNamed options) (ho : o.WellNamed options)
    (hlines : ∀ entry ∈ o.attributes.entries, entry.2.OnOneLine) {s : ShownObject}
    (h : p.shownObject? o = some s) : s.Legible := by
  obtain ⟨properties, hproperties, h⟩ := Option.bind_eq_some_iff.mp h
  obtain ⟨links, hlinks, h⟩ := Option.bind_eq_some_iff.mp h
  obtain ⟨reverseLinks, hreverse, h⟩ := Option.bind_eq_some_iff.mp h
  obtain ⟨indexes, hindexes, h⟩ := Option.bind_eq_some_iff.mp h
  obtain rfl := Option.some.inj h
  refine ⟨ho.name, isAttribute_of_mem_shown ho.attributes hlines, fun f hf => ?_, fun f hf => ?_,
    fun l hl => ?_, fun x hx => ?_⟩
  · obtain ⟨q, hq, hf⟩ := exists_of_mem_mapM hproperties hf
    exact legible_property hp (ho.properties q hq) hf
  · obtain ⟨l, hl, hf⟩ := exists_of_mem_mapM hlinks hf
    exact legible_link hp (ho.links l hl) hf
  · obtain ⟨k, -, hl⟩ := exists_of_mem_mapM hreverse hl
    exact isName_reverseLink hp hl
  · obtain ⟨y, hy, hx⟩ := exists_of_mem_mapM hindexes hx
    exact legible_index hp (ho.indexes y hy) hx

/-- **A well-formed project on one line is legible.** -/
theorem legible_of_shown {s : Shown} (hp : p.WellFormed options) (hlines : p.OnOneLine)
    (h : p.shown? = some s) : s.Legible := by
  obtain ⟨objects, hobjects, h⟩ := Option.bind_eq_some_iff.mp h
  obtain rfl := Option.some.inj h
  refine ⟨hlines.name, isAttribute_of_mem_shown hp.named.attributes hlines.attributes, ?_,
    fun s hs => ?_, hlines.files⟩
  · refine List.forall_mem_map.mpr fun t ht => ⟨?_, hlines.dataTypes t ht⟩
    exact ((Load.dataTypes_eq hp).2 t ht).1.name
  · obtain ⟨o, ho, hs⟩ := exists_of_mem_mapM hobjects hs
    exact legible_object hp.named (hp.named.objects o ho) (hlines.objects o ho) hs

end Legible

namespace Total

variable (h : p.Total)

include h

theorem isSome_shownProperty? (ho : o ∈ p.objects) {q : Property} (hq : q ∈ o.properties) :
    (p.shownProperty? q).isSome = true :=
  isSome_bind (h.dataType o ho q hq) fun _ _ => rfl

theorem isSome_shownLink? (ho : o ∈ p.objects) {l : Link} (hl : l ∈ o.links) :
    (p.shownLink? l).isSome = true :=
  isSome_bind (h.target o ho l hl) fun _ _ => rfl

theorem isSome_shownReverseLink? (ho : o ∈ p.objects) {k : LinkHandle}
    (hk : k ∈ o.reverseLinks) : (p.shownReverseLink? k).isSome = true := by
  refine isSome_bind (h.link o ho k hk) fun l hl => ?_
  obtain ⟨s, hs, hmem⟩ := mem_links_of_link? hl
  exact isSome_bind (h.source s hs l hmem) fun _ _ => rfl

theorem isSome_shownIndex? (ho : o ∈ p.objects) {x : Index} (hx : x ∈ o.indexes) :
    (p.shownIndex? x).isSome = true := by
  refine isSome_bind (isSome_mapM fun k hk => ?_) fun _ _ => rfl
  exact isSome_bind (h.reference o ho x hx k hk) fun _ _ => rfl

theorem isSome_shownObject? (ho : o ∈ p.objects) : (p.shownObject? o).isSome = true :=
  isSome_bind (isSome_mapM fun _ hq => h.isSome_shownProperty? ho hq) fun _ _ =>
    isSome_bind (isSome_mapM fun _ hl => h.isSome_shownLink? ho hl) fun _ _ =>
    isSome_bind (isSome_mapM fun _ hk => h.isSome_shownReverseLink? ho hk) fun _ _ =>
    isSome_bind (isSome_mapM fun _ hx => h.isSome_shownIndex? ho hx) fun _ _ => rfl

/-- **There is something to show of the project.** -/
theorem isSome_shown? : p.shown?.isSome = true :=
  isSome_bind (isSome_mapM fun _ ho => h.isSome_shownObject? ho) fun _ _ => rfl

end Total

/-! ### Dumps -/

section Dumps

variable {q : Project} {options options' : LoadOptions}

/-- The dump of a well-formed project is the text of what is shown. -/
theorem dump_of_shown {s : Shown} (hp : p.WellFormed options) (h : p.shown? = some s) :
    p.dump = joinLines s.lines := by
  rw [dump, dumpLines?_of_shown hp h, Option.getD_some]

/-- **Dumps of well-formed projects on one line are the same** just in case the same is shown. -/
theorem dump_eq_dump_iff (hp : p.WellFormed options) (hq : q.WellFormed options')
    (hlines : p.OnOneLine) (hlines' : q.OnOneLine) :
    p.dump = q.dump ↔ ∃ s, p.shown? = some s ∧ q.shown? = some s := by
  obtain ⟨s, hs⟩ := Option.isSome_iff_exists.mp hp.intact.total.isSome_shown?
  obtain ⟨t, ht⟩ := Option.isSome_iff_exists.mp hq.intact.total.isSome_shown?
  have hlegible := legible_of_shown hp hlines hs
  have hlegible' := legible_of_shown hq hlines' ht
  rw [dump_of_shown hp hs, dump_of_shown hq ht]
  constructor
  · intro h
    have hsame := joinLines_inj (Shown.isLine_of_mem_lines hlegible)
      (Shown.isLine_of_mem_lines hlegible') h
    obtain rfl := Shown.eq_of_lines_eq hlegible hlegible' hsame
    exact ⟨s, hs, ht⟩
  · rintro ⟨u, hu, hu'⟩
    rw [Option.some.inj (hs.symm.trans hu), Option.some.inj (ht.symm.trans hu')]

end Dumps

end Project

namespace Load

variable {options options' : LoadOptions} {d d' : Tree} {p q : Project}

/-- **A dump is not ambiguous.** Two loaded projects on one line have the same dump just in case
all that a dump is meant to show is the same. -/
theorem dump_unambiguous (hp : load options d = .ok p) (hq : load options' d' = .ok q)
    (hlines : p.OnOneLine) (hlines' : q.OnOneLine) :
    p.dump = q.dump ↔ ∃ s, p.shown? = some s ∧ q.shown? = some s :=
  Project.dump_eq_dump_iff (wellFormed_of_load hp) (wellFormed_of_load hq) hlines hlines'

/-- A ledger with texts made of what lines are made of. Its entries may be secret, which no dump
shows, and the two values of its type may be written as one. -/
def ledger (secret joined : Bool) : Tree := .mapping [
  ("name", .string "<ledger> :"),
  ("attributes", .mapping [("note", .string "1> = <2")]),
  ("datatypes", .sequence [.mapping [("name", .string "state"), ("type", .string "enumeration"),
    ("values", .sequence (if joined then [.string "open> - <closed"]
      else [.string "open>", .string "- <closed"]))]]),
  ("objects", .sequence [.mapping [("name", .string "Entry"), ("properties", .sequence [
    .mapping [("name", .string "state"), ("type", .string "state"),
      ("secret", .boolean secret)]])]]),
  ("files", .sequence [.mapping [("scope", .string "object"), ("input", .string "entry.hbs"),
    ("output", .string "entry.txt")]])]

theorem load_ledger (secret joined : Bool) :
    load .default (ledger secret joined) = .ok (Reading.project (ledger secret joined)) := by
  cases secret <;> cases joined <;> decide +kernel

theorem onOneLine_ledger (secret joined : Bool) :
    (Reading.project (ledger secret joined)).OnOneLine where
  name := by cases secret <;> cases joined <;> decide +kernel
  attributes := by cases secret <;> cases joined <;> decide +kernel
  dataTypes := by cases secret <;> cases joined <;> decide +kernel
  objects := by cases secret <;> cases joined <;> decide +kernel
  files := by cases secret <;> cases joined <;> decide +kernel

theorem dump_unambiguous_ledger : ∃ p q r, load .default (ledger false false) = .ok p ∧
    load .default (ledger true false) = .ok q ∧ load .default (ledger false true) = .ok r ∧
    p ≠ q ∧ p.dump = q.dump ∧ p.dump ≠ r.dump := by
  have hunambiguous := fun secret joined => dump_unambiguous (load_ledger false false)
    (load_ledger secret joined) (onOneLine_ledger false false) (onOneLine_ledger secret joined)
  have hsecret : Reading.project (ledger false false) ≠ Reading.project (ledger true false) := by
    decide +kernel
  have hsame : (Reading.project (ledger true false)).shown? =
      (Reading.project (ledger false false)).shown? := by
    decide +kernel
  have hother : (Reading.project (ledger false true)).shown? ≠
      (Reading.project (ledger false false)).shown? := by
    decide +kernel
  refine ⟨_, _, _, load_ledger false false, load_ledger true false, load_ledger false true, hsecret,
    (hunambiguous true false).mpr ⟨_, rfl, hsame⟩, fun h => ?_⟩
  obtain ⟨s, hs, hs'⟩ := (hunambiguous false true).mp h
  exact hother (hs'.trans hs.symm)

end Load

end Blueprint
