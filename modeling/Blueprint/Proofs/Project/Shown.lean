import Blueprint.Proofs.Project.Lines
import Blueprint.Proofs.Project.Views

/-!
# What a dump shows

A dump shows a project by names alone: of a property its name, that of its type and whether it is
mandatory, and so on down to the keys of indexes. What is shown is `Blueprint.Shown`, and its lines
are `Blueprint.Shown.lines`.

Names and texts are shown between brackets without any escape, so they may contain whatever the
lines are made of, brackets too. Still nothing that is legible (`Blueprint.Shown.Legible`) looks
like anything else (`Blueprint.Shown.eq_of_lines_eq`):

| lines | what tells their fields apart | what ends them |
|---|---|---|
| attribute, property, link, reverse link | names have no blank | each is one line |
| declared type | the value lines are nested | the next one, or the empty line behind the section |
| index | names have no blank, the key lines are nested | the next one, or an empty line |
| object | five groups of so many entries | the empty line before the next one or before the files |
| file | every field has its own line | there are three of them |
-/

namespace Blueprint

open Project

/-! ### What is shown -/

/-- **What is shown of a property or a link**: its name, that of its type or target, and whether it
must be there. -/
@[ext] structure ShownField where
  name : String
  refersTo : String
  mandatory : Bool
deriving DecidableEq

/-- What is shown of an index: its keys are of a kind and have the name of what they refer to. -/
@[ext] structure ShownIndex where
  name : String
  unique : Bool
  keys : List (KeyKind × String)
deriving DecidableEq

/-- **What is shown of an object.** Attributes have a name and a text, and reverse links have the
name of the link and that of its source. -/
@[ext] structure ShownObject where
  name : String
  attributes : List (String × String)
  properties : List ShownField
  links : List ShownField
  reverseLinks : List (String × String)
  indexes : List ShownIndex
deriving DecidableEq

/-- **What is shown of a project.** Declared types have a name and their values. -/
@[ext] structure Shown where
  name : String
  attributes : List (String × String)
  dataTypes : List (String × List String)
  objects : List ShownObject
  files : List OutputFile
deriving DecidableEq

/-! ### Its lines -/

namespace Shown

def attributeLine (a : String × String) : String :=
  indent 6 ++ "- Attribute " ++ bracketed a.1 ++ " = " ++ bracketed a.2

def valueLine (v : String) : String := indent 10 ++ "- " ++ bracketed v

def dataTypeLines (t : String × List String) : List String :=
  (indent 6 ++ "- Data type " ++ DataTypeKind.enumeration.text ++ " " ++ bracketed t.1) ::
    t.2.map valueLine

/-- The line of a property or a link, with the words that introduce them and what they refer to. -/
def fieldLine (title label : String) (f : ShownField) : String :=
  indent 6 ++ title ++ bracketed f.name ++ label ++ f.refersTo ++ ", mandatory:" ++
    Tree.booleanText f.mandatory ++ ")"

def reverseLinkLine (l : String × String) : String :=
  indent 6 ++ "- Link " ++ bracketed l.1 ++ " (source:" ++ l.2 ++ ")"

/-- The line of a key with its position, of so many. -/
def keyLine (count : Nat) (k : (KeyKind × String) × Nat) : String :=
  indent 8 ++ "- Key n°" ++ naturalText k.2 ++ "/" ++ naturalText count ++ " : " ++ k.1.1.text ++
    " " ++ bracketed k.1.2

def indexLines (x : ShownIndex) : List String :=
  (indent 6 ++ "- Index " ++ bracketed x.name ++ " (unique:" ++ Tree.booleanText x.unique ++
    ") :") :: (x.keys.zipIdx 1).map (keyLine x.keys.length)

/-- Entries under the heading of a group of an object. -/
def grouped {α : Type} (title : String) (lines : α → List String) (as : List α) : List String :=
  counted (fun n => indent 4 ++ heading title n) lines as

def objectLines (o : ShownObject) : List String :=
  "" :: (indent 2 ++ "- Object " ++ bracketed o.name ++ " :") ::
    (grouped "Attributes" (fun a => [attributeLine a]) o.attributes ++
      (grouped "Properties" (fun f => [fieldLine "- Property " " (type:" f]) o.properties ++
        (grouped "Links" (fun f => [fieldLine "- Link " " (target:" f]) o.links ++
          (grouped "Reverse links" (fun l => [reverseLinkLine l]) o.reverseLinks ++
            grouped "Indexes" indexLines o.indexes))))

/-- **The lines of what is shown.** -/
def lines (s : Shown) : List String :=
  ("Project " ++ bracketed s.name ++ " :") ::
    "" :: (counted (heading "Attributes") (fun a => [attributeLine a]) s.attributes ++
    "" :: (counted (heading "Data types") dataTypeLines s.dataTypes ++
    "" :: (counted (heading "Objects") objectLines s.objects ++
    "" :: counted (heading "Files") (fun f => fileLines f.1 f.2) (s.files.zipIdx 1))))

end Shown

/-! ### Legible texts -/

/-- A blank is no part of a name. -/
theorem IsName.notMem {s : String} {c : Char} (h : IsName s) (hc : isBlank c = true) :
    c ∉ s.toList := fun hmem => by
  have hblank := List.any_eq_false.mp h.2 c hmem
  exact hblank hc

theorem IsName.isLine {s : String} (h : IsName s) : IsLine s := h.notMem rfl

/-- A field of names. -/
def ShownField.Legible (f : ShownField) : Prop := IsName f.name ∧ IsName f.refersTo

/-- An attribute with a name and a text of one line. -/
def Shown.IsAttribute (a : String × String) : Prop := IsName a.1 ∧ IsLine a.2

/-- An index of names. -/
def ShownIndex.Legible (x : ShownIndex) : Prop := IsName x.name ∧ ∀ k ∈ x.keys, IsName k.2

/-- **An object of names**, with attributes of one line. -/
structure ShownObject.Legible (o : ShownObject) : Prop where
  name : IsName o.name
  attributes : ∀ a ∈ o.attributes, Shown.IsAttribute a
  properties : ∀ f ∈ o.properties, f.Legible
  links : ∀ f ∈ o.links, f.Legible
  reverseLinks : ∀ l ∈ o.reverseLinks, IsName l.1 ∧ IsName l.2
  indexes : ∀ x ∈ o.indexes, x.Legible

/-- **What is shown is legible** if the names in it are names, and all other texts have one line. -/
structure Shown.Legible (s : Shown) : Prop where
  name : IsLine s.name
  attributes : ∀ a ∈ s.attributes, Shown.IsAttribute a
  dataTypes : ∀ t ∈ s.dataTypes, IsName t.1 ∧ ∀ v ∈ t.2, IsLine v
  objects : ∀ o ∈ s.objects, o.Legible
  files : ∀ f ∈ s.files, IsLine f.input ∧ IsLine f.output

namespace Shown

/-! ### Single lines -/

theorem attributeLine_inj (a b : String × String) (ha : IsAttribute a) (hb : IsAttribute b)
    (h : attributeLine a = attributeLine b) : a = b := by
  simp only [attributeLine, String.append_assoc, String.append_right_inj] at h
  obtain ⟨hname, hvalue⟩ := eq_of_bracketed_append (by decide) (ha.1.notMem rfl) (hb.1.notMem rfl) h
  exact Prod.ext hname (bracketed_inj.mp hvalue)

theorem booleanText_inj {b c : Bool} (h : Tree.booleanText b = Tree.booleanText c) : b = c := by
  cases b <;> cases c <;> first | rfl | exact absurd h (by decide)

theorem fieldLine_inj {title label : String} (hlabel : ' ' ∈ label.toList) (f g : ShownField)
    (hf : f.Legible) (hg : g.Legible) (h : fieldLine title label f = fieldLine title label g) :
    f = g := by
  simp only [fieldLine, String.append_assoc, String.append_right_inj] at h
  obtain ⟨hname, h⟩ := eq_of_bracketed_append hlabel (hf.1.notMem rfl) (hg.1.notMem rfl) h
  obtain ⟨hrefersTo, h⟩ := eq_of_append_separator (c := ' ') (by decide) (hf.2.notMem rfl)
    (hg.2.notMem rfl) h
  exact ShownField.ext hname hrefersTo (booleanText_inj ((String.append_left_inj _).mp h))

theorem reverseLinkLine_inj (l m : String × String) (hl : IsName l.1) (hm : IsName m.1)
    (h : reverseLinkLine l = reverseLinkLine m) : l = m := by
  simp only [reverseLinkLine, String.append_assoc, String.append_right_inj] at h
  obtain ⟨hname, h⟩ := eq_of_bracketed_append (by decide) (hl.notMem rfl) (hm.notMem rfl) h
  exact Prod.ext hname ((String.append_left_inj _).mp h)

theorem valueLine_inj (v w : String) (h : valueLine v = valueLine w) : v = w := by
  simp only [valueLine, String.append_assoc, String.append_right_inj] at h
  exact bracketed_inj.mp h

theorem keyText_inj {j k : KeyKind} {a b : String}
    (h : j.text ++ (" " ++ bracketed a) = k.text ++ (" " ++ bracketed b)) : j = k ∧ a = b := by
  have hword : ∀ k : KeyKind, ' ' ∉ k.text.toList := by
    intro k
    cases k <;> decide
  obtain ⟨hkind, h⟩ := eq_of_append_separator (c := ' ') (by decide) (hword j) (hword k) h
  exact ⟨KeyKind.text_injective hkind, bracketed_inj.mp h⟩

/-- A key is read off its line, its position with it. -/
theorem keyLine_inj {count : Nat} (j k : (KeyKind × String) × Nat)
    (h : keyLine count j = keyLine count k) : j = k := by
  simp only [keyLine, String.append_assoc, String.append_right_inj] at h
  obtain ⟨hposition, h⟩ := eq_of_append_separator (c := '/') (by decide) (notMem_naturalText rfl _)
    (notMem_naturalText rfl _) h
  simp only [String.append_right_inj] at h
  obtain ⟨hkind, hname⟩ := keyText_inj h
  exact Prod.ext (Prod.ext hkind hname) (naturalText_inj.mp hposition)

/-! ### Entries of several lines -/

theorem isNested_valueLine (v : String) : IsNested (valueLine v) := by
  refine ⟨indent 2 ++ ("- " ++ bracketed v), ?_⟩
  have hindent : indent 10 = indent 8 ++ indent 2 := indent_add 8 2
  rw [valueLine, hindent, String.append_assoc, String.append_assoc]

theorem isNested_keyLine (count : Nat) (k : (KeyKind × String) × Nat) :
    IsNested (keyLine count k) := by
  simp only [keyLine, String.append_assoc]
  exact ⟨_, rfl⟩

/-- An empty line is not nested. -/
theorem not_isNested_empty : ¬IsNested "" :=
  not_isNested_indent (s := "") (n := 0) (by decide) (by decide)

theorem endsNested_dataTypeLines (t : String × List String) (r : List String) :
    EndsNested (dataTypeLines t ++ r) := by
  refine endsNested_cons ?_
  simp only [String.append_assoc]
  refine not_isNested_indent (by decide) ?_
  rw [String.toList_append]
  exact fun h => absurd (Option.some.inj h) (by decide)

theorem endsNested_indexLines (x : ShownIndex) (r : List String) :
    EndsNested (indexLines x ++ r) := by
  refine endsNested_cons ?_
  simp only [String.append_assoc]
  refine not_isNested_indent (by decide) ?_
  rw [String.toList_append]
  exact fun h => absurd (Option.some.inj h) (by decide)

/-- **A declared type** is its first line and the nested ones behind it. -/
theorem readBack_dataTypeLines {ok : String × List String → Prop} :
    ReadBack dataTypeLines ok EndsNested := by
  intro a b r s _ _ hr hs h
  obtain ⟨hhead, hbody⟩ := List.cons.inj h
  simp only [String.append_assoc, String.append_right_inj] at hhead
  -- No number says how many values there are, but all their lines are nested.
  have hnested : ∀ t : String × List String, ∀ l ∈ t.2.map valueLine, IsNested l := by
    intro t l hl
    obtain ⟨v, -, rfl⟩ := List.mem_map.mp hl
    exact isNested_valueLine v
  obtain ⟨hvalues, hrest⟩ := append_inj_of_isNested (hnested a) (hnested b) hr hs hbody
  have hsame := List.map_injective_iff.mpr valueLine_inj hvalues
  exact ⟨Prod.ext (bracketed_inj.mp hhead) hsame, hrest⟩

/-- **An index** is its first line and those of its keys. -/
theorem readBack_indexLines : ReadBack indexLines ShownIndex.Legible EndsNested := by
  intro x y r s hx hy hr hs h
  obtain ⟨hhead, hbody⟩ := List.cons.inj h
  simp only [String.append_assoc, String.append_right_inj] at hhead
  obtain ⟨hname, hhead⟩ := eq_of_bracketed_append (by decide) (hx.1.notMem rfl) (hy.1.notMem rfl)
    hhead
  have hunique := booleanText_inj ((String.append_left_inj _).mp hhead)
  have hnested : ∀ x : ShownIndex,
      ∀ l ∈ (x.keys.zipIdx 1).map (keyLine x.keys.length), IsNested l := by
    intro x l hl
    obtain ⟨k, -, rfl⟩ := List.mem_map.mp hl
    exact isNested_keyLine _ k
  obtain ⟨hkeys, hrest⟩ := append_inj_of_isNested (hnested x) (hnested y) hr hs hbody
  -- There are as many keys as lines, and their number is part of every line.
  have hlength : x.keys.length = y.keys.length := by
    simpa using congrArg List.length hkeys
  rw [hlength] at hkeys
  have hpairs := List.map_injective_iff.mpr keyLine_inj hkeys
  have hsame : x.keys = y.keys := by
    rw [← List.zipIdx_map_fst 1 x.keys, hpairs, List.zipIdx_map_fst]
  exact ⟨ShownIndex.ext hname hunique hsame, hrest⟩

/-! ### Groups of entries -/

section Groups

variable {α : Type} {line : α → String} {lines : α → List String} {ok : α → Prop}
  {ends : List String → Prop} {title : String}

/-- A section of a project. -/
theorem readBack_section (h : ReadBack lines ok ends)
    (hstart : ∀ a, ok a → ∀ r, ends (lines a ++ r)) :
    ReadBack (counted (heading title) lines) (fun as => ∀ a ∈ as, ok a) ends :=
  h.counted (fun _ _ => heading_inj.mp) hstart

/-- A group of an object. -/
theorem readBack_grouped (h : ReadBack lines ok ends)
    (hstart : ∀ a, ok a → ∀ r, ends (lines a ++ r)) :
    ReadBack (grouped title lines) (fun as => ∀ a ∈ as, ok a) ends :=
  h.counted (fun _ _ hhead => heading_inj.mp ((String.append_right_inj _).mp hhead)) hstart

/-- A group of entries of one line may be followed by anything. -/
theorem readBack_grouped_line (h : ∀ a b, ok a → ok b → line a = line b → a = b) :
    ReadBack (grouped title fun a => [line a]) (fun as => ∀ a ∈ as, ok a) fun _ => True :=
  readBack_grouped (readBack_line h) fun _ _ _ => trivial

end Groups

/-! ### Objects -/

/-- **An object is read back from its lines**, group by group. -/
theorem readBack_objectLines : ReadBack objectLines ShownObject.Legible EndsNested := by
  intro a b r s ha hb hr hs h
  simp only [objectLines, List.cons_append, List.append_assoc] at h
  obtain ⟨hname, h⟩ := List.cons.inj (List.cons.inj h).2
  simp only [String.append_assoc, String.append_right_inj, String.append_left_inj] at hname
  -- Four groups end by their number of lines, and the last one where no line is nested any more.
  obtain ⟨hattributes, h⟩ := readBack_grouped_line attributeLine_inj ha.attributes hb.attributes
    trivial trivial h
  obtain ⟨hproperties, h⟩ := readBack_grouped_line (fieldLine_inj (by decide)) ha.properties
    hb.properties trivial trivial h
  obtain ⟨hlinks, h⟩ := readBack_grouped_line (fieldLine_inj (by decide)) ha.links hb.links
    trivial trivial h
  obtain ⟨hreverse, h⟩ := readBack_grouped_line
    (fun l m hl hm => reverseLinkLine_inj l m hl.1 hm.1) ha.reverseLinks hb.reverseLinks
    trivial trivial h
  obtain ⟨hindexes, hrest⟩ := readBack_grouped readBack_indexLines
    (fun x _ => endsNested_indexLines x) ha.indexes hb.indexes hr hs h
  exact ⟨ShownObject.ext (bracketed_inj.mp hname) hattributes hproperties hlinks hreverse hindexes,
    hrest⟩

/-! ### Projects -/

/-- **A file** is three lines, the first of which has its position. -/
theorem readBack_fileLines {ok : OutputFile × Nat → Prop} :
    ReadBack (fun f => fileLines f.1 f.2) ok fun _ => True := by
  rintro ⟨⟨scope, input, output⟩, i⟩ ⟨⟨scope', input', output'⟩, j⟩ r s - - - - h
  obtain ⟨hfirst, h⟩ := List.cons.inj h
  obtain ⟨hinput, h⟩ := List.cons.inj h
  obtain ⟨houtput, hrest⟩ := List.cons.inj h
  simp only [String.append_assoc, String.append_right_inj] at hfirst hinput houtput
  obtain ⟨hposition, hfirst⟩ := eq_of_append_separator (c := ' ') (by decide)
    (notMem_naturalText rfl _) (notMem_naturalText rfl _) hfirst
  have hscope := bracketed_inj.mp ((String.append_left_inj _).mp hfirst)
  rw [FileScope.text_injective hscope, bracketed_inj.mp hinput, bracketed_inj.mp houtput,
    naturalText_inj.mp hposition]
  exact ⟨rfl, hrest⟩

theorem readBack_attributes : ReadBack (counted (heading "Attributes") fun a => [attributeLine a])
    (fun as => ∀ a ∈ as, IsAttribute a) fun _ => True :=
  readBack_section (readBack_line attributeLine_inj) fun _ _ _ => trivial

/-- The files come last, so nothing need follow them. -/
theorem eq_of_fileLines {fs gs : List OutputFile}
    (h : counted (heading "Files") (fun f => fileLines f.1 f.2) (fs.zipIdx 1) =
      counted (heading "Files") (fun f => fileLines f.1 f.2) (gs.zipIdx 1)) : fs = gs := by
  have hread : ReadBack (counted (heading "Files") fun f : OutputFile × Nat => fileLines f.1 f.2)
      (fun fs => ∀ f ∈ fs, True) fun _ => True :=
    readBack_section readBack_fileLines fun _ _ _ => trivial
  obtain ⟨hpairs, -⟩ := hread (fun _ _ => trivial) (fun _ _ => trivial) trivial trivial
    (congrArg (· ++ []) h)
  rw [← List.zipIdx_map_fst 1 fs, hpairs, List.zipIdx_map_fst]

/-- **No two legible things have the same lines.** -/
theorem eq_of_lines_eq {s t : Shown} (hs : s.Legible) (ht : t.Legible) (h : s.lines = t.lines) :
    s = t := by
  have hempty : ∀ r, EndsNested ("" :: r) := fun r => endsNested_cons not_isNested_empty
  obtain ⟨hname, h⟩ := List.cons.inj h
  simp only [String.append_assoc, String.append_right_inj, String.append_left_inj] at hname
  -- Every section ends at an empty line, which is not nested.
  obtain ⟨hattributes, h⟩ := readBack_attributes hs.attributes ht.attributes trivial trivial
    (List.cons.inj h).2
  obtain ⟨hdataTypes, h⟩ := readBack_section readBack_dataTypeLines
    (fun t _ => endsNested_dataTypeLines t) hs.dataTypes ht.dataTypes (hempty _) (hempty _)
    (List.cons.inj h).2
  obtain ⟨hobjects, h⟩ := readBack_section readBack_objectLines (fun _ _ _ => hempty _)
    hs.objects ht.objects (hempty _) (hempty _) (List.cons.inj h).2
  exact Shown.ext (bracketed_inj.mp hname) hattributes hdataTypes hobjects
    (eq_of_fileLines (List.cons.inj h).2)

/-! ### The lines are lines -/

@[simp] theorem isLine_keyKind (k : KeyKind) : IsLine k.text := by
  cases k <;> decide

@[simp] theorem isLine_fileScope (scope : FileScope) : IsLine scope.text := by
  cases scope <;> decide

theorem isLine_attributeLine {a : String × String} (h : IsAttribute a) :
    IsLine (attributeLine a) := by
  simp +decide [attributeLine, h.1.isLine, h.2]

theorem isLine_fieldLine {title label : String} (htitle : IsLine title) (hlabel : IsLine label)
    {f : ShownField} (h : f.Legible) : IsLine (fieldLine title label f) := by
  simp +decide [fieldLine, htitle, hlabel, h.1.isLine, h.2.isLine]

theorem isLine_reverseLinkLine {l : String × String} (h : IsName l.1 ∧ IsName l.2) :
    IsLine (reverseLinkLine l) := by
  simp +decide [reverseLinkLine, h.1.isLine, h.2.isLine]

theorem isLine_of_mem_dataTypeLines {t : String × List String}
    (h : IsName t.1 ∧ ∀ v ∈ t.2, IsLine v) : ∀ l ∈ dataTypeLines t, IsLine l := by
  rw [dataTypeLines, List.forall_mem_cons, List.forall_mem_map]
  refine ⟨?_, fun v hv => ?_⟩
  · simp +decide [h.1.isLine]
  · simp +decide [valueLine, h.2 v hv]

theorem isLine_of_mem_indexLines {x : ShownIndex} (h : x.Legible) :
    ∀ l ∈ indexLines x, IsLine l := by
  rw [indexLines, List.forall_mem_cons, List.forall_mem_map]
  refine ⟨?_, fun k hk => ?_⟩
  · simp +decide [h.1.isLine]
  · have hname := (h.2 k.1 (List.fst_mem_of_mem_zipIdx hk)).isLine
    simp +decide [keyLine, hname]

theorem isLine_of_mem_fileLines {f : OutputFile} {n : Nat} (h : IsLine f.input ∧ IsLine f.output) :
    ∀ l ∈ fileLines f n, IsLine l := by
  simp +decide [fileLines, h.1, h.2]

section Groups

variable {α : Type} {line : α → String} {lines : α → List String} {as : List α} {title : String}

/-- Entries of one line. -/
theorem isLine_of_mem_singleton (h : ∀ a ∈ as, IsLine (line a)) :
    ∀ a ∈ as, ∀ l ∈ [line a], IsLine l := by
  intro a ha l hl
  rw [List.mem_singleton.mp hl]
  exact h a ha

theorem isLine_of_mem_section (htitle : IsLine title) (h : ∀ a ∈ as, ∀ l ∈ lines a, IsLine l) :
    ∀ l ∈ counted (heading title) lines as, IsLine l :=
  isLine_of_mem_counted (fun _ => isLine_heading.mpr htitle) h

theorem isLine_of_mem_grouped (htitle : IsLine title) (h : ∀ a ∈ as, ∀ l ∈ lines a, IsLine l) :
    ∀ l ∈ grouped title lines as, IsLine l :=
  isLine_of_mem_counted
    (fun _ => isLine_append.mpr ⟨isLine_indent 4, isLine_heading.mpr htitle⟩) h

end Groups

/-- **The lines of an object** have no line break. -/
theorem isLine_of_mem_objectLines {o : ShownObject} (h : o.Legible) :
    ∀ l ∈ objectLines o, IsLine l := by
  simp only [objectLines, List.forall_mem_cons, List.forall_mem_append]
  refine ⟨by decide, ?_, isLine_of_mem_grouped (by decide) ?_,
    isLine_of_mem_grouped (by decide) ?_, isLine_of_mem_grouped (by decide) ?_,
    isLine_of_mem_grouped (by decide) ?_, isLine_of_mem_grouped (by decide) ?_⟩
  · simp +decide [h.name.isLine]
  · exact isLine_of_mem_singleton fun a ha => isLine_attributeLine (h.attributes a ha)
  · exact isLine_of_mem_singleton fun f hf =>
      isLine_fieldLine (by decide) (by decide) (h.properties f hf)
  · exact isLine_of_mem_singleton fun f hf =>
      isLine_fieldLine (by decide) (by decide) (h.links f hf)
  · exact isLine_of_mem_singleton fun l hl => isLine_reverseLinkLine (h.reverseLinks l hl)
  · exact fun x hx => isLine_of_mem_indexLines (h.indexes x hx)

/-- **What is legible has lines without line breaks.** -/
theorem isLine_of_mem_lines {s : Shown} (h : s.Legible) : ∀ l ∈ s.lines, IsLine l := by
  simp only [lines, List.forall_mem_cons, List.forall_mem_append]
  refine ⟨?_, by decide, isLine_of_mem_section (by decide) ?_, by decide,
    isLine_of_mem_section (by decide) ?_, by decide, isLine_of_mem_section (by decide) ?_,
    by decide, isLine_of_mem_section (by decide) ?_⟩
  · simp +decide [h.name]
  · exact isLine_of_mem_singleton fun a ha => isLine_attributeLine (h.attributes a ha)
  · exact fun t ht => isLine_of_mem_dataTypeLines (h.dataTypes t ht)
  · exact fun o ho => isLine_of_mem_objectLines (h.objects o ho)
  · exact fun f hf => isLine_of_mem_fileLines (h.files f.1 (List.fst_mem_of_mem_zipIdx hf))

end Shown

end Blueprint
