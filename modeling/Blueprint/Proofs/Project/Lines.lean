import Blueprint.Project.Dump
import Blueprint.Proofs.Number.Digits

/-!
# Lines that can be told apart

What has been printed line by line can be read again if three things have been arranged, one at
each level.

* **A text falls into its lines** if no line has a line break inside (`Blueprint.IsLine`).
* **Lines fall into entries.** A heading says how many entries follow. An entry of one line is over
  after it, and one of several lines goes on for as long as the lines are nested, that is, have
  eight blanks in front (`Blueprint.IsNested`). What may follow an entry is thus part of what makes
  it readable (`Blueprint.ReadBack`).
* **A line falls into its fields** if the first field is free of some character and what stands
  behind it always is the same text with that character (`Blueprint.eq_of_append_separator`). The
  last field needs nothing of the kind.
-/

namespace Blueprint

open Project

variable {a b s t sep x y : String} {c : Char} {m n : Nat}

/-! ### Texts of one line -/

/-- **A text of one line**, so without a line break. -/
def IsLine (s : String) : Prop := '\n' ∉ s.toList

instance : DecidablePred IsLine := fun s => inferInstanceAs (Decidable ('\n' ∉ s.toList))

@[simp] theorem isLine_append : IsLine (s ++ t) ↔ IsLine s ∧ IsLine t := by
  rw [IsLine, String.toList_append, List.mem_append, not_or, IsLine, IsLine]

@[simp] theorem isLine_bracketed : IsLine (bracketed s) ↔ IsLine s := by
  have hopen : IsLine "<" := by decide
  have hclose : IsLine ">" := by decide
  rw [bracketed, isLine_append, isLine_append]
  exact ⟨fun h => h.1.2, fun h => ⟨⟨hopen, h⟩, hclose⟩⟩

@[simp] theorem isLine_indent (n : Nat) : IsLine (indent n) := by
  rw [IsLine, indent, String.toList_ofList, List.mem_replicate]
  exact fun h => absurd h.2 (by decide)

theorem notMem_naturalText (hc : c.isDigit = false) (n : Nat) : c ∉ (naturalText n).toList := by
  rw [naturalText, String.toList_ofList]
  intro h
  rw [Double.isDigit_of_mem_decimalDigits h] at hc
  exact absurd hc (by decide)

@[simp] theorem isLine_naturalText (n : Nat) : IsLine (naturalText n) := notMem_naturalText rfl n

@[simp] theorem isLine_booleanText (b : Bool) : IsLine (Tree.booleanText b) := by
  cases b <;> decide

@[simp] theorem isLine_number (x : Number) : IsLine x.text :=
  fun h => absurd (x.isNumeral_of_mem_text _ h) (by decide)

/-- A heading is a line if its title is. -/
@[simp] theorem isLine_heading : IsLine (heading s n) ↔ IsLine s := by
  have hsep : IsLine " : x" := by decide
  rw [heading, isLine_append, isLine_append]
  exact ⟨fun h => h.1.1, fun h => ⟨⟨h, hsep⟩, isLine_naturalText n⟩⟩

/-- Two lists with the same mark behind a part that does not have it. -/
theorem append_cons_inj_of_notMem {α : Type} {mark : α} {u v r s : List α} (hu : mark ∉ u)
    (hv : mark ∉ v) (h : u ++ mark :: r = v ++ mark :: s) : u = v ∧ r = s := by
  induction u generalizing v with
  | nil =>
    cases v with
    | nil => exact ⟨rfl, (List.cons.inj h).2⟩
    | cons d v => exact absurd (List.mem_cons.mpr (Or.inl (List.cons.inj h).1)) hv
  | cons d u ih =>
    rw [List.mem_cons, not_or] at hu
    cases v with
    | nil => exact absurd (List.cons.inj h).1.symm hu.1
    | cons e v =>
      rw [List.mem_cons, not_or] at hv
      obtain ⟨rfl, htail⟩ := List.cons.inj h
      obtain ⟨rfl, hrest⟩ := ih hu.2 hv.2 htail
      exact ⟨rfl, hrest⟩

/-- The text of lines, by its characters. -/
theorem toList_joinLines_cons (line : String) (lines : List String) :
    (joinLines (line :: lines)).toList = line.toList ++ '\n' :: (joinLines lines).toList := by
  rw [joinLines, List.map_cons, String.join_cons, String.toList_append, String.toList_append,
    List.append_assoc]
  rfl

/-- **A text falls into its lines.** -/
theorem joinLines_inj {lines lines' : List String} (h : ∀ l ∈ lines, IsLine l)
    (h' : ∀ l ∈ lines', IsLine l) (heq : joinLines lines = joinLines lines') : lines = lines' := by
  induction lines generalizing lines' with
  | nil =>
    cases lines' with
    | nil => rfl
    | cons line lines' =>
      have hchars := congrArg String.toList heq
      rw [toList_joinLines_cons] at hchars
      exact absurd hchars.symm (List.append_ne_nil_of_right_ne_nil _ (List.cons_ne_nil _ _))
  | cons line lines ih =>
    cases lines' with
    | nil =>
      have hchars := congrArg String.toList heq
      rw [toList_joinLines_cons] at hchars
      exact absurd hchars (List.append_ne_nil_of_right_ne_nil _ (List.cons_ne_nil _ _))
    | cons line' lines' =>
      rw [List.forall_mem_cons] at h h'
      have hchars := congrArg String.toList heq
      rw [toList_joinLines_cons, toList_joinLines_cons] at hchars
      obtain ⟨hline, hrest⟩ := append_cons_inj_of_notMem h.1 h'.1 hchars
      rw [String.toList_inj.mp hline, ih h.2 h'.2 (String.toList_inj.mp hrest)]

/-! ### Fields of a line -/

/-- **A field ends where its separator starts**, if it does not have a character that the separator
has. -/
theorem eq_of_append_separator (hsep : c ∈ sep.toList) (ha : c ∉ a.toList) (hb : c ∉ b.toList)
    (h : a ++ (sep ++ x) = b ++ (sep ++ y)) : a = b ∧ x = y := by
  obtain ⟨front, back, hsplit, hfront⟩ := List.eq_append_cons_of_mem hsep
  have hchars := congrArg String.toList h
  simp only [String.toList_append, hsplit, List.append_assoc, List.cons_append] at hchars
  rw [← List.append_assoc, ← List.append_assoc] at hchars
  have hmem : ∀ {s : String}, c ∉ s.toList → c ∉ s.toList ++ front := by
    intro s hs
    rw [List.mem_append, not_or]
    exact ⟨hs, hfront⟩
  obtain ⟨hword, hrest⟩ := append_cons_inj_of_notMem (hmem ha) (hmem hb) hchars
  exact ⟨String.toList_inj.mp (List.append_cancel_right hword),
    String.toList_inj.mp (List.append_cancel_left hrest)⟩

/-- A text between brackets is found again. -/
theorem bracketed_inj : bracketed a = bracketed b ↔ a = b := by
  rw [bracketed, bracketed, String.append_left_inj, String.append_right_inj]

/-- A word between brackets ends where its separator starts. -/
theorem eq_of_bracketed_append (hsep : ' ' ∈ sep.toList) (ha : ' ' ∉ a.toList)
    (hb : ' ' ∉ b.toList) (h : bracketed a ++ (sep ++ x) = bracketed b ++ (sep ++ y)) :
    a = b ∧ x = y := by
  have hmem : ∀ {s : String}, ' ' ∉ s.toList → ' ' ∉ (bracketed s).toList := by
    intro s hs
    rw [bracketed, String.toList_append, String.toList_append, List.mem_append, List.mem_append]
    exact fun hor => hor.elim (fun h => h.elim (by decide) hs) (by decide)
  obtain ⟨hname, hrest⟩ := eq_of_append_separator hsep (hmem ha) (hmem hb) h
  exact ⟨bracketed_inj.mp hname, hrest⟩

/-- A heading tells how many entries there are. -/
theorem heading_inj {title : String} : heading title m = heading title n ↔ m = n := by
  rw [heading, heading, String.append_right_inj, naturalText_inj]

/-! ### Nested lines -/

/-- **A nested line** goes on with the entry of the line before it: it has eight blanks in front. -/
def IsNested (line : String) : Prop := ∃ s, line = indent 8 ++ s

theorem indent_add (m n : Nat) : indent (m + n) = indent m ++ indent n := by
  rw [indent, indent, indent, ← String.ofList_append, List.replicate_append_replicate]

/-- A line with fewer blanks and no other in front is not nested. -/
theorem not_isNested_indent (hn : n < 8) (hs : s.toList.head? ≠ some ' ') :
    ¬IsNested (indent n ++ s) := by
  rintro ⟨t, ht⟩
  have hchars := congrArg String.toList ht
  simp only [String.toList_append, indent, String.toList_ofList] at hchars
  -- The character behind the blanks on the left is one of the blanks on the right.
  have hget := congrArg (·[n]?) hchars
  simp only [List.getElem?_append_right (Nat.le_of_eq List.length_replicate),
    List.length_replicate, Nat.sub_self] at hget
  rw [List.getElem?_append_left (by rwa [List.length_replicate]), List.getElem?_replicate,
    if_pos hn, ← List.head?_eq_getElem?] at hget
  exact hs hget

/-- Nested lines end here. -/
def EndsNested (rest : List String) : Prop := ∀ line ∈ rest.head?, ¬IsNested line

theorem endsNested_cons {line : String} {rest : List String} (h : ¬IsNested line) :
    EndsNested (line :: rest) := by
  rintro _ ⟨⟩
  exact h

/-- **Nested lines are told from what follows.** -/
theorem append_inj_of_isNested {u v r s : List String} (hu : ∀ line ∈ u, IsNested line)
    (hv : ∀ line ∈ v, IsNested line) (hr : EndsNested r) (hs : EndsNested s)
    (h : u ++ r = v ++ s) : u = v ∧ r = s := by
  induction u generalizing v with
  | nil =>
    cases v with
    | nil => exact ⟨rfl, h⟩
    | cons line v =>
      obtain rfl : r = line :: (v ++ s) := h
      exact absurd (hv line List.mem_cons_self) (hr line rfl)
  | cons line u ih =>
    rw [List.forall_mem_cons] at hu
    cases v with
    | nil =>
      obtain rfl : line :: (u ++ r) = s := h
      exact absurd hu.1 (hs line rfl)
    | cons line' v =>
      rw [List.forall_mem_cons] at hv
      obtain ⟨rfl, htail⟩ := List.cons.inj h
      obtain ⟨rfl, hrest⟩ := ih hu.2 hv.2 htail
      exact ⟨rfl, hrest⟩

/-! ### Entries -/

section Entries

variable {α : Type} {lines : α → List String} {ok : α → Prop} {ends : List String → Prop}

/-- **Entries that are read back from their lines**, of those that are `ok`: they are told from one
another and from what follows, provided that something may follow them that `ends` them. -/
def ReadBack (lines : α → List String) (ok : α → Prop) (ends : List String → Prop) : Prop :=
  ∀ ⦃a b : α⦄ ⦃r s : List String⦄, ok a → ok b → ends r → ends s →
    lines a ++ r = lines b ++ s → a = b ∧ r = s

/-- An entry of one line ends by itself. -/
theorem readBack_line {line : α → String} (h : ∀ a b, ok a → ok b → line a = line b → a = b) :
    ReadBack (fun a => [line a]) ok ends := by
  intro a b r s ha hb _ _ heq
  obtain ⟨hline, hrest⟩ := List.cons.inj heq
  exact ⟨h a b ha hb hline, hrest⟩

/-- **As many entries are read back** as there are, if each one ends the one before it. -/
theorem ReadBack.flatMap (h : ReadBack lines ok ends)
    (hstart : ∀ a, ok a → ∀ r, ends (lines a ++ r)) {as bs : List α} {r s : List String}
    (hlength : as.length = bs.length) (has : ∀ a ∈ as, ok a) (hbs : ∀ b ∈ bs, ok b)
    (hr : ends r) (hs : ends s) (heq : as.flatMap lines ++ r = bs.flatMap lines ++ s) :
    as = bs ∧ r = s := by
  have hends : ∀ {cs : List α} {r : List String}, (∀ c ∈ cs, ok c) → ends r →
      ends (cs.flatMap lines ++ r) := by
    intro cs r hcs hr
    cases cs with
    | nil => exact hr
    | cons c cs =>
      rw [List.flatMap_cons, List.append_assoc]
      exact hstart c (hcs c List.mem_cons_self) _
  induction as generalizing bs with
  | nil =>
    obtain rfl : bs = [] := List.length_eq_zero_iff.mp hlength.symm
    exact ⟨rfl, heq⟩
  | cons a as ih =>
    obtain ⟨b, bs, rfl⟩ := List.exists_cons_of_length_eq_add_one hlength.symm
    rw [List.forall_mem_cons] at has hbs
    rw [List.flatMap_cons, List.flatMap_cons, List.append_assoc, List.append_assoc] at heq
    obtain ⟨rfl, hrest⟩ := h has.1 hbs.1 (hends has.2 hr) (hends hbs.2 hs) heq
    obtain ⟨rfl, hlast⟩ := ih (Nat.succ.inj hlength) has.2 hbs.2 hrest
    exact ⟨rfl, hlast⟩

/-- **Entries under a heading** with their number. -/
def counted (head : Nat → String) (lines : α → List String) (as : List α) : List String :=
  head as.length :: as.flatMap lines

/-- **Counted entries are read back**, if the heading tells their number. -/
theorem ReadBack.counted {head : Nat → String} (hhead : ∀ m n, head m = head n → m = n)
    (h : ReadBack lines ok ends) (hstart : ∀ a, ok a → ∀ r, ends (lines a ++ r)) :
    ReadBack (counted head lines) (fun as => ∀ a ∈ as, ok a) ends := by
  intro as bs r s has hbs hr hs heq
  obtain ⟨hline, hrest⟩ := List.cons.inj heq
  exact h.flatMap hstart (hhead _ _ hline) has hbs hr hs hrest

/-- The lines of counted entries are lines. -/
theorem isLine_of_mem_counted {head : Nat → String} {as : List α}
    (hhead : ∀ n, IsLine (head n)) (h : ∀ a ∈ as, ∀ l ∈ lines a, IsLine l) :
    ∀ l ∈ counted head lines as, IsLine l := by
  intro l hl
  rw [counted, List.mem_cons, List.mem_flatMap] at hl
  rcases hl with rfl | ⟨a, ha, hl⟩
  · exact hhead _
  · exact h a ha l hl

end Entries

end Blueprint
