import Blueprint.Proofs.Json.Escapes
import Blueprint.Proofs.Number.Digits

/-!
# Written trees

The text of a tree is read back as the nodes that the tree has
(`Blueprint.Json.readNode?_compact`). The nodes are given by `Blueprint.Json.Node.ofTree?`, for
trees whose numbers are integers: an integer is the literal of its digits, and every other tree
is the node of the same kind.

A value is read without being told where it ends, so what follows it matters
(`Blueprint.Json.EndsValue`): after a number there is a comma, a closing mark or nothing, which no
digit, point or exponent is. Everything else ends by itself. The fuel goes down by two from a list
to its first item and by one from an item to the next, so twice the length of the text is enough.
-/

namespace Blueprint

namespace Json

variable {cs rest : List Char} {fuel : Nat} {n : Int} {t : Tree} {node : Node}

/-! ### The nodes of a tree -/

/-- The literal of an integer. -/
def Literal.ofInteger (n : Int) : Literal :=
  ⟨n < 0, Double.decimalDigits n.natAbs, none, none⟩

mutual

/-- **The node of a tree**, if its numbers are integers. -/
def Node.ofTree? : Tree → Option Node
  | .null => some .null
  | .boolean b => some (.boolean b)
  | .number (.integer n _) => some (.number (.ofInteger n))
  | .number (.double _) => none
  | .string s => some (.string (some s))
  | .sequence items => (Node.ofItems? items).map .array
  | .mapping entries => (Node.ofEntries? entries).map .object

/-- The nodes of a list of trees. -/
def Node.ofItems? : List Tree → Option (List Node)
  | [] => some []
  | t :: rest => do
    let node ← Node.ofTree? t
    let nodes ← Node.ofItems? rest
    return node :: nodes

/-- The members of entries. -/
def Node.ofEntries? : List (String × Tree) → Option (List (Option String × Node))
  | [] => some []
  | (name, t) :: rest => do
    let node ← Node.ofTree? t
    let members ← Node.ofEntries? rest
    return (some name, node) :: members

end

/-! ### Numbers -/

/-- What may follow a value: a comma, a closing mark, or nothing. -/
def EndsValue (rest : List Char) : Prop :=
  ∀ c ∈ rest.head?, c = ',' ∨ c = ']' ∨ c = '\x7d'

/-- Digits are taken up to where a value ends. -/
theorem scanDigits?_append {digits : List Char} (hne : digits ≠ [])
    (hdigits : ∀ c ∈ digits, c.isDigit = true) (hrest : EndsValue rest) :
    scanDigits? (digits ++ rest) = some (digits, rest) := by
  have hstop : rest.takeWhile Char.isDigit = [] ∧ rest.dropWhile Char.isDigit = rest := by
    cases rest with
    | nil => exact ⟨rfl, rfl⟩
    | cons c rest => rcases hrest c rfl with rfl | rfl | rfl <;> exact ⟨rfl, rfl⟩
  rw [scanDigits?, List.takeWhile_append_of_pos hdigits, List.dropWhile_append_of_pos hdigits,
    hstop.1, hstop.2, List.append_nil]
  cases digits with
  | nil => exact absurd rfl hne
  | cons c digits => rfl

/-- The digits of a number are a whole part, having no zero in front. -/
theorem scanWhole?_decimalDigits (k : Nat) (hrest : EndsValue rest) :
    scanWhole? (Double.decimalDigits k ++ rest) = some (Double.decimalDigits k, rest) := by
  have hscan := scanDigits?_append (Double.decimalDigits_ne_nil k)
    (fun c => Double.isDigit_of_mem_decimalDigits) hrest
  rw [scanWhole?, hscan]
  exact if_neg fun h => h.2 (Double.length_decimalDigits_of_head h.1)

/-- A value ends without fraction and exponent. -/
theorem scanFraction?_endsValue (hrest : EndsValue rest) :
    scanFraction? rest = some (none, rest) := by
  cases rest with
  | nil => rfl
  | cons c rest => rcases hrest c rfl with rfl | rfl | rfl <;> rfl

theorem scanExponent?_endsValue (hrest : EndsValue rest) :
    scanExponent? rest = some (none, rest) := by
  cases rest with
  | nil => rfl
  | cons c rest => rcases hrest c rfl with rfl | rfl | rfl <;> rfl

/-- An integer is written as its digits, after a sign if it has one. -/
theorem toList_integerText (n : Int) : (Number.integerText n).toList =
    if n < 0 then '-' :: Double.decimalDigits n.natAbs else Double.decimalDigits n.natAbs := by
  rw [Number.integerText, naturalText]
  by_cases hn : n < 0
  · rw [if_pos hn, if_pos hn, String.toList_append]
    exact congrArg ('-' :: ·) String.toList_ofList
  · rw [if_neg hn, if_neg hn, String.toList_ofList]

/-- **An integer is read as its literal.** -/
theorem scanLiteral?_integerText (n : Int) (hrest : EndsValue rest) :
    scanLiteral? ((Number.integerText n).toList ++ rest) = some (.ofInteger n, rest) := by
  have hwhole := scanWhole?_decimalDigits n.natAbs hrest
  have hfraction := scanFraction?_endsValue hrest
  have hexponent := scanExponent?_endsValue hrest
  rw [toList_integerText]
  by_cases hn : n < 0
  · rw [if_pos hn, List.cons_append, scanLiteral?, hwhole]
    simp [hfraction, hexponent, Literal.ofInteger, hn]
  · rw [if_neg hn, scanLiteral?, hwhole]
    · simp [hfraction, hexponent, Literal.ofInteger, hn]
    · -- The first digit is no sign.
      obtain ⟨c, cs, hcons, hdigit⟩ := Double.exists_decimalDigits_eq_cons n.natAbs
      rw [hcons]
      rintro cs h
      obtain ⟨rfl, -⟩ := List.cons.inj h
      exact absurd hdigit (by decide)

/-- The value of that literal is the integer. -/
theorem toNumber?_ofInteger (h : Number.InRange n) :
    (Literal.ofInteger n).toNumber? = some (.integer n h) := by
  have hvalue : (if n < 0 then -(n.natAbs : Int) else n.natAbs) = n := by
    split <;> omega
  have hdigits := Double.readDigits_decimalDigits n.natAbs
  simp only [Literal.toNumber?, Literal.ofInteger, hdigits, decide_eq_true_eq, hvalue]
  rw [dif_pos]
  exact ⟨rfl, fun hzero => by omega, h⟩

/-! ### One step of the scanners -/

theorem skipSpace_cons {c : Char} (h : isSpace c = false) : skipSpace (c :: cs) = c :: cs := by
  rw [skipSpace, List.dropWhile_cons_of_neg (by rw [h]; decide)]

/-- The characters that a number starts with. -/
def StartsNumber (c : Char) : Prop := c = '-' ∨ c.isDigit = true

theorem StartsNumber.ne {c d : Char} (h : StartsNumber c) (hd : ¬(d = '-' ∨ d.isDigit = true)) :
    c ≠ d := by
  rintro rfl
  exact hd h

theorem StartsNumber.isSpace_eq_false {c : Char} (h : StartsNumber c) : isSpace c = false := by
  rw [isSpace]
  simp only [Bool.or_eq_false_iff, beq_eq_false_iff_ne]
  exact ⟨⟨⟨h.ne (by decide), h.ne (by decide)⟩, h.ne (by decide)⟩, h.ne (by decide)⟩

/-- What starts like a number is read as one. -/
theorem scanValue?_literal {c : Char} (h : StartsNumber c) :
    scanValue? (fuel + 1) (c :: cs) = (scanLiteral? (c :: cs)).map (Prod.map .number id) := by
  simp only [scanValue?, skipSpace_cons h.isSpace_eq_false]
  split
  case h_1 heq => exact absurd (List.cons.inj heq).1 (h.ne (by decide))
  case h_2 heq => exact absurd (List.cons.inj heq).1 (h.ne (by decide))
  case h_3 heq => exact absurd (List.cons.inj heq).1 (h.ne (by decide))
  case h_4 heq => exact absurd (List.cons.inj heq).1 (h.ne (by decide))
  case h_5 heq => exact absurd (List.cons.inj heq).1 (h.ne (by decide))
  case h_6 heq => exact absurd (List.cons.inj heq).1 (h.ne (by decide))
  case h_7 => cases scanLiteral? (c :: cs) <;> rfl

theorem scanValue?_quote (s : String) :
    scanValue? (fuel + 1) (quote s ++ rest) = some (.string (some s), rest) := by
  rw [scanValue?, quote, List.cons_append, skipSpace_cons rfl]
  simp only [List.append_assoc, List.singleton_append, scanString?_escaped]
  rfl

/-- The first character is neither a blank nor the end of a list. -/
def StartsValue (cs : List Char) : Prop := ∃ c rest, cs = c :: rest ∧ isSpace c = false ∧ c ≠ ']'

/-- A list with a value in it has items. -/
theorem scanValue?_array (h : StartsValue cs) :
    scanValue? (fuel + 1) ('[' :: cs) = (scanItems? fuel cs).map (Prod.map .array id) := by
  obtain ⟨c, cs, rfl, hspace, hne⟩ := h
  rw [scanValue?, skipSpace_cons rfl]
  simp only [skipSpace_cons hspace]
  split
  case h_1 heq => exact absurd (List.cons.inj heq).1 hne
  case h_2 => cases scanItems? fuel (c :: cs) <;> rfl

/-- A mapping with a name in it has members. -/
theorem scanValue?_object (cs : List Char) :
    scanValue? (fuel + 1) ('\x7b' :: '"' :: cs) =
      (scanMembers? fuel ('"' :: cs)).map (Prod.map .object id) := by
  rw [scanValue?, skipSpace_cons rfl]
  simp only [skipSpace_cons (show isSpace '"' = false from rfl)]
  change ((scanMembers? fuel _).bind fun r => some (Node.object r.1, r.2)) = _
  cases scanMembers? fuel _ <;> rfl

/-- The last item. -/
theorem scanItems?_last (h : scanValue? fuel cs = some (node, ']' :: rest)) :
    scanItems? (fuel + 1) cs = some ([node], rest) := by
  rw [scanItems?, h]
  rfl

/-- An item before others. -/
theorem scanItems?_cons (h : scanValue? fuel cs = some (node, ',' :: rest)) :
    scanItems? (fuel + 1) cs = (scanItems? fuel rest).map (Prod.map (node :: ·) id) := by
  rw [scanItems?, h]
  change ((scanItems? fuel rest).bind fun r => some (node :: r.1, r.2)) = _
  cases scanItems? fuel rest <;> rfl

/-- The last member. -/
theorem scanMembers?_last (name : String) (h : scanValue? fuel cs = some (node, '\x7d' :: rest)) :
    scanMembers? (fuel + 1) (quote name ++ ':' :: cs) = some ([(some name, node)], rest) := by
  rw [scanMembers?, quote, List.cons_append, skipSpace_cons rfl]
  simp only [List.append_assoc, List.singleton_append, scanString?_escaped]
  change ((scanValue? fuel cs).bind fun _ => _) = _
  rw [h]
  rfl

/-- A member before others. -/
theorem scanMembers?_cons (name : String) (h : scanValue? fuel cs = some (node, ',' :: rest)) :
    scanMembers? (fuel + 1) (quote name ++ ':' :: cs) =
      (scanMembers? fuel rest).map (Prod.map ((some name, node) :: ·) id) := by
  rw [scanMembers?, quote, List.cons_append, skipSpace_cons rfl]
  simp only [List.append_assoc, List.singleton_append, scanString?_escaped]
  change ((scanValue? fuel cs).bind fun _ => _) = _
  rw [h]
  change ((scanMembers? fuel rest).bind fun r => some ((some name, node) :: r.1, r.2)) = _
  cases scanMembers? fuel rest <;> rfl

/-! ### Whole trees -/

/-- An integer starts like a number. -/
theorem exists_integerText_eq_cons (n : Int) :
    ∃ c cs, (Number.integerText n).toList = c :: cs ∧ StartsNumber c := by
  rw [toList_integerText]
  by_cases hn : n < 0
  · rw [if_pos hn]
    exact ⟨'-', _, rfl, Or.inl rfl⟩
  · rw [if_neg hn]
    obtain ⟨c, cs, hcons, hdigit⟩ := Double.exists_decimalDigits_eq_cons n.natAbs
    exact ⟨c, cs, hcons, Or.inr hdigit⟩

/-- No tree starts with a blank or with the end of a list. -/
theorem startsValue_compactChars (h : Node.ofTree? t = some node) (rest : List Char) :
    StartsValue (compactChars t ++ rest) := by
  cases t with
  | null => exact ⟨'n', _, rfl, rfl, by decide⟩
  | boolean b => cases b <;> exact ⟨_, _, rfl, rfl, by decide⟩
  | number number =>
    cases number with
    | integer n hrange =>
      obtain ⟨c, cs, hcons, hstart⟩ := exists_integerText_eq_cons n
      refine ⟨c, cs ++ rest, ?_, hstart.isSpace_eq_false, hstart.ne (by decide)⟩
      rw [compactChars, Number.text, hcons, List.cons_append]
    | double x => exact absurd h (Option.some_ne_none node).symm
  | string s => exact ⟨'"', _, rfl, rfl, by decide⟩
  | sequence items => exact ⟨'[', _, rfl, rfl, by decide⟩
  | mapping entries => exact ⟨'\x7b', _, rfl, rfl, by decide⟩

theorem startsValue_compactItems {items : List Tree} {nodes : List Node} (hne : items ≠ [])
    (h : Node.ofItems? items = some nodes) (rest : List Char) :
    StartsValue (compactItems items ++ rest) := by
  match items, hne with
  | t :: items, _ =>
    obtain ⟨node, hnode, -⟩ := Option.bind_eq_some_iff.mp h
    cases items with
    | nil => exact startsValue_compactChars hnode rest
    | cons u items =>
      rw [compactItems, List.append_assoc]
      · exact startsValue_compactChars hnode _
      · exact List.cons_ne_nil u items

/-- Entries start with the quote of a name. -/
theorem exists_compactEntries_eq_cons {entries : List (String × Tree)} (hne : entries ≠ []) :
    ∃ cs, compactEntries entries = '"' :: cs := by
  match entries, hne with
  | [(name, t)], _ => exact ⟨_, rfl⟩
  | (name, t) :: entry :: entries, _ => exact ⟨_, rfl⟩

theorem endsValue_nil : EndsValue [] := fun _ h => absurd h (Option.some_ne_none _).symm

theorem endsValue_cons {c : Char} (h : c = ',' ∨ c = ']' ∨ c = '\x7d') (rest : List Char) :
    EndsValue (c :: rest) := by
  intro d hd
  obtain rfl : c = d := Option.some.inj hd
  exact h

/-- Twice the length of a text is some fuel. -/
theorem exists_fuel_eq_succ (h : Node.ofTree? t = some node)
    (hfuel : 2 * (compactChars t).length ≤ fuel) : ∃ k, fuel = k + 1 := by
  obtain ⟨c, cs, hcons, -⟩ := startsValue_compactChars h []
  rw [List.append_nil] at hcons
  rw [hcons, List.length_cons] at hfuel
  exact ⟨fuel - 1, by omega⟩

mutual

/-- **A tree is read back as its node**, up to where a value ends. -/
theorem scanValue?_compactChars : ∀ (t : Tree) {node : Node} {rest : List Char} {fuel : Nat},
    Node.ofTree? t = some node → EndsValue rest → 2 * (compactChars t).length ≤ fuel →
      scanValue? fuel (compactChars t ++ rest) = some (node, rest)
  | .null, node, rest, fuel, hnode, _, hfuel => by
    obtain ⟨fuel, rfl⟩ := exists_fuel_eq_succ hnode hfuel
    obtain rfl : Node.null = node := Option.some.inj hnode
    rfl
  | .boolean b, node, rest, fuel, hnode, _, hfuel => by
    obtain ⟨fuel, rfl⟩ := exists_fuel_eq_succ hnode hfuel
    obtain rfl : Node.boolean b = node := Option.some.inj hnode
    cases b <;> rfl
  | .number (.integer n h), node, rest, fuel, hnode, hrest, hfuel => by
    obtain ⟨fuel, rfl⟩ := exists_fuel_eq_succ hnode hfuel
    obtain ⟨c, cs, hcons, hstart⟩ := exists_integerText_eq_cons n
    obtain rfl : Node.number (.ofInteger n) = node := Option.some.inj hnode
    have hchars : compactChars (.number (.integer n h)) = c :: cs := hcons
    rw [hchars, List.cons_append, scanValue?_literal hstart, ← List.cons_append, ← hcons,
      scanLiteral?_integerText n hrest]
    rfl
  | .number (.double _), node, _, _, hnode, _, _ => absurd hnode (Option.some_ne_none node).symm
  | .string s, node, rest, fuel, hnode, _, hfuel => by
    obtain ⟨fuel, rfl⟩ := exists_fuel_eq_succ hnode hfuel
    obtain rfl : Node.string (some s) = node := Option.some.inj hnode
    exact scanValue?_quote s
  | .sequence items, node, rest, fuel, hnode, _, hfuel => by
    obtain ⟨fuel, rfl⟩ := exists_fuel_eq_succ hnode hfuel
    obtain ⟨nodes, hnodes, rfl⟩ := Option.map_eq_some_iff.mp hnode
    rw [compactChars] at hfuel ⊢
    simp only [List.length_cons, List.length_append, List.length_nil] at hfuel
    by_cases hne : items = []
    · subst hne
      obtain rfl : [] = nodes := Option.some.inj hnodes
      rfl
    · have hitems : scanItems? fuel (compactItems items ++ ']' :: rest) = some (nodes, rest) :=
        scanItems?_compactItems items hne hnodes (by omega)
      rw [List.cons_append, List.append_assoc, List.singleton_append,
        scanValue?_array (startsValue_compactItems hne hnodes _), hitems]
      rfl
  | .mapping entries, node, rest, fuel, hnode, _, hfuel => by
    obtain ⟨fuel, rfl⟩ := exists_fuel_eq_succ hnode hfuel
    obtain ⟨members, hmembers, rfl⟩ := Option.map_eq_some_iff.mp hnode
    rw [compactChars] at hfuel ⊢
    simp only [List.length_cons, List.length_append, List.length_nil] at hfuel
    by_cases hne : entries = []
    · subst hne
      obtain rfl : [] = members := Option.some.inj hmembers
      rfl
    · have hscan : scanMembers? fuel (compactEntries entries ++ '\x7d' :: rest) =
          some (members, rest) := scanMembers?_compactEntries entries hne hmembers (by omega)
      obtain ⟨cs, hcons⟩ := exists_compactEntries_eq_cons hne
      rw [hcons] at hscan ⊢
      rw [List.cons_append, List.append_assoc, List.singleton_append, List.cons_append,
        scanValue?_object, ← List.cons_append, hscan]
      rfl

/-- The items of a list are read back. -/
theorem scanItems?_compactItems : ∀ (items : List Tree) {nodes : List Node}
    {rest : List Char} {fuel : Nat}, items ≠ [] → Node.ofItems? items = some nodes →
      2 * (compactItems items).length + 1 ≤ fuel →
        scanItems? fuel (compactItems items ++ ']' :: rest) = some (nodes, rest)
  | [], _, _, _, hne, _, _ => absurd rfl hne
  | [t], nodes, rest, fuel, _, hnodes, hfuel => by
    obtain ⟨node, hnode, hnil⟩ := Option.bind_eq_some_iff.mp hnodes
    obtain rfl : [node] = nodes := Option.some.inj hnil
    obtain ⟨fuel, rfl⟩ : ∃ k, fuel = k + 1 := ⟨fuel - 1, by omega⟩
    rw [compactItems] at hfuel ⊢
    exact scanItems?_last (scanValue?_compactChars t hnode
      (endsValue_cons (Or.inr (Or.inl rfl)) rest) (by omega))
  | t :: u :: items, nodes, rest, fuel, _, hnodes, hfuel => by
    obtain ⟨node, hnode, hrest⟩ := Option.bind_eq_some_iff.mp hnodes
    obtain ⟨others, hothers, hcons⟩ := Option.bind_eq_some_iff.mp hrest
    obtain rfl : node :: others = nodes := Option.some.inj hcons
    obtain ⟨fuel, rfl⟩ : ∃ k, fuel = k + 1 := ⟨fuel - 1, by omega⟩
    have hchars : compactItems (t :: u :: items) =
        compactChars t ++ ',' :: compactItems (u :: items) := by
      rw [compactItems]
      exact List.cons_ne_nil u items
    rw [hchars] at hfuel ⊢
    simp only [List.length_append, List.length_cons] at hfuel
    have hitems : scanItems? fuel (compactItems (u :: items) ++ ']' :: rest) =
        some (others, rest) :=
      scanItems?_compactItems (u :: items) (List.cons_ne_nil u items) hothers (by omega)
    have hvalue : scanValue? fuel
        (compactChars t ++ ',' :: (compactItems (u :: items) ++ ']' :: rest)) = some (node, _) :=
      scanValue?_compactChars t hnode (endsValue_cons (Or.inl rfl) _) (by omega)
    rw [List.append_assoc, List.cons_append, scanItems?_cons hvalue, hitems]
    rfl

/-- The entries of a mapping are read back. -/
theorem scanMembers?_compactEntries : ∀ (entries : List (String × Tree))
    {members : List (Option String × Node)} {rest : List Char} {fuel : Nat}, entries ≠ [] →
      Node.ofEntries? entries = some members → 2 * (compactEntries entries).length + 1 ≤ fuel →
        scanMembers? fuel (compactEntries entries ++ '\x7d' :: rest) = some (members, rest)
  | [], _, _, _, hne, _, _ => absurd rfl hne
  | [(name, t)], members, rest, fuel, _, hmembers, hfuel => by
    obtain ⟨node, hnode, hnil⟩ := Option.bind_eq_some_iff.mp hmembers
    obtain rfl : [(some name, node)] = members := Option.some.inj hnil
    obtain ⟨fuel, rfl⟩ : ∃ k, fuel = k + 1 := ⟨fuel - 1, by omega⟩
    rw [compactEntries] at hfuel ⊢
    simp only [List.length_append, List.length_cons] at hfuel
    rw [List.append_assoc, List.cons_append]
    exact scanMembers?_last name (scanValue?_compactChars t hnode
      (endsValue_cons (Or.inr (Or.inr rfl)) rest) (by omega))
  | (name, t) :: entry :: entries, members, rest, fuel, _, hmembers, hfuel => by
    obtain ⟨node, hnode, hrest⟩ := Option.bind_eq_some_iff.mp hmembers
    obtain ⟨others, hothers, hcons⟩ := Option.bind_eq_some_iff.mp hrest
    obtain rfl : (some name, node) :: others = members := Option.some.inj hcons
    obtain ⟨fuel, rfl⟩ : ∃ k, fuel = k + 1 := ⟨fuel - 1, by omega⟩
    have hchars : compactEntries ((name, t) :: entry :: entries) =
        quote name ++ ':' :: (compactChars t ++ ',' :: compactEntries (entry :: entries)) := by
      rw [compactEntries]
      exact List.cons_ne_nil entry entries
    rw [hchars] at hfuel ⊢
    simp only [List.length_append, List.length_cons] at hfuel
    have hmembers : scanMembers? fuel (compactEntries (entry :: entries) ++ '\x7d' :: rest) =
        some (others, rest) :=
      scanMembers?_compactEntries (entry :: entries) (List.cons_ne_nil entry entries) hothers
        (by omega)
    have hvalue : scanValue? fuel
        (compactChars t ++ ',' :: (compactEntries (entry :: entries) ++ '\x7d' :: rest)) =
          some (node, _) :=
      scanValue?_compactChars t hnode (endsValue_cons (Or.inl rfl) _) (by omega)
    rw [List.append_assoc, List.cons_append, List.append_assoc, List.cons_append,
      scanMembers?_cons name hvalue, hmembers]
    rfl

end

/-- **The text of a tree is read back as its node.** -/
theorem readNode?_compact (h : Node.ofTree? t = some node) :
    readNode? (compact t) = some node := by
  have hscan : scanValue? (2 * (compactChars t).length + 2) (compactChars t ++ []) =
      some (node, []) := scanValue?_compactChars t h endsValue_nil (by omega)
  rw [List.append_nil] at hscan
  rw [readNode?, compact, String.toList_ofList, hscan]
  rfl

end Json

end Blueprint
