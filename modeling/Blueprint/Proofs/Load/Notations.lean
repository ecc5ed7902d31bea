import Blueprint.Proofs.Load.Attributes

/-!
# The two notations of attributes

Attributes are written as a mapping from names to values, or as a list of items with a name and a
value each. What is written in one notation can be written in the other, and it is read alike
(`Blueprint.Load.notations_agree`): both are accepted or both refused, and the map is the same.

| statement | about |
|---|---|
| `Blueprint.Load.attributes_written` | the same map, whichever way round the items are written |
| `Blueprint.Load.attributes_sameCode` | the same kind of error, when the names come first |

Two errors of one kind need not be the same error. A complaint about an entry of a mapping calls
the attribute by its key, and one about an item by its number or by the name that has been read.
And an item whose value comes first is refused for its value before its name is looked at, so
nothing can be said of the kinds of errors then.
-/

namespace Blueprint

namespace Load

open Grammar

/-! ### Readings that end with errors of one kind -/

section SameCode

variable {α β γ : Type}

/-- **Two readings that end alike**, up to what an error says beyond its code. -/
def SameCode (x y : Except LoadError α) : Prop :=
  x.mapError LoadError.code = y.mapError LoadError.code

/-- One step after another. -/
theorem SameCode.bind {x y : Except LoadError α} {f g : α → Except LoadError β}
    (h : SameCode x y) (hfg : ∀ a, SameCode (f a) (g a)) : SameCode (x >>= f) (y >>= g) := by
  rw [SameCode] at h
  cases x with
  | error e =>
    cases y with
    | error e' => exact congrArg Except.error (Except.error.inj h)
    | ok b => exact nomatch h
  | ok a =>
    cases y with
    | error e' => exact nomatch h
    | ok b =>
      obtain rfl : a = b := Except.ok.inj h
      exact hfg a

/-- **Two loops over the same items**, one of which is told their numbers. -/
theorem foldlM_sameCode {f : α → γ → Except LoadError α} {g : α → β × Nat → Except LoadError α}
    {item : γ → β} (h : ∀ a x n, SameCode (f a x) (g a (item x, n))) (xs : List γ) (n : Nat) (a : α) :
    SameCode (xs.foldlM f a) (((xs.map item).zipIdx n).foldlM g a) := by
  induction xs generalizing n a with
  | nil => exact rfl
  | cons x xs ih =>
    rw [List.map_cons, List.zipIdx_cons, List.foldlM_cons, List.foldlM_cons]
    exact (h a x n).bind fun b => ih (n + 1) b

variable (raw : Tree) (entity entity' : Label) (field : String)

/-! What kind of error a value leads to does not depend on where it stands. -/

theorem text_sameCode : SameCode (text raw entity field) (text raw entity' field) := by
  cases raw with
  | string s =>
    rw [text, text]
    by_cases hs : trim s = ""
    · rw [if_pos hs, if_pos hs]
      rfl
    · rw [if_neg hs, if_neg hs]
      rfl
  | _ => rfl

theorem identifier_sameCode :
    SameCode (identifier raw entity field) (identifier raw entity' field) := by
  refine (text_sameCode raw entity entity' field).bind fun value => ?_
  by_cases hvalue : hasBlank value = true
  · rw [if_pos hvalue, if_pos hvalue]
    rfl
  · rw [if_neg hvalue, if_neg hvalue]
    rfl

theorem attributeValue_sameCode :
    SameCode (attributeValue raw entity) (attributeValue raw entity') := by
  cases raw with
  | string s =>
    rw [attributeValue, attributeValue]
    by_cases hs : trim s = ""
    · rw [if_pos hs, if_pos hs]
      rfl
    · rw [if_neg hs, if_neg hs]
      rfl
  | _ => rfl

end SameCode

/-! ### An entry as an item -/

/-- An attribute as an item of a list, its name first. -/
def nameFirst (entry : String × Tree) : Tree :=
  .mapping [("name", .string entry.1), ("value", entry.2)]

/-- An attribute as an item of a list, its value first. -/
def valueFirst (entry : String × Tree) : Tree :=
  .mapping [("value", entry.2), ("name", .string entry.1)]

/-- **An entry written as an item**, either way round. -/
inductive WrittenAs (entry : String × Tree) : Tree → Prop
  | nameFirst : WrittenAs entry (nameFirst entry)
  | valueFirst : WrittenAs entry (valueFirst entry)

namespace WrittenAs

variable {entry : String × Tree} {t : Tree}

/-- What the fields of an item hold. -/
theorem get? (h : WrittenAs entry t) :
    t.get? "name" = some (.string entry.1) ∧ t.get? "value" = some entry.2 := by
  cases h <;> exact ⟨rfl, rfl⟩

theorem isRecord (h : WrittenAs entry t) : IsRecord ["name", "value"] t := by
  cases h with
  | nameFirst => exact ⟨_, rfl, (by decide : ["name", "value"].Nodup), by simp⟩
  | valueFirst => exact ⟨_, rfl, (by decide : ["value", "name"].Nodup), by simp⟩

/-- **An item is accepted when the entry is.** -/
theorem isAttribute_iff (h : WrittenAs entry t) :
    IsAttribute t ↔ IsIdentifier (.string entry.1) ∧ IsAttributeValue entry.2 := by
  obtain ⟨hname, hvalue⟩ := h.get?
  constructor
  · rintro ⟨-, ⟨name, hname', hidentifier⟩, value, hvalue', haccepted⟩
    obtain rfl := Option.some.inj (hname.symm.trans hname')
    obtain rfl := Option.some.inj (hvalue.symm.trans hvalue')
    exact ⟨hidentifier, haccepted⟩
  · exact fun ⟨hidentifier, haccepted⟩ =>
      ⟨h.isRecord, ⟨_, hname, hidentifier⟩, ⟨_, hvalue, haccepted⟩⟩

/-- **An item is read as the entry is.** -/
theorem attributeItem_eq (h : WrittenAs entry t) :
    Reading.attributeItem t = (trim entry.1, Reading.attributeValue entry.2) := by
  rw [Reading.attributeItem, Tree.declaredName, Tree.textAt, Tree.field, Tree.field, h.get?.1,
    h.get?.2]
  rfl

end WrittenAs

/-! ### Whole lists -/

section Lists

variable {entries : Entries} {ts : List Tree}

theorem map_attributeItem (h : List.Forall₂ WrittenAs entries ts) :
    ts.map Reading.attributeItem =
      entries.map fun entry => (trim entry.1, Reading.attributeValue entry.2) := by
  induction h with
  | nil => rfl
  | cons hentry _ ih => rw [List.map_cons, List.map_cons, hentry.attributeItem_eq, ih]

theorem forall_isAttribute_iff (h : List.Forall₂ WrittenAs entries ts) :
    (∀ t ∈ ts, IsAttribute t) ↔
      ∀ entry ∈ entries, IsIdentifier (.string entry.1) ∧ IsAttributeValue entry.2 := by
  induction h with
  | nil => exact iff_of_true (fun _ h => nomatch h) fun _ h => nomatch h
  | cons hentry _ ih =>
    rw [List.forall_mem_cons, List.forall_mem_cons, hentry.isAttribute_iff, ih]

/-- Both notations are accepted under one condition. -/
theorem isAttributes_iff (h : List.Forall₂ WrittenAs entries ts) :
    IsAttributes (.sequence ts) ↔ IsAttributes (.mapping entries) := by
  have hnames : ts.map Tree.declaredName = entries.map fun entry => trim entry.1 := by
    have hitems := congrArg (List.map Prod.fst) (map_attributeItem h)
    rwa [List.map_map, List.map_map] at hitems
  constructor
  · rintro (⟨_, hmapping, -⟩ | ⟨⟨_, ⟨⟩, hall⟩, hnodup⟩)
    · exact nomatch hmapping
    · exact .inl ⟨entries, rfl, (forall_isAttribute_iff h).mp hall, hnames ▸ hnodup⟩
  · rintro (⟨_, ⟨⟩, hall, hnodup⟩ | ⟨⟨_, hsequence, -⟩, -⟩)
    · exact .inr ⟨⟨ts, rfl, (forall_isAttribute_iff h).mpr hall⟩, hnames.symm ▸ hnodup⟩
    · exact nomatch hsequence

/-- **The map of the two notations is the same.** -/
theorem attributes_written (h : List.Forall₂ WrittenAs entries ts) (owner : Label)
    (m : AttributeMap) :
    attributes (.mapping entries) owner = .ok m ↔ attributes (.sequence ts) owner = .ok m := by
  have hread : Reading.attributes (.sequence ts) = Reading.attributes (.mapping entries) :=
    congrArg AttributeMap.mk (map_attributeItem h)
  rw [attributes_yields (.mapping entries) owner m, attributes_yields (.sequence ts) owner m,
    isAttributes_iff h, hread]

end Lists

/-! ### Errors -/

section NameFirst

variable (owner : Label) (entry : String × Tree) (position : Nat)

/-- The draft of an item whose name comes first: the name is read, and then the value of an
attribute of that name. -/
theorem draft_nameFirst : (attributeForm owner position).draft (nameFirst entry) = do
    let name ← identifier (.string entry.1) (owner.within .attribute (.numbered position)) "name"
    let value ← attributeValue entry.2 (owner.within .attribute (.named name))
    return (Form.Draft.fill (F := attributeForm owner position)
      (Form.Draft.fill (attributeForm owner position).blank .name name) .value value) := by
  let F := attributeForm owner position
  have hname : F.enter F.blank ("name", .string entry.1) =
      (identifier (.string entry.1) (owner.within .attribute (.numbered position)) "name").map
        fun name => Form.Draft.fill F.blank .name name := rfl
  have hvalue : ∀ name, F.enter (Form.Draft.fill F.blank .name name) ("value", entry.2) =
      (attributeValue entry.2 (owner.within .attribute (.named name))).map fun value =>
        Form.Draft.fill (F := F) (Form.Draft.fill F.blank .name name) .value value := fun _ => rfl
  change F.enterAll [("name", .string entry.1), ("value", entry.2)] = _
  rw [Form.enterAll, List.foldlM_cons, hname]
  refine (map_bind_eq _).trans (congrArg _ (funext fun name => ?_))
  rw [List.foldlM_cons, hvalue]
  exact map_bind_eq _

/-- An item whose name comes first is read as an entry is: the name, and then the value. -/
theorem attributeItem_nameFirst : attributeItem owner (nameFirst entry) position = do
    let name ← identifier (.string entry.1) (owner.within .attribute (.numbered position)) "name"
    let value ← attributeValue entry.2 (owner.within .attribute (.named name))
    return (name, value) := by
  rw [attributeItem, draft_nameFirst, bind_assoc]
  refine congrArg _ (funext fun name => ?_)
  rw [bind_assoc]
  rfl

end NameFirst

/-- **One entry and its item**, added to the attributes before them. -/
theorem addAttribute_sameCode (owner : Label) (m : AttributeMap) (entry : String × Tree)
    (position : Nat) :
    SameCode (addAttributeEntry owner m entry)
      (addAttributeItem owner m (nameFirst entry, position)) := by
  rw [addAttributeItem, attributeItem_nameFirst, bind_assoc]
  refine (identifier_sameCode _ _ _ _).bind fun name => ?_
  rw [bind_assoc]
  exact (attributeValue_sameCode _ _ _).bind fun value => rfl

/-- **Both notations end alike when the names come first**: with one map, or with errors of one
kind. -/
theorem attributes_sameCode (owner : Label) (entries : Entries) :
    SameCode (attributes (.mapping entries) owner)
      (attributes (.sequence (entries.map nameFirst)) owner) :=
  foldlM_sameCode (addAttribute_sameCode owner) entries 1 .empty

/-! ### The two notations together -/

/-- **The two notations of attributes agree.** Entries of a mapping are accepted exactly when the
items of a list that say the same are, each item with its name or its value first, and the map is
one and the same: it lists the entries in order, with their names and their texts trimmed. When all
names come first, what is refused in one notation is refused in the other for a reason of the same
kind. -/
theorem notations_agree (owner : Label) {entries : Entries} {ts : List Tree}
    (h : List.Forall₂ WrittenAs entries ts) :
    (∀ m, attributes (.mapping entries) owner = .ok m ↔ attributes (.sequence ts) owner = .ok m) ∧
    (∀ m, attributes (.mapping entries) owner = .ok m →
      m.entries = entries.map fun entry => (trim entry.1, Reading.attributeValue entry.2)) ∧
    (attributes (.mapping entries) owner).mapError LoadError.code =
      (attributes (.sequence (entries.map nameFirst)) owner).mapError LoadError.code := by
  refine ⟨attributes_written h owner, fun m hm => ?_, attributes_sameCode owner entries⟩
  obtain ⟨-, rfl⟩ := (attributes_yields (.mapping entries) owner m).mp hm
  rfl

/-- Two attributes with blanks around a name and a text, one item of them with its value first; and
an attribute whose name and value are both wrong, called by its key in one notation and by its
number in the other. -/
theorem notations_agree_table :
    attributes (.sequence [valueFirst (" table ", .string "users "),
        nameFirst ("version", .boolean true)]) (ownerLabel "User") =
      .ok ⟨[("table", .string "users"), ("version", .boolean true)]⟩ ∧
    ∃ e e', attributes (.mapping [("a b", .null)]) (ownerLabel "User") = .error e ∧
      attributes (.sequence [nameFirst ("a b", .null)]) (ownerLabel "User") = .error e' ∧
      e ≠ e' ∧ e.code = e'.code := by
  have hwritten : List.Forall₂ WrittenAs [(" table ", .string "users "), ("version", .boolean true)]
      [valueFirst (" table ", .string "users "), nameFirst ("version", .boolean true)] :=
    .cons .valueFirst (.cons .nameFirst .nil)
  have hblank : List.Forall₂ WrittenAs [("a b", .null)] [nameFirst ("a b", .null)] :=
    .cons .nameFirst .nil
  have hcode := (notations_agree (ownerLabel "User") hblank).2.2
  exact ⟨((notations_agree (ownerLabel "User") hwritten).1 _).mp rfl, _, _, rfl, rfl, by decide,
    Except.error.inj hcode⟩

end Load

end Blueprint
