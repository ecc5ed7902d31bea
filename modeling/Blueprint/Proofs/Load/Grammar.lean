import Blueprint.Proofs.Load.Reading

/-!
# The grammar of definitions

Which trees describe a project: `Blueprint.Grammar.IsDefinition`. Each kind of entity is
given by the fields it may have, what has to stand in each of them, and which names must
exist or differ. All of it is said of the tree as a whole, by looking fields up, and the
order of the fields of an entity matters in one place alone: a property may have a type of
the definition only when `datatypes` stands before `objects`
(`Blueprint.Grammar.visibleTypes`).

| entity | fields |
|---|---|
| definition | `name`, `datatypes`, `attributes`, `objects`, `files` |
| data type | `name`, `type`, `values` |
| object | `name`, `properties`, `attributes`, `links`, `indexes` |
| property | `name`, `type`, `mandatory`, `default`, `secret`, `pattern`, |
| | `minimum`, `maximum`, `attributes` |
| link | `name`, `target`, `mandatory` |
| index | `name`, `unique`, `keys` |
| index key | one of `property` and `link` |
| file | `scope`, `input`, `output` |
| attribute of a list | `name`, `value` |

An object is put together from three parts, its outline, its links and its indexes, which
are the parts that the loader reads in three passes over the file.
-/

namespace Blueprint

namespace Tree

/-- The entries that stand before the first one of a key. -/
def entriesBefore (entries : Entries) (key : String) : Entries :=
  entries.takeWhile fun entry => entry.1 != key

/-- The part of a mapping that stands before a key. -/
def before (t : Tree) (key : String) : Tree :=
  match t with
  | .mapping entries => .mapping (entriesBefore entries key)
  | t => t

end Tree

namespace Grammar

/-! ### Values -/

/-- **A text**: a string that is not blank. -/
def IsText (t : Tree) : Prop := ∃ s, t = .string s ∧ trim s ≠ ""

/-- **An identifier**: a text without a blank inside. -/
def IsIdentifier (t : Tree) : Prop := IsText t ∧ hasBlank t.trimmed = false

def IsBoolean (t : Tree) : Prop := ∃ b, t = .boolean b

def IsNumber (t : Tree) : Prop := ∃ n, t = .number n

/-- A scalar, a string of whatever content. -/
def IsScalar (t : Tree) : Prop := IsBoolean t ∨ IsNumber t ∨ ∃ s, t = .string s

/-- The value of an attribute: a scalar, and not a blank string. -/
def IsAttributeValue (t : Tree) : Prop := IsBoolean t ∨ IsNumber t ∨ IsText t

/-- The text is one of those given. -/
def IsOneOf (texts : List String) (t : Tree) : Prop := IsText t ∧ t.trimmed ∈ texts

/-! ### Sequences and records -/

/-- A sequence of such items, perhaps empty. -/
def IsSequenceOf (P : Tree → Prop) (t : Tree) : Prop := ∃ ts, t = .sequence ts ∧ ∀ u ∈ ts, P u

/-- A sequence of such items, at least one. -/
def IsNonemptySequenceOf (P : Tree → Prop) (t : Tree) : Prop := IsSequenceOf P t ∧ t.items ≠ []

/-- **A mapping with fields among those given, none of them repeated.** -/
def IsRecord (fields : List String) (t : Tree) : Prop :=
  ∃ entries, t = .mapping entries ∧ (entries.map (·.1)).Nodup ∧
    ∀ key ∈ entries.map (·.1), key ∈ fields

/-- A field that has to be there. -/
def Requires (t : Tree) (key : String) (P : Tree → Prop) : Prop := ∃ v, t.get? key = some v ∧ P v

/-- A field that may be absent. -/
def Allows (t : Tree) (key : String) (P : Tree → Prop) : Prop := ∀ v, t.get? key = some v → P v

section Fields

variable {t : Tree} {key : String} {P : Tree → Prop}

/-- What a field that has to be there holds. -/
theorem Requires.field (h : Requires t key P) : P (t.field key) := by
  obtain ⟨v, hv, hP⟩ := h
  rwa [Tree.field, hv]

theorem Requires.textAt_ne_empty (h : Requires t key IsText) : t.textAt key ≠ "" := by
  obtain ⟨s, hs, hne⟩ := h.field
  rwa [Tree.textAt, hs]

theorem Requires.textAt_mem {texts : List String} (h : Requires t key (IsOneOf texts)) :
    t.textAt key ∈ texts :=
  h.field.2

/-- The items of a list that has to be there. -/
theorem Requires.forall_mem_itemsAt (h : Requires t key (IsNonemptySequenceOf P)) :
    ∀ u ∈ t.itemsAt key, P u := by
  obtain ⟨⟨ts, hts, hall⟩, -⟩ := h.field
  rwa [Tree.itemsAt, hts]

theorem Requires.itemsAt_ne_nil (h : Requires t key (IsNonemptySequenceOf P)) :
    t.itemsAt key ≠ [] :=
  h.field.2

/-- A list that has to be there, and what has to be said of its items. -/
theorem requires_nonempty_iff : Requires t key (IsNonemptySequenceOf P) ↔
    Requires t key (IsNonemptySequenceOf fun _ => True) ∧ ∀ u ∈ t.itemsAt key, P u := by
  constructor
  · intro h
    refine ⟨?_, h.forall_mem_itemsAt⟩
    obtain ⟨v, hv, ⟨ts, hts, -⟩, hne⟩ := h
    exact ⟨v, hv, ⟨ts, hts, fun _ _ => trivial⟩, hne⟩
  · rintro ⟨⟨v, hv, ⟨ts, rfl, -⟩, hne⟩, hall⟩
    rw [Tree.itemsAt, Tree.field, hv] at hall
    exact ⟨_, hv, ⟨ts, rfl, hall⟩, hne⟩

/-- The items of a list that may be absent. -/
theorem Allows.forall_mem_itemsAt (h : Allows t key (IsSequenceOf P)) :
    ∀ u ∈ t.itemsAt key, P u := by
  intro u hu
  rw [Tree.itemsAt, Tree.field] at hu
  cases hv : t.get? key with
  | none =>
    rw [hv] at hu
    exact absurd hu List.not_mem_nil
  | some v =>
    obtain ⟨ts, rfl, hall⟩ := h v hv
    rw [hv] at hu
    exact hall u hu

theorem Requires.imp {Q : Tree → Prop} (h : Requires t key P) (hPQ : ∀ v, P v → Q v) :
    Requires t key Q := by
  obtain ⟨v, hv, hP⟩ := h
  exact ⟨v, hv, hPQ v hP⟩

theorem Allows.imp {Q : Tree → Prop} (h : Allows t key P) (hPQ : ∀ v, P v → Q v) :
    Allows t key Q :=
  fun v hv => hPQ v (h v hv)

/-- What is asked of a field depends on what is found there alone. -/
theorem requires_congr {u : Tree} (h : u.get? key = t.get? key) :
    Requires u key P ↔ Requires t key P := by
  rw [Requires, Requires, h]

theorem allows_congr {u : Tree} (h : u.get? key = t.get? key) :
    Allows u key P ↔ Allows t key P := by
  rw [Allows, Allows, h]

/-- A text among some is one among more. -/
theorem IsOneOf.mono {texts more : List String} (h : IsOneOf texts t) (hsub : texts ⊆ more) :
    IsOneOf more t :=
  ⟨h.1, hsub h.2⟩

theorem IsSequenceOf.imp {Q : Tree → Prop} (h : IsSequenceOf P t) (hPQ : ∀ u, P u → Q u) :
    IsSequenceOf Q t := by
  obtain ⟨ts, rfl, hall⟩ := h
  exact ⟨ts, rfl, fun u hu => hPQ u (hall u hu)⟩

theorem IsNonemptySequenceOf.imp {Q : Tree → Prop} (h : IsNonemptySequenceOf P t)
    (hPQ : ∀ u, P u → Q u) : IsNonemptySequenceOf Q t :=
  ⟨IsSequenceOf.imp h.1 hPQ, h.2⟩

end Fields

/-! ### Attributes -/

/-- An attribute written as an item of a list. -/
structure IsAttribute (t : Tree) : Prop where
  fields : IsRecord ["name", "value"] t
  name : Requires t "name" IsIdentifier
  value : Requires t "value" IsAttributeValue

/-- Attributes written as a mapping, from names to values. -/
def IsAttributeMapping (t : Tree) : Prop :=
  ∃ entries, t = .mapping entries ∧
    (∀ entry ∈ entries, IsIdentifier (.string entry.1) ∧ IsAttributeValue entry.2) ∧
    (entries.map fun entry => trim entry.1).Nodup

/-- Attributes written as a list. -/
def IsAttributeList (t : Tree) : Prop :=
  IsSequenceOf IsAttribute t ∧ (t.items.map Tree.declaredName).Nodup

/-- **Attributes**, in either notation. -/
def IsAttributes (t : Tree) : Prop := IsAttributeMapping t ∨ IsAttributeList t

/-! ### Data types -/

/-- A value of an enumeration: a text, or a mapping with `value` for its one field. -/
def IsEnumerationValue (t : Tree) : Prop :=
  IsText t ∨ IsRecord ["value"] t ∧ Requires t "value" IsText

/-- **The declaration of a type**: an enumeration of at least one value, each of them once. -/
structure IsDataType (t : Tree) : Prop where
  fields : IsRecord ["name", "type", "values"] t
  name : Requires t "name" IsIdentifier
  type : Requires t "type" (IsOneOf ["enumeration"])
  values : Requires t "values" (IsNonemptySequenceOf IsEnumerationValue)
  distinct : ((t.itemsAt "values").map Reading.enumerationValue).Nodup

/-! ### Objects -/

/-- **A property**, whose type is one of those given and whose bounds are not crossed. -/
structure IsProperty (types : List String) (t : Tree) : Prop where
  fields : IsRecord ["name", "type", "mandatory", "default", "secret", "pattern", "minimum",
    "maximum", "attributes"] t
  name : Requires t "name" IsIdentifier
  type : Requires t "type" (IsOneOf types)
  mandatory : Allows t "mandatory" IsBoolean
  defaultValue : Allows t "default" IsScalar
  secret : Allows t "secret" IsBoolean
  pattern : Allows t "pattern" IsText
  minimum : Allows t "minimum" IsNumber
  maximum : Allows t "maximum" IsNumber
  range : ∀ low high, t.numberAt? "minimum" = some low → t.numberAt? "maximum" = some high →
    low.exceeds high = false
  attributes : Allows t "attributes" IsAttributes

/-- **The outline of an object**: everything but what its links and indexes say. -/
structure IsOutline (types : List String) (t : Tree) : Prop where
  fields : IsRecord ["name", "properties", "attributes", "links", "indexes"] t
  name : Requires t "name" IsIdentifier
  properties : Requires t "properties" (IsNonemptySequenceOf (IsProperty types))
  attributes : Allows t "attributes" IsAttributes

/-- **A link**, whose target is one of the objects given. -/
structure IsLink (objects : List String) (t : Tree) : Prop where
  fields : IsRecord ["name", "target", "mandatory"] t
  name : Requires t "name" IsIdentifier
  target : Requires t "target" (IsOneOf objects)
  mandatory : Allows t "mandatory" IsBoolean

/-- The links of an object, of different names. -/
structure HasLinks (objects : List String) (t : Tree) : Prop where
  links : Allows t "links" (IsSequenceOf (IsLink objects))
  linkNames : (t.namesAt "links").Nodup

/-- **An index key**: the name of a property or that of a link, and not both. -/
def IsIndexKey (properties links : List String) (t : Tree) : Prop :=
  ∃ key name, t = .mapping [(key, name)] ∧
    (key = "property" ∧ IsOneOf properties name ∨ key = "link" ∧ IsOneOf links name)

/-- **An index** over the properties and links of these names. -/
structure IsIndex (properties links : List String) (t : Tree) : Prop where
  fields : IsRecord ["name", "unique", "keys"] t
  name : Requires t "name" IsIdentifier
  unique : Allows t "unique" IsBoolean
  keys : Requires t "keys" (IsNonemptySequenceOf (IsIndexKey properties links))

/-- The indexes of an object, of different names if the options ask for it. -/
structure HasIndexes (options : LoadOptions) (t : Tree) : Prop where
  indexes : Allows t "indexes" (IsSequenceOf (IsIndex (t.namesAt "properties") (t.namesAt "links")))
  indexNames : options.uniqueIndexNames = true → (t.namesAt "indexes").Nodup

/-- **An object**: its outline, its links, its indexes. -/
structure IsObject (options : LoadOptions) (types objects : List String) (t : Tree) : Prop extends
  IsOutline types t, HasLinks objects t, HasIndexes options t

/-! Names that can be referred to may be added to without harm. -/

section Mono

variable {types types' objects objects' : List String} {t : Tree}

theorem IsProperty.mono (h : IsProperty types t) (hsub : types ⊆ types') : IsProperty types' t :=
  { h with type := h.type.imp fun _ htype => htype.mono hsub }

theorem IsLink.mono (h : IsLink objects t) (hsub : objects ⊆ objects') : IsLink objects' t :=
  { h with target := h.target.imp fun _ htarget => htarget.mono hsub }

theorem IsObject.mono {options : LoadOptions} (h : IsObject options types objects t)
    (htypes : types ⊆ types') (hobjects : objects ⊆ objects') :
    IsObject options types' objects' t :=
  { h with
    properties := h.properties.imp fun _ hlist =>
      IsNonemptySequenceOf.imp hlist fun _ hproperty => hproperty.mono htypes
    links := h.links.imp fun _ hlist => IsSequenceOf.imp hlist fun _ hlink => hlink.mono hobjects }

end Mono

/-! ### Definitions -/

/-- **A file declaration.** -/
structure IsFile (t : Tree) : Prop where
  fields : IsRecord ["scope", "input", "output"] t
  scope : Requires t "scope" (IsOneOf ["project", "object"])
  input : Requires t "input" IsText
  output : Requires t "output" IsText

/-- The names of the types that a property may have: those built in, and those declared
before the objects. -/
def visibleTypes (d : Tree) : List String :=
  Reading.builtinNames ++ (d.before "objects").namesAt "datatypes"

/-- **The definitions of projects.** -/
structure IsDefinition (options : LoadOptions) (d : Tree) : Prop where
  fields : IsRecord ["name", "datatypes", "attributes", "objects", "files"] d
  name : Requires d "name" IsText
  dataTypes : Allows d "datatypes" (IsSequenceOf IsDataType)
  typeNames : (Reading.typeNames d).Nodup
  attributes : Allows d "attributes" IsAttributes
  objects : Requires d "objects"
    (IsNonemptySequenceOf (IsObject options (visibleTypes d) (d.namesAt "objects")))
  objectNames : (d.namesAt "objects").Nodup
  files : Requires d "files" (IsNonemptySequenceOf IsFile)

end Grammar

end Blueprint
