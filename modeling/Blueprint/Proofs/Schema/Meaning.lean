import Blueprint.Proofs.Load.Entries
import Blueprint.Proofs.Number.Rounding
import Blueprint.Schema

/-!
# What a schema says of a value

A schema is a tree in the words of JSON Schema, and `Blueprint.Schema.Describes` is what such a
tree says of another one. It knows the words that the schema of template data is written in, and
a schema with any other word describes nothing.

| words | say |
|---|---|
| `true` | anything |
| `$ref` | what the definition of that name says |
| `type`, `format`, `minimum` | which scalars, sequences or mappings |
| `required` | which keys are there |
| `properties`, `additionalProperties` | what stands under listed keys, and under others |
| `items` | what the items are |
| `$schema`, `title`, `description`, `definitions` | nothing |

JSON Schema is lenient: a key that is not listed may have any value. The relation comes in a
**closed** form too, in which every key of a mapping must be listed, unless `additionalProperties`
invites others, and in which `true` stands for a scalar or null. What a schema describes in the
closed form it describes (`Blueprint.Schema.Describes.lenient`).

The schema of template data is not written in these words but made from a table of records. The
second half of the file says what an entry of the table means of a value
(`Blueprint.Schema.FieldType.Holds`, `Blueprint.Schema.RecordType.Entered`), and that its words
say the same (`Blueprint.Schema.describes_type`, `Blueprint.Schema.describes_record`).
-/

namespace Blueprint

/-- The entries of a mapping. -/
def Tree.entries : Tree → Entries
  | .mapping entries => entries
  | _ => []

/-- A scalar or null, in which nothing can be left undescribed. -/
def Tree.IsLeaf : Tree → Prop
  | .sequence _ => False
  | .mapping _ => False
  | _ => True

namespace Schema

open Blueprint.Tree

/-! ### Words about a value -/

/-- A value is of a type. A number is an integer when its value is whole. -/
def IsOfType (v : Tree) : String → Prop
  | "null" => v = .null
  | "boolean" => ∃ b, v = .boolean b
  | "integer" => ∃ n, v = .number n ∧ (Double.unit : Int) ∣ n.quanta
  | "number" => ∃ n, v = .number n
  | "string" => ∃ s, v = .string s
  | "array" => ∃ ts, v = .sequence ts
  | "object" => ∃ entries, v = .mapping entries
  | _ => False

/-- `type`: one type, or one of several. -/
def HasType (v : Tree) : Tree → Prop
  | .string type => IsOfType v type
  | .sequence types => ∃ type, .string type ∈ types ∧ IsOfType v type
  | _ => False

/-- `format`: a number of a format is one that a word of 64 bits holds. -/
def HasFormat (v : Tree) (format : Tree) : Prop :=
  format = .string "uint" ∧ ∀ n, v = .number n → ∃ w, n = wordNumber w

/-- `minimum`: a number is not below another. -/
def IsAtLeast (v : Tree) (minimum : Tree) : Prop :=
  ∃ m, minimum = .number m ∧ ∀ n, v = .number n → m.quanta ≤ n.quanta

/-- `required`: a mapping has these keys. -/
def HasKeys (v : Tree) (required : Tree) : Prop :=
  ∃ keys : List String, required = .sequence (keys.map .string) ∧
    ∀ entries, v = .mapping entries → ∀ key ∈ keys, key ∈ entries.map (·.1)

/-- The words that a schema may use beside `$ref`. -/
def vocabulary : List String :=
  ["$schema", "title", "description", "definitions", "type", "format", "minimum", "required",
    "properties", "additionalProperties", "items"]

/-- What a schema says of a key that it lists. -/
def property? (schema : Entries) (key : String) : Option Tree :=
  (lookup? schema "properties").bind fun properties => properties.get? key

/-- **A schema describes a value**, inside a document whose definitions it may refer to. -/
inductive Describes (closed : Bool) (document : Tree) : Tree → Tree → Prop
  | anything {v : Tree} (hleaf : closed = true → v.IsLeaf) :
      Describes closed document (.boolean true) v
  | reference {schema : Entries} {name : String} {target v : Tree}
      (hreference : lookup? schema "$ref" = some (.string ("#/definitions/" ++ name)))
      (htarget : document.follow? ["definitions", name] = some target)
      (h : Describes closed document target v) :
      Describes closed document (.mapping schema) v
  | words {schema : Entries} {v : Tree}
      (hwords : ∀ entry ∈ schema, entry.1 ∈ vocabulary)
      (htype : ∀ a, lookup? schema "type" = some a → HasType v a)
      (hformat : ∀ a, lookup? schema "format" = some a → HasFormat v a)
      (hminimum : ∀ a, lookup? schema "minimum" = some a → IsAtLeast v a)
      (hrequired : ∀ a, lookup? schema "required" = some a → HasKeys v a)
      (hproperties : ∀ entry ∈ v.entries, ∀ s, property? schema entry.1 = some s →
        Describes closed document s entry.2)
      (hadditional : ∀ s, lookup? schema "additionalProperties" = some s →
        ∀ entry ∈ v.entries, property? schema entry.1 = none → Describes closed document s entry.2)
      (hlisted : closed = true → lookup? schema "additionalProperties" = none →
        ∀ entry ∈ v.entries, (property? schema entry.1).isSome = true)
      (hitems : ∀ s, lookup? schema "items" = some s →
        ∀ item ∈ v.items, Describes closed document s item) :
      Describes closed document (.mapping schema) v

/-- **What a schema describes in the closed form it describes.** -/
theorem Describes.lenient {document schema v : Tree} (h : Describes true document schema v) :
    Describes false document schema v := by
  induction h with
  | anything _ => exact .anything fun h => nomatch h
  | reference hreference htarget _ ih => exact .reference hreference htarget ih
  | words hwords htype hformat hminimum hrequired _ _ _ _ hproperties hadditional hitems =>
    exact .words hwords htype hformat hminimum hrequired hproperties hadditional
      (fun h => nomatch h) hitems

/-- What is described has the keys that are required. -/
theorem Describes.hasKeys {closed : Bool} {document v a : Tree} {schema : Entries}
    (h : Describes closed document (.mapping schema) v) (hreference : lookup? schema "$ref" = none)
    (ha : lookup? schema "required" = some a) : HasKeys v a := by
  cases h with
  | reference hname => exact nomatch hreference.symm.trans hname
  | words _ _ _ _ hrequired => exact hrequired a ha

/-! ### Annotations -/

/-- The words that say nothing of a value. -/
def annotations : List String := ["$schema", "title", "description", "definitions"]

section Annotations

variable {closed : Bool} {document v : Tree} {before schema after : Entries} {key : String}

/-- Another word is found where it was, whatever is said around it. -/
theorem lookup?_annotated (hbefore : ∀ entry ∈ before, entry.1 ∈ annotations)
    (hafter : ∀ entry ∈ after, entry.1 ∈ annotations) (hkey : key ∉ annotations) :
    lookup? (before ++ schema ++ after) key = lookup? schema key := by
  have hnone : ∀ {entries : Entries}, (∀ entry ∈ entries, entry.1 ∈ annotations) →
      entries.find? (fun entry => entry.1 == key) = none := by
    intro entries hentries
    rw [List.find?_eq_none]
    intro entry hentry heq
    exact hkey (eq_of_beq heq ▸ hentries entry hentry)
  rw [lookup?, lookup?, List.find?_append, List.find?_append, hnone hbefore, hnone hafter,
    Option.none_or, Option.or_none]

/-- **Annotations change nothing** in what a schema describes. -/
theorem describes_annotated (hbefore : ∀ entry ∈ before, entry.1 ∈ annotations)
    (hafter : ∀ entry ∈ after, entry.1 ∈ annotations) (hreference : lookup? schema "$ref" = none)
    (h : Describes closed document (.mapping schema) v) :
    Describes closed document (.mapping (before ++ schema ++ after)) v := by
  have hsame : ∀ {key}, key ∉ annotations →
      lookup? (before ++ schema ++ after) key = lookup? schema key :=
    lookup?_annotated hbefore hafter
  have hproperty : ∀ key, property? (before ++ schema ++ after) key = property? schema key := by
    intro key
    rw [property?, property?, hsame (by decide)]
  have hvocabulary : annotations ⊆ vocabulary := by decide
  cases h with
  | reference hname => exact nomatch hreference.symm.trans hname
  | words hwords htype hformat hminimum hrequired hproperties hadditional hlisted hitems =>
    refine .words ?_ ?_ ?_ ?_ ?_ ?_ ?_ ?_ ?_
    · rw [List.forall_mem_append, List.forall_mem_append]
      exact ⟨⟨fun e he => hvocabulary (hbefore e he), hwords⟩,
        fun e he => hvocabulary (hafter e he)⟩
    · rwa [hsame (by decide)]
    · rwa [hsame (by decide)]
    · rwa [hsame (by decide)]
    · rwa [hsame (by decide)]
    · simpa only [hproperty] using hproperties
    · simpa only [hsame (show "additionalProperties" ∉ annotations by decide), hproperty]
        using hadditional
    · simpa only [hsame (show "additionalProperties" ∉ annotations by decide), hproperty]
        using hlisted
    · rwa [hsame (by decide)]

/-- An explanation changes nothing. -/
theorem describes_explained (description : Option String)
    (hreference : lookup? schema "$ref" = none)
    (h : Describes closed document (.mapping schema) v) :
    Describes closed document (.mapping (descriptionEntry description ++ schema)) v := by
  have hbefore : ∀ entry ∈ descriptionEntry description, entry.1 ∈ annotations := by
    cases description with
    | none => exact fun _ h => nomatch h
    | some text =>
      rw [descriptionEntry, List.forall_mem_singleton]
      exact (by decide : "description" ∈ annotations)
  rw [← List.append_nil (descriptionEntry description ++ schema)]
  exact describes_annotated hbefore (fun _ h => nomatch h) hreference h

end Annotations

/-! ### The table of records -/

/-- **What a value must be to stand in a field**, given what it means to be a record of a name. -/
def FieldType.Holds (isRecord : String → Tree → Prop) : FieldType → Tree → Prop
  | .string, v => ∃ s, v = .string s
  | .optionalString, v => v = .null ∨ ∃ s, v = .string s
  | .boolean, v => ∃ b, v = .boolean b
  | .position, v => ∃ w, v = .number (wordNumber w)
  | .anything, v => v.IsLeaf
  | .freeMapping, v => ∃ entries, v = .mapping entries ∧ ∀ entry ∈ entries, entry.2.IsLeaf
  | .record name, v => isRecord name v
  | .list items, v => ∃ ts, v = .sequence ts ∧ ∀ t ∈ ts, items.Holds isRecord t

/-- The field of a name. -/
def RecordType.field? (r : RecordType) (name : String) : Option Field :=
  r.fields.find? fun f => f.name == name

/-- **Entries of a record**: every one of them is that of a field, and holds what the field
holds. -/
inductive RecordType.Entered (isRecord : String → Tree → Prop) (r : RecordType) : Entries → Prop
  | nil : r.Entered isRecord []
  | cons {key : String} {v : Tree} {f : Field} {entries : Entries} (hfield : r.field? key = some f)
      (hholds : f.type.Holds isRecord v) (hrest : r.Entered isRecord entries) :
      r.Entered isRecord ((key, v) :: entries)

/-- All fields that a record requires are among some entries. -/
def RecordType.isComplete (r : RecordType) (entries : Entries) : Bool :=
  r.required.all fun key => (entries.map (·.1)).contains key

/-- A value is a record of a name, as a document defines it. -/
def Defines (document : Tree) (name : String) (v : Tree) : Prop :=
  ∃ target, document.follow? ["definitions", name] = some target ∧
    Describes true document target v

section Table

variable {document v : Tree} {isRecord : String → Tree → Prop} {r : RecordType}
  {entries : Entries}

/-- A word that is not there asks for nothing. -/
theorem forall_of_eq_none {x : Option Tree} {P : Tree → Prop} (h : x = none) :
    ∀ a, x = some a → P a :=
  fun _ ha => nomatch h.symm.trans ha

/-- A word asks for what it says. -/
theorem forall_of_eq_some {x : Option Tree} {b : Tree} {P : Tree → Prop} (h : x = some b)
    (hP : P b) : ∀ a, x = some a → P a :=
  fun _ ha => Option.some.inj (h.symm.trans ha) ▸ hP

/-- **A scalar is described by its type**, and by format and minimum if it is a number. -/
theorem describes_leaf {schema : Entries} (hleaf : v.IsLeaf)
    (hwords : ∀ entry ∈ schema, entry.1 ∈ vocabulary) (hrequired : lookup? schema "required" = none)
    (htype : ∀ a, lookup? schema "type" = some a → HasType v a)
    (hformat : ∀ a, lookup? schema "format" = some a → HasFormat v a)
    (hminimum : ∀ a, lookup? schema "minimum" = some a → IsAtLeast v a) :
    Describes true document (.mapping schema) v := by
  have hentries : ∀ entry, entry ∉ v.entries := by
    cases v <;> first | exact hleaf.elim | exact fun _ => List.not_mem_nil
  have hitems : ∀ item, item ∉ v.items := by
    cases v <;> first | exact hleaf.elim | exact fun _ => List.not_mem_nil
  exact .words hwords htype hformat hminimum (forall_of_eq_none hrequired)
    (fun entry he => absurd he (hentries entry)) (fun _ _ entry he => absurd he (hentries entry))
    (fun _ _ entry he => absurd he (hentries entry)) fun _ _ item hi => absurd hi (hitems item)

/-- A word of 64 bits is a whole number, and not below zero. -/
theorem describes_position (w : UInt64) : Describes true document (.mapping [typeEntry "integer",
    ("format", .string "uint"), ("minimum", .number (.double (.zero false)))])
    (.number (wordNumber w)) := by
  have hwords : ∀ entry ∈ [typeEntry "integer", ("format", .string "uint"),
      ("minimum", .number (.double (.zero false)))], entry.1 ∈ vocabulary := by
    decide
  refine describes_leaf trivial hwords rfl (forall_of_eq_some rfl ?_) (forall_of_eq_some rfl ?_)
    (forall_of_eq_some rfl ?_)
  · exact ⟨_, rfl, Int.dvd_mul_left _ _⟩
  · exact ⟨rfl, fun n hn => ⟨w, (Tree.number.inj hn).symm⟩⟩
  · refine ⟨_, rfl, fun n hn => ?_⟩
    obtain rfl := Tree.number.inj hn
    have hzero : (Number.double (.zero false)).quanta = 0 := rfl
    rw [hzero]
    exact Int.mul_nonneg (Int.natCast_nonneg _) (Int.natCast_nonneg _)

/-- A mapping with any keys. -/
theorem describes_freeMapping (h : ∀ entry ∈ entries, entry.2.IsLeaf) :
    Describes true document
      (.mapping [typeEntry "object", ("additionalProperties", .boolean true)])
      (.mapping entries) := by
  refine .words (by decide) (forall_of_eq_some rfl ⟨_, rfl⟩) (forall_of_eq_none rfl)
    (forall_of_eq_none rfl) (forall_of_eq_none rfl) (fun _ _ => forall_of_eq_none rfl)
    (forall_of_eq_some rfl ?_) (fun _ hnone => nomatch hnone) (forall_of_eq_none rfl)
  exact fun entry he _ => .anything fun _ => h entry he

/-- A sequence whose items are described. -/
theorem describes_sequence {ts : List Tree} {schema : Tree}
    (h : ∀ t ∈ ts, Describes true document schema t) :
    Describes true document (.mapping [typeEntry "array", ("items", schema)]) (.sequence ts) := by
  have hwords : ∀ entry ∈ [typeEntry "array", ("items", schema)], entry.1 ∈ vocabulary := by
    rw [List.forall_mem_cons, List.forall_mem_singleton]
    exact ⟨(by decide : "type" ∈ vocabulary), (by decide : "items" ∈ vocabulary)⟩
  have hentries : ∀ entry, entry ∉ (Tree.sequence ts).entries := fun _ => List.not_mem_nil
  exact .words hwords (forall_of_eq_some rfl ⟨_, rfl⟩) (forall_of_eq_none rfl)
    (forall_of_eq_none rfl) (forall_of_eq_none rfl) (fun entry he => absurd he (hentries entry))
    (forall_of_eq_none rfl) (fun _ _ entry he => absurd he (hentries entry))
    (forall_of_eq_some rfl h)

/-- **The words for what a field holds say what it holds**, with or without an explanation. -/
theorem describes_type {type : FieldType} (h : type.Holds (Defines document) v)
    (description : Option String) :
    Describes true document (type.toTree (descriptionEntry description)) v := by
  induction type generalizing v description with
  | string =>
    obtain ⟨s, rfl⟩ := h
    exact describes_explained description rfl (describes_leaf trivial (by decide) rfl
      (forall_of_eq_some rfl ⟨s, rfl⟩) (forall_of_eq_none rfl) (forall_of_eq_none rfl))
  | optionalString =>
    have hstring : Describes true document
        (.mapping [("type", .sequence [.string "string", .string "null"])]) v := by
      obtain rfl | ⟨s, rfl⟩ := h
      · exact describes_leaf trivial (by decide) rfl
          (forall_of_eq_some rfl ⟨"null", List.mem_cons_of_mem _ List.mem_cons_self, rfl⟩)
          (forall_of_eq_none rfl) (forall_of_eq_none rfl)
      · exact describes_leaf trivial (by decide) rfl
          (forall_of_eq_some rfl ⟨"string", List.mem_cons_self, s, rfl⟩)
          (forall_of_eq_none rfl) (forall_of_eq_none rfl)
    exact describes_explained description rfl hstring
  | boolean =>
    obtain ⟨b, rfl⟩ := h
    exact describes_explained description rfl (describes_leaf trivial (by decide) rfl
      (forall_of_eq_some rfl ⟨b, rfl⟩) (forall_of_eq_none rfl) (forall_of_eq_none rfl))
  | position =>
    obtain ⟨w, rfl⟩ := h
    exact describes_explained description rfl (describes_position w)
  | anything => exact .anything fun _ => h
  | freeMapping =>
    obtain ⟨entries, rfl, hentries⟩ := h
    exact describes_explained description rfl (describes_freeMapping hentries)
  | record name =>
    obtain ⟨target, htarget, hdescribes⟩ := h
    exact .reference rfl htarget hdescribes
  | list items ih =>
    obtain ⟨ts, rfl, hitems⟩ := h
    exact describes_explained description rfl
      (describes_sequence fun t ht => ih (hitems t ht) none)

/-! ### Records -/

/-- An entry of a record is that of a field. -/
theorem RecordType.Entered.exists_field (h : r.Entered isRecord entries) :
    ∀ entry ∈ entries, ∃ f, r.field? entry.1 = some f ∧ f.type.Holds isRecord entry.2 := by
  induction h with
  | nil => exact fun _ he => nomatch he
  | cons hfield hholds _ ih => exact List.forall_mem_cons.mpr ⟨⟨_, hfield, hholds⟩, ih⟩

/-- The words of a record, without its explanation. -/
def RecordType.words (r : RecordType) : Entries :=
  [typeEntry "object", ("required", .sequence (r.required.map .string)),
    ("properties", .mapping (r.fields.map fun f =>
      (f.name, f.type.toTree (descriptionEntry f.description))))]

theorem RecordType.entries_eq (r : RecordType) :
    r.entries = descriptionEntry r.description ++ r.words := rfl

/-- A record lists its fields. -/
theorem property?_words (r : RecordType) (key : String) : property? r.words key =
    (r.field? key).map fun f => f.type.toTree (descriptionEntry f.description) := by
  change ((r.fields.map fun f => (f.name, f.type.toTree (descriptionEntry f.description))).find?
    fun entry => entry.1 == key).map (·.2) = _
  rw [List.find?_map, Option.map_map]
  rfl

/-- **The words of a record describe its entries**, provided that all required ones are there. -/
theorem describes_words (h : r.Entered (Defines document) entries)
    (hcomplete : r.isComplete entries = true) :
    Describes true document (.mapping r.words) (.mapping entries) := by
  have hwords : ∀ entry ∈ r.words, entry.1 ∈ vocabulary := by
    rw [RecordType.words, List.forall_mem_cons, List.forall_mem_cons, List.forall_mem_singleton]
    exact ⟨(by decide : "type" ∈ vocabulary), (by decide : "required" ∈ vocabulary),
      (by decide : "properties" ∈ vocabulary)⟩
  have hkeys : HasKeys (.mapping entries) (.sequence (r.required.map .string)) := by
    refine ⟨_, rfl, fun es hes key hkey => ?_⟩
    obtain rfl := Tree.mapping.inj hes
    exact List.contains_iff_mem.mp (List.all_eq_true.mp hcomplete key hkey)
  refine .words hwords (forall_of_eq_some rfl ⟨_, rfl⟩) (forall_of_eq_none rfl)
    (forall_of_eq_none rfl) (forall_of_eq_some rfl hkeys) (fun entry he s hs => ?_)
    (forall_of_eq_none rfl) (fun _ _ entry he => ?_) (forall_of_eq_none rfl)
  · obtain ⟨f, hf, hholds⟩ := h.exists_field entry he
    rw [property?_words, hf, Option.map_some] at hs
    obtain rfl := Option.some.inj hs
    exact describes_type hholds f.description
  · obtain ⟨f, hf, -⟩ := h.exists_field entry he
    rw [property?_words, hf]
    rfl

/-- **A record of the table describes its entries.** -/
theorem describes_record (h : r.Entered (Defines document) entries)
    (hcomplete : r.isComplete entries = true) :
    Describes true document (.mapping r.entries) (.mapping entries) := by
  rw [RecordType.entries_eq]
  exact describes_explained r.description rfl (describes_words h hcomplete)

end Table

end Schema

end Blueprint
