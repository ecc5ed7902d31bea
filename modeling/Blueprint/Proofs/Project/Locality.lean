import Blueprint.Proofs.Project.Integrity

/-!
# An object is made of its own fragment

The passes go over all objects in one list, and the second one writes into objects other than the
one whose links it reads. Still, what an object is depends on its own fragment and on the declared
types: `Blueprint.Load.load_local` compares two definitions that agree at one position and says
that the objects there are the same.

| of the object | in the two projects |
|---|---|
| name, properties, attributes, indexes | equal |
| links | equal but for the positions of their targets, which bear the same names |
| reverse links | depend on the links of all objects, so nothing is said of them |

Nothing is asked of the rest. The other objects may be others altogether, and fewer or more, as
long as both definitions load. Where `datatypes` stands does not matter either: a definition that
uses a type before its declaration does not load at all.
-/

namespace Blueprint

open Grammar

/-- **Two links that differ in the position of their target alone.** The targets bear the same
name, each in its project. -/
structure Link.SameByName (p p' : Project) (l l' : Link) : Prop where
  name : l.name = l'.name
  source : l.source = l'.source
  mandatory : l.mandatory = l'.mandatory
  target : ∃ name, p.objectName l.target = some name ∧ p'.objectName l'.target = some name

/-- **Two objects that are the same in all that is their own**: everything but where other objects
stand, and which links lead to them. -/
structure Object.SameOwn (p p' : Project) (o o' : Object) : Prop where
  name : o.name = o'.name
  properties : o.properties = o'.properties
  attributes : o.attributes = o'.attributes
  indexes : o.indexes = o'.indexes
  links : List.Forall₂ (Link.SameByName p p') o.links o'.links

namespace Load

variable {options options' : LoadOptions} {d d' t : Tree} {p p' : Project} {k : Nat}

/-- The same declarations are the same types. -/
theorem typeNames_congr (h : d'.get? "datatypes" = d.get? "datatypes") :
    Reading.typeNames d' = Reading.typeNames d := by
  rw [Reading.typeNames, Reading.typeNames, Tree.namesAt_congr h]

/-- **One link of two definitions**: each project has an object of the name that it gives. -/
theorem link_sameByName (source : Nat) (h : IsLink (d.namesAt "objects") t)
    (h' : IsLink (d'.namesAt "objects") t) :
    Link.SameByName (Reading.project d) (Reading.project d')
      (Reading.link (d.namesAt "objects") source t)
      (Reading.link (d'.namesAt "objects") source t) where
  name := rfl
  source := rfl
  mandatory := rfl
  target := ⟨t.textAt "target", link_resolves source h, link_resolves source h'⟩

/-- **One fragment of two definitions** with the same types makes the same object. -/
theorem object_sameOwn (htypes : Reading.typeNames d' = Reading.typeNames d)
    (h : HasLinks (d.namesAt "objects") t) (h' : HasLinks (d'.namesAt "objects") t) :
    Object.SameOwn (Reading.project d) (Reading.project d') (Reading.object d k t)
      (Reading.object d' k t) where
  name := rfl
  properties := congrArg (Reading.properties · t) htypes.symm
  attributes := rfl
  indexes := rfl
  links := by
    rw [Reading.object, Reading.object, Reading.links, Reading.links, List.forall₂_map_left_iff,
      List.forall₂_map_right_iff, List.forall₂_same]
    exact fun u hu => link_sameByName k (h.links.forall_mem_itemsAt u hu)
      (h'.links.forall_mem_itemsAt u hu)

/-- **An object depends on its own fragment.** Two definitions that load, declare the same types
and have the same fragment at one position have the same object there, its reverse links and the
positions of its targets apart; and no key of it leads to a property or link of another object. -/
theorem load_local (h : load options d = .ok p) (h' : load options' d' = .ok p')
    (htypes : d'.get? "datatypes" = d.get? "datatypes")
    (ht : (d.itemsAt "objects")[k]? = some t) (ht' : (d'.itemsAt "objects")[k]? = some t) :
    ∃ o o', p.objects[k]? = some o ∧ p'.objects[k]? = some o' ∧ Object.SameOwn p p' o o' ∧
      ∀ x ∈ o.indexes, ∀ key ∈ x.keys, key.reference.BelongsTo k o := by
  obtain ⟨hd, rfl⟩ := (load_yields options d p).mp h
  obtain ⟨hd', rfl⟩ := (load_yields options' d' p').mp h'
  have hobject := hd.objects.forall_mem_itemsAt t (List.mem_of_getElem? ht)
  have hobject' := hd'.objects.forall_mem_itemsAt t (List.mem_of_getElem? ht')
  have ho : (Reading.project d).objects[k]? = some (Reading.object d k t) := by
    rw [getElem?_objects_project, ht, Option.map_some]
  have ho' : (Reading.project d').objects[k]? = some (Reading.object d' k t) := by
    rw [getElem?_objects_project, ht', Option.map_some]
  exact ⟨_, _, ho, ho', object_sameOwn (typeNames_congr htypes) hobject.toHasLinks
    hobject'.toHasLinks, (intact_object hd ht).references⟩

/-- A team whose members stand first, and what else there is. -/
def team (others : List Tree) : Tree := .mapping [
  ("name", .string "team"),
  ("objects", .sequence (.mapping [("name", .string "Member"),
    ("links", .sequence [.mapping [("name", .string "desk"), ("target", .string "Desk")]]),
    ("properties", .sequence [.mapping [("name", .string "id"), ("type", .string "id")]]),
    ("indexes", .sequence [.mapping [("name", .string "main"), ("keys", .sequence [
      .mapping [("link", .string "desk")], .mapping [("property", .string "id")]])]])] :: others)),
  ("files", .sequence [.mapping [("scope", .string "object"), ("input", .string "model.hbs"),
    ("output", .string "model.txt")]])]

/-- A room, with no links. -/
def room : Tree := .mapping [("name", .string "Room"), ("properties", .sequence [
  .mapping [("name", .string "id"), ("type", .string "id")]])]

/-- A desk with a number of this type, and with these links. -/
def desk (type : String) (links : List Tree) : Tree := .mapping [("name", .string "Desk"),
  ("links", .sequence links), ("properties", .sequence [
    .mapping [("name", .string "id"), ("type", .string type)]])]

/-- A desk after a room, or a desk of another kind, linked to its member, before one: the members
are the same, with their desks at other positions. -/
theorem load_local_team :
    ∃ p p' o o', load .default (team [room, desk "id" []]) = .ok p ∧
      load .default (team [desk "uuid" [.mapping [("name", .string "member"),
        ("target", .string "Member")]], room]) = .ok p' ∧
      p.objects[0]? = some o ∧ p'.objects[0]? = some o' ∧ Object.SameOwn p p' o o' ∧
      o.links.map (·.target) = [2] ∧ o'.links.map (·.target) = [1] ∧
      o.reverseLinks ≠ o'.reverseLinks := by
  let d := team [room, desk "id" []]
  let d' := team [desk "uuid" [.mapping [("name", .string "member"),
    ("target", .string "Member")]], room]
  have hd : load .default d = .ok (Reading.project d) := by decide +kernel
  have hd' : load .default d' = .ok (Reading.project d') := by decide +kernel
  obtain ⟨o, o', ho, ho', hsame, -⟩ := load_local (k := 0) hd hd' rfl rfl rfl
  obtain rfl : Reading.object d 0 _ = o :=
    Option.some.inj ((getElem?_objects_project d 0).symm.trans ho)
  obtain rfl : Reading.object d' 0 _ = o' :=
    Option.some.inj ((getElem?_objects_project d' 0).symm.trans ho')
  exact ⟨_, _, _, _, hd, hd', ho, ho', hsame, by decide +kernel, by decide +kernel,
    by decide +kernel⟩

end Load

end Blueprint
