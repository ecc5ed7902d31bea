import Blueprint.Proofs.Load.Acceptance
import Blueprint.Proofs.Load.Complaints

/-!
# Complaints name the object they belong to

A load that breaks off in an object is complained of with that object at the end of the text:
`key n°2 of index <main> of object <User>`. This holds however deep the fault lies and in whichever
pass it is found (`Blueprint.Load.complaints_name_object`).

* In the first pass the object is given by its trimmed name if the entry of the name is among those
  that were read before the fault, and by its position if not
  (`Blueprint.Load.FailsBuilding.endsIn`).
* In the other two passes all objects have been read. The object is given by its name, which is the
  name of no other object, since the first pass has refused repeated names
  (`Blueprint.Load.FailsLater.endsIn`).

That a complaint stays inside the entity that is read has been shown reader by reader in
`Blueprint.Proofs.Load.Complaints`. What is left is to say where a load breaks off: at an object
`i`, counted from zero, when everything before it has been read.
-/

namespace Blueprint

open Load

/-! ### The end of a label -/

/-- The text of a label ends in that of the enclosing entity. -/
theorem Label.exists_text_eq {owner entity : Label} (h : owner <:+ entity) (hne : owner ≠ []) :
    ∃ front, entity.text = front ++ owner.text := by
  obtain ⟨inner, rfl⟩ := h
  by_cases hinner : inner = []
  · subst hinner
    exact ⟨"", rfl⟩
  · refine ⟨Label.text inner ++ " of ", ?_⟩
    rw [Label.text, List.map_append, String.intercalate_append_of_ne_nil (by simpa using hinner)
      (by simpa using hne)]
    rfl

/-- **The text of the entity that a complaint is about ends like this.** -/
def LoadError.EndsIn (e : LoadError) (ending : String) : Prop :=
  ∃ entity front, e.entity? = some entity ∧ entity.text = front ++ ending

theorem LoadError.IsWithin.endsIn {e : LoadError} {part : LabelPart} (h : e.IsWithin [part]) :
    e.EndsIn part.text := by
  obtain ⟨entity, hentity, hsuffix⟩ := h
  obtain ⟨front, hfront⟩ := Label.exists_text_eq hsuffix (List.cons_ne_nil part [])
  have hpart : Label.text [part] = part.text := String.intercalate_singleton
  exact ⟨entity, front, hentity, hpart ▸ hfront⟩

namespace Load

open Grammar

/-! ### Loops that are broken off -/

section Loops

variable {α β : Type} {e : LoadError}

/-- **A list read item by item breaks off at one of its items**, when all items before it have been
read. -/
theorem mapM_zipIdx_eq_error_iff {f : β × Nat → Except LoadError α} {xs : List β} {n : Nat} :
    (xs.zipIdx n).mapM f = .error e ↔ ∃ i x done, xs[i]? = some x ∧
      ((xs.take i).zipIdx n).mapM f = .ok done ∧ f (x, n + i) = .error e := by
  induction xs generalizing n with
  | nil => exact iff_of_false (fun h => nomatch h) fun ⟨_, _, _, hx, _⟩ => nomatch hx
  | cons x xs ih =>
    rw [List.zipIdx_cons, List.mapM_cons, bind_eq_error_iff]
    constructor
    · rintro (hx | ⟨a, ha, hrest⟩)
      · exact ⟨0, x, [], rfl, rfl, hx⟩
      · rcases bind_eq_error_iff.mp hrest with hxs | ⟨_, -, hpure⟩
        · obtain ⟨i, y, done, hy, hdone, he⟩ := ih.mp hxs
          refine ⟨i + 1, y, a :: done, hy, ?_, by rwa [show n + (i + 1) = n + 1 + i by omega]⟩
          rw [List.take_succ_cons, List.zipIdx_cons, List.mapM_cons, ha, hdone]
          rfl
        · exact nomatch hpure
    · rintro ⟨i, y, done, hy, hdone, he⟩
      rcases i with _ | i
      · obtain rfl : x = y := Option.some.inj hy
        exact .inl he
      · rw [List.take_succ_cons, List.zipIdx_cons, List.mapM_cons] at hdone
        obtain ⟨a, ha, hdone⟩ := bind_eq_ok_iff.mp hdone
        obtain ⟨earlier, hearlier, -⟩ := bind_eq_ok_iff.mp hdone
        have hxs : (xs.zipIdx (n + 1)).mapM f = .error e :=
          ih.mpr ⟨i, y, earlier, hy, hearlier, by rwa [show n + 1 + i = n + (i + 1) by omega]⟩
        exact .inr ⟨a, ha, bind_eq_error_iff.mpr (.inl hxs)⟩

/-- An item that is refused in the light of those before it ends the reading of its list. -/
theorem eachAfter_eq_error {read : List α → Tree → Nat → Except LoadError α} {ts : List Tree}
    {i : Nat} {t : Tree} {done : List α} (ht : ts[i]? = some t)
    (hdone : eachAfter read (ts.take i) = .ok done) (he : read done t (i + 1) = .error e) :
    eachAfter read ts = .error e := by
  obtain ⟨hi, rfl⟩ := List.getElem?_eq_some_iff.mp ht
  have hsplit : ts.zipIdx 1 =
      (ts.take i).zipIdx 1 ++ (ts[i], i + 1) :: (ts.drop (i + 1)).zipIdx (i + 2) := by
    conv_lhs => rw [← List.take_append_drop i ts, List.drop_eq_getElem_cons hi, List.zipIdx_append]
    rw [List.length_take, Nat.min_eq_left hi.le, List.zipIdx_cons, Nat.add_comm 1 i]
  rw [eachAfter, hsplit, List.foldlM_append]
  refine bind_eq_error_iff.mpr (.inr ⟨done, hdone, ?_⟩)
  rw [List.foldlM_cons]
  exact bind_eq_error_iff.mpr (.inl (bind_eq_error_iff.mpr (.inl he)))

end Loops

/-- An entry that is refused ends the reading of its fragment. -/
theorem enterAll_eq_error {F : Form} {before after : Entries} {entry : String × Tree} {d : F.Draft}
    {e : LoadError} (hbefore : F.enterAll before = .ok d) (he : F.enter d entry = .error e) :
    F.enterAll (before ++ entry :: after) = .error e := by
  rw [Form.enterAll, List.foldlM_append]
  refine bind_eq_error_iff.mpr (.inr ⟨d, hbefore, ?_⟩)
  rw [List.foldlM_cons]
  exact bind_eq_error_iff.mpr (.inl he)

/-! ### Where a load breaks off -/

/-- **The first pass fails while an object is built**: the object `i` is refused, with these types
known, when the entries before `objects` and the objects before this one have been read. -/
inductive FailsBuilding (d : Tree) (types : List DataType) (i : Nat) (t : Tree) (e : LoadError) :
    Prop
  | intro {before after : Entries} {draft : projectForm.Draft} {ts : List Tree}
    {done : List ObjectOutline}
    (definition : d = .mapping (before ++ ("objects", .sequence ts) :: after))
    (entered : projectForm.enterAll before = .ok draft)
    (free : draft ProjectSlot.objects = none)
    (types_eq : types = knownTypes (draft ProjectSlot.dataTypes))
    (earlier : eachAfter (nextObject types (projectLabel (draft ProjectSlot.name))) (ts.take i) =
      .ok done)
    (object : ts[i]? = some t)
    (refused : objectOutline types t (i + 1) = .error e)

/-- **The second pass fails at the links of an object**, when the links of the objects before it
have been read. -/
inductive FailsLinking (d : Tree) (i : Nat) (e : LoadError) : Prop
  | intro {o : Outline} {done : List (List Link)} {object : ObjectOutline}
    (outlined : outline d = .ok o)
    (earlier : (o.objects.take i).zipIdx.mapM
      (fun x => objectLinks (o.objects.map (·.name)) x.2 x.1) = .ok done)
    (object_eq : o.objects[i]? = some object)
    (refused : objectLinks (o.objects.map (·.name)) i object = .error e)

/-- **The third pass fails at the indexes of an object**, when those of the objects before it have
been read. -/
inductive FailsIndexing (options : LoadOptions) (d : Tree) (i : Nat) (e : LoadError) : Prop
  | intro {o : Outline} {rows : List (List Link)} {done : List (List Index)}
    {object : ObjectOutline} {row : List Link}
    (outlined : outline d = .ok o)
    (linked : links o = .ok rows)
    (earlier : ((o.objects.zip rows).take i).zipIdx.mapM
      (fun x => objectIndexes options x.1.1 x.1.2 x.2) = .ok done)
    (object_eq : (o.objects.zip rows)[i]? = some (object, row))
    (refused : objectIndexes options object row i = .error e)

/-- One of the later passes fails at an object. -/
def FailsLater (options : LoadOptions) (d : Tree) (i : Nat) (e : LoadError) : Prop :=
  FailsLinking d i e ∨ FailsIndexing options d i e

section Places

variable {options : LoadOptions} {d t : Tree} {types : List DataType} {i : Nat} {e : LoadError}
  {o : Outline}

/-- A load whose first pass fails in an object fails for that reason. -/
theorem FailsBuilding.load_eq (h : FailsBuilding d types i t e) : load options d = .error e := by
  obtain ⟨rfl, hentered, hfree, rfl, hearlier, hobject, hrefused⟩ := h
  rename_i before after draft ts done
  let project := projectLabel (draft ProjectSlot.name)
  let types := knownTypes (draft ProjectSlot.dataTypes)
  have hnext : nextObject types project done t (i + 1) = .error e :=
    bind_eq_error_iff.mpr (.inl hrefused)
  have hobjects : objectOutlines types (.sequence ts) project = .error e :=
    eachAfter_eq_error hobject hearlier hnext
  have henter : projectForm.enter draft ("objects", .sequence ts) = .error e := by
    change (if (draft ProjectSlot.objects).isSome then _ else
      (objectOutlines types (.sequence ts) project).map _) = _
    rw [hfree, hobjects]
    rfl
  have hdraft : projectForm.enterAll (before ++ ("objects", .sequence ts) :: after) = .error e :=
    enterAll_eq_error hentered henter
  have houtline : outline (.mapping (before ++ ("objects", .sequence ts) :: after)) = .error e :=
    bind_eq_error_iff.mpr (.inl hdraft)
  exact bind_eq_error_iff.mpr (.inl houtline)

theorem FailsLinking.load_eq (h : FailsLinking d i e) : load options d = .error e := by
  obtain ⟨houtlined, hearlier, hobject, hrefused⟩ := h
  rename_i o done object
  have hlinks : links o = .error e :=
    mapM_zipIdx_eq_error_iff.mpr ⟨i, object, done, hobject, hearlier, by rwa [Nat.zero_add]⟩
  exact bind_eq_error_iff.mpr (.inr ⟨o, houtlined, bind_eq_error_iff.mpr (.inl hlinks)⟩)

theorem FailsIndexing.load_eq (h : FailsIndexing options d i e) : load options d = .error e := by
  obtain ⟨houtlined, hlinked, hearlier, hobject, hrefused⟩ := h
  rename_i o rows done object row
  have hindexes : indexes options o rows = .error e :=
    mapM_zipIdx_eq_error_iff.mpr ⟨i, (object, row), done, hobject, hearlier, by rwa [Nat.zero_add]⟩
  refine bind_eq_error_iff.mpr (.inr ⟨o, houtlined, ?_⟩)
  exact bind_eq_error_iff.mpr (.inr ⟨rows, hlinked, bind_eq_error_iff.mpr (.inl hindexes)⟩)

/-- **What fails after the first pass fails at an object.** -/
theorem exists_failsLater (ho : outline d = .ok o) (h : load options d = .error e) :
    ∃ i, FailsLater options d i e := by
  rw [load, ho] at h
  change (links o >>= _) = _ at h
  rcases bind_eq_error_iff.mp h with hlinks | ⟨rows, hrows, hindexes⟩
  · obtain ⟨i, object, done, hobject, hdone, he⟩ := mapM_zipIdx_eq_error_iff.mp hlinks
    rw [Nat.zero_add] at he
    exact ⟨i, .inl ⟨ho, hdone, hobject, he⟩⟩
  · rcases bind_eq_error_iff.mp hindexes with hindexes | ⟨_, -, hassemble⟩
    · obtain ⟨i, ⟨object, row⟩, done, hobject, hdone, he⟩ := mapM_zipIdx_eq_error_iff.mp hindexes
      rw [Nat.zero_add] at he
      exact ⟨i, .inr ⟨ho, hrows, hdone, hobject, he⟩⟩
    · exact nomatch hassemble

/-! ### The first pass -/

/-- What an object is called after some of its entries. -/
theorem name_of_enterAll {read : Entries} {draft : (objectForm types (i + 1)).Draft}
    (h : (objectForm types (i + 1)).enterAll read = .ok draft) :
    draft ObjectSlot.name = ((Tree.mapping read).get? "name").map Tree.trimmed := by
  let law := objectLaw types (i + 1)
  obtain ⟨-, hdraft⟩ := (law.enterAll_yields read draft).mp h
  rw [← hdraft]
  rfl

/-- The entries that have been read are the first ones of the fragment. -/
theorem entered_isPrefix (F : Form) (entries : Entries) :
    F.entered (.mapping entries) <+: entries := by
  have hfrom : ∀ (entries : Entries) (d : F.Draft), F.enteredFrom d entries <+: entries := by
    intro entries
    induction entries with
    | nil => exact fun _ => List.prefix_rfl
    | cons entry rest ih =>
      intro d
      rw [Form.enteredFrom]
      cases F.enter d entry with
      | ok d' => exact List.cons_prefix_cons.mpr ⟨rfl, ih d'⟩
      | error _ => exact List.nil_prefix
  exact hfrom entries F.blank

/-- A name that has been read is the name that the object declares. -/
theorem get?_entered {F : Form} {v : Tree} (h : (Tree.mapping (F.entered t)).get? "name" = some v) :
    t.get? "name" = some v := by
  cases t with
  | mapping entries =>
    obtain ⟨rest, hrest⟩ := entered_isPrefix F entries
    obtain ⟨entry, hentry, rfl⟩ := Option.map_eq_some_iff.mp h
    have hfind : entries.find? (fun entry => entry.1 == "name") = some entry := by
      rw [← hrest, List.find?_append, hentry]
      rfl
    exact congrArg (Option.map Prod.snd) hfind
  | _ => exact nomatch h

/-- **A fault in an object is attributed to it**: by its name if that has been read, and otherwise
by its position. -/
theorem FailsBuilding.endsIn (h : FailsBuilding d types i t e) :
    e.EndsIn (if "name" ∈ ((objectForm types (i + 1)).entered t).map (·.1) then
      "object <" ++ t.declaredName ++ ">" else "object n°" ++ naturalText (i + 1)) := by
  obtain ⟨-, -, -, -, -, -, hrefused⟩ := h
  obtain ⟨draft, hdraft, hwithin⟩ := objectOutline_eq_error hrefused
  have hname := name_of_enterAll hdraft
  rw [hname] at hwithin
  have hend := hwithin.endsIn
  cases hget : (Tree.mapping ((objectForm types (i + 1)).entered t)).get? "name" with
  | none =>
    rw [if_neg (Tree.lookup?_eq_none_iff.mp hget)]
    rwa [hget] at hend
  | some v =>
    rw [if_pos (Tree.mem_keys_of_lookup? hget)]
    have hdeclared : t.declaredName = v.trimmed := by
      rw [Tree.declaredName, Tree.textAt, Tree.field, get?_entered hget]
      rfl
    rw [hdeclared]
    rwa [hget] at hend

/-! ### The later passes -/

/-- The objects of an outline have the names that the definition declares. -/
theorem names_of_outline (ho : outline d = .ok o) :
    o.objects.map (·.name) = d.namesAt "objects" ∧ (d.namesAt "objects").Nodup := by
  obtain ⟨hd, rfl⟩ := (outline_yields d o).mp ho
  refine ⟨?_, hd.objectNames⟩
  rw [outlineOf, List.map_map]
  rfl

/-- The name of an object of an outline is the name of that object alone. -/
theorem existsUnique_name (ho : outline d = .ok o) {object : ObjectOutline}
    (hobject : o.objects[i]? = some object) :
    (d.namesAt "objects")[i]? = some object.name ∧
      ∃! j : Nat, (d.namesAt "objects")[j]? = some object.name := by
  obtain ⟨hnames, hdistinct⟩ := names_of_outline ho
  have hi : (d.namesAt "objects")[i]? = some object.name := by
    rw [← hnames, List.getElem?_map, hobject]
    rfl
  refine ⟨hi, i, hi, fun j hj => ?_⟩
  obtain ⟨hlt, -⟩ := List.getElem?_eq_some_iff.mp hj
  exact (List.getElem?_inj hlt hdistinct).mp (hj.trans hi.symm)

/-- **A fault found later is attributed to its object by name**, and the name stands for that object
alone. -/
theorem FailsLater.endsIn (h : FailsLater options d i e) :
    ∃ name, e.EndsIn ("object <" ++ name ++ ">") ∧ (d.namesAt "objects")[i]? = some name ∧
      ∃! j : Nat, (d.namesAt "objects")[j]? = some name := by
  rcases h with ⟨houtlined, -, hobject, hrefused⟩ | ⟨houtlined, -, -, hobject, hrefused⟩
  · exact ⟨_, (blames_objectLinks _ _ _ e hrefused).endsIn, existsUnique_name houtlined hobject⟩
  · obtain ⟨hobject, -⟩ := List.getElem?_zip_eq_some.mp hobject
    exact ⟨_, (blames_objectIndexes _ _ _ _ e hrefused).endsIn,
      existsUnique_name houtlined hobject⟩

end Places

/-- **Complaints name the object they belong to.** A load that fails while an object is built is
complained of at the end with that object, by its trimmed name or, before the name has been read, by
its position. A load that fails at the links or indexes of an object is always complained of with
its name, which only that object of the project has; and no load fails otherwise once the first pass
is over. -/
theorem complaints_name_object (options : LoadOptions) (d : Tree) (e : LoadError) :
    (∀ types i t, FailsBuilding d types i t e → load options d = .error e ∧
      e.EndsIn (if "name" ∈ ((objectForm types (i + 1)).entered t).map (·.1) then
        "object <" ++ t.declaredName ++ ">" else "object n°" ++ naturalText (i + 1))) ∧
    (∀ i, FailsLater options d i e → load options d = .error e ∧
      ∃ name, e.EndsIn ("object <" ++ name ++ ">") ∧ (d.namesAt "objects")[i]? = some name ∧
        ∃! j : Nat, (d.namesAt "objects")[j]? = some name) ∧
    ∀ o, outline d = .ok o → load options d = .error e → ∃ i, FailsLater options d i e := by
  refine ⟨fun types i t h => ⟨h.load_eq, h.endsIn⟩, fun i h => ⟨?_, h.endsIn⟩,
    fun o ho h => exists_failsLater ho h⟩
  rcases h with h | h
  · exact h.load_eq
  · exact h.load_eq

/-- Two objects, the second of which can be filled in. -/
def blogWith (post : Tree) : Tree := .mapping [
  ("name", .string "blog"),
  ("objects", .sequence [
    .mapping [("name", .string "User"),
      ("properties", .sequence [.mapping [("name", .string "id"), ("type", .string "id")]])],
    post]),
  ("files", .sequence [.mapping [("scope", .string "project"), ("input", .string "a.hbs"),
    ("output", .string "a.txt")]])]

/-- An attribute of a property has a name with a blank inside, and the object has its name last. -/
def namedTooLate : Tree := .mapping [
  ("properties", .sequence [.mapping [("name", .string "id"), ("type", .string "id"),
    ("attributes", .mapping [("a b", .boolean true)])]]),
  ("name", .string "Post")]

/-- The second key of an index names no property. -/
def keyOfNothing : Tree := .mapping [
  ("indexes", .sequence [.mapping [("name", .string "main"), ("keys", .sequence [
    .mapping [("property", .string "id")], .mapping [("property", .string "at")]])]]),
  ("name", .string " Post "),
  ("properties", .sequence [.mapping [("name", .string "id"), ("type", .string "id")]])]

theorem complaints_name_object_blog :
    (∃ e, FailsBuilding (blogWith namedTooLate) builtinDataTypes 1 namedTooLate e ∧
      e.message = "invalid name <a b> of attribute <a b> of property <id> of object n°2 " ++
        "(spaces forbidden)" ∧ e.EndsIn "object n°2") ∧
    ∃ e, FailsLater .default (blogWith keyOfNothing) 1 e ∧
      e.message = "property reference <at> in key n°2 of index <main> of object <Post> " ++
        "does not exist" ∧
      (∃ name, e.EndsIn ("object <" ++ name ++ ">") ∧
        ((blogWith keyOfNothing).namesAt "objects")[1]? = some name) ∧
      (∃ o, outline (blogWith keyOfNothing) = .ok o) ∧
      load .default (blogWith keyOfNothing) = .error e ∧
      ∃ i, FailsLater .default (blogWith keyOfNothing) i e := by
  constructor
  · have hfails : FailsBuilding (blogWith namedTooLate) builtinDataTypes 1 namedTooLate _ :=
      @FailsBuilding.intro _ _ _ _ _ [("name", .string "blog")] _ _ _ _ rfl rfl rfl rfl rfl rfl rfl
    exact ⟨_, hfails, rfl, ((complaints_name_object .default _ _).1 _ _ _ hfails).2⟩
  · have hfails : FailsIndexing .default (blogWith keyOfNothing) 1 _ := .intro rfl rfl rfl rfl rfl
    obtain ⟨-, hlater, hall⟩ := complaints_name_object .default (blogWith keyOfNothing) _
    obtain ⟨hload, name, hend, hname, -⟩ := hlater 1 (.inr hfails)
    exact ⟨_, .inr hfails, rfl, ⟨name, hend, hname⟩, ⟨_, rfl⟩, hload, hall _ rfl hload⟩

end Load

end Blueprint
