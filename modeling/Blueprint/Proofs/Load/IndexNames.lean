import Blueprint.Proofs.Load.Passes

/-!
# Index names that have to differ

Whether two indexes of one object may have the same name is an option. It is looked at in the third
pass alone, each time an index has been read, and it does nothing but refuse. So a definition loads
under the strict option when it loads under the lenient one and the project has no such names
(`Blueprint.Load.unique_names_only_filter`). A definition that the lenient option refuses is refused
by the strict one for the same fault, or for a repeated name that the pass comes to before it.

To say what comes before what, the third pass is laid out as a list: `Blueprint.Load.indexReadings`
has what is read of every index, or why it is refused, in the order in which the pass comes to it,
and no reading depends on another. The lenient pass ends at the first refusal of that list. The
strict pass ends there too, unless a name is repeated before.

| pass | ends |
|---|---|
| lenient | `Blueprint.Load.refused_of_lenient` |
| strict, over one object | `Blueprint.Load.strict_objectIndexes` |
| strict, over all objects | `Blueprint.Load.strict_indexes` |
-/

namespace Blueprint

namespace Load

open Grammar

/-! ### Lists of readings -/

section Readings

variable {α β : Type} {rs more : List (Except LoadError α)} {e : LoadError}

/-- **The first refusal among some readings.** -/
def FirstRefusal (rs : List (Except LoadError α)) (e : LoadError) : Prop :=
  ∃ (done : List α) (rest : _), rs = done.map .ok ++ .error e :: rest

theorem FirstRefusal.append (h : FirstRefusal rs e) (more : List (Except LoadError α)) :
    FirstRefusal (rs ++ more) e := by
  obtain ⟨done, rest, rfl⟩ := h
  exact ⟨done, rest ++ more, by rw [List.append_assoc, List.cons_append]⟩

theorem FirstRefusal.after (h : FirstRefusal rs e) (done : List α) :
    FirstRefusal (done.map .ok ++ rs) e := by
  obtain ⟨more, rest, rfl⟩ := h
  exact ⟨done ++ more, rest, by rw [List.map_append, List.append_assoc]⟩

/-- A refusal that is the first one comes after whatever has succeeded. -/
theorem FirstRefusal.of_after {done : List α} (h : FirstRefusal (done.map .ok ++ rs) e) :
    FirstRefusal rs e := by
  induction done with
  | nil => exact h
  | cons a done ih =>
    obtain ⟨before, rest, hsplit⟩ := h
    cases before with
    | nil => exact nomatch List.head_eq_of_cons_eq hsplit
    | cons b before => exact ih ⟨before, rest, List.tail_eq_of_cons_eq hsplit⟩

/-- All readings succeed. -/
theorem mapM_id_eq_ok {done : List α} (h : rs.mapM id = .ok done) : rs = done.map .ok := by
  induction rs generalizing done with
  | nil =>
    obtain rfl : [] = done := Except.ok.inj h
    rfl
  | cons r rs ih =>
    rw [List.mapM_cons] at h
    obtain ⟨a, ha, h⟩ := bind_eq_ok_iff.mp h
    obtain ⟨rest, hrest, h⟩ := bind_eq_ok_iff.mp h
    obtain rfl : a :: rest = done := Except.ok.inj h
    rw [ih hrest, List.map_cons]
    exact congrArg (· :: _) ha

/-- One of the readings is refused. -/
theorem mapM_id_eq_error (h : rs.mapM id = .error e) : FirstRefusal rs e := by
  induction rs with
  | nil => exact nomatch h
  | cons r rs ih =>
    rw [List.mapM_cons] at h
    rcases bind_eq_error_iff.mp h with hr | ⟨a, ha, hmore⟩
    · exact ⟨[], rs, congrArg (· :: rs) hr⟩
    · obtain rfl : r = .ok a := ha
      rcases bind_eq_error_iff.mp hmore with hrs | ⟨_, -, hpure⟩
      · exact (ih hrs).after [a]
      · exact nomatch hpure

/-- **Readings that are made in groups** come in the order of the groups. -/
theorem firstRefusal_flatMap {f : β → List (Except LoadError α)} {xs : List β}
    (h : (xs.mapM fun x => (f x).mapM id) = .error e) : FirstRefusal (xs.flatMap f) e := by
  induction xs with
  | nil => exact nomatch h
  | cons x xs ih =>
    rw [List.mapM_cons] at h
    rw [List.flatMap_cons]
    rcases bind_eq_error_iff.mp h with hx | ⟨done, hdone, hmore⟩
    · exact (mapM_id_eq_error hx).append _
    · rw [mapM_id_eq_ok hdone]
      rcases bind_eq_error_iff.mp hmore with hxs | ⟨_, -, hpure⟩
      · exact (ih hxs).after done
      · exact nomatch hpure

end Readings

/-! ### The third pass as a list -/

/-- What the keys of the indexes of an object can refer to. -/
def keyScope (object : ObjectOutline) (links : List Link) (position : Nat) : KeyScope :=
  ⟨position, object.properties.map (·.name), links.map (·.name)⟩

/-- What is read of some fragments, each as an index. -/
def fragmentReadings (scope : KeyScope) (owner : Label) (ts : List Tree) :
    List (Except LoadError Index) :=
  (ts.zipIdx 1).map fun x => index scope owner x.1 x.2

/-- **What is read of the indexes of one object**, or why they are refused. -/
def objectReadings (object : ObjectOutline) (links : List Link) (position : Nat) :
    List (Except LoadError Index) :=
  match object.indexes with
  | none => []
  | some raw =>
    match items raw (ownerLabel object.name) "indexes" with
    | .error e => [.error e]
    | .ok ts => fragmentReadings (keyScope object links position) (ownerLabel object.name) ts

/-- **What the third pass reads**, in order. -/
def indexReadings (outline : Outline) (rows : List (List Link)) : List (Except LoadError Index) :=
  (outline.objects.zip rows).zipIdx.flatMap fun x => objectReadings x.1.1 x.1.2 x.2

/-- **Readings that come to a repeated name**: the index `x` after indexes that all could be read,
one of them of the same object and the same name. -/
def ComesToRepeated (rs : List (Except LoadError Index)) (x : Index)
    (rest : List (Except LoadError Index)) : Prop :=
  ∃ done : List Index, rs = done.map .ok ++ .ok x :: rest ∧ ∃ y ∈ done, y.object = x.object ∧ y.name = x.name

section Repeated

variable {rs rest : List (Except LoadError Index)} {x : Index}

theorem ComesToRepeated.append (h : ComesToRepeated rs x rest)
    (more : List (Except LoadError Index)) : ComesToRepeated (rs ++ more) x (rest ++ more) := by
  obtain ⟨done, rfl, hx⟩ := h
  exact ⟨done, by rw [List.append_assoc, List.cons_append], hx⟩

theorem ComesToRepeated.after (h : ComesToRepeated rs x rest) (done : List Index) :
    ComesToRepeated (done.map .ok ++ rs) x rest := by
  obtain ⟨more, rfl, y, hy, hsame⟩ := h
  exact ⟨done ++ more, by rw [List.map_append, List.append_assoc], y,
    List.mem_append_right _ hy, hsame⟩

/-- A first refusal comes after a repeated name. -/
theorem ComesToRepeated.firstRefusal (h : ComesToRepeated rs x rest) {e : LoadError}
    (he : FirstRefusal rs e) : FirstRefusal rest e := by
  obtain ⟨done, rfl, -⟩ := h
  have hnext : FirstRefusal ([x].map .ok ++ rest) e := he.of_after
  exact hnext.of_after

end Repeated

/-! ### One object -/

section Object

variable (scope : KeyScope) (owner : Label)

/-- An index belongs to the object that it is read for. -/
theorem object_of_index {t : Tree} {position : Nat} {x : Index}
    (h : index scope owner t position = .ok x) : x.object = scope.object := by
  obtain ⟨-, rfl⟩ := (index_yields scope owner t position x).mp h
  rfl

theorem fragmentReadings_concat (ts : List Tree) (t : Tree) :
    fragmentReadings scope owner (ts ++ [t]) =
      fragmentReadings scope owner ts ++ [index scope owner t (ts.length + 1)] := by
  rw [fragmentReadings, List.zipIdx_append, List.map_append, Nat.add_comm]
  rfl

/-- The readings of some fragments and of one more. -/
theorem mapM_id_concat {α : Type} (rs : List (Except LoadError α)) (r : Except LoadError α) :
    (rs ++ [r]).mapM id = (rs.mapM id >>= fun done => do return done ++ [← r]) := by
  rw [List.mapM_append]
  simp

/-- **The lenient option refuses nothing.** -/
theorem lenient_eachAfter (ts : List Tree) :
    eachAfter (nextIndex ⟨false⟩ scope owner) ts = (fragmentReadings scope owner ts).mapM id := by
  induction ts using List.reverseRecOn with
  | nil => rfl
  | append_singleton ts t ih =>
    rw [eachAfter_concat, fragmentReadings_concat, mapM_id_concat, ih]
    refine congrArg _ (funext fun done => ?_)
    have hnext : nextIndex ⟨false⟩ scope owner done t (ts.length + 1) =
        index scope owner t (ts.length + 1) := by
      rw [nextIndex]
      cases index scope owner t (ts.length + 1) <;> rfl
    rw [hnext]

/-- **The strict option refuses the first repeated name** among the indexes of an object, and
nothing else. -/
theorem strict_eachAfter (ts : List Tree) :
    eachAfter (nextIndex ⟨true⟩ scope owner) ts = (fragmentReadings scope owner ts).mapM id ∨
      ∃ x rest, x.object = scope.object ∧
        ComesToRepeated (fragmentReadings scope owner ts) x rest ∧
        eachAfter (nextIndex ⟨true⟩ scope owner) ts =
          .error (.duplicateDefinition owner (namedField .index x.name)) := by
  induction ts using List.reverseRecOn with
  | nil => exact .inl rfl
  | append_singleton ts t ih =>
    rw [eachAfter_concat, fragmentReadings_concat, mapM_id_concat]
    rcases ih with ih | ⟨x, rest, hx, hrepeated, ih⟩
    · rw [ih]
      cases hdone : (fragmentReadings scope owner ts).mapM id with
      | error e => exact .inl rfl
      | ok done =>
        cases ht : index scope owner t (ts.length + 1) with
        | error e =>
          left
          change (nextIndex ⟨true⟩ scope owner done t (ts.length + 1) >>= _) = _
          rw [nextIndex, ht]
          rfl
        | ok x =>
          have hstep : nextIndex ⟨true⟩ scope owner done t (ts.length + 1) =
              if (done.any fun i => i.name == x.name) = true then
                .error (.duplicateDefinition owner (namedField .index x.name))
              else .ok x := by
            rw [nextIndex, ht]
            rfl
          -- The name is new, or it stops the reading here.
          by_cases htaken : (done.any fun i => i.name == x.name) = true
          · right
            have hall := mapM_id_eq_ok hdone
            obtain ⟨y, hy, hname⟩ := List.any_eq_true.mp htaken
            have hobject : y.object = scope.object := by
              have hmem : .ok y ∈ fragmentReadings scope owner ts := by
                rw [hall]
                exact List.mem_map_of_mem hy
              obtain ⟨u, -, hu⟩ := List.mem_map.mp hmem
              exact object_of_index scope owner hu
            refine ⟨x, [], object_of_index scope owner ht, ⟨done, by rw [hall], y, hy, ?_⟩, ?_⟩
            · exact ⟨hobject.trans (object_of_index scope owner ht).symm, eq_of_beq hname⟩
            · change (nextIndex ⟨true⟩ scope owner done t (ts.length + 1) >>= _) = _
              rw [hstep, if_pos htaken]
              rfl
          · left
            change (nextIndex ⟨true⟩ scope owner done t (ts.length + 1) >>= _) = _
            rw [hstep, if_neg htaken]
            rfl
    · right
      refine ⟨x, _, hx, hrepeated.append _, ?_⟩
      rw [ih]
      rfl

end Object

section Objects

variable (object : ObjectOutline) (links : List Link) (position : Nat)

/-- The lenient option refuses nothing of what is read of an object. -/
theorem lenient_objectIndexes : objectIndexes ⟨false⟩ object links position =
    (objectReadings object links position).mapM id := by
  rw [objectIndexes, objectReadings]
  cases object.indexes with
  | none => rfl
  | some raw =>
    dsimp only
    cases items raw (ownerLabel object.name) "indexes" with
    | error e => rfl
    | ok ts => exact lenient_eachAfter _ _ ts

/-- **The strict option over one object**: it ends as the lenient one does, or at a repeated
name. -/
theorem strict_objectIndexes :
    objectIndexes ⟨true⟩ object links position = objectIndexes ⟨false⟩ object links position ∨
      ∃ x rest, x.object = position ∧
        ComesToRepeated (objectReadings object links position) x rest ∧
        objectIndexes ⟨true⟩ object links position =
          .error (.duplicateDefinition (ownerLabel object.name) (namedField .index x.name)) := by
  rw [lenient_objectIndexes, objectIndexes, objectReadings]
  cases object.indexes with
  | none => exact .inl rfl
  | some raw =>
    dsimp only
    cases items raw (ownerLabel object.name) "indexes" with
    | error e => exact .inl rfl
    | ok ts => exact strict_eachAfter (keyScope object links position) _ ts

end Objects

/-! ### All objects -/

section Pass

variable {outline : Outline} {rows : List (List Link)} {e : LoadError}

/-- **The lenient pass ends at the first refusal.** -/
theorem refused_of_lenient (h : indexes ⟨false⟩ outline rows = .error e) :
    FirstRefusal (indexReadings outline rows) e := by
  refine firstRefusal_flatMap ?_
  simp only [← lenient_objectIndexes]
  exact h

/-- The strict pass over some objects ends as the lenient one does, or at a repeated name. -/
theorem strict_mapM (xs : List ((ObjectOutline × List Link) × Nat)) :
    (xs.mapM fun x => objectIndexes ⟨true⟩ x.1.1 x.1.2 x.2) =
        (xs.mapM fun x => objectIndexes ⟨false⟩ x.1.1 x.1.2 x.2) ∨
      ∃ x rest, ∃ object ∈ xs, object.2 = x.object ∧
        ComesToRepeated (xs.flatMap fun x => objectReadings x.1.1 x.1.2 x.2) x rest ∧
        (xs.mapM fun x => objectIndexes ⟨true⟩ x.1.1 x.1.2 x.2) =
          .error (.duplicateDefinition (ownerLabel object.1.1.name) (namedField .index x.name)) := by
  induction xs with
  | nil => exact .inl rfl
  | cons object xs ih =>
    rw [List.mapM_cons, List.mapM_cons, List.flatMap_cons]
    rcases strict_objectIndexes object.1.1 object.1.2 object.2 with
      hsame | ⟨x, rest, hx, hrepeated, hstrict⟩
    · rw [hsame]
      cases hdone : objectIndexes ⟨false⟩ object.1.1 object.1.2 object.2 with
      | error e => exact .inl rfl
      | ok done =>
        rw [lenient_objectIndexes] at hdone
        rcases ih with ih | ⟨x, rest, owner, howner, hx, hrepeated, ih⟩
        · exact .inl (by rw [ih])
        · right
          rw [mapM_id_eq_ok hdone, ih]
          exact ⟨x, rest, owner, List.mem_cons_of_mem _ howner, hx, hrepeated.after done, rfl⟩
    · right
      rw [hstrict]
      exact ⟨x, _, object, List.mem_cons_self, hx.symm, hrepeated.append _, rfl⟩

/-- **The strict pass ends as the lenient one does, or at a repeated name.** -/
theorem strict_indexes (outline : Outline) (rows : List (List Link)) :
    indexes ⟨true⟩ outline rows = indexes ⟨false⟩ outline rows ∨
      ∃ x rest object, outline.objects[x.object]? = some object ∧
        ComesToRepeated (indexReadings outline rows) x rest ∧
        indexes ⟨true⟩ outline rows =
          .error (.duplicateDefinition (ownerLabel object.name) (namedField .index x.name)) := by
  rcases strict_mapM (outline.objects.zip rows).zipIdx with
    hsame | ⟨x, rest, object, hmem, hx, hrepeated, hstrict⟩
  · exact .inl hsame
  · right
    rw [List.mem_zipIdx_iff_getElem?, List.getElem?_zip_eq_some, hx] at hmem
    exact ⟨x, rest, object.1.1, hmem.1, hrepeated, hstrict⟩

end Pass

/-! ### Whole loads -/

/-- **A repeated index name before a fault.** The first two passes over the definition succeed, and
the third comes to the index `x`, which has the name of an index before it in the same object, the
object called `owner`, while `e` is the first thing that is wrong and comes later. -/
def RepeatedBefore (d : Tree) (e : LoadError) (owner : String) (x : Index) : Prop :=
  ∃ outline rows object, ∃ (done more : List Index) (rest : _), linkedOutline d = .ok (outline, rows) ∧
    outline.objects[x.object]? = some object ∧ object.name = owner ∧
    (∃ y ∈ done, y.object = x.object ∧ y.name = x.name) ∧
    indexReadings outline rows = done.map .ok ++ .ok x :: (more.map .ok ++ .error e :: rest)

/-- **A definition that the lenient option refuses** is refused by the strict one for the same
fault, or for a repeated name before it. -/
theorem strict_of_lenient_error {d : Tree} {e : LoadError} (h : load ⟨false⟩ d = .error e) :
    load ⟨true⟩ d = .error e ∨ ∃ owner x, RepeatedBefore d e owner x ∧
      load ⟨true⟩ d = .error (.duplicateDefinition (ownerLabel owner) (namedField .index x.name)) := by
  rw [load_eq_linkedOutline] at h ⊢
  rcases bind_eq_error_iff.mp h with hd | ⟨⟨outline, rows⟩, hd, hthird⟩
  · exact .inl (bind_eq_error_iff.mpr (.inl hd))
  · rcases bind_eq_error_iff.mp hthird with hlenient | ⟨_, -, hpure⟩
    · have hfails : ∀ {e}, indexes ⟨true⟩ outline rows = .error e → (linkedOutline d >>= fun x => do
          return assemble x.1 x.2 (← indexes ⟨true⟩ x.1 x.2)) = .error e := fun hstrict =>
        bind_eq_error_iff.mpr (.inr ⟨_, hd, bind_eq_error_iff.mpr (.inl hstrict)⟩)
      rcases strict_indexes outline rows with
        hsame | ⟨x, rest, object, hobject, hrepeated, hstrict⟩
      · exact .inl (hfails (hsame.trans hlenient))
      · right
        obtain ⟨more, left, hrest⟩ := hrepeated.firstRefusal (refused_of_lenient hlenient)
        obtain ⟨done, hsplit, hy⟩ := hrepeated
        rw [hrest] at hsplit
        exact ⟨object.name, x,
          ⟨outline, rows, object, done, more, left, hd, hobject, rfl, hy, hsplit⟩, hfails hstrict⟩
    · exact nomatch hpure

/-- What the strict option asks beyond what the lenient one does. -/
theorem isDefinition_strict_iff {d : Tree} :
    IsDefinition ⟨true⟩ d ↔
      IsDefinition ⟨false⟩ d ∧ ∀ t ∈ d.itemsAt "objects", (t.namesAt "indexes").Nodup := by
  rw [isDefinition_iff, isDefinition_iff]
  constructor
  · rintro ⟨houtlined, hlinks, hindexes⟩
    exact ⟨⟨houtlined, hlinks, fun t ht => ⟨(hindexes t ht).indexes, nofun⟩⟩,
      fun t ht => (hindexes t ht).indexNames rfl⟩
  · rintro ⟨⟨houtlined, hlinks, hindexes⟩, hnames⟩
    exact ⟨houtlined, hlinks, fun t ht => ⟨(hindexes t ht).indexes, fun _ => hnames t ht⟩⟩

/-- The index names of a project are those of its definition. -/
theorem forall_indexNames_iff (d : Tree) :
    (∀ o ∈ (Reading.project d).objects, (o.indexes.map (·.name)).Nodup) ↔
      ∀ t ∈ d.itemsAt "objects", (t.namesAt "indexes").Nodup := by
  rw [Reading.project, List.forall_mem_map, ← forall_mem_zipIdx (n := 0)]
  exact forall₂_congr fun x _ => iff_of_eq (congrArg List.Nodup (map_name_indexes x.2 x.1))

/-- **Asking for distinct index names only filters.** Under the strict option a definition loads to
a project exactly when it loads to it under the lenient one and no object of the project has two
indexes of one name. What the lenient option refuses the strict one refuses too, for the same fault
or for a repeated index name that the third pass comes to before it. -/
theorem unique_names_only_filter (d : Tree) :
    (∀ p, load ⟨true⟩ d = .ok p ↔
      load ⟨false⟩ d = .ok p ∧ ∀ o ∈ p.objects, (o.indexes.map (·.name)).Nodup) ∧
    ∀ e, load ⟨false⟩ d = .error e →
      load ⟨true⟩ d = .error e ∨ ∃ owner x, RepeatedBefore d e owner x ∧
        load ⟨true⟩ d =
          .error (.duplicateDefinition (ownerLabel owner) (namedField .index x.name)) := by
  refine ⟨fun p => ?_, fun e => strict_of_lenient_error⟩
  rw [load_yields ⟨true⟩ d p, load_yields ⟨false⟩ d p, isDefinition_strict_iff,
    ← forall_indexNames_iff]
  constructor
  · rintro ⟨⟨hd, hnames⟩, rfl⟩
    exact ⟨⟨hd, rfl⟩, hnames⟩
  · rintro ⟨⟨hd, rfl⟩, hnames⟩
    exact ⟨⟨hd, hnames⟩, rfl⟩

/-- Posts with two indexes of one name, and more indexes after them. -/
def twiceIndexed (more : List Tree) : Tree :=
  let main : Tree := .mapping [("name", .string "main"),
    ("keys", .sequence [.mapping [("property", .string "id")]])]
  posts "id" (.sequence []) (.sequence ([main, main] ++ more))

/-- Posts with two indexes of one name load under the lenient option alone. When a third index is
nothing that can be read, the lenient option refuses that, and the strict one what comes before. -/
theorem unique_names_only_filter_posts :
    (∃ p, load ⟨false⟩ (twiceIndexed []) = .ok p ∧ load ⟨true⟩ (twiceIndexed []) ≠ .ok p) ∧
    ∃ e owner x, load ⟨false⟩ (twiceIndexed [.null]) = .error e ∧
      RepeatedBefore (twiceIndexed [.null]) e owner x ∧
      load ⟨true⟩ (twiceIndexed [.null]) =
        .error (.duplicateDefinition (ownerLabel owner) (namedField .index x.name)) := by
  have hlenient : load ⟨false⟩ (twiceIndexed []) = .ok (Reading.project (twiceIndexed [])) := by
    decide +kernel
  have hrefused : load ⟨false⟩ (twiceIndexed [.null]) =
      .error (.invalidShape (indexLabel (ownerLabel "Post") 3 none) "definition" .mapping) := by
    decide +kernel
  obtain ⟨owner, x, hbefore, hstrict⟩ :=
    ((unique_names_only_filter (twiceIndexed [.null])).2 _ hrefused).resolve_left
      (by decide +kernel)
  refine ⟨⟨_, hlenient, fun h => ?_⟩, _, owner, x, hrefused, hbefore, hstrict⟩
  exact absurd (((unique_names_only_filter (twiceIndexed [])).1 _).mp h).2 (by decide +kernel)

end Load

end Blueprint
