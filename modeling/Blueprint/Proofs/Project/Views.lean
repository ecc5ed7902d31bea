import Blueprint.Proofs.Project.Integrity
import Blueprint.Proofs.Project.Names
import Blueprint.Proofs.Render.Course

/-!
# Nothing is lost in a view

A view shows no position: where a project refers to one of its parts, its view has the name of
that part, and nothing else. Two projects may well have the same view, if only two of their
objects share a name. Two loaded projects may not
(`Blueprint.Load.eq_of_view_eq`): a project can be read off its view as soon as it is
legible (`Blueprint.Project.Legible`), which loaded projects are.

Each kind of reference is read back in its own way.

| reference | shown as | read back by |
|---|---|---|
| type of a property | a type | the names of types |
| source and target of a link | two names | the names of objects |
| index key | a kind and a name | the first property or link of the name |
| reverse link | a link | its source, and the names of the links there |

The last line needs the links of all objects, so objects are first compared without their
reverse links.
-/

namespace Blueprint

attribute [ext] PropertyHandle LinkHandle Property Link IndexKey Index Object Project

/-- **A project that can be read off its view**: its references are in range, and the names
of what they lead to are good enough to find it again. -/
structure Project.Legible (options : LoadOptions) (p : Project) : Prop where
  intact : p.Intact
  wellNamed : p.WellNamed options
  looksUp : p.LooksUp

/-! ### Mappings without repetition -/

/-- A new key goes to the end. -/
theorem putEntry_of_notMem {entries : Entries} {key : String} {value : Tree}
    (h : key ∉ entries.map (·.1)) : putEntry key value entries = entries ++ [(key, value)] := by
  induction entries with
  | nil => rfl
  | cons entry entries ih =>
    rw [List.map_cons, List.mem_cons, not_or] at h
    have hne : (entry.1 == key) = false := beq_eq_false_iff_ne.mpr (Ne.symm h.1)
    rw [putEntry, hne, ih h.2]
    rfl

/-- **Entries of distinct keys are collected as they are.** -/
theorem collectEntries_of_nodup {entries : Entries} (h : (entries.map (·.1)).Nodup) :
    collectEntries entries = entries := by
  have hfold : ∀ done rest : Entries, ((done ++ rest).map (·.1)).Nodup →
      rest.foldl (fun done entry => putEntry entry.1 entry.2 done) done = done ++ rest := by
    intro done rest hdistinct
    induction rest generalizing done with
    | nil => rw [List.foldl_nil, List.append_nil]
    | cons entry rest ih =>
      have hnew : entry.1 ∉ done.map (·.1) := by
        rw [List.map_append, List.map_cons, List.nodup_append] at hdistinct
        exact fun hmem => hdistinct.2.2 _ hmem _ List.mem_cons_self rfl
      rw [List.foldl_cons, putEntry_of_notMem hnew, ih _ (by simpa using hdistinct),
        List.append_assoc, List.singleton_append]
  exact hfold [] entries h

theorem Scalar.toTree_injective : Function.Injective Scalar.toTree := by
  rintro (a | a | a) (b | b | b) h <;> cases h <;> rfl

/-- The view of attributes of distinct names lists them as they are. -/
theorem attributesView_eq {m : AttributeMap} (h : m.WellNamed) :
    attributesView m = m.entries.map fun entry => (entry.1, entry.2.toTree) := by
  refine collectEntries_of_nodup ?_
  rw [List.map_map]
  exact h.distinct

/-- **Attributes are shown as they are.** -/
theorem attributes_eq_of_view {m n : AttributeMap} (hm : m.WellNamed) (hn : n.WellNamed)
    (h : attributesView m = attributesView n) : m = n := by
  rw [attributesView_eq hm, attributesView_eq hn] at h
  have hentry : Function.Injective fun entry : String × Scalar => (entry.1, entry.2.toTree) := by
    rintro ⟨name, value⟩ ⟨name', value'⟩ heq
    obtain ⟨rfl, hvalue⟩ := Prod.mk.inj heq
    obtain rfl : value = value' := Scalar.toTree_injective hvalue
    rfl
  obtain ⟨entries⟩ := m
  obtain ⟨entries'⟩ := n
  exact congrArg AttributeMap.mk (List.map_injective_iff.mpr hentry h)

/-! ### Words for kinds -/

theorem DataTypeKind.text_injective : Function.Injective DataTypeKind.text := by
  rintro (_ | _) (_ | _) h <;> first | rfl | exact absurd h (by decide)

theorem FileScope.text_injective : Function.Injective FileScope.text := by
  rintro (_ | _) (_ | _) h <;> first | rfl | exact absurd h (by decide)

theorem KeyKind.text_injective : Function.Injective KeyKind.text := by
  rintro (_ | _) (_ | _) h <;> first | rfl | exact absurd h (by decide)

/-- **Types are shown as they are.** -/
theorem DataTypeView.ofDataType_injective : Function.Injective DataTypeView.ofDataType := by
  rintro ⟨name, kind, values, internal⟩ ⟨name', kind', values', internal'⟩ h
  obtain ⟨rfl, hkind, rfl, rfl⟩ := DataTypeView.mk.inj h
  obtain rfl : kind = kind' := DataTypeKind.text_injective hkind
  rfl

/-- **Files are shown as they are.** -/
theorem FileView.ofFile_injective : Function.Injective FileView.ofFile := by
  rintro ⟨scope, input, output⟩ ⟨scope', input', output'⟩ h
  obtain ⟨hscope, rfl, rfl⟩ := FileView.mk.inj h
  obtain rfl : scope = scope' := FileScope.text_injective hscope
  rfl

/-! ### Names and positions -/

/-- Among distinct names one name has one position. -/
theorem position_unique {α : Type} {xs : List α} {key : α → String} (h : (xs.map key).Nodup)
    {i j : Nat} {x y : α} (hx : xs[i]? = some x) (hy : xs[j]? = some y) (hxy : key x = key y) :
    i = j := by
  have hi := Load.findIdx?_of_nodup h hx
  rw [hxy, Load.findIdx?_of_nodup h hy] at hi
  exact (Option.some.inj hi).symm

/-- Two lists with the same answers agree in a key, if equal answers at one position come of
items of one key. -/
theorem map_eq_of_mapM_eq {α β γ : Type} {f g : α → Option β} {key : α → γ} {xs ys : List α}
    {bs : List β} (h : ∀ (i : Nat) x y b, xs[i]? = some x → ys[i]? = some y →
      f x = some b → g y = some b → key x = key y) (hx : xs.mapM f = some bs) (hy : ys.mapM g = some bs) :
    xs.map key = ys.map key := by
  induction xs generalizing ys bs with
  | nil =>
    obtain rfl : [] = bs := by simpa using hx
    cases ys with
    | nil => rfl
    | cons y ys => simp [List.mapM_cons, Option.bind_eq_some_iff] at hy
  | cons x xs ih =>
    obtain ⟨b, hb, bs', hbs, rfl⟩ : ∃ b, f x = some b ∧ ∃ bs', xs.mapM f = some bs' ∧
        b :: bs' = bs := by
      simpa [List.mapM_cons, Option.bind_eq_some_iff] using hx
    cases ys with
    | nil => simp at hy
    | cons y ys =>
      obtain ⟨hb', hbs'⟩ : g y = some b ∧ ys.mapM g = some bs' := by
        simpa [List.mapM_cons, Option.bind_eq_some_iff] using hy
      rw [List.map_cons, List.map_cons, h 0 x y b rfl rfl hb hb',
        ih (fun i x y b hx hy => h (i + 1) x y b hx hy) hbs hbs']

/-- Two lists with the same answers agree, if equal answers come of equal items. -/
theorem eq_of_mapM_eq {α β : Type} {f g : α → Option β} {xs ys : List α} {bs : List β}
    (h : ∀ x ∈ xs, ∀ y ∈ ys, ∀ b, f x = some b → g y = some b → x = y)
    (hx : xs.mapM f = some bs) (hy : ys.mapM g = some bs) : xs = ys := by
  have hmap : xs.map id = ys.map id := map_eq_of_mapM_eq (fun _ x y b hx hy =>
    h x (List.mem_of_getElem? hx) y (List.mem_of_getElem? hy) b) hx hy
  rwa [List.map_id, List.map_id] at hmap

/-- The first property or link of a name is one thing. -/
theorem KeyReference.IsFirst.unique {i : Nat} {o o' : Object} {name : String}
    {r s : KeyReference} (hr : r.IsFirst i o name) (hs : s.IsFirst i o' name)
    (hproperties : o.properties = o'.properties) (hlinks : o.links = o'.links)
    (hkind : r.kind = s.kind) : r = s := by
  cases r with
  | property h =>
    cases s with
    | property k =>
      obtain ⟨hobject, hr⟩ := hr
      obtain ⟨hobject', hs⟩ := hs
      rw [hproperties, hs] at hr
      exact congrArg _ (PropertyHandle.ext (hobject.trans hobject'.symm) (Option.some.inj hr).symm)
    | link k => exact nomatch hkind
  | link h =>
    cases s with
    | property k => exact nomatch hkind
    | link k =>
      obtain ⟨hobject, hr⟩ := hr
      obtain ⟨hobject', hs⟩ := hs
      rw [hlinks, hs] at hr
      exact congrArg _ (LinkHandle.ext (hobject.trans hobject'.symm) (Option.some.inj hr).symm)

namespace Project

variable {p q : Project} {options options' : LoadOptions}

/-- One name of an object stands for one position. -/
theorem objectName_inj (h : (p.objects.map (·.name)).Nodup) {i j : Nat} {name : String}
    (hi : p.objectName i = some name) (hj : p.objectName j = some name) : i = j := by
  obtain ⟨o, ho, rfl⟩ := Option.map_eq_some_iff.mp hi
  obtain ⟨o', ho', hname⟩ := Option.map_eq_some_iff.mp hj
  exact position_unique h ho ho' hname.symm

/-! ### Parts of an object -/

/-- **A property is read off its view**, given the types of the project. -/
theorem property_eq_of_view (htypes : p.dataTypes = q.dataTypes)
    (hnames : (p.dataTypes.map (·.name)).Nodup) {x y : Property} (hx : x.WellNamed)
    (hy : y.WellNamed) {v : PropertyView} (hxv : PropertyView.ofProperty? p x = some v)
    (hyv : PropertyView.ofProperty? q y = some v) : x = y := by
  obtain ⟨type, htype, hxv⟩ := Option.bind_eq_some_iff.mp hxv
  obtain ⟨type', htype', hyv⟩ := Option.bind_eq_some_iff.mp hyv
  have hview := (Option.some.inj hxv).trans (Option.some.inj hyv).symm
  simp only [PropertyView.mk.injEq] at hview
  obtain ⟨hname, hshown, hmandatory, hsecret, hdefault, hpattern, hminimum, hmaximum, hattributes,
    hlast⟩ := hview
  rw [← htypes] at htype'
  have hposition : x.dataType = y.dataType :=
    position_unique hnames htype htype' (congrArg DataTypeView.name hshown)
  have hmap := attributes_eq_of_view hx.attributes hy.attributes hattributes
  exact Property.ext hname hposition hmandatory hdefault hsecret hpattern hminimum hmaximum hmap
    hlast

/-- **A link is read off its view**, given the names of the objects. -/
theorem link_eq_of_view (hobjects : p.objectName = q.objectName)
    (hnames : (p.objects.map (·.name)).Nodup) {l m : Link} {v : LinkView}
    (hl : LinkView.ofLink? p l = some v) (hm : LinkView.ofLink? q m = some v) : l = m := by
  obtain ⟨source, hsource, hl⟩ := Option.bind_eq_some_iff.mp hl
  obtain ⟨target, htarget, hl⟩ := Option.bind_eq_some_iff.mp hl
  obtain ⟨source', hsource', hm⟩ := Option.bind_eq_some_iff.mp hm
  obtain ⟨target', htarget', hm⟩ := Option.bind_eq_some_iff.mp hm
  have hview := (Option.some.inj hl).trans (Option.some.inj hm).symm
  simp only [LinkView.mk.injEq, NameView.mk.injEq] at hview
  obtain ⟨hname, rfl, rfl, hmandatory⟩ := hview
  rw [← hobjects] at hsource' htarget'
  have hsources := objectName_inj hnames hsource hsource'
  have htargets := objectName_inj hnames htarget htarget'
  exact Link.ext hname hsources htargets hmandatory

/-- **An index key is read off its view**, given what keys can refer to. -/
theorem key_eq_of_view {i : Nat} {o o' : Object} (hproperties : o.properties = o'.properties)
    (hlinks : o.links = o'.links) {k k' : IndexKey} {name name' : String}
    (hk : p.referenceName k.reference = some name) (hfirst : k.reference.IsFirst i o name)
    (hk' : q.referenceName k'.reference = some name') (hfirst' : k'.reference.IsFirst i o' name')
    {v : IndexKeyView} (hv : IndexKeyView.ofKey? p k = some v)
    (hv' : IndexKeyView.ofKey? q k' = some v) : k = k' := by
  rw [IndexKeyView.ofKey?, hk] at hv
  rw [IndexKeyView.ofKey?, hk'] at hv'
  have hview := (Option.some.inj hv).trans (Option.some.inj hv').symm
  simp only [IndexKeyView.mk.injEq, NameView.mk.injEq] at hview
  obtain ⟨hposition, hkind, rfl, hlast⟩ := hview
  have hreference := hfirst.unique hfirst' hproperties hlinks (KeyKind.text_injective hkind)
  exact IndexKey.ext hposition hreference hlast

/-- **An index is read off its view**, given what its keys can refer to. -/
theorem index_eq_of_view (hp : p.Legible options) (hq : q.Legible options') {i : Nat}
    {o o' : Object} (ho : p.objects[i]? = some o) (ho' : q.objects[i]? = some o')
    (hproperties : o.properties = o'.properties) (hlinks : o.links = o'.links) {x y : Index}
    (hx : x ∈ o.indexes) (hy : y ∈ o'.indexes) {v : IndexView}
    (hxv : IndexView.ofIndex? p x = some v) (hyv : IndexView.ofIndex? q y = some v) : x = y := by
  obtain ⟨keys, hkeys, hxv⟩ := Option.bind_eq_some_iff.mp hxv
  obtain ⟨keys', hkeys', hyv⟩ := Option.bind_eq_some_iff.mp hyv
  have hview := (Option.some.inj hxv).trans (Option.some.inj hyv).symm
  simp only [IndexView.mk.injEq] at hview
  obtain ⟨hname, hunique, rfl⟩ := hview
  have hsame : x.keys = y.keys := by
    refine eq_of_mapM_eq (fun k hk k' hk' v hv hv' => ?_) hkeys hkeys'
    obtain ⟨name, hreference, hfirst, -⟩ := hp.looksUp.reference i o ho x hx k hk
    obtain ⟨name', hreference', hfirst', -⟩ := hq.looksUp.reference i o' ho' y hy k' hk'
    exact key_eq_of_view hproperties hlinks hreference hfirst hreference' hfirst' hv hv'
  have howner : x.object = y.object :=
    ((hp.intact.object i o ho).owners x hx).trans ((hq.intact.object i o' ho').owners y hy).symm
  exact Index.ext hname hunique hsame howner

/-! ### Objects -/

/-- What the view of an object shows. -/
structure ShownAs (p : Project) (o : Object) (v : ObjectView) : Prop where
  name : v.name = o.name
  properties : o.properties.mapM (PropertyView.ofProperty? p) = some v.properties
  links : o.links.mapM (LinkView.ofLink? p) = some v.links
  reverseLinks : o.reverseLinks.mapM (LinkView.ofHandle? p) = some v.reverseLinks
  indexes : o.indexes.mapM (IndexView.ofIndex? p) = some v.indexes
  attributes : v.attributes = attributesView o.attributes

theorem shownAs_of_view {o : Object} {v : ObjectView} (h : ObjectView.ofObject? p o = some v) :
    ShownAs p o v := by
  obtain ⟨properties, hproperties, h⟩ := Option.bind_eq_some_iff.mp h
  obtain ⟨links, hlinks, h⟩ := Option.bind_eq_some_iff.mp h
  obtain ⟨reverseLinks, hreverseLinks, h⟩ := Option.bind_eq_some_iff.mp h
  obtain ⟨indexes, hindexes, h⟩ := Option.bind_eq_some_iff.mp h
  obtain rfl := Option.some.inj h
  exact ⟨rfl, hproperties, hlinks, hreverseLinks, hindexes, rfl⟩

/-- **An object is read off its view but for its reverse links**, which other objects decide. -/
theorem object_eq_of_view (hp : p.Legible options) (hq : q.Legible options')
    (htypes : p.dataTypes = q.dataTypes) (hobjects : p.objectName = q.objectName) {i : Nat}
    {o o' : Object} (ho : p.objects[i]? = some o) (ho' : q.objects[i]? = some o')
    {v : ObjectView} (hv : ShownAs p o v) (hv' : ShownAs q o' v) :
    o = { o' with reverseLinks := o.reverseLinks } := by
  have hnamed := hp.wellNamed.objects o (List.mem_of_getElem? ho)
  have hnamed' := hq.wellNamed.objects o' (List.mem_of_getElem? ho')
  have hproperties : o.properties = o'.properties :=
    eq_of_mapM_eq (fun x hx y hy _ => property_eq_of_view htypes hp.wellNamed.dataTypeNames
      (hnamed.properties x hx) (hnamed'.properties y hy)) hv.properties hv'.properties
  have hlinks : o.links = o'.links :=
    eq_of_mapM_eq (fun _ _ _ _ _ => link_eq_of_view hobjects hp.wellNamed.objectNames)
      hv.links hv'.links
  have hindexes : o.indexes = o'.indexes :=
    eq_of_mapM_eq (fun x hx y hy _ => index_eq_of_view hp hq ho ho' hproperties hlinks hx hy)
      hv.indexes hv'.indexes
  have hattributes : o.attributes = o'.attributes :=
    attributes_eq_of_view hnamed.attributes hnamed'.attributes
      (hv.attributes.symm.trans hv'.attributes)
  have hname : o.name = o'.name := hv.name.symm.trans hv'.name
  exact Object.ext hname hproperties hlinks rfl hindexes hattributes

/-! ### Reverse links -/

/-- The handle of a link, by the source and the name of the link. -/
theorem handle_eq (hp : p.Legible options) {h k : LinkHandle} {l m : Link}
    (hl : p.link? h = some l) (hm : p.link? k = some m) (hsource : l.source = m.source)
    (hname : l.name = m.name) : h = k := by
  obtain ⟨o, ho, hl⟩ := Option.bind_eq_some_iff.mp hl
  obtain ⟨o', ho', hm⟩ := Option.bind_eq_some_iff.mp hm
  -- A link says itself which object it belongs to.
  have hobject : h.object = k.object :=
    ((hp.intact.object _ o ho).sources l (List.mem_of_getElem? hl)).symm.trans
      (hsource.trans ((hp.intact.object _ o' ho').sources m (List.mem_of_getElem? hm)))
  obtain rfl : o = o' := Option.some.inj (ho.symm.trans (hobject ▸ ho'))
  have hposition : h.position = k.position :=
    position_unique (hp.wellNamed.objects o (List.mem_of_getElem? ho)).linkNames hl hm hname
  exact LinkHandle.ext hobject hposition

/-- **A reverse link is read off its view**, given the links of all objects. -/
theorem handle_eq_of_view (hp : p.Legible options) (hobjects : p.objectName = q.objectName)
    (hlinks : p.link? = q.link?) {h k : LinkHandle} {v : LinkView}
    (hh : LinkView.ofHandle? p h = some v) (hk : LinkView.ofHandle? q k = some v) : h = k := by
  obtain ⟨l, hl, hh⟩ := Option.bind_eq_some_iff.mp hh
  obtain ⟨m, hm, hk⟩ := Option.bind_eq_some_iff.mp hk
  obtain rfl : l = m := link_eq_of_view hobjects hp.wellNamed.objectNames hh hk
  rw [← hlinks] at hm
  exact handle_eq hp hl hm rfl rfl

/-! ### Projects -/

/-- What the view of a project shows. -/
theorem shown_of_view {v : ProjectView} (h : ProjectView.ofProject? p = some v) :
    p.name = v.name ∧ attributesView p.attributes = v.attributes ∧
      p.dataTypes.map .ofDataType = v.dataTypes ∧ p.files.map .ofFile = v.files ∧
      p.objects.mapM (ObjectView.ofObject? p) = some v.objects := by
  obtain ⟨objects, hobjects, h⟩ := Option.bind_eq_some_iff.mp h
  obtain rfl := Option.some.inj h
  exact ⟨rfl, rfl, rfl, rfl, hobjects⟩

/-- **The objects of a project are read off its view**, all of them together. -/
theorem objects_eq_of_view (hp : p.Legible options) (hq : q.Legible options')
    (htypes : p.dataTypes = q.dataTypes) (hobjects : p.objectName = q.objectName)
    {vs : List ObjectView} (hv : p.objects.mapM (ObjectView.ofObject? p) = some vs)
    (hv' : q.objects.mapM (ObjectView.ofObject? q) = some vs) : p.objects = q.objects := by
  have hobject : ∀ i o o' v, p.objects[i]? = some o → q.objects[i]? = some o' →
      ObjectView.ofObject? p o = some v → ObjectView.ofObject? q o' = some v →
      o = { o' with reverseLinks := o.reverseLinks } := fun i o o' v ho ho' hov hov' =>
    object_eq_of_view hp hq htypes hobjects ho ho' (shownAs_of_view hov) (shownAs_of_view hov')
  have hlinks : p.objects.map (·.links) = q.objects.map (·.links) :=
    map_eq_of_mapM_eq (fun i o o' v ho ho' hov hov' => by
      rw [hobject i o o' v ho ho' hov hov']) hv hv'
  have hlink : p.link? = q.link? := by
    funext h
    have hat := congrArg (fun ls => ls[h.object]?.bind (·[h.position]?)) hlinks
    rwa [List.getElem?_map, List.getElem?_map, Option.bind_map, Option.bind_map] at hat
  -- With the links of all objects known, the reverse links are read off as well.
  have hsame : p.objects.map id = q.objects.map id := by
    refine map_eq_of_mapM_eq (fun i o o' v ho ho' hov hov' => ?_) hv hv'
    have hreverse : o.reverseLinks = o'.reverseLinks :=
      eq_of_mapM_eq (fun _ _ _ _ _ => handle_eq_of_view hp hobjects hlink)
        (shownAs_of_view hov).reverseLinks (shownAs_of_view hov').reverseLinks
    rw [id, hobject i o o' v ho ho' hov hov', hreverse]
    rfl
  rwa [List.map_id, List.map_id] at hsame

/-- **A legible project is read off its view.** -/
theorem eq_of_view (hp : p.Legible options) (hq : q.Legible options')
    (h : ProjectView.ofProject p = ProjectView.ofProject q) : p = q := by
  have hnames : p.objects.map (·.name) = q.objects.map (·.name) := by
    rw [← Render.names_of_view hp.intact.total.isSome_view, h,
      Render.names_of_view hq.intact.total.isSome_view]
  obtain ⟨v, hv⟩ := Option.isSome_iff_exists.mp hp.intact.total.isSome_view
  obtain ⟨w, hw⟩ := Option.isSome_iff_exists.mp hq.intact.total.isSome_view
  obtain rfl : v = w := by rwa [ProjectView.ofProject, ProjectView.ofProject, hv, hw] at h
  obtain ⟨hname, hattributes, htypes, hfiles, hobjects⟩ := shown_of_view hv
  obtain ⟨hname', hattributes', htypes', hfiles', hobjects'⟩ := shown_of_view hw
  have hsameTypes : p.dataTypes = q.dataTypes :=
    List.map_injective_iff.mpr DataTypeView.ofDataType_injective (htypes.trans htypes'.symm)
  have hobjectName : p.objectName = q.objectName := by
    funext i
    rw [objectName, objectName, ← List.getElem?_map, hnames, List.getElem?_map]
  refine Project.ext (hname.trans hname'.symm) ?_ hsameTypes ?_ ?_
  · exact attributes_eq_of_view hp.wellNamed.attributes hq.wellNamed.attributes
      (hattributes.trans hattributes'.symm)
  · exact objects_eq_of_view hp hq hsameTypes hobjectName hobjects hobjects'
  · exact List.map_injective_iff.mpr FileView.ofFile_injective (hfiles.trans hfiles'.symm)

end Project

namespace Load

open Grammar

variable {options options' : LoadOptions} {d d' : Tree} {p q : Project}

theorem legible_project (hd : IsDefinition options d) : (Reading.project d).Legible options :=
  ⟨intact_project hd, wellNamed_project hd, looksUp_project hd⟩

/-- **A loaded project is read off its view.** Two definitions whose projects look the same to
templates describe the same project, down to every position in it. -/
theorem eq_of_view_eq (hp : load options d = .ok p) (hq : load options' d' = .ok q)
    (h : ProjectView.ofProject p = ProjectView.ofProject q) : p = q := by
  obtain ⟨hd, rfl⟩ := (load_yields options d p).mp hp
  obtain ⟨hd', rfl⟩ := (load_yields options' d' q).mp hq
  exact Project.eq_of_view (legible_project hd) (legible_project hd') h

/-- The shop once more: no blanks around names, fields in another order, and said in full what
holds anyway. -/
def tidyShop : Tree := .mapping [
  ("datatypes", .sequence [.mapping [("name", .string "status"), ("type", .string "enumeration"),
    ("values", .sequence [.string "open", .string "closed"])]]),
  ("files", .sequence [.mapping [("output", .string "model.txt"), ("input", .string "model.hbs"),
    ("scope", .string "object")]]),
  ("objects", .sequence [
    .mapping [("name", .string "User"),
      ("properties", .sequence [
        .mapping [("name", .string "id"), ("type", .string "id"), ("mandatory", .boolean true)],
        .mapping [("name", .string "id"), ("type", .string "status")]]),
      ("links", .sequence [
        .mapping [("name", .string "best"), ("target", .string "Post")],
        .mapping [("name", .string "boss"), ("target", .string "User"),
          ("mandatory", .boolean false)]]),
      ("indexes", .sequence [.mapping [("name", .string "main"), ("keys", .sequence [
        .mapping [("property", .string "id")], .mapping [("link", .string "best")]])]])],
    .mapping [("name", .string "Post"),
      ("properties", .sequence [.mapping [("name", .string "id"), ("type", .string "id")]]),
      ("links", .sequence [.mapping [("name", .string "author"), ("target", .string "User")]])]]),
  ("name", .string "shop")]

theorem eq_of_view_eq_shop : ∃ p q, load .default shop = .ok p ∧
    load ⟨false⟩ tidyShop = .ok q ∧ p = q := by
  have htidy : load ⟨false⟩ tidyShop = .ok (Reading.project tidyShop) := by decide +kernel
  have hview : ProjectView.ofProject (Reading.project shop) =
      ProjectView.ofProject (Reading.project tidyShop) := by rfl
  exact ⟨_, _, load_shop, htidy, eq_of_view_eq load_shop htidy hview⟩

end Load

end Blueprint
