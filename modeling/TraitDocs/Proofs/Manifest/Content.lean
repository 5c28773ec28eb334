import TraitDocs.Catalog
import TraitDocs.Proofs.Manifest.Shape
import TraitDocs.Proofs.OrderedMap.Grouped

/-!
# What a manifest says

A manifest says what stands in it, and nothing is dropped, moved or added: its classes are the
entries under `classes` in the order of the document, the methods of a class are the items of its
list of methods, and the parameters of a method the items of its list of parameters. `classIn`,
`methodIn` and `paramIn` tell what an entry says without looking at its shape. Where the shape is
right, the readers succeed and agree with them, from the parameters up to the whole manifest.
-/

set_option autoImplicit false

namespace TraitDocs.Manifest

/-! ## What an entry says -/

/-- The items of a list; what is no list has none. -/
def listed : Json → List Json
  | .array items => items
  | _ => []

/-- The text that a value is; what is no text gives the empty one. -/
def textOf : Json → String
  | .str text => text
  | _ => ""

/-- The value of a field of an entry; null if there is no such field. -/
def under (name : String) (entry : Json) : Json :=
  (entry.field? name).getD .null

/-- The parameter of an entry. A field for the default value counts whatever stands in it. -/
def paramIn (entry : Json) : ReflectedParam where
  name := String.ofList ((textOf (under "name" entry)).toList.dropWhile (· == '$'))
  hasDefault := (entry.field? "default").isSome
  default := under "default" entry

/-- The method of an entry, which is public unless the entry says that it is not. -/
def methodIn (entry : Json) : ReflectedMethod where
  name := under "name" entry
  comment := under "doc" entry
  params := (listed (under "parameters" entry)).map paramIn
  isPublic := !((entry.field? "public").getD (.bool true)).isVoid

/-- The class of an entry. -/
def classIn (name : String) (entry : Json) : ReflectedClass where
  name := name
  comment := under "doc" entry
  methods := (listed (under "methods" entry)).map methodIn

/-! ## Entries of the right shape -/

/-- Where all items are read, the list is. -/
theorem mapM_eq_ok_map {α β : Type} {read : α → Except Stop β} {f : α → β} {xs : List α}
    (h : ∀ x ∈ xs, read x = .ok (f x)) : xs.mapM read = .ok (xs.map f) := by
  induction xs with
  | nil => rfl
  | cons x xs ih =>
    rw [List.forall_mem_cons] at h
    rw [List.mapM_cons, h.1, ih h.2]
    rfl

/-- What is void lists nothing. -/
theorem listed_of_isVoid {value : Json} (h : value.isVoid = true) : listed value = [] := by
  cases value with
  | array items => simpa [Json.isVoid, listed] using h
  | _ => rfl

/-- What may stand for a list has the items that it lists, and all of them pass. -/
theorem itemsOf_of_listOf {fine : Json → Prop} {value : Json} (h : ListOf fine value) :
    itemsOf value = .ok (listed value) ∧ ∀ item ∈ listed value, fine item := by
  obtain hvoid | ⟨items, rfl, hitems⟩ := h
  · unfold itemsOf
    rw [if_pos hvoid, listed_of_isVoid hvoid]
    exact ⟨rfl, List.forall_mem_nil _⟩
  · refine ⟨?_, hitems⟩
    unfold itemsOf
    split
    · rename_i hvoid
      rw [listed_of_isVoid hvoid]
    · rfl

/-- Where a list may stand whose items can all be read, it is read item by item. -/
theorem items_eq_ok_map {β : Type} {read : Json → Except Stop β} {f : Json → β}
    {fine : Json → Prop} (h : ∀ item, fine item → read item = .ok (f item)) {value : Json}
    (hvalue : ListOf fine value) :
    (itemsOf value >>= fun items => items.mapM read) = .ok ((listed value).map f) := by
  obtain ⟨hitems, hfine⟩ := itemsOf_of_listOf hvalue
  rw [hitems]
  apply mapM_eq_ok_map
  intro item hitem
  exact h item (hfine item hitem)

/-- The entry of a parameter is read as what it says. -/
theorem readParam_eq_ok (source className : String) (methodName : Json) {entry : Json}
    (h : IsParam entry) : readParam source className methodName entry = .ok (paramIn entry) := by
  obtain ⟨fields, name, rfl, hname, hne⟩ := h
  have hnamed : nameOf? fields = some (.str name) :=
    nameOf?_eq_some_iff.mpr ⟨hname, by simpa [Json.isVoid] using hne⟩
  simp only [readParam, hnamed, paramOf, paramIn, under, Json.field?, hname, Option.getD_some,
    textOf]

/-- The entry of a method is read as what it says. -/
theorem readMethod_eq_ok (source className : String) {entry : Json} (h : IsMethod entry) :
    readMethod source className entry = .ok (methodIn entry) := by
  obtain ⟨fields, rfl, ⟨name, hname⟩, hparams⟩ := h
  have hread := items_eq_ok_map
    (fun _ hentry => readParam_eq_ok source className name hentry) hparams
  simp only [readMethod, nameOf?_eq_some_iff.mpr hname, fieldItems]
  rw [← bind_assoc, ← valueOf, hread]
  simp only [methodIn, under, Json.field?, hname.1, Option.getD_some]
  rfl

/-- The entry of a class is read as what it says. -/
theorem readClass_eq_ok (source className : String) {entry : Json} (h : IsClass entry) :
    readClass source className entry = .ok (classIn className entry) := by
  obtain ⟨fields, rfl, hmethods⟩ := h
  have hread := items_eq_ok_map
    (fun _ hentry => readMethod_eq_ok source className hentry) hmethods
  simp only [readClass, fieldItems]
  rw [← bind_assoc, ← valueOf, hread]
  rfl

/-- A manifest is read as its classes. -/
theorem ofJson_eq_ok (source : String) {data : Json} {entries : List (String × Json)}
    (hentries : data.field? "classes" = some (.object entries))
    (h : ∀ e ∈ entries, IsClass e.2) :
    ofJson source data = .ok ⟨.ofList (entries.map fun e => (e.1, classIn e.1 e.2))⟩ := by
  have hread : (entries.mapM fun e => do
      let c ← readClass source e.1 e.2
      return (e.1, c)) = .ok (entries.map fun e => (e.1, classIn e.1 e.2)) := by
    apply mapM_eq_ok_map
    intro e he
    rw [readClass_eq_ok source e.1 (h e he)]
    rfl
  simp only [ofJson, hentries]
  rw [hread]
  rfl

/-- Of the values whose classes have distinct names, exactly those with the shape of a manifest can
be read as one. It has the classes of the value in order, each as its entry says, and no others: a
request for another name fails because the class is not known. -/
theorem ofJson_says_content (source : String) (data : Json)
    (hnames : ∀ entries, data.field? "classes" = some (.object entries) →
      (entries.map Prod.fst).Nodup) :
    ((∃ m, ofJson source data = .ok m) ↔ IsManifest data) ∧
    ∀ m, ofJson source data = .ok m →
      ∃ entries, data.field? "classes" = some (.object entries) ∧
        m.classNames = entries.map Prod.fst ∧
        (∀ name entry, (name, entry) ∈ entries → m.reflect name = some (classIn name entry)) ∧
        ∀ name, name ∉ m.classNames → m.reflect name = none ∧
          ∀ names, (Catalog.collect m.reflect (name :: names)).2 =
            .error (.failure (.unknownClass name)) := by
  have hshape := (judged_ofJson source data).ok_iff
  refine ⟨hshape, fun m hm => ?_⟩
  obtain ⟨entries, hentries, hclasses⟩ := hshape.mp ⟨m, hm⟩
  have hread := ofJson_eq_ok source hentries hclasses
  obtain rfl := Except.ok.inj (hm.symm.trans hread)
  have hlisted : (OrderedMap.ofList (entries.map fun e => (e.1, classIn e.1 e.2))).entries =
      entries.map fun e => (e.1, classIn e.1 e.2) := by
    apply OrderedMap.entries_ofList_of_nodup
    rw [List.map_map]
    exact hnames entries hentries
  refine ⟨entries, hentries, ?_, ?_, ?_⟩
  · rw [classNames, OrderedMap.keys, hlisted, List.map_map]
    rfl
  · intro name entry hentry
    rw [reflect, OrderedMap.get?_eq_some_iff, hlisted]
    exact List.mem_map_of_mem hentry
  · intro name hname
    have hnone := OrderedMap.get?_eq_none_iff.mpr hname
    refine ⟨hnone, fun names => ?_⟩
    simp only [Catalog.collect, Catalog.collectFrom, reflect, hnone]

/-- A method that is not public, with a parameter whose default value is null. -/
def hiddenMethod : Json :=
  .object [("name", .str "assertSecond"), ("public", .int 0),
    ("parameters", .array [.object [("default", .null), ("name", .str "$$x")]])]

/-- Two classes: one without a comment, and one with an empty object in the place of its methods. -/
def twoClasses : Json :=
  .object [("classes", .object [("Second", .object [("methods", .array [hiddenMethod])]),
    ("First", .object [("methods", .object []), ("doc", .str "/** First. */")])])]

/-- What is read of these classes. -/
theorem ofJson_twoClasses :
    (∀ entries, twoClasses.field? "classes" = some (.object entries) →
      (entries.map Prod.fst).Nodup) ∧
    ∃ m, ofJson "m.json" twoClasses = .ok m ∧ m.classNames = ["Second", "First"] ∧
      m.reflect "Second" = some {
        name := "Second"
        methods := [{
          name := .str "assertSecond"
          params := [{ name := "x", hasDefault := true }]
          isPublic := false }] } ∧
      m.reflect "First" = some { name := "First", comment := .str "/** First. */" } ∧
      m.reflect "Third" = none := by
  have hnames : ∀ entries, twoClasses.field? "classes" = some (.object entries) →
      (entries.map Prod.fst).Nodup := by
    intro entries hentries
    obtain rfl := Json.object.inj (Option.some.inj hentries)
    decide
  obtain ⟨-, hsays⟩ := ofJson_says_content "m.json" twoClasses hnames
  obtain ⟨entries, hentries, hclasses, hreflect, hunknown⟩ := hsays _ rfl
  obtain rfl := Json.object.inj (Option.some.inj hentries)
  refine ⟨hnames, _, rfl, hclasses, hreflect "Second" _ List.mem_cons_self, ?_, ?_⟩
  · exact hreflect "First" _ (List.mem_cons_of_mem _ List.mem_cons_self)
  · exact (hunknown "Third" (by rw [hclasses]; decide)).1

end TraitDocs.Manifest
