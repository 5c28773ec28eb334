import TraitDocs.Manifest
import TraitDocs.Proofs.List.First

/-!
# Which values are manifests

A value is a manifest if it has the shape of one: `IsManifest` says so level by level, from the
classes down to the parameters. Of the values that are none, most are reported as such. But some
have a *fault*, data that reading does not look at before it uses it: a number where a list is due,
or the name of a parameter that is not text. Reading goes through a document from front to back, so
a fault counts only if everything before it has the right shape.

`Judged` says what comes of a reading: it succeeds, stops with a fault, or reports that there is no
manifest. A list is read as its items are, up to the first that cannot be read (`judged_items`), and
so the readers of parameters, methods, classes and manifests are judged one after the other.
-/

set_option autoImplicit false

namespace TraitDocs.Manifest

/-! ## The shape of a manifest -/

/-- Tells that a value may stand for a list of items that all pass: it is void, or such a list. -/
def ListOf (fine : Json → Prop) (value : Json) : Prop :=
  value.isVoid = true ∨ ∃ items, value = .array items ∧ ∀ item ∈ items, fine item

/-- The value of a field; null if there is no such field. -/
def valueOf (name : String) (fields : List (String × Json)) : Json :=
  (Json.fieldOf name fields).getD .null

/-- Tells that there is a name that is not void. -/
def Named (fields : List (String × Json)) : Prop :=
  ∃ name, Json.fieldOf "name" fields = some name ∧ name.isVoid = false

/-- Tells that an entry is a parameter: an object with a text, not empty, as its name. -/
def IsParam (entry : Json) : Prop :=
  ∃ fields name, entry = .object fields ∧ Json.fieldOf "name" fields = some (.str name) ∧ name ≠ ""

/-- Tells that an entry is a method: an object with a name and a list of parameters. -/
def IsMethod (entry : Json) : Prop :=
  ∃ fields, entry = .object fields ∧ Named fields ∧ ListOf IsParam (valueOf "parameters" fields)

/-- Tells that an entry is a class: an object with a list of methods. -/
def IsClass (entry : Json) : Prop :=
  ∃ fields, entry = .object fields ∧ ListOf IsMethod (valueOf "methods" fields)

/-- Tells that a value is a manifest: an object with an object of classes. -/
def IsManifest (data : Json) : Prop :=
  ∃ entries, data.field? "classes" = some (.object entries) ∧ ∀ e ∈ entries, IsClass e.2

/-! ## The faults of a value -/

/-- Tells that the first member of a list that does not pass has a fault. -/
def FirstFaulty {α : Type} (fine faulty : α → Prop) (xs : List α) : Prop :=
  ∃ x, FirstAfter fine faulty xs x

/-- Tells that a value is neither void nor made of parts: it is true or a number other than zero. -/
def Partless (value : Json) : Prop :=
  value = .bool true ∨ (∃ n, n ≠ 0 ∧ value = .int n) ∨ ∃ x, x.isZero = false ∧ value = .float x

/-- Tells that a value cannot stand for a list because of this fault: it has no parts, or it is a
list with the fault in an item. -/
def ListFaulty (fine : Json → Prop) (faulty : Fault → Json → Prop) (fault : Fault)
    (value : Json) : Prop :=
  fault = .notAList ∧ Partless value ∨
    ∃ items, value = .array items ∧ FirstFaulty fine (faulty fault) items

/-- Tells that the entry of a parameter has this fault: its name is neither void nor text. -/
def ParamFaulty (fault : Fault) (entry : Json) : Prop :=
  fault = .parameterNameNotText ∧ ∃ fields name, entry = .object fields ∧
    Json.fieldOf "name" fields = some name ∧ name.isVoid = false ∧ ∀ text, name ≠ .str text

/-- Tells that the entry of a method has this fault, in its parameters. -/
def MethodFaulty (fault : Fault) (entry : Json) : Prop :=
  ∃ fields, entry = .object fields ∧ Named fields ∧
    ListFaulty IsParam ParamFaulty fault (valueOf "parameters" fields)

/-- Tells that the entry of a class has this fault, in its methods. -/
def ClassFaulty (fault : Fault) (entry : Json) : Prop :=
  ∃ fields, entry = .object fields ∧
    ListFaulty IsMethod MethodFaulty fault (valueOf "methods" fields)

/-- Tells that a value has this fault, in its classes. -/
def Faulty (fault : Fault) (data : Json) : Prop :=
  ∃ entries, data.field? "classes" = some (.object entries) ∧
    FirstFaulty (fun e => IsClass e.2) (fun e => ClassFaulty fault e.2) entries

/-! ## Readings -/

/-- Tells what comes of reading something: it succeeds if that is fine, stops with a fault if that
has the fault, and reports a manifest that cannot be used in any other case. -/
structure Judged {β : Type} (source : String) (reading : Except Stop β) (fine : Prop)
    (faulty : Fault → Prop) : Prop where
  ok_iff : (∃ y, reading = .ok y) ↔ fine
  fault_iff : ∀ fault, reading = .error (.fault fault) ↔ faulty fault
  failure_eq : ∀ failure, reading = .error (.failure failure) →
    ∃ reason, failure = .badManifest source reason none

namespace Judged

variable {β γ : Type} {source : String} {reading : Except Stop β} {fine fine' : Prop}
  {faulty faulty' : Fault → Prop}

/-- To succeed where all is fine is right. -/
theorem ok (source : String) (y : β) (hfine : fine) (hfaulty : ∀ fault, ¬ faulty fault) :
    Judged source (.ok y) fine faulty :=
  ⟨by simp [hfine], by simp [hfaulty], by simp⟩

/-- To report what is neither fine nor at fault is right. -/
theorem misshapen (source reason : String) (hfine : ¬ fine) (hfaulty : ∀ fault, ¬ faulty fault) :
    Judged source (.error (Manifest.misshapen source reason) : Except Stop β) fine faulty := by
  unfold Manifest.misshapen
  refine ⟨by simp [hfine], by simp [hfaulty], fun failure h => ⟨reason, ?_⟩⟩
  simpa using h.symm

/-- To stop with the one fault of what is read is right. -/
theorem fault (source : String) (why : Fault) (hfine : ¬ fine)
    (hfaulty : ∀ fault, faulty fault ↔ fault = why) :
    Judged source (.error (.fault why) : Except Stop β) fine faulty :=
  ⟨by simp [hfine], by simp [hfaulty, eq_comm], by simp⟩

/-- The judgement may be given in other words. -/
theorem congr (h : Judged source reading fine faulty) (hfine : fine ↔ fine')
    (hfaulty : ∀ fault, faulty fault ↔ faulty' fault) : Judged source reading fine' faulty' :=
  ⟨h.ok_iff.trans hfine, fun fault => (h.fault_iff fault).trans (hfaulty fault), h.failure_eq⟩

/-- A reading that stops is judged the same, whatever it would give. -/
theorem of_error {stop : Stop} (h : Judged source (.error stop : Except Stop β) fine faulty) :
    Judged source (.error stop : Except Stop γ) fine faulty :=
  ⟨by simpa using h.ok_iff, by simpa using h.fault_iff, by simpa using h.failure_eq⟩

/-- What is made of the result of a reading does not count. -/
theorem map (h : Judged source reading fine faulty) (f : β → γ) :
    Judged source (reading >>= fun y => .ok (f y)) fine faulty := by
  cases reading with
  | error stop => exact h.of_error
  | ok y =>
    refine .ok source (f y) (h.ok_iff.mp ⟨y, rfl⟩) fun fault hfaulty => ?_
    simpa using (h.fault_iff fault).mpr hfaulty

/-- Of two readings, the second counts only if the first succeeds. -/
theorem bind (h : Judged source reading fine faulty) {next : β → Except Stop γ}
    (hnext : ∀ y, Judged source (next y) fine' faulty') :
    Judged source (reading >>= next) (fine ∧ fine')
      (fun fault => faulty fault ∨ fine ∧ faulty' fault) := by
  cases reading with
  | error stop =>
    have hfine : ¬ fine := fun hfine => by simpa using h.ok_iff.mpr hfine
    exact h.of_error.congr (by simp [hfine]) fun fault => by simp [hfine]
  | ok y =>
    have hfine : fine := h.ok_iff.mp ⟨y, rfl⟩
    have hfaulty : ∀ fault, ¬ faulty fault := fun fault hfaulty => by
      simpa using (h.fault_iff fault).mpr hfaulty
    exact (hnext y).congr (by simp [hfine]) fun fault => by simp [hfine, hfaulty fault]

end Judged

/-- A list is at fault in the member in front, or, if that passes, in the rest. -/
theorem firstFaulty_cons_iff {α : Type} {fine faulty : α → Prop} {x : α} {xs : List α} :
    FirstFaulty fine faulty (x :: xs) ↔ faulty x ∨ fine x ∧ FirstFaulty fine faulty xs := by
  simp only [FirstFaulty, firstAfter_cons_iff, exists_or, exists_eq_left', exists_and_left]

/-- The empty list is not at fault. -/
theorem not_firstFaulty_nil {α : Type} {fine faulty : α → Prop} :
    ¬ FirstFaulty fine faulty [] :=
  fun ⟨_, h⟩ => not_firstAfter_nil h

/-- Items are read one after the other, up to the first that cannot be read. -/
theorem judged_mapM {α β : Type} {source : String} {read : α → Except Stop β} {fine : α → Prop}
    {faulty : Fault → α → Prop}
    (h : ∀ x, Judged source (read x) (fine x) (fun fault => faulty fault x)) (xs : List α) :
    Judged source (xs.mapM read) (∀ x ∈ xs, fine x)
      (fun fault => FirstFaulty fine (faulty fault) xs) := by
  induction xs with
  | nil => exact .ok source [] (List.forall_mem_nil _) fun _ => not_firstFaulty_nil
  | cons x xs ih =>
    rw [List.mapM_cons]
    exact ((h x).bind fun y => ih.map (y :: ·)).congr List.forall_mem_cons.symm
      fun fault => firstFaulty_cons_iff.symm

/-! ## Values in the place of lists -/

/-- What has no parts is not void. -/
theorem Partless.isVoid_eq {value : Json} (h : Partless value) : value.isVoid = false := by
  obtain rfl | ⟨n, hn, rfl⟩ | ⟨x, hx, rfl⟩ := h
  · rfl
  · exact decide_eq_false hn
  · exact hx

/-- What has no parts is no list. -/
theorem Partless.ne_array {value : Json} (h : Partless value) (items : List Json) :
    value ≠ .array items := by
  obtain rfl | ⟨n, -, rfl⟩ | ⟨x, -, rfl⟩ := h <;> simp

/-- What can stand where a list is due: something void, a list, something whose items are texts, or
something without items. -/
theorem itemsOf_cases (value : Json) :
    (value.isVoid = true ∧ itemsOf value = .ok []) ∨
    (∃ items, value.isVoid = false ∧ value = .array items ∧ itemsOf value = .ok items) ∨
    (value.isVoid = false ∧ ¬ Partless value ∧ (∀ items, value ≠ .array items) ∧
      ∃ text rest, itemsOf value = .ok (.str text :: rest)) ∨
    Partless value ∧ itemsOf value = .error (.fault .notAList) := by
  unfold itemsOf
  cases hvoid : value.isVoid with
  | true => exact Or.inl ⟨rfl, rfl⟩
  | false =>
    refine Or.inr ?_
    cases value with
    | null => cases hvoid
    | bool b =>
      obtain rfl : b = true := by simpa [Json.isVoid] using hvoid
      exact Or.inr (Or.inr ⟨Or.inl rfl, rfl⟩)
    | int n =>
      have hn : n ≠ 0 := by simpa [Json.isVoid] using hvoid
      exact Or.inr (Or.inr ⟨Or.inr (Or.inl ⟨n, hn, rfl⟩), rfl⟩)
    | float x => exact Or.inr (Or.inr ⟨Or.inr (Or.inr ⟨x, hvoid, rfl⟩), rfl⟩)
    | array items => exact Or.inl ⟨items, rfl, rfl, rfl⟩
    | str text =>
      have htext : text.toList ≠ [] := by simpa [Json.isVoid] using hvoid
      obtain ⟨c, cs, hcs⟩ := List.exists_cons_of_ne_nil htext
      refine Or.inr (Or.inl ⟨rfl, by simp [Partless], by simp, ?_⟩)
      exact ⟨c.toString, cs.map fun c => .str c.toString, by simp [hcs]⟩
    | object fields =>
      cases fields with
      | nil => cases hvoid
      | cons f fields =>
        refine Or.inr (Or.inl ⟨rfl, by simp [Partless], by simp, ?_⟩)
        exact ⟨f.1, fields.map fun f => .str f.1, rfl⟩

/-- Where a list is due, only void values and lists can be read: the items of a text or an object
are texts, which the reader of items reports. -/
theorem judged_items {β : Type} {source : String} {read : Json → Except Stop β}
    {fine : Json → Prop} {faulty : Fault → Json → Prop}
    (h : ∀ x, Judged source (read x) (fine x) (fun fault => faulty fault x))
    (htext : ∀ text, ∃ reason, read (.str text) = .error (misshapen source reason))
    (value : Json) :
    Judged source (itemsOf value >>= fun items => items.mapM read) (ListOf fine value)
      (fun fault => ListFaulty fine faulty fault value) := by
  obtain ⟨hvoid, hitems⟩ | ⟨items, hvoid, rfl, hitems⟩ |
    ⟨hvoid, hpartless, harray, text, rest, hitems⟩ | ⟨hpartless, hitems⟩ := itemsOf_cases value
  · -- Nothing is there to read, and what is void has no fault.
    rw [hitems]
    refine .ok source [] (Or.inl hvoid) ?_
    rintro fault (⟨-, hpartless⟩ | ⟨items, rfl, hfaulty⟩)
    · exact absurd hvoid (by simp [hpartless.isVoid_eq])
    · obtain rfl : items = [] := by simpa [Json.isVoid] using hvoid
      exact not_firstFaulty_nil hfaulty
  · rw [hitems]
    refine (judged_mapM h items).congr ?_ fun fault => ?_
    · simp [ListOf, hvoid]
    · simp [ListFaulty, Partless]
  · -- The first item is a text, so that the reading ends with it.
    obtain ⟨reason, hreason⟩ := htext text
    have hread : (.str text :: rest).mapM read = .error (misshapen source reason) := by
      rw [List.mapM_cons, hreason]
      rfl
    rw [hitems]
    change Judged source ((.str text :: rest).mapM read) _ _
    rw [hread]
    refine .misshapen source reason ?_ fun fault => ?_
    · rintro (hvoid' | ⟨items, hvalue, -⟩)
      · exact absurd hvoid' (by simp [hvoid])
      · exact harray items hvalue
    · rintro (⟨-, hpartless'⟩ | ⟨items, hvalue, -⟩)
      · exact hpartless hpartless'
      · exact harray items hvalue
  · rw [hitems]
    refine .fault source .notAList ?_ fun fault => ?_
    · rintro (hvoid | ⟨items, hvalue, -⟩)
      · exact absurd hvoid (by simp [hpartless.isVoid_eq])
      · exact hpartless.ne_array items hvalue
    · constructor
      · rintro (⟨hfault, -⟩ | ⟨items, hvalue, -⟩)
        · exact hfault
        · exact absurd hvalue (hpartless.ne_array items)
      · exact fun hfault => Or.inl ⟨hfault, hpartless⟩

/-! ## The readers of a manifest -/

/-- The name of an entry is what stands under it, unless that is void. -/
theorem nameOf?_eq_some_iff {fields : List (String × Json)} {name : Json} :
    nameOf? fields = some name ↔
      Json.fieldOf "name" fields = some name ∧ name.isVoid = false := by
  simp [nameOf?, Option.filter_eq_some_iff]

/-- Tells that an entry is not an object with a name. -/
def Nameless (entry : Json) : Prop :=
  ∀ fields, entry = .object fields → ¬ Named fields

/-- A value is an object with a name, or it has none. -/
theorem named_or_nameless (entry : Json) :
    (∃ fields name, entry = .object fields ∧ nameOf? fields = some name) ∨ Nameless entry := by
  by_cases h : ∃ fields name, entry = .object fields ∧ nameOf? fields = some name
  · exact Or.inl h
  · refine Or.inr ?_
    rintro fields rfl ⟨name, hname⟩
    exact h ⟨fields, name, rfl, nameOf?_eq_some_iff.mpr hname⟩

/-- No name is found where there is none. -/
theorem Nameless.nameOf?_eq {fields : List (String × Json)} (h : Nameless (.object fields)) :
    nameOf? fields = none := by
  rw [Option.eq_none_iff_forall_ne_some]
  intro name hname
  exact h fields rfl ⟨name, nameOf?_eq_some_iff.mp hname⟩

/-- A text has no name. -/
theorem nameless_str (text : String) : Nameless (.str text) := by
  rintro fields ⟨⟩

/-- The entry of a parameter without a name is reported. -/
theorem readParam_of_nameless (source className : String) (methodName : Json) {entry : Json}
    (h : Nameless entry) : ∃ reason,
      readParam source className methodName entry = .error (misshapen source reason) := by
  unfold readParam
  cases entry with
  | object fields =>
    simp only [h.nameOf?_eq]
    exact ⟨_, rfl⟩
  | _ => exact ⟨_, rfl⟩

/-- The entry of a method without a name is reported. -/
theorem readMethod_of_nameless (source className : String) {entry : Json} (h : Nameless entry) :
    ∃ reason, readMethod source className entry = .error (misshapen source reason) := by
  unfold readMethod
  cases entry with
  | object fields =>
    simp only [h.nameOf?_eq]
    exact ⟨_, rfl⟩
  | _ => exact ⟨_, rfl⟩

/-- The name of a parameter that is no text is a fault. -/
theorem paramOf_of_not_text {name : Json} (h : ∀ text, name ≠ .str text)
    (fields : List (String × Json)) :
    paramOf name fields = .error (.fault .parameterNameNotText) := by
  cases name with
  | str text => exact absurd rfl (h text)
  | _ => rfl

/-- What comes of the entry of a parameter. -/
theorem judged_readParam (source className : String) (methodName entry : Json) :
    Judged source (readParam source className methodName entry) (IsParam entry)
      (fun fault => ParamFaulty fault entry) := by
  obtain ⟨fields, name, rfl, hname⟩ | hnameless := named_or_nameless entry
  · obtain ⟨hfield, hvoid⟩ := nameOf?_eq_some_iff.mp hname
    simp only [readParam, hname]
    by_cases htext : ∃ text, name = .str text
    · obtain ⟨text, rfl⟩ := htext
      refine .ok source _ ⟨fields, text, rfl, hfield, by simpa [Json.isVoid] using hvoid⟩ ?_
      rintro fault ⟨-, fields', name', hsame, hfield', -, htext⟩
      obtain rfl := Json.object.inj hsame
      exact htext text (Option.some.inj (hfield'.symm.trans hfield))
    · have htext' : ∀ text, name ≠ .str text := fun text heq => htext ⟨text, heq⟩
      rw [paramOf_of_not_text htext']
      refine .fault source _ ?_ fun fault => ⟨fun h => h.1, fun h => ?_⟩
      · rintro ⟨fields', text, hsame, hfield', -⟩
        obtain rfl := Json.object.inj hsame
        exact htext' text (Option.some.inj (hfield.symm.trans hfield'))
      · exact ⟨h, fields, name, rfl, hfield, hvoid, htext'⟩
  · obtain ⟨reason, hreason⟩ := readParam_of_nameless source className methodName hnameless
    rw [hreason]
    refine .misshapen source reason ?_ fun fault => ?_
    · rintro ⟨fields, name, rfl, hfield, hname⟩
      exact hnameless fields rfl ⟨.str name, hfield, by simpa [Json.isVoid] using hname⟩
    · rintro ⟨-, fields, name, rfl, hfield, hvoid, -⟩
      exact hnameless fields rfl ⟨name, hfield, hvoid⟩

/-- What comes of the entry of a method: the shape and the faults of its parameters decide. -/
theorem judged_readMethod (source className : String) (entry : Json) :
    Judged source (readMethod source className entry) (IsMethod entry)
      (fun fault => MethodFaulty fault entry) := by
  obtain ⟨fields, name, rfl, hname⟩ | hnameless := named_or_nameless entry
  · have hnamed : Named fields := ⟨name, nameOf?_eq_some_iff.mp hname⟩
    simp only [readMethod, hname, fieldItems]
    rw [← bind_assoc]
    have hparams := judged_items (judged_readParam source className name)
      (fun text => readParam_of_nameless source className name (nameless_str text))
      (valueOf "parameters" fields)
    refine (hparams.map _).congr ?_ fun fault => ?_
    · simp [IsMethod, hnamed]
    · simp [MethodFaulty, hnamed]
  · obtain ⟨reason, hreason⟩ := readMethod_of_nameless source className hnameless
    rw [hreason]
    refine .misshapen source reason ?_ fun fault => ?_
    · rintro ⟨fields, rfl, hnamed, -⟩
      exact hnameless fields rfl hnamed
    · rintro ⟨fields, rfl, hnamed, -⟩
      exact hnameless fields rfl hnamed

/-- What comes of the entry of a class: the shape and the faults of its methods decide. -/
theorem judged_readClass (source className : String) (entry : Json) :
    Judged source (readClass source className entry) (IsClass entry)
      (fun fault => ClassFaulty fault entry) := by
  unfold readClass
  cases entry with
  | object fields =>
    simp only [fieldItems]
    rw [← bind_assoc]
    have hmethods := judged_items (judged_readMethod source className)
      (fun text => readMethod_of_nameless source className (nameless_str text))
      (valueOf "methods" fields)
    refine (hmethods.map _).congr ?_ fun fault => ?_
    · simp [IsClass]
    · simp [ClassFaulty]
  | _ => exact .misshapen source _ (by simp [IsClass]) (by simp [ClassFaulty])

/-- A manifest can be read from exactly the values that have its shape. Of all others, those with a
fault stop the reading with it, and the rest are reported. -/
theorem judged_ofJson (source : String) (data : Json) :
    Judged source (ofJson source data) (IsManifest data) (fun fault => Faulty fault data) := by
  unfold ofJson
  split
  · rename_i entries hentries
    have hclass := fun e : String × Json =>
      (judged_readClass source e.1 e.2).map fun c => (e.1, c)
    refine ((judged_mapM hclass entries).map _).congr ?_ fun fault => ?_
    · simp [IsManifest, hentries]
    · simp [Faulty, hentries]
  · rename_i hentries
    refine .misshapen source _ ?_ fun fault => ?_
    · rintro ⟨entries, hclasses, -⟩
      exact hentries entries hclasses
    · rintro ⟨entries, hclasses, -⟩
      exact hentries entries hclasses

end TraitDocs.Manifest
