import TraitDocs.Proofs.Assertion.Pairing
import TraitDocs.Proofs.Catalog.Order
import TraitDocs.Proofs.Catalog.Verdict

/-!
# The first failure ends the work

The requested names are looked up one after the other. The first that fails ends the work: its
failure is what collecting gives, and no name after it is looked up. A name fails if it is not
known, if its class has no comment, or if the class is not internal and one of its public methods
does not pass validation; the first such method in order says why. Where no name fails, all are
looked up and the work succeeds.

This holds of classes whose comments are texts, where they are there, and whose methods are named by
texts. `classRecord_eq_error_iff` says which of them fail, `collectFrom_of_reads` and
`collectFrom_of_fails` how the walk over the names goes on and how it ends.
-/

set_option autoImplicit false

namespace TraitDocs

/-- A mapping of members fails as it does for the first for which it fails. -/
theorem mapM_eq_error_iff {α ε β : Type} {f : α → Except ε β} {xs : List α} {e : ε} :
    xs.mapM f = .error e ↔
      ∃ x, FirstWith (fun x => ∃ e, f x = .error e) xs x ∧ f x = .error e := by
  induction xs with
  | nil =>
    constructor
    · intro h
      cases h
    · rintro ⟨x, hx, -⟩
      exact absurd hx not_firstWith_nil
  | cons a xs ih =>
    rw [List.mapM_cons]
    cases ha : f a with
    | error e' =>
      constructor
      · intro h
        obtain rfl := Except.error.inj h
        exact ⟨a, firstWith_cons_iff.mpr (Or.inl ⟨rfl, e', ha⟩), ha⟩
      · rintro ⟨x, hfirst, hx⟩
        obtain ⟨rfl, -⟩ | ⟨hnot, -⟩ := firstWith_cons_iff.mp hfirst
        · obtain rfl := Except.error.inj (ha.symm.trans hx)
          rfl
        · exact absurd ⟨e', ha⟩ hnot
    | ok b =>
      have hok : ¬ ∃ e, f a = .error e := by simp [ha]
      have hrest : (Except.ok b >>= fun b => xs.mapM f >>= fun bs => pure (b :: bs)) = .error e ↔
          xs.mapM f = .error e := by
        cases xs.mapM f with
        | error e' => simp [bind, Except.bind]
        | ok bs => simp [bind, Except.bind, pure, Except.pure]
      rw [hrest, ih]
      constructor
      · rintro ⟨x, hfirst, hx⟩
        exact ⟨x, firstWith_cons_iff.mpr (Or.inr ⟨hok, hfirst⟩), hx⟩
      · rintro ⟨x, hfirst, hx⟩
        obtain ⟨rfl, hfails⟩ | ⟨-, hfirst⟩ := firstWith_cons_iff.mp hfirst
        · exact absurd hfails hok
        · exact ⟨x, hfirst, hx⟩

namespace Catalog

open Assertion Docblock

/-! ## Classes that fail -/

/-- Tells that the comments of a class and of its methods are texts, where they are there, and that
its methods are named by texts. -/
structure WellTyped (c : ReflectedClass) : Prop where
  comment : ∃ comment, c.comment = commentValue comment
  methodName : ∀ m ∈ c.methods, ∃ name, m.name = .str name
  methodComment : ∀ m ∈ c.methods, ∃ comment, m.comment = commentValue comment

/-- The values of comments are null and the texts. -/
theorem exists_commentValue_iff {value : Json} :
    (∃ comment, value = commentValue comment) ↔ value = .null ∨ ∃ text, value = .str text := by
  constructor
  · rintro ⟨comment, rfl⟩
    cases comment with
    | none => exact Or.inl rfl
    | some text => exact Or.inr ⟨text, rfl⟩
  · rintro (rfl | ⟨text, rfl⟩)
    · exact ⟨none, rfl⟩
    · exact ⟨some text, rfl⟩

/-- The failures that collecting can give. -/
inductive IsCollectFailure : Failure → Prop
  | unknownClass (className : String) : IsCollectFailure (.unknownClass className)
  | missingClassDoc (className : String) : IsCollectFailure (.missingClassDoc className)
  | missingMethodDoc (className methodName : String) :
      IsCollectFailure (.missingMethodDoc className methodName)
  | emptyDescription (className methodName : String) :
      IsCollectFailure (.emptyDescription className methodName)
  | parameterMismatch (className methodName parameter : String) :
      IsCollectFailure (.parameterMismatch className methodName parameter)
  | unreadableMethod (className methodName : String) (comment : Option String) :
      IsCollectFailure (.unreadableMethod className methodName comment)

/-- Tells that a class fails for this reason: it has no comment, or it is not internal and this is
why the first of its public methods that does not pass validation does not. -/
inductive Rejected (c : ReflectedClass) : Failure → Prop
  | undocumented {comment : Option String} (hcomment : c.comment = commentValue comment)
      (hread : readClass comment = none) : Rejected c (.missingClassDoc c.name)
  | invalid {comment : Option String} {classDoc : ClassDoc} {m : ReflectedMethod} {why : Failure}
      (hcomment : c.comment = commentValue comment) (hread : readClass comment = some classDoc)
      (hpublished : classDoc.hasTag "internal" = false)
      (hfirst : FirstWith (fun m => m.isPublic = true ∧ ∃ stop, validate c.name m = .error stop)
        c.methods m)
      (hwhy : validate c.name m = .error (.failure why)) : Rejected c why

/-- Tells that a requested name fails for this reason. -/
inductive NameFails (reflect : Reflector) (name : String) : Failure → Prop
  | unknown (h : reflect name = none) : NameFails reflect name (.unknownClass name)
  | rejected {c : ReflectedClass} {why : Failure} (hc : reflect name = some c)
      (h : Rejected c why) : NameFails reflect name why

section Classes

variable {c : ReflectedClass} {m : ReflectedMethod} {className : String} {stop : Stop}
  {comment : Option String} {classDoc : ClassDoc}

/-- A method that does not pass validation has a failure of one of the kinds there are. -/
theorem exists_failure_of_validate (hcomment : ∃ comment, m.comment = commentValue comment)
    (h : validate className m = .error stop) :
    ∃ why, stop = .failure why ∧ IsCollectFailure why := by
  obtain ⟨name, _, params, isPublic⟩ := m
  obtain ⟨comment, rfl⟩ := hcomment
  have hvalidated := validated_validate className name comment params isPublic
  rw [h] at hvalidated
  cases hvalidated with
  | unreadable _ _ _ hwhy _ => exact ⟨_, rfl, hwhy ▸ .unreadableMethod _ _ _⟩
  | undocumented _ => exact ⟨_, rfl, .missingMethodDoc _ _⟩
  | undescribed _ _ => exact ⟨_, rfl, .emptyDescription _ _⟩
  | unmentioned _ _ _ => exact ⟨_, rfl, .parameterMismatch _ _ _⟩
  | undeclared _ _ _ _ => exact ⟨_, rfl, .parameterMismatch _ _ _⟩

/-- A method that is named by a text stops the work exactly as its validation does. -/
theorem namedDoc_eq_error_iff (hname : ∃ name, m.name = .str name) :
    namedDoc className m = .error stop ↔ validate className m = .error stop := by
  obtain ⟨name, hname⟩ := hname
  unfold namedDoc
  cases validate className m with
  | error stop' => simp
  | ok doc => simp [hname, isCompound]

/-- The public methods of a class fail as the first that does not pass validation does. -/
theorem publicDocs_eq_error_iff (hnames : ∀ m ∈ c.methods, ∃ name, m.name = .str name) :
    publicDocs c = .error stop ↔
      ∃ m, FirstWith (fun m => m.isPublic = true ∧ ∃ stop, validate c.name m = .error stop)
        c.methods m ∧ validate c.name m = .error stop := by
  have hnamed : ∀ m ∈ c.methods, ∀ stop,
      namedDoc c.name m = .error stop ↔ validate c.name m = .error stop :=
    fun m hm stop => namedDoc_eq_error_iff (hnames m hm)
  have hfirst : ∀ m, FirstWith (fun m => ∃ stop, namedDoc c.name m = .error stop)
      (c.methods.filter (·.isPublic)) m ↔
        FirstWith (fun m => m.isPublic = true ∧ ∃ stop, validate c.name m = .error stop)
          c.methods m := by
    intro m
    rw [firstWith_filter_iff]
    exact FirstWith.congr fun m hm => and_congr_right fun _ => exists_congr (hnamed m hm)
  unfold publicDocs
  rw [mapM_eq_error_iff]
  constructor
  · rintro ⟨m, hm, hstop⟩
    have hm := (hfirst m).mp hm
    exact ⟨m, hm, (hnamed m hm.mem stop).mp hstop⟩
  · rintro ⟨m, hm, hstop⟩
    exact ⟨m, (hfirst m).mpr hm, (hnamed m hm.mem stop).mpr hstop⟩

/-- Documentations under texts can be recorded. -/
theorem exists_methodRecords {docs : List (Json × MethodDoc)} (hdocs : publicDocs c = .ok docs)
    (hnames : ∀ m ∈ c.methods, ∃ name, m.name = .str name) :
    ∃ methods, methodRecords docs = .ok methods := by
  have hsame : (c.methods.filter (·.isPublic)).map (·.name) = docs.map Prod.fst := by
    rw [← List.forall₂_eq_eq_eq, List.forall₂_map_left_iff, List.forall₂_map_right_iff]
    exact (forall₂_of_mapM hdocs).imp fun m d hd => (namedDoc_eq_ok hd).1
  have hlength : (docs.filterMap fun d =>
      (nameText? d.1).map fun name => (name, MethodRecord.single name d.2)).length =
        docs.length := by
    rw [List.filterMap_length_eq_length]
    intro d hd
    have hmem : d.1 ∈ (c.methods.filter (·.isPublic)).map (·.name) := by
      rw [hsame]
      exact List.mem_map_of_mem hd
    obtain ⟨m, hm, hmname⟩ := List.mem_map.mp hmem
    obtain ⟨name, hname⟩ := hnames m (List.mem_of_mem_filter hm)
    rw [← hmname, hname]
    rfl
  exact ⟨_, if_pos hlength⟩

/-- A class comment without characters is read like one that is not there. -/
theorem readClass_filter (comment : Option String) :
    readClass (comment.filter (· ≠ "")) = readClass comment :=
  apply_filter_ne_empty rfl comment

/-- A class whose comment says nothing is reported. -/
theorem classRecord_of_undocumented (hcomment : c.comment = commentValue comment)
    (hread : readClass comment = none) :
    (classRecord c).2 = .error (.failure (.missingClassDoc c.name)) := by
  simp only [classRecord, hcomment, commentText_commentValue, readClass_filter, hread]

/-- An internal class is passed over. -/
theorem classRecord_of_internal (hcomment : c.comment = commentValue comment)
    (hread : readClass comment = some classDoc) (hinternal : classDoc.hasTag "internal" = true) :
    (classRecord c).2 = .ok none := by
  simp only [classRecord, hcomment, commentText_commentValue, readClass_filter, hread, hinternal,
    if_true]

/-- Where a public method stops the work, so does its class. -/
theorem classRecord_of_stop (hcomment : c.comment = commentValue comment)
    (hread : readClass comment = some classDoc) (hpublished : classDoc.hasTag "internal" = false)
    (hdocs : publicDocs c = .error stop) : (classRecord c).2 = .error stop := by
  simp only [classRecord, hcomment, commentText_commentValue, readClass_filter, hread, hpublished,
    Bool.false_eq_true, if_false, hdocs]

/-- Where all public methods pass, the class is recorded. -/
theorem exists_classRecord_of_docs (hcomment : c.comment = commentValue comment)
    (hread : readClass comment = some classDoc) (hpublished : classDoc.hasTag "internal" = false)
    {docs : List (Json × MethodDoc)} (hdocs : publicDocs c = .ok docs)
    (hnames : ∀ m ∈ c.methods, ∃ name, m.name = .str name) :
    ∃ record, (classRecord c).2 = .ok (some record) := by
  obtain ⟨methods, hmethods⟩ := exists_methodRecords hdocs hnames
  refine ⟨⟨classDoc, mergeNegatives methods⟩, ?_⟩
  simp only [classRecord, hcomment, commentText_commentValue, readClass_filter, hread, hpublished,
    Bool.false_eq_true, if_false, hdocs, hmethods, Except.map]

/-- A class stops the work exactly if it fails, and then with its failure. -/
theorem classRecord_eq_error_iff (htyped : WellTyped c) :
    (classRecord c).2 = .error stop ↔ ∃ why, stop = .failure why ∧ Rejected c why := by
  obtain ⟨comment, hcomment⟩ := htyped.comment
  constructor
  · intro h
    cases hread : readClass comment with
    | none =>
      rw [classRecord_of_undocumented hcomment hread] at h
      obtain rfl := Except.error.inj h
      exact ⟨_, rfl, .undocumented hcomment hread⟩
    | some classDoc =>
      cases htag : classDoc.hasTag "internal" with
      | true =>
        rw [classRecord_of_internal hcomment hread htag] at h
        cases h
      | false =>
        cases hdocs : publicDocs c with
        | error stop' =>
          rw [classRecord_of_stop hcomment hread htag hdocs] at h
          obtain rfl := Except.error.inj h
          obtain ⟨m, hfirst, hstop⟩ := (publicDocs_eq_error_iff htyped.methodName).mp hdocs
          obtain ⟨why, rfl, -⟩ :=
            exists_failure_of_validate (htyped.methodComment m hfirst.mem) hstop
          exact ⟨why, rfl, .invalid hcomment hread htag hfirst hstop⟩
        | ok docs =>
          obtain ⟨record, hrecord⟩ :=
            exists_classRecord_of_docs hcomment hread htag hdocs htyped.methodName
          rw [hrecord] at h
          cases h
  · rintro ⟨why, rfl, hrejected⟩
    cases hrejected with
    | undocumented hcomment' hread => exact classRecord_of_undocumented hcomment' hread
    | @invalid _ _ m _ hcomment' hread hpublished hfirst hwhy =>
      apply classRecord_of_stop hcomment' hread hpublished
      exact (publicDocs_eq_error_iff htyped.methodName).mpr ⟨m, hfirst, hwhy⟩

/-- What a class is rejected for is one of the failures of collecting. -/
theorem Rejected.isCollectFailure {why : Failure} (htyped : WellTyped c) (h : Rejected c why) :
    IsCollectFailure why := by
  cases h with
  | undocumented _ _ => exact .missingClassDoc _
  | @invalid _ _ m _ _ _ _ hfirst hwhy =>
    obtain ⟨why', hsame, hkind⟩ :=
      exists_failure_of_validate (htyped.methodComment m hfirst.mem) hwhy
    exact Stop.failure.inj hsame ▸ hkind

end Classes

/-! ## The walk over the names -/

section Walk

variable {reflect : Reflector} {name : String} {names before : List String} {why : Failure}

/-- What a name fails for is one of the failures of collecting. -/
theorem NameFails.isCollectFailure (htyped : ∀ c, reflect name = some c → WellTyped c)
    (h : NameFails reflect name why) : IsCollectFailure why := by
  cases h with
  | unknown _ => exact .unknownClass name
  | rejected hc h => exact h.isCollectFailure (htyped _ hc)

/-- The names that can be read are those that do not fail. -/
theorem exists_outcome?_iff (htyped : ∀ c, reflect name = some c → WellTyped c) :
    (∃ outcome, outcome? reflect name = some outcome) ↔ ∀ why, ¬ NameFails reflect name why := by
  constructor
  · rintro ⟨outcome, houtcome⟩ why hfails
    obtain ⟨c, hc, hrecord⟩ := outcome?_eq_some_iff.mp houtcome
    cases hfails with
    | unknown hnone =>
      rw [hc] at hnone
      cases hnone
    | rejected hc' hrejected =>
      obtain rfl := Option.some.inj (hc.symm.trans hc')
      rw [(classRecord_eq_error_iff (htyped c hc)).mpr ⟨why, rfl, hrejected⟩] at hrecord
      cases hrecord
  · intro h
    cases hc : reflect name with
    | none => exact absurd (.unknown hc) (h _)
    | some c =>
      cases hrecord : (classRecord c).2 with
      | error stop =>
        obtain ⟨why, -, hrejected⟩ := (classRecord_eq_error_iff (htyped c hc)).mp hrecord
        exact absurd (.rejected hc hrejected) (h why)
      | ok outcome => exact ⟨outcome, outcome?_eq_some_iff.mpr ⟨c, hc, hrecord⟩⟩

/-- A name that fails is the last that is looked up. -/
theorem collectFrom_of_fails (htyped : ∀ c, reflect name = some c → WellTyped c)
    (h : NameFails reflect name why) (journal : Journal) (records : OrderedMap String ClassRecord)
    (after : List String) :
    (collectFrom reflect journal records (name :: after)).2 = .error (.failure why) ∧
      (collectFrom reflect journal records (name :: after)).1.lookups =
        journal.lookups ++ [name] := by
  cases h with
  | unknown hc => simp only [collectFrom, hc, and_self]
  | rejected hc h =>
    have hrecord := (classRecord_eq_error_iff (htyped _ hc)).mpr ⟨why, rfl, h⟩
    simp only [collectFrom, hc, hrecord, and_self]

/-- Names that can be read are looked up one after the other, and the walk goes on. -/
theorem collectFrom_of_reads
    (h : ∀ name ∈ before, ∃ outcome, outcome? reflect name = some outcome) (journal : Journal)
    (records : OrderedMap String ClassRecord) (rest : List String) :
    ∃ journal' records', journal'.lookups = journal.lookups ++ before ∧
      collectFrom reflect journal records (before ++ rest) =
        collectFrom reflect journal' records' rest := by
  induction before generalizing journal records with
  | nil => exact ⟨journal, records, (List.append_nil _).symm, rfl⟩
  | cons name before ih =>
    rw [List.forall_mem_cons] at h
    obtain ⟨⟨outcome, houtcome⟩, hrest⟩ := h
    obtain ⟨c, hc, hrecord⟩ := outcome?_eq_some_iff.mp houtcome
    -- Where one name can be read, the walk over the others starts with that name in the journal.
    have hstep : ∃ events records₁, collectFrom reflect journal records ((name :: before) ++ rest) =
        collectFrom reflect ⟨journal.lookups ++ [name], events⟩ records₁ (before ++ rest) := by
      rw [List.cons_append, collectFrom]
      simp only [hc, hrecord]
      cases outcome with
      | none => exact ⟨_, _, rfl⟩
      | some record => exact ⟨_, _, rfl⟩
    obtain ⟨events, records₁, hstep⟩ := hstep
    obtain ⟨journal', records', hlookups, hrun⟩ :=
      ih hrest ⟨journal.lookups ++ [name], events⟩ records₁
    refine ⟨journal', records', ?_, hstep.trans hrun⟩
    rw [hlookups, List.append_assoc, List.singleton_append]

/-- The first name that fails gives its failure, and the names up to it are looked up. -/
theorem collect_of_first_fails {after : List String}
    (htyped : ∀ n ∈ before ++ name :: after, ∀ c, reflect n = some c → WellTyped c)
    (hbefore : ∀ n ∈ before, ∀ why, ¬ NameFails reflect n why) (h : NameFails reflect name why) :
    (collect reflect (before ++ name :: after)).2 = .error (.failure why) ∧
      (collect reflect (before ++ name :: after)).1.lookups = before ++ [name] := by
  rw [List.forall_mem_append, List.forall_mem_cons] at htyped
  have hreads : ∀ n ∈ before, ∃ outcome, outcome? reflect n = some outcome :=
    fun n hn => (exists_outcome?_iff (htyped.1 n hn)).mpr (hbefore n hn)
  obtain ⟨journal, records, hlookups, hrun⟩ := collectFrom_of_reads hreads {} .empty (name :: after)
  obtain ⟨hstop, hlast⟩ := collectFrom_of_fails htyped.2.1 h journal records after
  rw [collect, hrun]
  exact ⟨hstop, hlast.trans (congrArg (· ++ [name]) hlookups)⟩

/-- Where no name fails, all are looked up and the work succeeds. -/
theorem collect_of_none_fails (htyped : ∀ n ∈ names, ∀ c, reflect n = some c → WellTyped c)
    (h : ∀ n ∈ names, ∀ why, ¬ NameFails reflect n why) :
    ∃ records, (collect reflect names).2 = .ok records ∧
      (collect reflect names).1.lookups = names := by
  have hreads : ∀ n ∈ names, ∃ outcome, outcome? reflect n = some outcome :=
    fun n hn => (exists_outcome?_iff (htyped n hn)).mpr (h n hn)
  obtain ⟨journal, records, hlookups, hrun⟩ := collectFrom_of_reads hreads {} .empty []
  rw [List.append_nil] at hrun
  rw [collect, hrun]
  exact ⟨records.sorted, rfl, hlookups⟩

/-- Whatever ends the work is a failure of one of the kinds there are. -/
theorem exists_failure_of_collect (htyped : ∀ n ∈ names, ∀ c, reflect n = some c → WellTyped c)
    {stop : Stop} (h : (collect reflect names).2 = .error stop) :
    ∃ why, stop = .failure why ∧ IsCollectFailure why := by
  by_cases hfails : ∃ name ∈ names, ∃ why, NameFails reflect name why
  · obtain ⟨name, hname, hwhy⟩ := hfails
    obtain ⟨first, before, after, rfl, ⟨why, hwhy⟩, hbefore⟩ :=
      exists_firstWith (p := fun n => ∃ why, NameFails reflect n why) hname hwhy
    obtain ⟨hstop, -⟩ := collect_of_first_fails htyped
      (fun n hn why hfails => hbefore n hn ⟨why, hfails⟩) hwhy
    have htyped' := htyped first (List.mem_append_right before List.mem_cons_self)
    exact ⟨why, Except.error.inj (h.symm.trans hstop), hwhy.isCollectFailure htyped'⟩
  · obtain ⟨records, hok, -⟩ := collect_of_none_fails htyped
      fun n hn why hwhy => hfails ⟨n, hn, why, hwhy⟩
    rw [hok] at h
    cases h

end Walk

/-! ## What is looked up -/

/-- Tells that nothing is looked up in vain while the record of a class is made: not the declared
parameters of a method that is documented as declared, and not the names that pairing visits. -/
structure FindsAll (c : ReflectedClass) : Prop where
  params : ∀ m ∈ c.methods, ∀ parsed, mismatch? parsed m.params = none →
    attachParams? parsed m.params = some (attachParams parsed m.params)
  names : ∀ docs methods, publicDocs c = .ok docs → methodRecords docs = .ok methods →
    methods.sorted.keys.foldlM visit? methods.sorted = some (mergeNegatives methods)

/-- This holds of every class. -/
theorem findsAll (c : ReflectedClass) : FindsAll c where
  params _ _ _ hmismatch := attachParams?_eq_some (mismatch?_eq_none_iff.mp hmismatch).1
  names _ methods _ _ :=
    MergedUpTo.foldlM_visit? (OrderedMap.sorted_keys_pairwise methods) (List.nil_append _).symm
      (MergedUpTo.start methods.sorted)

/-- The first requested name that fails ends the work with its failure, and no name after it is
looked up; where none fails, all are looked up and the work succeeds. What ends the work is a
failure of one of the kinds there are, and nothing is looked up in vain. -/
theorem collect_stops_at_first_failure {reflect : Reflector} {names : List String}
    (htyped : ∀ name ∈ names, ∀ c, reflect name = some c → WellTyped c) :
    (∀ before name after why, names = before ++ name :: after →
      (∀ n ∈ before, ∀ why, ¬ NameFails reflect n why) → NameFails reflect name why →
        (collect reflect names).2 = .error (.failure why) ∧
          (collect reflect names).1.lookups = before ++ [name]) ∧
    ((∀ name ∈ names, ∀ why, ¬ NameFails reflect name why) →
      ∃ records, (collect reflect names).2 = .ok records ∧
        (collect reflect names).1.lookups = names) ∧
    (∀ stop, (collect reflect names).2 = .error stop →
      ∃ why, stop = .failure why ∧ IsCollectFailure why) ∧
    ∀ name ∈ names, ∀ c, reflect name = some c → FindsAll c := by
  refine ⟨?_, collect_of_none_fails htyped, fun stop => exists_failure_of_collect htyped,
    fun name _ c _ => findsAll c⟩
  rintro before name after why rfl hbefore hfails
  exact collect_of_first_fails htyped hbefore hfails

/-- A public method that passes validation, under this name. -/
def describedMethod (name : String) : ReflectedMethod :=
  { name := .str name, comment := .str "/**\n * Checks a value.\n */" }

/-- An internal class with a public method that has no comment, a class with such a method that is
not public, and a class with such a public method after one that passes. -/
def faultyClasses : Reflector
  | "Inner" => some {
      name := "Inner"
      comment := .str "/**\n * @internal\n */"
      methods := [{ name := .str "help" }] }
  | "Length" => some {
      name := "Length"
      comment := .str "/**\n * Checks lengths.\n */"
      methods := [{ name := .str "measure", isPublic := false }, describedMethod "assertLength"] }
  | "Broken" => some {
      name := "Broken"
      comment := .str "/**\n * Checks values.\n */"
      methods := [describedMethod "assertSame", { name := .str "assertBroken" }] }
  | _ => none

/-- Those classes have comments and names that are texts. -/
theorem wellTyped_faultyClasses (name : String) (c : ReflectedClass)
    (h : faultyClasses name = some c) : WellTyped c := by
  unfold faultyClasses at h
  split at h
  case h_4 => cases h
  all_goals
    obtain rfl := Option.some.inj h
    constructor <;> simp [exists_commentValue_iff, describedMethod]

/-- The class `Broken` fails for its second method, which has no comment. -/
theorem nameFails_faultyClasses :
    NameFails faultyClasses "Broken" (.missingMethodDoc "Broken" "assertBroken") := by
  have hpasses : (validate "Broken" (describedMethod "assertSame")).isOk = true := by
    decide +kernel
  have hwhy : validate "Broken" { name := .str "assertBroken" } =
      .error (.failure (.missingMethodDoc "Broken" "assertBroken")) := rfl
  have hcomment : Json.str "/**\n * Checks values.\n */" = commentValue (some _) := rfl
  refine .rejected rfl (.invalid hcomment rfl (by decide +kernel) ?_ hwhy)
  refine ⟨[_], [], rfl, ⟨rfl, _, hwhy⟩, ?_⟩
  rw [List.forall_mem_singleton]
  rintro ⟨-, stop, hstop⟩
  rw [hstop] at hpasses
  cases hpasses

/-- The method without a comment is found behind the two classes that pass, and the name that is not
known is not looked up. -/
theorem collect_faultyClasses :
    (∀ name ∈ ["Inner", "Length", "Broken", "Nowhere"], ∀ c, faultyClasses name = some c →
      WellTyped c) ∧
    (collect faultyClasses ["Inner", "Length", "Broken", "Nowhere"]).2 =
        .error (.failure (.missingMethodDoc "Broken" "assertBroken")) ∧
      (collect faultyClasses ["Inner", "Length", "Broken", "Nowhere"]).1.lookups =
        ["Inner", "Length", "Broken"] := by
  have htyped : ∀ name ∈ ["Inner", "Length", "Broken", "Nowhere"], ∀ c,
      faultyClasses name = some c → WellTyped c :=
    fun name _ => wellTyped_faultyClasses name
  have hreads : ∀ name ∈ ["Inner", "Length"], (outcome? faultyClasses name).isSome = true := by
    decide +kernel
  have hbefore : ∀ name ∈ ["Inner", "Length"], ∀ why, ¬ NameFails faultyClasses name why := by
    intro name hname
    rw [← exists_outcome?_iff (wellTyped_faultyClasses name)]
    exact Option.isSome_iff_exists.mp (hreads name hname)
  exact ⟨htyped, (collect_stops_at_first_failure htyped).1 ["Inner", "Length"] "Broken" ["Nowhere"]
    _ rfl hbefore nameFails_faultyClasses⟩

end Catalog

end TraitDocs
