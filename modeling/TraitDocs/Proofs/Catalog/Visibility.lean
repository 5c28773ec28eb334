import TraitDocs.Proofs.Catalog.Collection

/-!
# What the document does not show of a class

Of a class the document can show its name, its comment and, unless it is internal, its public
methods. Two sources of classes that agree on these give the same document, or stop for the same
reason, with the same lookups and the same log: methods that are not public, and all methods of an
internal class, can be anything, also something that would stop the work if it were looked at.

`SameSurface.classRecord_eq` says this of one class, `collectFrom_congr` of the walk over the
requested names.
-/

set_option autoImplicit false

namespace TraitDocs.Catalog

open Docblock

/-- Tells that two classes look the same from outside: they have the same name and the same comment
and, unless that makes them internal, the same public methods in the same order. -/
structure SameSurface (c c' : ReflectedClass) : Prop where
  name_eq : c'.name = c.name
  comment_eq : c'.comment = c.comment
  public_eq : IsPublished c → c'.methods.filter (·.isPublic) = c.methods.filter (·.isPublic)

/-- Published classes with the same surface have the same documentations of public methods. -/
theorem SameSurface.publicDocs_eq {c c' : ReflectedClass} (h : SameSurface c c')
    (hpublished : IsPublished c) : publicDocs c' = publicDocs c := by
  unfold publicDocs
  rw [h.name_eq, h.public_eq hpublished]

/-- Classes that look the same give the same record, or stop for the same reason, and log the
same. -/
theorem SameSurface.classRecord_eq {c c' : ReflectedClass} (h : SameSurface c c') :
    classRecord c' = classRecord c := by
  unfold classRecord
  rw [h.comment_eq, h.name_eq]
  cases hcomment : commentText c.comment with
  | error fault => rfl
  | ok comment =>
    cases hread : readClass comment with
    | none => simp only [hread]
    | some classDoc =>
      by_cases hinternal : classDoc.hasTag "internal" = true
      · -- The methods of an internal class are never looked at.
        simp only [hread, hinternal, if_true]
      · have hpublished : IsPublished c :=
          ⟨comment, classDoc, hcomment, hread, by simpa using hinternal⟩
        simp only [hread, hinternal, h.publicDocs_eq hpublished]

/-- Classes with the same surface have the same record, or fail in the same way. -/
theorem map_classRecord_of_sameSurface {c c' : Option ReflectedClass}
    (h : Option.Rel SameSurface c c') : c'.map classRecord = c.map classRecord := by
  cases h with
  | none => rfl
  | some hsurface => simp only [Option.map_some, hsurface.classRecord_eq]

/-- The walk over names sees of each class only the record that it gives and what it logs. -/
theorem collectFrom_congr {reflect reflect' : Reflector} {names : List String}
    (h : ∀ name ∈ names, (reflect' name).map classRecord = (reflect name).map classRecord)
    (journal : Journal) (records : OrderedMap String ClassRecord) :
    collectFrom reflect' journal records names = collectFrom reflect journal records names := by
  induction names generalizing journal records with
  | nil => rfl
  | cons name names ih =>
    rw [List.forall_mem_cons] at h
    obtain ⟨hname, hrest⟩ := h
    have ih := ih hrest
    unfold collectFrom
    cases hc : reflect name with
    | none =>
      have hc' : reflect' name = none := by simpa [hc] using hname
      simp only [hc']
    | some c =>
      obtain ⟨c', hc', hrecord⟩ :
          ∃ c', reflect' name = some c' ∧ classRecord c' = classRecord c := by
        simpa [hc] using hname
      simp only [hc', hrecord, ih]

/-- Where two sources know the same requested names and their classes look the same, the same
document is generated, or the work stops for the same reason; what is looked up and logged is the
same too. -/
theorem generate_eq_of_sameSurface {reflect reflect' : Reflector} {names : List String}
    (h : ∀ name ∈ names, Option.Rel SameSurface (reflect name) (reflect' name))
    (template : String) :
    generate reflect' template names = generate reflect template names := by
  have hrecords : ∀ name ∈ names,
      (reflect' name).map classRecord = (reflect name).map classRecord := by
    intro name hname
    exact map_classRecord_of_sameSurface (h name hname)
  unfold generate collect
  rw [collectFrom_congr hrecords]

/-- A class with one public assertion and other methods that are not public, and an internal
class. -/
def veiledClasses (veiled inner : List ReflectedMethod) : Reflector
  | "Inner" => some {
      name := "Inner", comment := .str "/**\n * @internal\n */", methods := inner }
  | "Length" => some {
      name := "Length"
      comment := .str "/**\n * Checks lengths.\n */"
      methods := veiled.map ({ · with isPublic := false }) ++
        [{ name := .str "assertLength", comment := .str "/**\n * Checks a length.\n */" }] }
  | _ => none

/-- A method whose comment cannot be read, and whose name denies the public assertion. -/
def unreadableNegative : ReflectedMethod where
  name := .str "assertNotLength"
  comment := .str "/**\n * @param int\n */"

/-- A class with this comment is internal, whatever its methods are. -/
theorem not_isPublished_inner (methods : List ReflectedMethod) :
    ¬ IsPublished ⟨"Inner", .str "/**\n * @internal\n */", methods⟩ := by
  rintro ⟨comment, classDoc, hcomment, hread, hnot⟩
  have hinternal : ((readClass (some "/**\n * @internal\n */")).map
      fun classDoc => classDoc.hasTag "internal") = some true := by
    decide +kernel
  obtain rfl : some "/**\n * @internal\n */" = comment := Except.ok.inj hcomment
  rw [hread, Option.map_some, hnot] at hinternal
  cases hinternal

/-- Methods that would stop the work change nothing where they cannot be seen. -/
theorem generate_veiledClasses :
    generate (veiledClasses [unreadableNegative] [unreadableNegative]) Readme.builtInTemplate
        ["Length", "Inner"] =
      generate (veiledClasses [] []) Readme.builtInTemplate ["Length", "Inner"] := by
  refine generate_eq_of_sameSurface ?_ _
  rw [List.forall_mem_cons, List.forall_mem_singleton]
  constructor
  · exact .some ⟨rfl, rfl, fun _ => rfl⟩
  · exact .some ⟨rfl, rfl, fun hpublished => absurd hpublished (not_isPublished_inner [])⟩

end TraitDocs.Catalog
