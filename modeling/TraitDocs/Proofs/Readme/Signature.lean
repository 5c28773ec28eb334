import TraitDocs.Proofs.Docblock.Parameters
import TraitDocs.Proofs.Text.Run
import TraitDocs.Proofs.Text.Word
import TraitDocs.Readme.Signature

/-!
# Signatures can be read in one way

Two lists of parameters have the same signature only if they are the same: the names, the types and
the default values, and their order, can be told from the text. A type ends at the first blank, and
a name with its last word character. What comes next says whether there is a default value: an
equals sign, or else the end or the separator before another parameter (`Follows`). A default value
ends at the bracket after it, which only a text in quotes can hold.

`signaturePart_append_inj` tells one parameter from whatever may follow it; a signature is then read
from its front.
-/

set_option autoImplicit false

namespace TraitDocs.Readme

open Docblock Text

/-! ## One parameter -/

section Boundaries

variable {rest rest' : List Char}

/-- A type and a name with a dollar sign, after which no word character comes, can be told from what
follows them. -/
theorem typed_append_inj {type type' name name' : List Char}
    (htype : ∀ c ∈ type, isBlank c = false) (htype' : ∀ c ∈ type', isBlank c = false)
    (hname : ∀ c ∈ name, isWord c = true) (hname' : ∀ c ∈ name', isWord c = true)
    (hrest : ∀ c ∈ rest.head?, isWord c = false) (hrest' : ∀ c ∈ rest'.head?, isWord c = false)
    (h : type ++ ' ' :: '$' :: (name ++ rest) = type' ++ ' ' :: '$' :: (name' ++ rest')) :
    type = type' ∧ name = name' ∧ rest = rest' := by
  have hsolid : ∀ cs : List Char, (∀ c ∈ cs, isBlank c = false) → ' ' ∉ cs := by
    intro cs hcs hmem
    exact absurd (hcs ' ' hmem) (by decide)
  obtain ⟨htypes, hafter⟩ := append_cons_inj (hsolid type htype) (hsolid type' htype') h
  obtain ⟨hnames, hrests⟩ := run_append_inj hname hrest hname' hrest' (List.cons.inj hafter).2
  exact ⟨htypes, hnames, hrests⟩

end Boundaries

/-! ## Default values -/

/-- Tells that a value is shown without quotes: it is null, a truth value or a whole number. -/
inductive IsBare : Json → Prop
  | null : IsBare .null
  | bool (value : Bool) : IsBare (.bool value)
  | int (value : Int) : IsBare (.int value)

/-- Tells that a value is one whose end can be told where it is shown: it is shown without quotes,
or it is a text that does not hold the quote. -/
inductive IsPlain : Json → Prop
  | bare {value : Json} (h : IsBare value) : IsPlain value
  | quoted {text : String} (h : '\'' ∉ text.toList) : IsPlain (.str text)

section Literals

variable {value value' : Json} {rest rest' : List Char} {c : Char}

/-- The text of a natural number consists of digits. -/
theorem isDigit_of_mem_repr {m : Nat} (hc : c ∈ m.repr.toList) : c.isDigit = true := by
  rw [Nat.toList_repr] at hc
  exact Nat.isDigit_of_mem_toDigits (by decide) (by decide) hc

/-- The text of a whole number consists of digits, with a sign before them if it is negative. -/
theorem mem_toList_toString_int {n : Int} (hc : c ∈ (toString n).toList) :
    c = '-' ∨ c.isDigit = true := by
  rw [Int.toString_eq_repr, Int.repr_eq_if] at hc
  split at hc
  · exact Or.inr (isDigit_of_mem_repr hc)
  · rw [String.toList_append, List.mem_append] at hc
    obtain hsign | hnumber := hc
    · exact Or.inl (List.mem_singleton.mp hsign)
    · exact Or.inr (isDigit_of_mem_repr hnumber)

/-- A whole number can be read back from its sign and its digits. -/
theorem toString_int_inj {n n' : Int} (h : toString n = toString n') : n = n' := by
  have hread : ∀ {m m' : Nat}, m.repr = m'.repr → m = m' := by
    intro m m' heq
    have hdigits : Nat.toDigits 10 m = Nat.toDigits 10 m' := by
      rw [← Nat.toList_repr, heq, Nat.toList_repr]
    calc m = Nat.ofDigitChars 10 (Nat.toDigits 10 m) 0 := Nat.ofDigitChars_ten_toDigits.symm
      _ = m' := by rw [hdigits, Nat.ofDigitChars_ten_toDigits]
  have hsigned : ∀ m m' : Nat, m.repr ≠ "-" ++ m'.repr := by
    intro m m' heq
    have hsign : '-' ∈ m.repr.toList := by
      rw [heq, String.toList_append]
      exact List.mem_append_left _ (List.mem_singleton_self '-')
    exact absurd (isDigit_of_mem_repr hsign) (by decide)
  rw [Int.toString_eq_repr, Int.toString_eq_repr, Int.repr_eq_if, Int.repr_eq_if] at h
  split at h <;> split at h
  · have := hread h
    omega
  · exact absurd h (hsigned _ _)
  · exact absurd h.symm (hsigned _ _)
  · have := hread ((String.append_right_inj "-").mp h)
    omega

/-- A text with a letter in it is not that of a whole number. -/
theorem ne_toString_int {text : String} (hc : c ∈ text.toList) (hsign : c ≠ '-')
    (hdigit : c.isDigit = false) (n : Int) : text ≠ toString n := by
  rintro rfl
  obtain h | h := mem_toList_toString_int hc
  · exact hsign h
  · rw [h] at hdigit
    cases hdigit

/-- A value that is shown without quotes shows neither the quote nor the bracket. -/
theorem mem_literal_of_isBare (h : IsBare value) (hc : c ∈ (literal value).toList) :
    c ≠ '\'' ∧ c ≠ ']' := by
  cases h with
  | null =>
    revert c
    decide
  | bool value =>
    revert c
    cases value <;> decide
  | int n =>
    have hc : c ∈ (toString n).toList := hc
    obtain rfl | hdigit := mem_toList_toString_int hc
    · decide
    · constructor
      · rintro rfl
        exact absurd hdigit (by decide)
      · rintro rfl
        exact absurd hdigit (by decide)

/-- A value that is shown without quotes can be told from how it is shown. -/
theorem literal_inj_of_isBare (h : IsBare value) (h' : IsBare value')
    (heq : literal value = literal value') : value = value' := by
  have hnull : ∀ n : Int, "null" ≠ toString n :=
    ne_toString_int (c := 'u') (by decide) (by decide) (by decide)
  have hbool : ∀ (b : Bool) (n : Int), literal (.bool b) ≠ toString n := by
    intro b
    apply ne_toString_int (c := 'e') <;> cases b <;> decide
  cases h with
  | null =>
    cases h' with
    | null => rfl
    | bool b => cases b <;> exact absurd heq (by decide)
    | int n => exact absurd heq (hnull n)
  | bool b =>
    cases h' with
    | null => cases b <;> exact absurd heq (by decide)
    | bool b' =>
      congr 1
      revert heq
      cases b <;> cases b' <;> decide
    | int n => exact absurd heq (hbool b n)
  | int n =>
    cases h' with
    | null => exact absurd heq.symm (hnull n)
    | bool b => exact absurd heq.symm (hbool b n)
    | int n' =>
      rw [toString_int_inj heq]

/-- A text is shown in quotes. -/
theorem toList_literal_str (text : String) :
    (literal (.str text)).toList = '\'' :: (text.toList ++ ['\'']) := by
  simp [literal]

/-- A value that is shown without quotes does not start as a text does. -/
theorem literal_append_ne_quote (h : IsBare value) :
    (literal value).toList ++ ']' :: rest ≠ '\'' :: rest' := by
  intro heq
  cases hcs : (literal value).toList with
  | nil =>
    rw [hcs] at heq
    exact absurd (List.cons.inj heq).1 (by decide)
  | cons c cs =>
    rw [hcs] at heq
    have hmem : '\'' ∈ (literal value).toList := by
      rw [hcs, ← (List.cons.inj heq).1]
      exact List.mem_cons_self
    exact (mem_literal_of_isBare h hmem).1 rfl

/-- A default value can be told from what follows the bracket after it. -/
theorem literal_append_inj (h : IsPlain value) (h' : IsPlain value')
    (heq : (literal value).toList ++ ']' :: rest = (literal value').toList ++ ']' :: rest') :
    value = value' ∧ rest = rest' := by
  cases h with
  | bare h =>
    cases h' with
    | bare h' =>
      have hnot : ∀ {v : Json}, IsBare v → ']' ∉ (literal v).toList :=
        fun hv hmem => (mem_literal_of_isBare hv hmem).2 rfl
      obtain ⟨hliteral, hrest⟩ := append_cons_inj (hnot h) (hnot h') heq
      exact ⟨literal_inj_of_isBare h h' (String.toList_inj.mp hliteral), hrest⟩
    | quoted h' =>
      rw [toList_literal_str] at heq
      exact absurd heq (literal_append_ne_quote h)
  | @quoted text h =>
    cases h' with
    | bare h' =>
      rw [toList_literal_str] at heq
      exact absurd heq.symm (literal_append_ne_quote h')
    | @quoted text' h' =>
      simp only [toList_literal_str, List.cons_append, List.append_assoc, List.nil_append,
        List.cons.injEq, true_and] at heq
      obtain ⟨htext, hrest⟩ := append_cons_inj h h' heq
      exact ⟨congrArg Json.str (String.toList_inj.mp htext), (List.cons.inj hrest).2⟩

end Literals

/-! ## Parameters -/

/-- Tells that a parameter is one that its text in a signature fixes: its name and its type have the
form that a comment gives them, and its default value is plain, and null where it does not count. -/
structure Legible (name : String) (p : ParamDoc) : Prop where
  form : HasParamForm name p.type
  plain : IsPlain p.default
  default_eq : p.hasDefault = false → p.default = .null

/-- Tells that a text can follow a parameter in a signature: it is empty, or starts with what stands
before a later parameter. -/
inductive Follows : List Char → Prop
  | nothing : Follows []
  | required (rest : List Char) : Follows (',' :: rest)
  | optional (rest : List Char) : Follows (' ' :: '[' :: rest)

/-- What stands before the type of a parameter. -/
def beforeType (first hasDefault : Bool) : List Char :=
  (if hasDefault then (if first then ['['] else [' ', '[']) else []) ++
    if first then [] else [',', ' ']

/-- The text after the name of a parameter, with what follows the parameter. -/
def afterName (p : ParamDoc) (rest : List Char) : List Char :=
  if p.hasDefault then ' ' :: '=' :: ' ' :: ((literal p.default).toList ++ ']' :: rest) else rest

section Parameters

variable {name name' : String} {p p' : ParamDoc} {rest rest' : List Char} {first : Bool}

/-- The text of a parameter and of what follows it, cut after the type and after the name. -/
theorem toList_signaturePart_append (first : Bool) (name : String) (p : ParamDoc)
    (rest : List Char) :
    (signaturePart first name p).toList ++ rest =
      beforeType first p.hasDefault ++
        (p.type.toList ++ ' ' :: '$' :: (name.toList ++ afterName p rest)) := by
  unfold signaturePart beforeType afterName
  cases first <;> cases p.hasDefault <;> simp

/-- No word character comes after the name of a parameter. -/
theorem isWord_of_mem_head?_afterName (h : Follows rest) :
    ∀ c ∈ (afterName p rest).head?, isWord c = false := by
  have hblank : isWord ' ' = false := by decide +kernel
  have hcomma : isWord ',' = false := by decide +kernel
  unfold afterName
  split
  · simp [hblank]
  · cases h with
    | nothing => simp
    | required rest => simp [hcomma]
    | optional rest => simp [hblank]

/-- After the name, a parameter with a default value is told from one without by the equals sign. -/
theorem afterName_inj (hp : Legible name p) (hp' : Legible name' p') (hrest : Follows rest)
    (hrest' : Follows rest') (h : afterName p rest = afterName p' rest') :
    p.hasDefault = p'.hasDefault ∧ p.default = p'.default ∧ rest = rest' := by
  have hequals : ∀ {rest after : List Char}, Follows rest → rest ≠ ' ' :: '=' :: after := by
    rintro rest after hrest rfl
    cases hrest
  unfold afterName at h
  cases hd : p.hasDefault with
  | false =>
    cases hd' : p'.hasDefault with
    | false =>
      simp only [hd, hd', Bool.false_eq_true, if_false] at h
      exact ⟨rfl, (hp.default_eq hd).trans (hp'.default_eq hd').symm, h⟩
    | true =>
      simp only [hd, hd', Bool.false_eq_true, if_false, if_true] at h
      exact absurd h (hequals hrest)
  | true =>
    cases hd' : p'.hasDefault with
    | false =>
      simp only [hd, hd', Bool.false_eq_true, if_false, if_true] at h
      exact absurd h.symm (hequals hrest')
    | true =>
      simp only [hd, hd', if_true, List.cons.injEq, true_and] at h
      exact ⟨rfl, literal_append_inj hp.plain hp'.plain h⟩

/-- Parameters with the same parts are the same. -/
theorem param_ext (htype : p.type = p'.type) (hhas : p.hasDefault = p'.hasDefault)
    (hdefault : p.default = p'.default) : p = p' := by
  cases p
  cases p'
  cases htype
  cases hhas
  cases hdefault
  rfl

/-- What stands before the type of the first parameter could be the start of the type. -/
theorem beforeType_first_solid (hasDefault : Bool) :
    ∀ c ∈ beforeType true hasDefault, isBlank c = false := by
  cases hasDefault <;> decide

/-- What stands before the type of a later parameter says whether it has a default value. -/
theorem beforeType_later_append_inj {d d' : Bool}
    (h : beforeType false d ++ rest = beforeType false d' ++ rest') : d = d' ∧ rest = rest' := by
  cases d <;> cases d' <;> simp_all [beforeType]

/-- A parameter can be told from what follows it in a signature. -/
theorem signaturePart_append_inj (hp : Legible name p) (hp' : Legible name' p')
    (hrest : Follows rest) (hrest' : Follows rest')
    (h : (signaturePart first name p).toList ++ rest =
      (signaturePart first name' p').toList ++ rest') :
    name = name' ∧ p = p' ∧ rest = rest' := by
  rw [toList_signaturePart_append, toList_signaturePart_append] at h
  have hafter := isWord_of_mem_head?_afterName (p := p) hrest
  have hafter' := isWord_of_mem_head?_afterName (p := p') hrest'
  cases first with
  | true =>
    -- A bracket before the first type can belong to the type: only the text after the name tells.
    rw [← List.append_assoc, ← List.append_assoc] at h
    have hsolid : ∀ c ∈ beforeType true p.hasDefault ++ p.type.toList, isBlank c = false :=
      List.forall_mem_append.mpr ⟨beforeType_first_solid _, hp.form.type_solid⟩
    have hsolid' : ∀ c ∈ beforeType true p'.hasDefault ++ p'.type.toList, isBlank c = false :=
      List.forall_mem_append.mpr ⟨beforeType_first_solid _, hp'.form.type_solid⟩
    obtain ⟨htype, hname, hend⟩ := typed_append_inj hsolid hsolid' hp.form.name_word
      hp'.form.name_word hafter hafter' h
    obtain ⟨hhas, hdefault, hrests⟩ := afterName_inj hp hp' hrest hrest' hend
    rw [hhas] at htype
    have htype := String.toList_inj.mp (List.append_cancel_left htype)
    exact ⟨String.toList_inj.mp hname, param_ext htype hhas hdefault, hrests⟩
  | false =>
    obtain ⟨hhas, hcore⟩ := beforeType_later_append_inj h
    obtain ⟨htype, hname, hend⟩ := typed_append_inj hp.form.type_solid hp'.form.type_solid
      hp.form.name_word hp'.form.name_word hafter hafter' hcore
    obtain ⟨-, hdefault, hrests⟩ := afterName_inj hp hp' hrest hrest' hend
    exact ⟨String.toList_inj.mp hname, param_ext (String.toList_inj.mp htype) hhas hdefault, hrests⟩

end Parameters

/-! ## Lists of parameters -/

/-- The text of parameters, of which the first may be the first of its signature. -/
def textFrom (first : Bool) : List (String × ParamDoc) → List Char
  | [] => []
  | e :: es => (signaturePart first e.1 e.2).toList ++ textFrom false es

/-- After the first parameter, the texts of the others follow one another. -/
theorem textFrom_later (es : List (String × ParamDoc)) :
    textFrom false es = es.flatMap fun e => (signaturePart false e.1 e.2).toList := by
  induction es with
  | nil => rfl
  | cons e es ih => rw [textFrom, ih, List.flatMap_cons]

/-- A signature is the text of its parameters from the first on. -/
theorem toList_signature (params : OrderedMap String ParamDoc) :
    (signature params).toList = textFrom true params.entries := by
  rw [signature, String.toList_join]
  cases params.entries with
  | nil => rfl
  | cons e es => rw [signatureParts, List.flatMap_cons, List.flatMap_map, textFrom, textFrom_later]

/-- What follows a parameter is the end or the separator before another one. -/
theorem follows_textFrom (es : List (String × ParamDoc)) : Follows (textFrom false es) := by
  cases es with
  | nil => exact .nothing
  | cons e es =>
    rw [textFrom, toList_signaturePart_append]
    cases e.2.hasDefault with
    | false => exact .required _
    | true => exact .optional _

/-- The text of a parameter is not empty. -/
theorem textFrom_cons_ne_nil (first : Bool) (e : String × ParamDoc)
    (es : List (String × ParamDoc)) : textFrom first (e :: es) ≠ [] := by
  rw [textFrom, toList_signaturePart_append]
  simp

/-- Parameters are read from the front, one after the other. -/
theorem textFrom_inj {first : Bool} {es es' : List (String × ParamDoc)}
    (h : ∀ e ∈ es, Legible e.1 e.2) (h' : ∀ e ∈ es', Legible e.1 e.2)
    (heq : textFrom first es = textFrom first es') : es = es' := by
  induction es generalizing first es' with
  | nil =>
    cases es' with
    | nil => rfl
    | cons e' es' => exact absurd heq.symm (textFrom_cons_ne_nil first e' es')
  | cons e es ih =>
    cases es' with
    | nil => exact absurd heq (textFrom_cons_ne_nil first e es)
    | cons e' es' =>
      rw [List.forall_mem_cons] at h h'
      obtain ⟨hname, hparam, hrest⟩ := signaturePart_append_inj h.1 h'.1 (follows_textFrom es)
        (follows_textFrom es') heq
      rw [ih h.2 h'.2 hrest, Prod.ext hname hparam]

/-- Where parameters are legible, their signature fixes their names, types and default values, and
the order in which they stand. -/
theorem signature_eq_iff_params_eq {params params' : OrderedMap String ParamDoc}
    (h : ∀ e ∈ params.entries, Legible e.1 e.2) (h' : ∀ e ∈ params'.entries, Legible e.1 e.2) :
    signature params = signature params' ↔ params = params' := by
  constructor
  · intro heq
    rw [← String.toList_inj, toList_signature, toList_signature] at heq
    exact OrderedMap.ext (textFrom_inj h h' heq)
  · rintro rfl
    rfl

/-- A parameter without a default value whose type starts with a bracket, and one with a default
value that looks like the start of another parameter. -/
def bracketed : OrderedMap String ParamDoc :=
  .ofList [("row", ⟨"[int", false, .null⟩), ("key", ⟨"$a=,", true, .str "] [, int $n = 1]"⟩)]

/-- Parameters whose signature starts as the one above does. -/
def optionalRow : OrderedMap String ParamDoc :=
  .ofList [("row", ⟨"int", true, .null⟩), ("key", ⟨"$a=,", true, .int (-1)⟩)]

/-- The first two parameters are fixed by their text. -/
theorem legible_bracketed : ∀ e ∈ bracketed.entries, Legible e.1 e.2 := by
  have hentries : bracketed.entries =
      [("row", ⟨"[int", false, .null⟩), ("key", ⟨"$a=,", true, .str "] [, int $n = 1]"⟩)] := rfl
  rw [hentries, List.forall_mem_cons, List.forall_mem_singleton]
  constructor
  · exact ⟨⟨by decide, by decide +kernel, by decide, by decide⟩, .bare .null, fun _ => rfl⟩
  · exact ⟨⟨by decide, by decide +kernel, by decide, by decide⟩, .quoted (by decide), nofun⟩

/-- The other two parameters are fixed by their text. -/
theorem legible_optionalRow : ∀ e ∈ optionalRow.entries, Legible e.1 e.2 := by
  have hentries : optionalRow.entries =
      [("row", ⟨"int", true, .null⟩), ("key", ⟨"$a=,", true, .int (-1)⟩)] := rfl
  rw [hentries, List.forall_mem_cons, List.forall_mem_singleton]
  constructor
  · exact ⟨⟨by decide, by decide +kernel, by decide, by decide⟩, .bare .null, nofun⟩
  · exact ⟨⟨by decide, by decide +kernel, by decide, by decide⟩, .bare (.int (-1)), nofun⟩

/-- Both signatures start with a bracket, a type and the same name, and they are told apart. -/
theorem signature_bracketed_ne :
    (∀ e ∈ bracketed.entries, Legible e.1 e.2) ∧ (∀ e ∈ optionalRow.entries, Legible e.1 e.2) ∧
      signature bracketed ≠ signature optionalRow := by
  refine ⟨legible_bracketed, legible_optionalRow, fun hsame => ?_⟩
  have hparams := (signature_eq_iff_params_eq legible_bracketed legible_optionalRow).mp hsame
  have htypes : bracketed.values.map ParamDoc.type ≠ optionalRow.values.map ParamDoc.type := by
    decide
  exact htypes (by rw [hparams])

end TraitDocs.Readme
