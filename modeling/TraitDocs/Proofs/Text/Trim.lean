import TraitDocs.Text.Blank

/-!
# Trimmed texts

A text is trimmed if neither end of it is blank. Trimming a text gives a trimmed one, leaves a
trimmed one as it is, and does not see blanks that are put around a text.
-/

set_option autoImplicit false

namespace TraitDocs.Text

-- A property of the characters of a text is decided on the text; where a way to decide it on all
-- characters there are is known as well, these two come first.
instance decidableForallMem (p : Char → Prop) [DecidablePred p] (cs : List Char) :
    Decidable (∀ c ∈ cs, p c) :=
  List.decidableBAll p cs

instance decidableForallMemOption (p : Char → Prop) [DecidablePred p] (o : Option Char) :
    Decidable (∀ c ∈ o, p c) :=
  match o with
  | none => .isTrue fun _ hc => nomatch hc
  | some c => decidable_of_iff (p c) ⟨fun h _ hc => Option.some.inj hc ▸ h, fun h => h c rfl⟩

/-- Tells that a text is not blank at either end. -/
structure IsTrimmed (cs : List Char) : Prop where
  head : ∀ c ∈ cs.head?, isBlank c = false
  last : ∀ c ∈ cs.getLast?, isBlank c = false

/-- A line break is blank. -/
theorem isLineBreak_of_isBlank {c : Char} (h : isBlank c = false) : isLineBreak c = false := by
  cases hbreak : isLineBreak c with
  | false => rfl
  | true =>
    simp only [isLineBreak, Bool.or_eq_true, beq_iff_eq] at hbreak
    obtain rfl | rfl := hbreak <;> revert h <;> decide

/-- A line break is blank. -/
theorem isBlank_of_isLineBreak {c : Char} (h : isLineBreak c = true) : isBlank c = true := by
  cases hblank : isBlank c with
  | true => rfl
  | false =>
    rw [isLineBreak_of_isBlank hblank] at h
    cases h

/-- Where a run of characters ends, the next one does not pass the test. -/
theorem eq_false_of_mem_head?_dropWhile {p : Char → Bool} {cs : List Char} {c : Char}
    (hc : c ∈ (cs.dropWhile p).head?) : p c = false := by
  have hhead := List.head?_dropWhile_not p cs
  rw [Option.mem_def] at hc
  rw [hc] at hhead
  simpa using hhead

/-- Trimmed in front, a text does not start with a blank. -/
theorem isBlank_of_mem_head?_trimStart {cs : List Char} {c : Char} (hc : c ∈ (trimStart cs).head?) :
    isBlank c = false :=
  eq_false_of_mem_head?_dropWhile hc

/-- What trimming leaves at the back ends in no blank. -/
theorem isBlank_of_mem_getLast?_trimEnd {cs : List Char} {c : Char}
    (hc : c ∈ (trimEnd cs).getLast?) : isBlank c = false := by
  rw [trimEnd, List.getLast?_reverse] at hc
  exact isBlank_of_mem_head?_trimStart hc

/-- Trimming at the end leaves the front of a text. -/
theorem trimEnd_isPrefix (cs : List Char) : trimEnd cs <+: cs := by
  rw [trimEnd, ← List.reverse_suffix, List.reverse_reverse]
  exact List.dropWhile_suffix isBlank

/-- Trimming leaves a part of a text. -/
theorem trim_isInfix (cs : List Char) : trim cs <:+: cs :=
  (trimEnd_isPrefix (trimStart cs)).isInfix.trans (List.dropWhile_suffix isBlank).isInfix

/-- Trimming gives a trimmed text. -/
theorem isTrimmed_trim (cs : List Char) : IsTrimmed (trim cs) := by
  refine ⟨fun c hc => ?_, fun c hc => isBlank_of_mem_getLast?_trimEnd hc⟩
  obtain ⟨rest, hrest⟩ := trimEnd_isPrefix (trimStart cs)
  have hhead : (trimStart cs).head? = some c := by
    rw [Option.mem_def, trim] at hc
    rw [← hrest, List.head?_append, hc]
    rfl
  exact isBlank_of_mem_head?_trimStart hhead

/-- A text that does not start with a blank is left as it is. -/
theorem trimStart_eq_self {cs : List Char} (h : ∀ c ∈ cs.head?, isBlank c = false) :
    trimStart cs = cs := by
  cases cs with
  | nil => rfl
  | cons c cs =>
    have hc : isBlank c = false := h c rfl
    exact List.dropWhile_cons_of_neg (by simp [hc])

/-- Blanks in front are trimmed away. -/
theorem trimStart_blank_append {blanks : List Char} (h : ∀ c ∈ blanks, isBlank c = true)
    (cs : List Char) : trimStart (blanks ++ cs) = trimStart cs :=
  List.dropWhile_append_of_pos h

/-- Blanks at the end are trimmed away. -/
theorem trimEnd_append_blank {blanks : List Char} (h : ∀ c ∈ blanks, isBlank c = true)
    (cs : List Char) : trimEnd (cs ++ blanks) = trimEnd cs := by
  unfold trimEnd
  rw [List.reverse_append, List.dropWhile_append_of_pos fun c hc => h c (List.mem_reverse.mp hc)]

/-- Trimming the back of a text reaches no further than to a character that is not blank. -/
theorem trimEnd_append {cs : List Char} (h : ∀ c ∈ cs.getLast?, isBlank c = false)
    (ds : List Char) : trimEnd (cs ++ ds) = cs ++ trimEnd ds := by
  have hcs : cs.reverse.dropWhile isBlank = cs.reverse := by
    apply trimStart_eq_self
    rwa [List.head?_reverse]
  unfold trimEnd
  rw [List.reverse_append, List.dropWhile_append]
  split
  · rename_i hblank
    rw [hcs, List.isEmpty_iff.mp hblank, List.reverse_reverse, List.reverse_nil, List.append_nil]
  · rw [List.reverse_append, List.reverse_reverse]

/-- A text that does not end with a blank is left as it is. -/
theorem trimEnd_eq_self {cs : List Char} (h : ∀ c ∈ cs.getLast?, isBlank c = false) :
    trimEnd cs = cs := by
  have hends : trimEnd (cs ++ []) = cs ++ trimEnd [] := trimEnd_append h []
  have hnil : trimEnd [] = [] := rfl
  rwa [hnil, List.append_nil] at hends

/-- A trimmed text is left as it is. -/
theorem trim_eq_self {cs : List Char} (h : IsTrimmed cs) : trim cs = cs := by
  unfold trim
  rw [trimStart_eq_self h.head, trimEnd_eq_self h.last]

/-- Trimming does not see blanks in front. -/
theorem trim_blank_append {blanks : List Char} (h : ∀ c ∈ blanks, isBlank c = true)
    (cs : List Char) : trim (blanks ++ cs) = trim cs := by
  unfold trim
  rw [trimStart_blank_append h]

/-- Trimming does not see blanks at the end. -/
theorem trim_append_blank {blanks : List Char} (h : ∀ c ∈ blanks, isBlank c = true)
    (cs : List Char) : trim (cs ++ blanks) = trim cs := by
  have hblanks : blanks.dropWhile isBlank = [] := by
    rw [← List.append_nil blanks, List.dropWhile_append_of_pos h]
    rfl
  unfold trim
  rw [trimStart, List.dropWhile_append, hblanks, ← trimStart]
  split
  · rename_i hcs
    rw [List.isEmpty_iff.mp hcs]
  · exact trimEnd_append_blank h _

/-- A text is trimmed if neither its first nor its last character is blank. -/
theorem isTrimmed_cons {c : Char} {cs : List Char} (hc : isBlank c = false)
    (hcs : ∀ x ∈ cs.getLast?, isBlank x = false) : IsTrimmed (c :: cs) := by
  refine ⟨fun x hx => ?_, fun x hx => ?_⟩
  · obtain rfl := Option.some.inj hx
    exact hc
  · cases cs with
    | nil =>
      obtain rfl := Option.some.inj hx
      exact hc
    | cons c' cs => exact hcs x (by rwa [List.getLast?_cons_cons] at hx)

/-- Two trimmed texts are trimmed as a whole, whatever stands between them. -/
theorem IsTrimmed.append {u v : List Char} (hu : IsTrimmed u) (hv : IsTrimmed v) (hune : u ≠ [])
    (hvne : v ≠ []) (between : List Char) : IsTrimmed (u ++ between ++ v) := by
  refine ⟨fun c hc => hu.head c ?_, fun c hc => hv.last c ?_⟩
  · obtain ⟨x, u, rfl⟩ := List.exists_cons_of_ne_nil hune
    exact hc
  · rwa [List.getLast?_append, Option.or_of_isSome (by simpa using hvne)] at hc

/-- What has been trimmed is trimmed. -/
theorem isTrimmed_trimmed (s : String) : IsTrimmed (trimmed s).toList := by
  rw [trimmed, String.toList_ofList]
  exact isTrimmed_trim s.toList

end TraitDocs.Text
