import Mathlib.Tactic.Linarith
import TraitDocs.Proofs.Text.Search

/-!
# Replacing a pattern

Replacing the occurrences of a pattern cuts a text at the first one: what stands before it stays as
it is, and what stands after it is treated in the same way. A character that the pattern does not
have separates two texts that can be treated apart, since no occurrence reaches across it.

`replaceAll_eq_self_iff` says which texts are left as they are: those without the pattern, and all
texts if the pattern is replaced by itself.
-/

set_option autoImplicit false

namespace TraitDocs.Text

variable {pattern new : List Char}

/-- Characters that belong to a pattern already replaced are passed over. -/
theorem replaceAllFrom_eq_drop (skip : Nat) (done cs : List Char) :
    replaceAllFrom pattern new skip done cs =
      replaceAllFrom pattern new 0 done (cs.drop skip) := by
  induction cs generalizing skip with
  | nil => simp [replaceAllFrom]
  | cons c cs ih =>
    cases skip with
    | zero => rfl
    | succ skip => rw [replaceAllFrom, ih, List.drop_succ_cons]

/-- What is done stays in front. -/
theorem replaceAllFrom_eq_append (skip : Nat) (done cs : List Char) :
    replaceAllFrom pattern new skip done cs =
      done.reverse ++ replaceAllFrom pattern new skip [] cs := by
  induction cs generalizing skip done with
  | nil => simp [replaceAllFrom]
  | cons c cs ih =>
    cases skip with
    | succ skip => simp only [replaceAllFrom, ih skip done]
    | zero =>
      simp only [replaceAllFrom]
      split
      · rw [ih _ (new.reverse ++ done), ih _ (new.reverse ++ [])]
        simp
      · rw [ih 0 (c :: done), ih 0 [c]]
        simp

/-- A text in which the pattern is not found is left as it is. -/
theorem replaceAllFrom_of_splitFirstFrom_none {done cs : List Char}
    (h : splitFirstFrom pattern done cs = none) :
    replaceAllFrom pattern new 0 done cs = done.reverse ++ cs := by
  induction cs generalizing done with
  | nil => simp [replaceAllFrom]
  | cons c cs ih =>
    rw [splitFirstFrom] at h
    split at h
    · cases h
    · rename_i hstarts
      rw [replaceAllFrom, if_neg hstarts, ih h]
      simp

/-- Where the pattern is found, the new text takes its place, and the search goes on behind it. -/
theorem replaceAllFrom_of_splitFirstFrom_some (hpattern : pattern ≠ []) {done cs u v : List Char}
    (h : splitFirstFrom pattern done cs = some (u, v)) :
    replaceAllFrom pattern new 0 done cs = u ++ new ++ replaceAll pattern new v := by
  induction cs generalizing done with
  | nil => cases h
  | cons c cs ih =>
    rw [splitFirstFrom] at h
    rw [replaceAllFrom]
    split at h
    · rename_i hstarts
      obtain ⟨rfl, rfl⟩ := Prod.mk.inj (Option.some.inj h)
      obtain ⟨p, ps, rfl⟩ := List.exists_cons_of_ne_nil hpattern
      -- The rest of the occurrence is skipped, which is what follows its first character.
      rw [if_pos hstarts, replaceAllFrom_eq_drop, replaceAllFrom_eq_append, List.length_cons,
        Nat.add_sub_cancel, List.drop_succ_cons, replaceAll]
      simp
    · rename_i hstarts
      rw [if_neg hstarts, ih h]

/-- A text without the pattern is left as it is. -/
theorem replaceAll_of_absent (hpattern : pattern ≠ []) {cs : List Char}
    (h : ¬ pattern <:+: cs) : replaceAll pattern new cs = cs :=
  replaceAllFrom_of_splitFirstFrom_none ((splitFirstFrom_eq_none_iff hpattern).mpr h)

/-- The first occurrence is replaced, and what stands after it is treated in the same way. -/
theorem replaceAll_of_splitFirst (hpattern : pattern ≠ []) {cs u v : List Char}
    (h : splitFirst pattern cs = some (u, v)) :
    replaceAll pattern new cs = u ++ new ++ replaceAll pattern new v :=
  replaceAllFrom_of_splitFirstFrom_some hpattern h

/-- A text is met one occurrence at a time, from the last one to the first. -/
theorem occurrence_induction (hpattern : pattern ≠ []) {motive : List Char → Prop}
    (absent : ∀ cs, ¬ pattern <:+: cs → motive cs)
    (found : ∀ u v, splitFirst pattern (u ++ pattern ++ v) = some (u, v) → motive v →
      motive (u ++ pattern ++ v))
    (cs : List Char) : motive cs := by
  induction hn : cs.length using Nat.strong_induction_on generalizing cs with
  | _ n ih =>
    cases hsplit : splitFirst pattern cs with
    | none => exact absent cs ((splitFirstFrom_eq_none_iff hpattern).mp hsplit)
    | some parts =>
      obtain ⟨u, v⟩ := parts
      obtain rfl : u ++ pattern ++ v = cs := append_eq_of_splitFirstFrom hsplit
      have hpositive : 0 < pattern.length := List.length_pos_iff.mpr hpattern
      simp only [List.length_append] at hn
      exact found u v hsplit (ih v.length (by omega) v rfl)

/-- The length of the new text, where the pattern is replaced some number of times. -/
theorem exists_length_replaceAll (hpattern : pattern ≠ []) (new cs : List Char) :
    ∃ k, (replaceAll pattern new cs).length + k * pattern.length =
      cs.length + k * new.length := by
  induction cs using occurrence_induction hpattern with
  | absent cs h =>
    refine ⟨0, ?_⟩
    rw [replaceAll_of_absent hpattern h, Nat.zero_mul, Nat.zero_mul]
  | found u v hsplit ih =>
    obtain ⟨k, hk⟩ := ih
    refine ⟨k + 1, ?_⟩
    rw [replaceAll_of_splitFirst hpattern hsplit]
    simp only [List.length_append]
    linarith

/-- To replace a pattern by itself changes nothing. -/
theorem replaceAll_self (hpattern : pattern ≠ []) (cs : List Char) :
    replaceAll pattern pattern cs = cs := by
  induction cs using occurrence_induction hpattern with
  | absent cs h => exact replaceAll_of_absent hpattern h
  | found u v hsplit ih => rw [replaceAll_of_splitFirst hpattern hsplit, ih]

/-- A text is left as it is exactly if it does not have the pattern, or the pattern is replaced by
itself. -/
theorem replaceAll_eq_self_iff (hpattern : pattern ≠ []) {cs : List Char} :
    replaceAll pattern new cs = cs ↔ ¬ pattern <:+: cs ∨ new = pattern := by
  constructor
  · intro hsame
    cases hsplit : splitFirst pattern cs with
    | none => exact Or.inl ((splitFirstFrom_eq_none_iff hpattern).mp hsplit)
    | some parts =>
      right
      obtain ⟨u, v⟩ := parts
      have hcs : u ++ pattern ++ v = cs := append_eq_of_splitFirstFrom hsplit
      rw [replaceAll_of_splitFirst hpattern hsplit, ← hcs, List.append_assoc, List.append_assoc,
        List.append_cancel_left_eq] at hsame
      -- Every replacement changes the length by the same amount, so that amount is zero.
      have hlength : new.length = pattern.length := by
        obtain ⟨k, hk⟩ := exists_length_replaceAll hpattern new v
        have htotal := congrArg List.length hsame
        simp only [List.length_append] at htotal
        have hproduct : (k + 1) * new.length = (k + 1) * pattern.length := by linarith
        exact Nat.eq_of_mul_eq_mul_left k.succ_pos hproduct
      exact (List.append_inj hsame hlength).1
  · rintro (habsent | rfl)
    · exact replaceAll_of_absent hpattern habsent
    · exact replaceAll_self hpattern cs

/-- A character that the pattern does not have keeps the texts on both sides of it apart. -/
theorem replaceAllFrom_append_cons (hpattern : pattern ≠ []) {c : Char} (hc : c ∉ pattern)
    (u v : List Char) {skip : Nat} (hskip : skip ≤ u.length) (done : List Char) :
    replaceAllFrom pattern new skip done (u ++ c :: v) =
      replaceAllFrom pattern new skip done u ++ c :: replaceAll pattern new v := by
  induction u generalizing skip done with
  | nil =>
    obtain rfl : skip = 0 := Nat.le_zero.mp hskip
    have hstarts : ¬ pattern.isPrefixOf (c :: v) = true := by
      rw [List.isPrefixOf_iff_prefix]
      intro h
      exact hpattern (List.prefix_nil.mp ((prefix_append_cons_iff hc [] v).mp h))
    simp only [List.nil_append, replaceAllFrom, if_neg hstarts]
    rw [replaceAllFrom_eq_append, replaceAll]
    simp
  | cons x u ih =>
    rw [List.cons_append]
    cases skip with
    | succ skip =>
      rw [replaceAllFrom, replaceAllFrom]
      exact ih (Nat.le_of_succ_le_succ hskip) done
    | zero =>
      have hiff := prefix_append_cons_iff hc (x :: u) v
      rw [List.cons_append, ← List.isPrefixOf_iff_prefix, ← List.isPrefixOf_iff_prefix] at hiff
      rw [replaceAllFrom, replaceAllFrom]
      by_cases hstarts : pattern.isPrefixOf (x :: u) = true
      · -- An occurrence that starts here ends before the separating character.
        have hlength := (List.isPrefixOf_iff_prefix.mp hstarts).length_le
        rw [List.length_cons] at hlength
        rw [if_pos (hiff.mpr hstarts), if_pos hstarts]
        exact ih (by omega) _
      · rw [if_neg (fun h => hstarts (hiff.mp h)), if_neg hstarts]
        exact ih (Nat.zero_le _) _

/-- A character that the pattern does not have separates the texts before and after it. -/
theorem replaceAll_append_cons (hpattern : pattern ≠ []) {c : Char} (hc : c ∉ pattern)
    (u v : List Char) :
    replaceAll pattern new (u ++ c :: v) =
      replaceAll pattern new u ++ c :: replaceAll pattern new v :=
  replaceAllFrom_append_cons hpattern hc u v (Nat.zero_le _) []

/-- The pattern at the front of a text is replaced first. -/
theorem replaceAll_pattern_append (hpattern : pattern ≠ []) (cs : List Char) :
    replaceAll pattern new (pattern ++ cs) = new ++ replaceAll pattern new cs :=
  replaceAll_of_splitFirst hpattern (splitFirst_pattern_append hpattern cs)

/-- The pattern alone is replaced by the new text. -/
theorem replaceAll_pattern (hpattern : pattern ≠ []) : replaceAll pattern new pattern = new := by
  have hnil : replaceAll pattern new [] = [] := rfl
  have happend : replaceAll pattern new (pattern ++ []) = new ++ replaceAll pattern new [] :=
    replaceAll_pattern_append hpattern []
  rwa [hnil, List.append_nil, List.append_nil] at happend

/-- A text without the pattern stays in front, where no occurrence can reach across its end. -/
theorem replaceAll_append_of_getLast? (hpattern : pattern ≠ []) {c : Char} (hc : c ∉ pattern)
    {cs : List Char} (hlast : cs.getLast? = some c) (habsent : ¬ pattern <:+: cs)
    (rest : List Char) :
    replaceAll pattern new (cs ++ rest) = cs ++ replaceAll pattern new rest := by
  obtain ⟨u, rfl⟩ := List.getLast?_eq_some_iff.mp hlast
  have habsent' : ¬ pattern <:+: u := fun h => habsent (h.trans (List.prefix_append u [c]).isInfix)
  rw [List.append_assoc, List.singleton_append, replaceAll_append_cons hpattern hc,
    replaceAll_of_absent hpattern habsent', List.append_assoc, List.singleton_append]

/-- A text is treated apart from what follows, where no occurrence can reach across its end. -/
theorem replaceAll_append_of_head? (hpattern : pattern ≠ []) {c : Char} (hc : c ∉ pattern)
    {rest : List Char} (hhead : rest.head? = some c) (cs : List Char) :
    replaceAll pattern new (cs ++ rest) =
      replaceAll pattern new cs ++ replaceAll pattern new rest := by
  obtain ⟨v, rfl⟩ := List.head?_eq_some_iff.mp hhead
  have hrest : replaceAll pattern new (c :: v) = c :: replaceAll pattern new v :=
    replaceAll_append_cons hpattern hc [] v
  rw [replaceAll_append_cons hpattern hc, hrest]

end TraitDocs.Text
