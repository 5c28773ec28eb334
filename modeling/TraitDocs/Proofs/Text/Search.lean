import TraitDocs.Text.Search

/-!
# Occurrences of a pattern

A pattern that is not empty occurs in a text exactly if it is an infix of it, and the two sides
that `splitFirst` gives make up the text with the pattern between them. It does not occur in the
first side, and if its first character does not come again in it, that is all there is to the first
occurrence (`splitFirst_eq_some_iff`).

Replacing the occurrences keeps every character that the pattern does not have, and brings in what
is put in their place and nothing else.
-/

set_option autoImplicit false

namespace TraitDocs.Text

/-- The two sides of the occurrence found, with the pattern between them, make up the text. -/
theorem append_eq_of_splitFirstFrom {pattern before cs u v : List Char}
    (h : splitFirstFrom pattern before cs = some (u, v)) :
    u ++ pattern ++ v = before.reverse ++ cs := by
  induction cs generalizing before with
  | nil => simp [splitFirstFrom] at h
  | cons c cs ih =>
    rw [splitFirstFrom] at h
    split at h
    · rename_i hp
      obtain ⟨rest, hrest⟩ := List.isPrefixOf_iff_prefix.mp hp
      simp only [Option.some.injEq, Prod.mk.injEq] at h
      obtain ⟨rfl, rfl⟩ := h
      rw [← hrest, List.drop_left, List.append_assoc]
    · rw [ih h, List.reverse_cons, List.append_assoc, List.singleton_append]

/-- Nothing is found exactly if the pattern is no infix; what was passed over does not count. -/
theorem splitFirstFrom_eq_none_iff {pattern before cs : List Char} (hp : pattern ≠ []) :
    splitFirstFrom pattern before cs = none ↔ ¬ pattern <:+: cs := by
  induction cs generalizing before with
  | nil => simp [splitFirstFrom, hp]
  | cons c cs ih =>
    rw [splitFirstFrom, List.infix_cons_iff, not_or]
    split
    · rename_i h
      simp [List.isPrefixOf_iff_prefix.mp h]
    · rename_i h
      have hprefix : ¬ pattern <+: c :: cs := fun hc => h (List.isPrefixOf_iff_prefix.mpr hc)
      simp [ih, hprefix]

/-- A pattern occurs exactly if it is an infix. -/
theorem occursIn_iff_infix {pattern cs : List Char} (hp : pattern ≠ []) :
    occursIn pattern cs = true ↔ pattern <:+: cs := by
  rw [occursIn, Option.isSome_iff_ne_none, ne_eq, splitFirst, splitFirstFrom_eq_none_iff hp,
    Decidable.not_not]

/-! ## The first occurrence -/

/-- A pattern does not reach beyond a character that it does not have. -/
theorem prefix_append_cons_iff {pattern : List Char} {c : Char} (hc : c ∉ pattern)
    (u v : List Char) :
    pattern <+: u ++ c :: v ↔ pattern <+: u := by
  constructor
  · intro h
    by_cases hlength : pattern.length ≤ u.length
    · exact List.prefix_of_prefix_length_le h (List.prefix_append u _) hlength
    · have hreaches : u ++ [c] <+: u ++ c :: v := ⟨v, by simp⟩
      have hlonger : (u ++ [c]).length ≤ pattern.length := by
        rw [List.length_append, List.length_singleton]
        omega
      have hwithin : u ++ [c] <+: pattern :=
        List.prefix_of_prefix_length_le hreaches h hlonger
      exact absurd (hwithin.subset (by simp)) hc
  · intro h
    exact h.trans (List.prefix_append u _)

/-- What was passed over stands before the first occurrence. -/
theorem splitFirstFrom_eq_map (pattern before cs : List Char) :
    splitFirstFrom pattern before cs =
      (splitFirst pattern cs).map fun parts => (before.reverse ++ parts.1, parts.2) := by
  rw [splitFirst]
  induction cs generalizing before with
  | nil => rfl
  | cons c cs ih =>
    rw [splitFirstFrom, splitFirstFrom]
    split
    · simp
    · rw [ih (c :: before), ih [c], Option.map_map]
      simp [Function.comp_def]

/-- A text without the first character of the pattern can be put in front: no occurrence starts in
it. -/
theorem splitFirst_append_of_not_mem {p : Char} {front : List Char} (hfront : p ∉ front)
    (ps cs : List Char) :
    splitFirst (p :: ps) (front ++ cs) =
      (splitFirst (p :: ps) cs).map fun parts => (front ++ parts.1, parts.2) := by
  induction front with
  | nil => simp
  | cons c front ih =>
    rw [List.mem_cons, not_or] at hfront
    have hstarts : ¬ (p :: ps).isPrefixOf (c :: (front ++ cs)) = true := by
      rw [List.isPrefixOf_iff_prefix, List.cons_prefix_cons]
      exact fun h => hfront.1 h.1
    rw [List.cons_append, splitFirst, splitFirstFrom, if_neg hstarts, splitFirstFrom_eq_map,
      ih hfront.2, Option.map_map]
    rfl

/-- The pattern does not occur before its first occurrence. -/
theorem not_infix_of_splitFirst {pattern cs u v : List Char} (hpattern : pattern ≠ [])
    (h : splitFirst pattern cs = some (u, v)) : ¬ pattern <:+: u := by
  induction cs generalizing u with
  | nil => cases h
  | cons c cs ih =>
    rw [splitFirst, splitFirstFrom] at h
    split at h
    · obtain ⟨rfl, -⟩ := Prod.mk.inj (Option.some.inj h)
      exact fun hinfix => hpattern (List.infix_nil.mp hinfix)
    · rename_i hstarts
      rw [splitFirstFrom_eq_map] at h
      obtain ⟨⟨w, v'⟩, hw, heq⟩ := Option.map_eq_some_iff.mp h
      obtain ⟨rfl, rfl⟩ := Prod.mk.inj heq
      have hcs : w ++ pattern ++ v' = cs := append_eq_of_splitFirstFrom hw
      show ¬ pattern <:+: c :: w
      rw [List.infix_cons_iff, not_or]
      refine ⟨fun hprefix => hstarts ?_, ih hw⟩
      rw [List.isPrefixOf_iff_prefix, ← hcs, List.append_assoc]
      exact hprefix.trans (List.prefix_append (c :: w) _)

/-- The pattern at the front of a text is the first that is found. -/
theorem splitFirst_pattern_append {pattern : List Char} (hpattern : pattern ≠ [])
    (cs : List Char) : splitFirst pattern (pattern ++ cs) = some ([], cs) := by
  obtain ⟨p, ps, rfl⟩ := List.exists_cons_of_ne_nil hpattern
  have hstarts : (p :: ps).isPrefixOf (p :: (ps ++ cs)) = true :=
    List.isPrefixOf_iff_prefix.mpr (List.prefix_append (p :: ps) cs)
  rw [splitFirst, List.cons_append, splitFirstFrom, if_pos hstarts]
  simp

/-- An occurrence with none before it is the first, if the pattern does not have its first character
twice: then no earlier occurrence could reach into it. -/
theorem splitFirst_append_pattern {p : Char} {ps : List Char} (hp : p ∉ ps) {u : List Char}
    (hu : ¬ (p :: ps) <:+: u) (v : List Char) :
    splitFirst (p :: ps) (u ++ (p :: ps ++ v)) = some (u, v) := by
  induction u with
  | nil => exact splitFirst_pattern_append (List.cons_ne_nil p ps) v
  | cons c u ih =>
    rw [List.infix_cons_iff, not_or] at hu
    have hstarts : ¬ (p :: ps).isPrefixOf (c :: (u ++ (p :: ps ++ v))) = true := by
      rw [List.isPrefixOf_iff_prefix, List.cons_prefix_cons]
      rintro ⟨rfl, hrest⟩
      apply hu.1
      rw [List.cons_prefix_cons]
      exact ⟨rfl, (prefix_append_cons_iff hp u (ps ++ v)).mp hrest⟩
    rw [List.cons_append, splitFirst, splitFirstFrom, if_neg hstarts, splitFirstFrom_eq_map,
      ih hu.2]
    rfl

/-- Where a text is cut around the first occurrence of a pattern that does not have its first
character twice. -/
theorem splitFirst_eq_some_iff {p : Char} {ps : List Char} (hp : p ∉ ps) {cs u v : List Char} :
    splitFirst (p :: ps) cs = some (u, v) ↔
      cs = u ++ (p :: ps ++ v) ∧ ¬ (p :: ps) <:+: u := by
  constructor
  · intro h
    have hcs : u ++ p :: ps ++ v = cs := append_eq_of_splitFirstFrom h
    refine ⟨?_, not_infix_of_splitFirst (List.cons_ne_nil p ps) h⟩
    rw [← hcs, List.append_assoc]
  · rintro ⟨rfl, hu⟩
    exact splitFirst_append_pattern hp hu v

/-! ## Replacing the occurrences -/

section Replacing

variable {pattern new done cs : List Char} {c : Char}

/-- What is done stays in the new text. -/
theorem mem_replaceAllFrom_of_mem_done {skip : Nat} (hc : c ∈ done) :
    c ∈ replaceAllFrom pattern new skip done cs := by
  fun_induction replaceAllFrom pattern new skip done cs with
  | case1 skip done => exact List.mem_reverse.mpr hc
  | case2 done c' cs skip ih => exact ih hc
  | case3 done c' cs _ ih => exact ih (List.mem_append_right _ hc)
  | case4 done c' cs _ ih => exact ih (List.mem_cons_of_mem c' hc)

/-- What is put in the place of a pattern that occurs is in the new text. -/
theorem mem_replaceAllFrom_of_infix (hpattern : pattern ≠ []) (hoccurs : pattern <:+: cs)
    (hc : c ∈ new) : c ∈ replaceAllFrom pattern new 0 done cs := by
  induction cs generalizing done with
  | nil => exact absurd (List.infix_nil.mp hoccurs) hpattern
  | cons c' cs ih =>
    rw [replaceAllFrom]
    split
    · exact mem_replaceAllFrom_of_mem_done (List.mem_append_left _ (List.mem_reverse.mpr hc))
    · rename_i hprefix
      obtain hprefix' | htail := List.infix_cons_iff.mp hoccurs
      · exact absurd (List.isPrefixOf_iff_prefix.mpr hprefix') hprefix
      · exact ih htail

/-- A character that the pattern does not have is kept; only characters of the pattern are passed
over. -/
theorem mem_replaceAllFrom_of_not_mem {skip : Nat} (hne : pattern ≠ []) (hpattern : c ∉ pattern)
    (hskip : ∀ x ∈ cs.take skip, x ∈ pattern) (hc : c ∈ cs) :
    c ∈ replaceAllFrom pattern new skip done cs := by
  fun_induction replaceAllFrom pattern new skip done cs with
  | case1 skip done => exact absurd hc List.not_mem_nil
  | case2 done c' cs skip ih =>
    have hskipped : c' ∈ pattern := hskip c' (by simp)
    obtain rfl | hmem := List.mem_cons.mp hc
    · exact absurd hskipped hpattern
    · exact ih (fun x hx => hskip x (by simp [hx])) hmem
  | case3 done c' cs hprefix ih =>
    obtain ⟨p, ps, rfl⟩ := List.exists_cons_of_ne_nil hne
    obtain ⟨rest, hrest⟩ := List.isPrefixOf_iff_prefix.mp hprefix
    obtain ⟨rfl, rfl⟩ := List.cons.inj hrest
    obtain rfl | hmem := List.mem_cons.mp hc
    · exact absurd List.mem_cons_self hpattern
    · exact ih (by simp +contextual) hmem
  | case4 done c' cs _ ih =>
    obtain rfl | hmem := List.mem_cons.mp hc
    · exact mem_replaceAllFrom_of_mem_done List.mem_cons_self
    · exact ih (by simp) hmem

/-- A character of the new text was there before, or was put in. -/
theorem of_mem_replaceAllFrom {skip : Nat} (h : c ∈ replaceAllFrom pattern new skip done cs) :
    c ∈ done ∨ c ∈ new ∨ c ∈ cs := by
  fun_induction replaceAllFrom pattern new skip done cs with
  | case1 skip done => exact Or.inl (List.mem_reverse.mp h)
  | case2 done c' cs skip ih =>
    exact (ih h).imp_right (Or.imp_right (List.mem_cons_of_mem c'))
  | case3 done c' cs _ ih =>
    obtain hdone | hnew | hcs := ih h
    · rw [List.mem_append, List.mem_reverse] at hdone
      exact hdone.elim (fun hnew => Or.inr (Or.inl hnew)) Or.inl
    · exact Or.inr (Or.inl hnew)
    · exact Or.inr (Or.inr (List.mem_cons_of_mem c' hcs))
  | case4 done c' cs _ ih =>
    obtain hdone | hnew | hcs := ih h
    · rw [List.mem_cons] at hdone
      exact hdone.elim (fun hc => Or.inr (Or.inr (hc ▸ List.mem_cons_self))) Or.inl
    · exact Or.inr (Or.inl hnew)
    · exact Or.inr (Or.inr (List.mem_cons_of_mem c' hcs))

end Replacing

end TraitDocs.Text
