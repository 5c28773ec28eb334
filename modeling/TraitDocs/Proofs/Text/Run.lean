/-!
# Where a run of characters ends

A run of characters that pass a test ends at the first character that does not. So a run can be cut
off from what follows it, and in one way only.
-/

set_option autoImplicit false

namespace TraitDocs.Text

variable {p : Char → Bool} {run run' rest rest' : List Char}

/-- Where a run of characters that pass a test ends, the rest of the text starts. -/
theorem takeWhile_dropWhile_append (hrun : ∀ c ∈ run, p c = true)
    (hrest : ∀ c ∈ rest.head?, p c = false) :
    (run ++ rest).takeWhile p = run ∧ (run ++ rest).dropWhile p = rest := by
  rw [List.takeWhile_append_of_pos hrun, List.dropWhile_append_of_pos hrun]
  cases rest with
  | nil => exact ⟨List.append_nil run, rfl⟩
  | cons c rest =>
    have hc : ¬ p c = true := by simp [hrest c rfl]
    rw [List.takeWhile_cons_of_neg hc, List.dropWhile_cons_of_neg hc]
    exact ⟨List.append_nil run, rfl⟩

/-- Two runs of characters that pass a test, each followed by nothing or by a character that does
not pass it, are the same if the texts that they start are. -/
theorem run_append_inj (hrun : ∀ c ∈ run, p c = true) (hrest : ∀ c ∈ rest.head?, p c = false)
    (hrun' : ∀ c ∈ run', p c = true) (hrest' : ∀ c ∈ rest'.head?, p c = false)
    (h : run ++ rest = run' ++ rest') : run = run' ∧ rest = rest' := by
  obtain ⟨htake, hdrop⟩ := takeWhile_dropWhile_append hrun hrest
  obtain ⟨htake', hdrop'⟩ := takeWhile_dropWhile_append hrun' hrest'
  rw [h] at htake hdrop
  exact ⟨htake.symm.trans htake', hdrop.symm.trans hdrop'⟩

/-- A run of characters ends at the first one that it cannot hold. -/
theorem append_cons_inj {stop : Char} (hrun : stop ∉ run) (hrun' : stop ∉ run')
    (h : run ++ stop :: rest = run' ++ stop :: rest') : run = run' ∧ rest = rest' := by
  have hpass : ∀ cs : List Char, stop ∉ cs → ∀ c ∈ cs, (c != stop) = true := by
    intro cs hcs c hc
    rw [bne_iff_ne]
    rintro rfl
    exact hcs hc
  obtain ⟨hruns, hrests⟩ := run_append_inj (hpass run hrun) (by simp) (hpass run' hrun') (by simp) h
  exact ⟨hruns, (List.cons.inj hrests).2⟩

end TraitDocs.Text
