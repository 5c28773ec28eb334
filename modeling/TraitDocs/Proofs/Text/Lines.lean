import TraitDocs.Text.Lines

/-!
# The pieces of a text

The pieces of a text are what the library splits it into at its line breaks. So a line break
separates the pieces before it from those after it, and a text without line breaks is its own only
piece. No piece has a line break.
-/

set_option autoImplicit false

namespace TraitDocs.Text

/-- A text is cut at every line break. -/
theorem pieces_eq_splitOnP (cs : List Char) : pieces cs = cs.splitOnP isLineBreak := by
  induction cs with
  | nil => rfl
  | cons c cs ih =>
    have hcons : pieces (c :: cs) = consPiece c (pieces cs) := rfl
    obtain ⟨p, ps, hps⟩ := List.exists_cons_of_ne_nil (List.splitOnP_ne_nil isLineBreak cs)
    rw [List.splitOnP_cons_eq_if_modifyHead, hcons, ih, hps]
    unfold consPiece
    split <;> rfl

/-- The pieces before a line break and those after it are the pieces of the whole text. -/
theorem pieces_append_cons {c : Char} (hc : isLineBreak c = true) (u v : List Char) :
    pieces (u ++ c :: v) = pieces u ++ pieces v := by
  simp only [pieces_eq_splitOnP]
  exact List.splitOnP_append_cons u v hc

/-- A text without line breaks is one piece. -/
theorem pieces_eq_singleton {cs : List Char} (h : ∀ c ∈ cs, isLineBreak c = false) :
    pieces cs = [cs] := by
  rw [pieces_eq_splitOnP]
  exact List.splitOnP_eq_singleton h

/-- The pieces of a text have no line breaks. -/
theorem isLineBreak_of_mem_pieces {cs piece : List Char} (hpiece : piece ∈ pieces cs) :
    ∀ c ∈ piece, isLineBreak c = false := by
  rw [pieces_eq_splitOnP] at hpiece
  induction cs generalizing piece with
  | nil =>
    obtain rfl := List.mem_singleton.mp hpiece
    exact fun c hc => absurd hc List.not_mem_nil
  | cons x cs ih =>
    obtain ⟨p, ps, hps⟩ := List.exists_cons_of_ne_nil (List.splitOnP_ne_nil isLineBreak cs)
    rw [hps] at ih
    rw [List.splitOnP_cons_eq_if_modifyHead, hps] at hpiece
    split at hpiece
    · obtain rfl | hpiece := List.mem_cons.mp hpiece
      · exact fun c hc => absurd hc List.not_mem_nil
      · exact ih hpiece
    · rename_i hx
      obtain rfl | hpiece := List.mem_cons.mp hpiece
      · exact List.forall_mem_cons.mpr ⟨by simpa using hx, ih List.mem_cons_self⟩
      · exact ih (List.mem_cons_of_mem p hpiece)

end TraitDocs.Text
