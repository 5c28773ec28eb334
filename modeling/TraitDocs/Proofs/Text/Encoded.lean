import TraitDocs.Text.Encoded

/-!
# Reading back a written text

Writing a text to a file changes nothing, reading one turns every carriage return into a line feed.
So the text that is read back has no carriage return, and it is the text that was written exactly
when that has none.
-/

set_option autoImplicit false

namespace TraitDocs.Text

/-- Every text can be read back, with line feeds for its line breaks. -/
theorem decode_encode (s : String) : decode (encode s) = .ok (unifyBreaks s.toList) := by
  have hread : String.fromUTF8? s.toUTF8 = some s := by
    rw [String.fromUTF8?, String.toUTF8_eq_toByteArray]
    exact dif_pos s.isValidUTF8
  rw [decode, encode, hread]

/-- Unifying the breaks of the rest of a text adds no carriage return. -/
theorem carriageReturn_mem_unifyBreaksFrom_iff (done cs : List Char) :
    '\r' ∈ unifyBreaksFrom done cs ↔ '\r' ∈ done := by
  fun_induction unifyBreaksFrom done cs with
  | case1 done => rw [List.mem_reverse]
  | case2 done cs ih => rw [ih, List.mem_cons, or_iff_right (by decide)]
  | case3 done cs _ ih => rw [ih, List.mem_cons, or_iff_right (by decide)]
  | case4 done c cs _ hc ih => rw [ih, List.mem_cons, or_iff_right (Ne.symm (by simpa using hc))]

/-- A text without carriage returns is left as it is. -/
theorem unifyBreaksFrom_eq (done cs : List Char) (hcs : '\r' ∉ cs) :
    unifyBreaksFrom done cs = done.reverse ++ cs := by
  fun_induction unifyBreaksFrom done cs with
  | case1 done => rw [List.append_nil]
  | case2 done cs ih => exact absurd List.mem_cons_self hcs
  | case3 done cs _ ih => exact absurd List.mem_cons_self hcs
  | case4 done c cs _ hc ih =>
    rw [ih fun h => hcs (List.mem_cons_of_mem c h), List.reverse_cons, List.append_assoc]
    rfl

/-- The texts that unifying the breaks leaves as they are. -/
theorem unifyBreaks_eq_self_iff (cs : List Char) : unifyBreaks cs = cs ↔ '\r' ∉ cs := by
  constructor
  · intro hsame
    rw [← hsame, unifyBreaks, carriageReturn_mem_unifyBreaksFrom_iff]
    exact List.not_mem_nil
  · intro hcs
    exact unifyBreaksFrom_eq [] cs hcs

end TraitDocs.Text
