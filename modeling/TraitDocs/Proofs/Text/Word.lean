import TraitDocs.Text.Blank
import TraitDocs.Text.Word

/-!
# Word characters are not blank

Two classes of characters have no character in common if no range of the one meets a range of the
other, which can be looked up. So no word character is blank.
-/

set_option autoImplicit false

namespace TraitDocs.Text

/-- Tells whether no range of one class meets a range of another. -/
def apart (xs ys : List CharRange) : Bool :=
  xs.all fun x => ys.all fun y => x.last < y.first || y.last < x.first

/-- A character of a class is in no class apart from it. -/
theorem inClass_of_apart {xs ys : List CharRange} (h : apart xs ys = true) {c : Char}
    (hc : inClass xs c = true) : inClass ys c = false := by
  obtain ⟨x, hx, hcx⟩ := List.any_eq_true.mp hc
  simp only [CharRange.covers, Bool.and_eq_true, decide_eq_true_eq] at hcx
  rw [inClass, List.any_eq_false]
  intro y hy hcy
  simp only [CharRange.covers, Bool.and_eq_true, decide_eq_true_eq] at hcy
  have hxy := List.all_eq_true.mp (List.all_eq_true.mp h x hx) y hy
  simp only [Bool.or_eq_true, decide_eq_true_eq] at hxy
  omega

/-- A word character is not blank. -/
theorem isBlank_of_isWord {c : Char} (h : isWord c = true) : isBlank c = false :=
  inClass_of_apart (by decide +kernel : apart wordRanges blankRanges = true) h

end TraitDocs.Text
