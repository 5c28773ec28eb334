/-!
# The first member of a list that has a property

Work that goes through a list from front to back, and stops at a member with some property, gets
there if all members before it pass. `FirstAfter` says so of any two properties; where passing is
not to have the property, the member is the first that has it (`FirstWith`).
-/

set_option autoImplicit false

namespace TraitDocs

variable {α : Type} {pass p q : α → Prop} {xs : List α} {x : α}

/-- Tells that a member of a list has a property and that all members before it pass. -/
def FirstAfter (pass p : α → Prop) (xs : List α) (x : α) : Prop :=
  ∃ before after, xs = before ++ x :: after ∧ p x ∧ ∀ y ∈ before, pass y

/-- In a list with a member in front, that member has the property, or it passes and the rest has
such a member. -/
theorem firstAfter_cons_iff {a : α} :
    FirstAfter pass p (a :: xs) x ↔ a = x ∧ p a ∨ pass a ∧ FirstAfter pass p xs x := by
  constructor
  · rintro ⟨before, after, heq, hx, hbefore⟩
    cases before with
    | nil =>
      obtain ⟨rfl, rfl⟩ := List.cons.inj heq
      exact Or.inl ⟨rfl, hx⟩
    | cons b before =>
      obtain ⟨rfl, rfl⟩ := List.cons.inj heq
      rw [List.forall_mem_cons] at hbefore
      exact Or.inr ⟨hbefore.1, before, after, rfl, hx, hbefore.2⟩
  · rintro (⟨rfl, hx⟩ | ⟨ha, before, after, rfl, hx, hbefore⟩)
    · exact ⟨[], xs, rfl, hx, List.forall_mem_nil _⟩
    · exact ⟨a :: before, after, rfl, hx, List.forall_mem_cons.mpr ⟨ha, hbefore⟩⟩

/-- The empty list has no such member. -/
theorem not_firstAfter_nil : ¬ FirstAfter pass p [] x := by
  rintro ⟨before, after, hnil, -⟩
  simp at hnil

/-- The first member of a list that has a property. -/
def FirstWith (p : α → Prop) (xs : List α) (x : α) : Prop :=
  FirstAfter (fun y => ¬ p y) p xs x

/-- What a search finds is the first member that passes its test. -/
theorem find?_eq_some_iff_firstWith {test : α → Bool} :
    xs.find? test = some x ↔ FirstWith (fun y => test y = true) xs x := by
  rw [List.find?_eq_some_iff_append]
  constructor
  · rintro ⟨hx, before, after, hxs, hbefore⟩
    exact ⟨before, after, hxs, hx, fun y hy => by simpa using hbefore y hy⟩
  · rintro ⟨before, after, hxs, hx, hbefore⟩
    exact ⟨hx, before, after, hxs, fun y hy => by simpa using hbefore y hy⟩

/-- What has one of two properties first has the other first, if they come to the same on the
list. -/
theorem FirstWith.of_iff (h : ∀ y ∈ xs, (p y ↔ q y)) (hx : FirstWith p xs x) :
    FirstWith q xs x := by
  obtain ⟨before, after, rfl, hx, hbefore⟩ := hx
  rw [List.forall_mem_append, List.forall_mem_cons] at h
  exact ⟨before, after, rfl, h.2.1.mp hx, fun y hy hq => hbefore y hy ((h.1 y hy).mpr hq)⟩

/-- Properties that come to the same on a list have the same first member. -/
theorem FirstWith.congr (h : ∀ y ∈ xs, (p y ↔ q y)) : FirstWith p xs x ↔ FirstWith q xs x :=
  ⟨FirstWith.of_iff h, FirstWith.of_iff fun y hy => (h y hy).symm⟩

/-- The first member with a property is the one in front, or the first of the rest. -/
theorem firstWith_cons_iff {a : α} :
    FirstWith p (a :: xs) x ↔ a = x ∧ p a ∨ ¬ p a ∧ FirstWith p xs x :=
  firstAfter_cons_iff

/-- The empty list has no first member with a property. -/
theorem not_firstWith_nil : ¬ FirstWith p [] x :=
  not_firstAfter_nil

/-- The first member with a property is a member. -/
theorem FirstWith.mem (h : FirstWith p xs x) : x ∈ xs := by
  obtain ⟨before, after, rfl, -, -⟩ := h
  exact List.mem_append_right before List.mem_cons_self

/-- Where a member has a property, one is the first that has it. -/
theorem exists_firstWith (hx : x ∈ xs) (hp : p x) : ∃ y, FirstWith p xs y := by
  induction xs with
  | nil => exact absurd hx List.not_mem_nil
  | cons a xs ih =>
    by_cases ha : p a
    · exact ⟨a, firstWith_cons_iff.mpr (Or.inl ⟨rfl, ha⟩)⟩
    · obtain rfl | hx := List.mem_cons.mp hx
      · exact absurd hp ha
      · obtain ⟨y, hy⟩ := ih hx
        exact ⟨y, firstWith_cons_iff.mpr (Or.inr ⟨ha, hy⟩)⟩

/-- The first member of a filtered list is the first that passes the filter too. -/
theorem firstWith_filter_iff {test : α → Bool} :
    FirstWith p (xs.filter test) x ↔ FirstWith (fun y => test y = true ∧ p y) xs x := by
  induction xs with
  | nil => exact iff_of_false not_firstWith_nil not_firstWith_nil
  | cons a xs ih =>
    rw [firstWith_cons_iff, ← ih]
    by_cases ha : test a = true
    · rw [List.filter_cons_of_pos ha, firstWith_cons_iff]
      simp only [ha, true_and]
    · rw [List.filter_cons_of_neg ha]
      simp [ha]

end TraitDocs
