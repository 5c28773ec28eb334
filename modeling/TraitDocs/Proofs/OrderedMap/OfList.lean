import Mathlib.Data.List.Forall2
import Mathlib.Data.List.Induction
import TraitDocs.OrderedMap.Lemmas

/-!
# Maps of lists

A list of pairs may give a key several times. In the map of the list the keys stand in the order in
which they are first given, and each has the value that it is given last.

`LastWith` says which member of a list is the last with a property. It passes from a list to the
list that it was filtered from, and from one list to another that corresponds to it member by
member.
-/

set_option autoImplicit false

namespace TraitDocs

variable {α β : Type}

/-- The last member of a list that has a property. -/
def LastWith (p : α → Prop) (xs : List α) (x : α) : Prop :=
  ∃ before after, xs = before ++ x :: after ∧ p x ∧ ∀ y ∈ after, ¬ p y

/-- The empty list has no last member with a property. -/
theorem not_lastWith_nil {p : α → Prop} {x : α} : ¬ LastWith p [] x := by
  rintro ⟨before, after, hnil, -⟩
  simp at hnil

/-- The last member with a property has it. -/
theorem LastWith.holds {p : α → Prop} {xs : List α} {x : α} (h : LastWith p xs x) : p x := by
  obtain ⟨_, _, _, hx, _⟩ := h
  exact hx

/-- The last member with a property is a member. -/
theorem LastWith.mem {p : α → Prop} {xs : List α} {x : α} (h : LastWith p xs x) : x ∈ xs := by
  obtain ⟨before, after, rfl, _, _⟩ := h
  exact List.mem_append_right before List.mem_cons_self

/-- The last member with a property is one of the rest, or it is the first and none of the rest has
the property. -/
theorem lastWith_cons_iff {p : α → Prop} {a x : α} {xs : List α} :
    LastWith p (a :: xs) x ↔ LastWith p xs x ∨ a = x ∧ p a ∧ ∀ y ∈ xs, ¬ p y := by
  constructor
  · rintro ⟨before, after, heq, hx, hafter⟩
    cases before with
    | nil =>
      obtain ⟨rfl, rfl⟩ := List.cons.inj heq
      exact Or.inr ⟨rfl, hx, hafter⟩
    | cons b before =>
      obtain ⟨rfl, rfl⟩ := List.cons.inj heq
      exact Or.inl ⟨before, after, rfl, hx, hafter⟩
  · rintro (⟨before, after, rfl, hx, hafter⟩ | ⟨rfl, hx, hafter⟩)
    · exact ⟨a :: before, after, rfl, hx, hafter⟩
    · exact ⟨[], xs, rfl, hx, hafter⟩

/-- There is one last member with a property. -/
theorem LastWith.unique {p : α → Prop} {xs : List α} {x y : α} (hx : LastWith p xs x)
    (hy : LastWith p xs y) : x = y := by
  induction xs with
  | nil => exact absurd hx not_lastWith_nil
  | cons a xs ih =>
    obtain hx | ⟨rfl, _, hnone⟩ := lastWith_cons_iff.mp hx
    · obtain hy | ⟨_, _, hnone⟩ := lastWith_cons_iff.mp hy
      · exact ih hx hy
      · exact absurd hx.holds (hnone x hx.mem)
    · obtain hy | ⟨rfl, _, _⟩ := lastWith_cons_iff.mp hy
      · exact absurd hy.holds (hnone y hy.mem)
      · rfl

/-- Where a member has a property, one is the last that has it. -/
theorem exists_lastWith {p : α → Prop} {xs : List α} {x : α} (hx : x ∈ xs) (hp : p x) :
    ∃ y, LastWith p xs y := by
  induction xs generalizing x with
  | nil => exact absurd hx List.not_mem_nil
  | cons a xs ih =>
    by_cases hrest : ∃ y ∈ xs, p y
    · obtain ⟨y, hy, hpy⟩ := hrest
      obtain ⟨z, hz⟩ := ih hy hpy
      exact ⟨z, lastWith_cons_iff.mpr (Or.inl hz)⟩
    · have hnone : ∀ y ∈ xs, ¬ p y := fun y hy hpy => hrest ⟨y, hy, hpy⟩
      obtain rfl | hx := List.mem_cons.mp hx
      · exact ⟨x, lastWith_cons_iff.mpr (Or.inr ⟨rfl, hp, hnone⟩)⟩
      · exact absurd hp (hnone x hx)

/-- The last member of a filtered list is the last that passes the filter too. -/
theorem LastWith.of_filter {p : α → Bool} {q : α → Prop} {xs : List α} {x : α}
    (h : LastWith q (xs.filter p) x) : LastWith (fun y => p y = true ∧ q y) xs x := by
  induction xs with
  | nil => exact absurd h not_lastWith_nil
  | cons a xs ih =>
    rw [lastWith_cons_iff]
    by_cases ha : p a = true
    · rw [List.filter_cons_of_pos ha, lastWith_cons_iff] at h
      obtain h | ⟨rfl, hq, hrest⟩ := h
      · exact Or.inl (ih h)
      · refine Or.inr ⟨rfl, ⟨ha, hq⟩, fun y hy hy' => ?_⟩
        exact hrest y (List.mem_filter.mpr ⟨hy, hy'.1⟩) hy'.2
    · rw [List.filter_cons_of_neg ha] at h
      exact Or.inl (ih h)

section Correspondence

variable {r : α → β → Prop} {p : α → Prop} {q : β → Prop} {xs : List α} {ys : List β}

/-- Where two lists correspond member by member and no member of the second has a property, none of
the first has the property that corresponds to it. -/
theorem forall_not_of_forall₂ (hr : List.Forall₂ r xs ys) (hpq : ∀ a b, r a b → (p a ↔ q b))
    (hnone : ∀ y ∈ ys, ¬ q y) : ∀ x ∈ xs, ¬ p x := by
  induction hr with
  | nil => exact fun x hx => absurd hx List.not_mem_nil
  | @cons a b xs ys hab _ ih =>
    rw [List.forall_mem_cons] at hnone ⊢
    exact ⟨fun ha => hnone.1 ((hpq a b hab).mp ha), ih hnone.2⟩

/-- Where two lists correspond member by member, so do the last members with properties that
correspond. -/
theorem LastWith.of_forall₂ (hr : List.Forall₂ r xs ys) (hpq : ∀ a b, r a b → (p a ↔ q b)) {y : β}
    (h : LastWith q ys y) : ∃ x, LastWith p xs x ∧ r x y := by
  induction hr with
  | nil => exact absurd h not_lastWith_nil
  | @cons a b xs ys hab hrest ih =>
    obtain h | ⟨rfl, hq, hnone⟩ := lastWith_cons_iff.mp h
    · obtain ⟨x, hx, hxy⟩ := ih h
      exact ⟨x, lastWith_cons_iff.mpr (Or.inl hx), hxy⟩
    · have hnone' := forall_not_of_forall₂ hrest hpq hnone
      exact ⟨a, lastWith_cons_iff.mpr (Or.inr ⟨rfl, (hpq a b hab).mpr hq, hnone'⟩), hab⟩

/-- A list corresponds to what it is mapped to, where every member is mapped to something. -/
theorem forall₂_filterMap {f : α → Option β} (h : ∀ x ∈ xs, (f x).isSome = true) :
    List.Forall₂ (fun x y => f x = some y) xs (xs.filterMap f) := by
  induction xs with
  | nil => exact List.Forall₂.nil
  | cons x xs ih =>
    rw [List.forall_mem_cons] at h
    obtain ⟨y, hy⟩ := Option.isSome_iff_exists.mp h.1
    rw [List.filterMap_cons_some hy]
    exact List.Forall₂.cons hy (ih h.2)

/-- A list corresponds to what it is mapped to, where the mapping of no member fails. -/
theorem forall₂_of_mapM {ε : Type} {f : α → Except ε β} (h : xs.mapM f = .ok ys) :
    List.Forall₂ (fun x y => f x = .ok y) xs ys := by
  induction xs generalizing ys with
  | nil =>
    obtain rfl := Except.ok.inj h
    exact List.Forall₂.nil
  | cons x xs ih =>
    rw [List.mapM_cons] at h
    cases hx : f x with
    | error e =>
      rw [hx] at h
      cases h
    | ok y =>
      cases hxs : xs.mapM f with
      | error e =>
        rw [hx, hxs] at h
        cases h
      | ok rest =>
        rw [hx, hxs] at h
        obtain rfl := Except.ok.inj h
        exact List.Forall₂.cons hx (ih hxs)

/-- Where one list corresponds to a second and that to a third, the first corresponds to the
third. -/
theorem forall₂_trans {γ : Type} {r' : β → γ → Prop} {zs : List γ} (hr : List.Forall₂ r xs ys)
    (hr' : List.Forall₂ r' ys zs) : List.Forall₂ (fun x z => ∃ y, r x y ∧ r' y z) xs zs := by
  induction hr generalizing zs with
  | nil =>
    cases hr'
    exact List.Forall₂.nil
  | cons hxy _ ih =>
    cases hr' with
    | cons hyz hrest => exact List.Forall₂.cons ⟨_, hxy, hyz⟩ (ih hrest)

end Correspondence

namespace OrderedMap

variable {κ ν : Type} [DecidableEq κ]

/-- Where every pair of a list adds its key, unless that is there, the keys stand in the order of
the list, each at its first place. -/
theorem keys_foldl_of_adds {α : Type} {f : OrderedMap κ ν → κ × α → OrderedMap κ ν}
    (hf : ∀ m e, (f m e).keys = if e.1 ∈ m.keys then m.keys else m.keys ++ [e.1])
    (es : List (κ × α)) : (es.foldl f empty).keys = (es.map Prod.fst).eraseDups := by
  induction es using List.reverseRecOn with
  | nil => rfl
  | append_singleton es e ih =>
    rw [List.foldl_concat, hf, ih, List.map_append, List.eraseDups_append]
    by_cases he : e.1 ∈ es.map Prod.fst
    · rw [if_pos (List.mem_eraseDups.mpr he)]
      simp [List.removeAll, he]
    · rw [if_neg fun h => he (List.mem_eraseDups.mp h)]
      simp [List.removeAll, he, List.eraseDups_cons]

/-- The keys of the map of a list: in the order of the list, each at its first place. -/
theorem keys_ofList (es : List (κ × ν)) : (ofList es).keys = (es.map Prod.fst).eraseDups :=
  keys_foldl_of_adds (fun m e => keys_insert m e.1 e.2) es

/-- The value of a key after pairs are given one after the other: the last that it is given, or the
one that it had. -/
theorem get?_foldl_insert_eq_some_iff {m : OrderedMap κ ν} {es : List (κ × ν)} {k : κ} {v : ν} :
    (es.foldl (fun m e => m.insert e.1 e.2) m).get? k = some v ↔
      LastWith (fun e => e.1 = k) es (k, v) ∨ (∀ e ∈ es, e.1 ≠ k) ∧ m.get? k = some v := by
  induction es generalizing m with
  | nil => simp [not_lastWith_nil]
  | cons e es ih =>
    rw [List.foldl_cons, ih, lastWith_cons_iff, get?_insert, or_assoc]
    refine or_congr_right ?_
    by_cases he : e.1 = k
    · subst he
      simp [Prod.ext_iff, List.forall_mem_cons, -List.mem_cons, and_comm]
    · have hne : e ≠ (k, v) := fun heq => he (congrArg Prod.fst heq)
      simp [he, hne]

/-- The value of a key in the map of a list: the last that it is given. -/
theorem get?_ofList_eq_some_iff {es : List (κ × ν)} {k : κ} {v : ν} :
    (ofList es).get? k = some v ↔ LastWith (fun e => e.1 = k) es (k, v) := by
  rw [ofList, get?_foldl_insert_eq_some_iff]
  simp

/-- In a list that gives no key twice, every pair gives its key the value. -/
theorem get?_ofList_eq_some_iff_mem {es : List (κ × ν)} (h : (es.map Prod.fst).Nodup) {k : κ}
    {v : ν} : (ofList es).get? k = some v ↔ (k, v) ∈ es := by
  rw [get?_ofList_eq_some_iff]
  constructor
  · rintro ⟨before, after, rfl, -, -⟩
    exact List.mem_append_right before List.mem_cons_self
  · intro hmem
    obtain ⟨before, after, rfl⟩ := List.append_of_mem hmem
    refine ⟨before, after, rfl, rfl, fun e he heq => ?_⟩
    rw [List.map_append, List.map_cons] at h
    have hafter := (List.nodup_cons.mp (List.nodup_append.mp h).2.1).1
    exact hafter (List.mem_map.mpr ⟨e, he, heq⟩)

/-- A list that gives no key twice may give its pairs in any order. -/
theorem get?_ofList_of_perm {es es' : List (κ × ν)} (hperm : es.Perm es')
    (h : (es.map Prod.fst).Nodup) (k : κ) : (ofList es).get? k = (ofList es').get? k := by
  have h' : (es'.map Prod.fst).Nodup := (hperm.map Prod.fst).nodup_iff.mp h
  apply Option.ext
  intro v
  rw [get?_ofList_eq_some_iff_mem h, get?_ofList_eq_some_iff_mem h', hperm.mem_iff]

end OrderedMap

end TraitDocs
