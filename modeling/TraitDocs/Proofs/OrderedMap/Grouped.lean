import Mathlib.Data.List.Induction
import TraitDocs.OrderedMap.Lemmas
import TraitDocs.Proofs.OrderedMap.OfList

/-!
# Maps of grouped values and of distinct keys

A list of pairs groups the values of each key: the keys stand in the order in which they are first
given, and each has its values in order. Where no key is given twice, the map of the list has the
pairs of the list as its entries.
-/

set_option autoImplicit false

namespace TraitDocs.OrderedMap

variable {κ ν : Type} [DecidableEq κ]

/-- The entries of a map are its keys with their values. -/
theorem entries_eq_map_keys (m : OrderedMap κ ν) (void : ν) :
    m.entries = m.keys.map fun k => (k, (m.get? k).getD void) := by
  unfold keys
  rw [List.map_map]
  conv_lhs => rw [← List.map_id m.entries]
  apply List.map_congr_left
  intro e he
  have hget : m.get? e.1 = some e.2 := get?_eq_some_iff.mpr he
  simp [hget]

/-- A map is given by its keys, in order, and their values. -/
theorem eq_of_keys_eq [Inhabited ν] {m n : OrderedMap κ ν} (hkeys : m.keys = n.keys)
    (hget : ∀ k ∈ m.keys, m.get? k = n.get? k) : m = n := by
  apply ext
  rw [entries_eq_map_keys m default, entries_eq_map_keys n default, ← hkeys]
  apply List.map_congr_left
  intro k hk
  rw [hget k hk]

/-- Adds a value to the list that stands under a key. -/
def addValue (m : OrderedMap κ (List ν)) (e : κ × ν) : OrderedMap κ (List ν) :=
  m.insert e.1 ((m.get? e.1).getD [] ++ [e.2])

/-- Values that are added one after the other give their keys in the order in which they come up. -/
theorem keys_foldl_addValue (es : List (κ × ν)) :
    (es.foldl addValue empty).keys = (es.map Prod.fst).eraseDups :=
  keys_foldl_of_adds (fun m e => keys_insert m e.1 _) es

/-- Values that are added one after the other stand under their keys in that order. -/
theorem getD_foldl_addValue (es : List (κ × ν)) (k : κ) :
    ((es.foldl addValue empty).get? k).getD [] =
      (es.filter fun e => decide (e.1 = k)).map Prod.snd := by
  induction es using List.reverseRecOn with
  | nil => rfl
  | append_singleton es e ih =>
    rw [List.foldl_concat, addValue, get?_insert, List.filter_append, List.map_append, ← ih]
    by_cases he : e.1 = k
    · simp [he]
    · simp [he]

/-- Values that are added one after the other are grouped by their keys. -/
theorem entries_foldl_addValue (es : List (κ × ν)) :
    (es.foldl addValue empty).entries =
      (es.map Prod.fst).eraseDups.map fun k =>
        (k, (es.filter fun e => decide (e.1 = k)).map Prod.snd) := by
  rw [entries_eq_map_keys _ [], keys_foldl_addValue]
  simp only [getD_foldl_addValue]

/-- The values that a list of pairs gives each key, in order. -/
def grouped (es : List (κ × ν)) : OrderedMap κ (List ν) where
  entries := (es.map Prod.fst).eraseDups.map fun k =>
    (k, (es.filter fun e => decide (e.1 = k)).map Prod.snd)
  nodup_keys := entries_foldl_addValue es ▸ (es.foldl addValue empty).nodup_keys

/-- To add values one after the other is to group them. -/
theorem foldl_addValue_eq_grouped (es : List (κ × ν)) : es.foldl addValue empty = grouped es :=
  ext (entries_foldl_addValue es)

/-- A new key goes to the end. -/
theorem put_of_not_mem {k : κ} (v : ν) {es : List (κ × ν)} (h : k ∉ es.map Prod.fst) :
    put k v es = es ++ [(k, v)] := by
  induction es with
  | nil => rfl
  | cons e es ih =>
    rw [List.map_cons, List.mem_cons, not_or] at h
    rw [put, if_neg (Ne.symm h.1), ih h.2]
    rfl

/-- The map of a list that gives no key twice has the pairs of the list as its entries. -/
theorem entries_ofList_of_nodup {es : List (κ × ν)} (h : (es.map Prod.fst).Nodup) :
    (ofList es).entries = es := by
  induction es using List.reverseRecOn with
  | nil => rfl
  | append_singleton es e ih =>
    rw [List.map_append, List.nodup_append] at h
    have hnew : e.1 ∉ es.map Prod.fst := fun he => h.2.2 e.1 he e.1 (by simp) rfl
    have hstep : (ofList (es ++ [e])).entries = put e.1 e.2 (ofList es).entries := by
      rw [ofList, List.foldl_concat]
      rfl
    rw [hstep, ih h.1, put_of_not_mem e.2 hnew]

end TraitDocs.OrderedMap
