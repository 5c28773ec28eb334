/-!
# Ordered maps

Finite maps that remember the order in which their keys were first given.

A map is a list of entries without a repeated key. Giving a key again changes its value and leaves
it at its place; a new key goes to the end.
-/

set_option autoImplicit false

namespace TraitDocs

/-- A finite map whose keys stand in a fixed order. -/
structure OrderedMap (κ ν : Type) where
  /-- The keys with their values, in order. -/
  entries : List (κ × ν)
  /-- No key stands twice. -/
  nodup_keys : (entries.map Prod.fst).Nodup

namespace OrderedMap

variable {κ ν ν' : Type}

/-- Two maps with the same entries are equal. -/
@[ext]
theorem ext {m n : OrderedMap κ ν} (h : m.entries = n.entries) : m = n := by
  cases m
  cases n
  cases h
  rfl

/-- The map without entries. -/
def empty : OrderedMap κ ν :=
  ⟨[], List.nodup_nil⟩

instance : Inhabited (OrderedMap κ ν) :=
  ⟨empty⟩

instance [Repr κ] [Repr ν] : Repr (OrderedMap κ ν) :=
  ⟨fun m n => reprPrec m.entries n⟩

/-- The keys, in order. -/
def keys (m : OrderedMap κ ν) : List κ :=
  m.entries.map Prod.fst

/-- The values, in the order of their keys. -/
def values (m : OrderedMap κ ν) : List ν :=
  m.entries.map Prod.snd

/-- The number of keys. -/
def size (m : OrderedMap κ ν) : Nat :=
  m.entries.length

/-- The keys of a map are distinct. -/
theorem keys_nodup (m : OrderedMap κ ν) : m.keys.Nodup :=
  m.nodup_keys

/-- Applies a function to every value. -/
def map (f : κ → ν → ν') (m : OrderedMap κ ν) : OrderedMap κ ν' where
  entries := m.entries.map fun e => (e.1, f e.1 e.2)
  nodup_keys := by simpa [List.map_map, Function.comp_def] using m.nodup_keys

/-- Keeps the entries that pass a test. -/
def filter (p : κ → ν → Bool) (m : OrderedMap κ ν) : OrderedMap κ ν where
  entries := m.entries.filter fun e => p e.1 e.2
  nodup_keys := (List.filter_sublist.map Prod.fst).nodup m.nodup_keys

section Lookup

variable [DecidableEq κ]

/-- The value that stands under a key in a list of entries. -/
def lookup (k : κ) : List (κ × ν) → Option ν
  | [] => none
  | (k', v) :: es => if k' = k then some v else lookup k es

/-- The value of a key, if the key is there. -/
def get? (m : OrderedMap κ ν) (k : κ) : Option ν :=
  lookup k m.entries

/-- Tells whether a key is there. -/
def contains (m : OrderedMap κ ν) (k : κ) : Bool :=
  (m.get? k).isSome

/-- Gives a key its value in a list of entries: in place if the key is there, else at the end. -/
def put (k : κ) (v : ν) : List (κ × ν) → List (κ × ν)
  | [] => [(k, v)]
  | (k', v') :: es => if k' = k then (k, v) :: es else (k', v') :: put k v es

/-- Giving a key its value leaves the keys as they are, or adds the key at the end. -/
theorem map_fst_put (k : κ) (v : ν) (es : List (κ × ν)) :
    (put k v es).map Prod.fst =
      if k ∈ es.map Prod.fst then es.map Prod.fst else es.map Prod.fst ++ [k] := by
  induction es with
  | nil => simp [put]
  | cons e es ih =>
    obtain ⟨k', v'⟩ := e
    by_cases h : k' = k
    · simp [put, h]
    · have h' : k ≠ k' := fun he => h he.symm
      simp only [put, h, if_false, List.map_cons, ih, List.mem_cons, h', false_or]
      split <;> simp

/-- Gives a key a value: at the key's place if it has one, else at the end. -/
def insert (m : OrderedMap κ ν) (k : κ) (v : ν) : OrderedMap κ ν where
  entries := put k v m.entries
  nodup_keys := by
    rw [map_fst_put]
    split
    · exact m.nodup_keys
    · rename_i h
      rw [List.nodup_append]
      refine ⟨m.nodup_keys, by simp, ?_⟩
      intro a ha b hb hab
      rw [List.mem_singleton] at hb
      exact h (hb ▸ hab ▸ ha)

/-- Takes a key out. -/
def erase (m : OrderedMap κ ν) (k : κ) : OrderedMap κ ν :=
  m.filter fun k' _ => decide (k' ≠ k)

/-- The map of a list of pairs, given one after the other. -/
def ofList (es : List (κ × ν)) : OrderedMap κ ν :=
  es.foldl (fun m e => m.insert e.1 e.2) empty

end Lookup

/-- The entries in ascending order of their keys, texts being compared by code points. -/
def sorted (m : OrderedMap String ν) : OrderedMap String ν where
  entries := m.entries.mergeSort fun a b => decide (a.1 ≤ b.1)
  nodup_keys := ((List.mergeSort_perm _ _).map Prod.fst).nodup_iff.mpr m.nodup_keys

end OrderedMap

end TraitDocs
