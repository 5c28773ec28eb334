import TraitDocs.File.Tree
import TraitDocs.OrderedMap.Lemmas

/-!
# What the operations on a file tree leave as it is

Making directories adds directories at places where nothing stood, each at the place of a path that
the given one starts with, and writing a file puts it at one place where no directory stood. Neither
takes a directory away, so a path that leads somewhere leads to the same place afterwards, and what
stands at any other place can be read as before. Doing either a second time changes nothing.
-/

set_option autoImplicit false

namespace TraitDocs.File

namespace Tree

/-- What stands at a location after something was put at another, or the same. -/
theorem node?_put (t : Tree) (l l' : Location) (n : Node) :
    (t.put l n).node? l' = if l' ≠ [] ∧ l = l' then some n else t.node? l' := by
  simp only [node?, put, OrderedMap.get?_insert]
  by_cases hnil : l' = []
  · simp [hnil]
  · simp [hnil]

/-- The second tree has every directory of the first, and relative paths start at the same place. -/
structure KeepsDirectories (t t' : Tree) : Prop where
  workingDirectory_eq : t'.workingDirectory = t.workingDirectory
  directory : ∀ l, t.node? l = some .directory → t'.node? l = some .directory

namespace KeepsDirectories

variable {t t' t'' : Tree}

/-- Directories that are kept twice are kept. -/
theorem trans (h : KeepsDirectories t t') (h' : KeepsDirectories t' t'') :
    KeepsDirectories t t'' :=
  ⟨h'.workingDirectory_eq.trans h.workingDirectory_eq,
    fun l hl => h'.directory l (h.directory l hl)⟩

/-- Parts that can be followed lead to the same place as long as no directory is taken away. -/
theorem follow_eq (h : KeepsDirectories t t') {l l' : Location} {parts : List String}
    (hfollow : t.follow l parts = .ok l') : t'.follow l parts = .ok l' := by
  induction parts generalizing l with
  | nil => exact hfollow
  | cons part parts ih =>
    rw [follow] at hfollow ⊢
    cases hnode : t.node? l with
    | none => simp [hnode] at hfollow
    | some n =>
      cases n with
      | file bytes => simp [hnode] at hfollow
      | directory =>
        simp only [hnode, h.directory l hnode] at hfollow ⊢
        split at hfollow
        · rename_i hup
          rw [if_pos hup]
          exact ih hfollow
        · rename_i hup
          rw [if_neg hup]
          split at hfollow
          · cases hfollow
          · rename_i hsize
            rw [if_neg hsize]
            exact ih hfollow

/-- A path that leads somewhere leads to the same place as long as no directory is taken away. -/
theorem locate_eq (h : KeepsDirectories t t') {p : Path} {l : Location}
    (hlocate : t.locate p = .ok l) : t'.locate p = .ok l := by
  unfold locate at hlocate ⊢
  split at hlocate
  · cases hlocate
  · rename_i hnull
    rw [if_neg hnull]
    split at hlocate
    · cases hlocate
    · rename_i hsize
      rw [if_neg hsize, h.workingDirectory_eq]
      exact h.follow_eq hlocate

end KeepsDirectories

/-- The second tree has what the first has, and perhaps directories where that has nothing. -/
structure AddsDirectories (t t' : Tree) : Prop where
  workingDirectory_eq : t'.workingDirectory = t.workingDirectory
  /-- A location is as it was, or it is a directory and was nothing. -/
  node?_eq_or : ∀ l, t'.node? l = t.node? l ∨ t.node? l = none ∧ t'.node? l = some .directory

namespace AddsDirectories

variable {t t' t'' : Tree}

/-- A tree adds no directory to itself. -/
theorem refl (t : Tree) : AddsDirectories t t :=
  ⟨rfl, fun _ => Or.inl rfl⟩

/-- What adds directories twice adds directories. -/
theorem trans (h : AddsDirectories t t') (h' : AddsDirectories t' t'') :
    AddsDirectories t t'' := by
  refine ⟨h'.workingDirectory_eq.trans h.workingDirectory_eq, fun l => ?_⟩
  obtain hl | ⟨hl, hl'⟩ := h.node?_eq_or l
  · rw [← hl]
    exact h'.node?_eq_or l
  · obtain hl'' | ⟨hl'', -⟩ := h'.node?_eq_or l
    · exact Or.inr ⟨hl, hl''.trans hl'⟩
    · exact absurd (hl'.symm.trans hl'') (by simp)

/-- Where something stands, no directory is added. -/
theorem node?_eq_of_some (h : AddsDirectories t t') {l : Location} {n : Node}
    (hl : t.node? l = some n) : t'.node? l = some n := by
  obtain hl' | ⟨hnone, -⟩ := h.node?_eq_or l
  · exact hl'.trans hl
  · exact absurd (hl.symm.trans hnone) (by simp)

/-- What adds directories keeps those that are there. -/
theorem keepsDirectories (h : AddsDirectories t t') : KeepsDirectories t t' :=
  ⟨h.workingDirectory_eq, fun _ hl => h.node?_eq_of_some hl⟩

end AddsDirectories

/-- The second tree has what the first has, and perhaps directories where that has nothing, each at
a place to which a path of some kind leads. -/
structure AddsDirectoriesAt (named : Path → Prop) (t t' : Tree) : Prop
    extends AddsDirectories t t' where
  exists_path : ∀ l, t.node? l = none → t'.node? l ≠ none → ∃ p, named p ∧ t'.locate p = .ok l

namespace AddsDirectoriesAt

variable {named named' : Path → Prop} {t t' t'' : Tree}

/-- A tree adds no directory to itself. -/
theorem refl (named : Path → Prop) (t : Tree) : AddsDirectoriesAt named t t :=
  ⟨AddsDirectories.refl t, fun _ hnone hsome => absurd hnone hsome⟩

/-- Directories at paths of one kind are at paths of any kind that includes it. -/
theorem imp (h : AddsDirectoriesAt named t t') (hnamed : ∀ p, named p → named' p) :
    AddsDirectoriesAt named' t t' := by
  refine ⟨h.toAddsDirectories, fun l hnone hsome => ?_⟩
  obtain ⟨p, hp, hlocate⟩ := h.exists_path l hnone hsome
  exact ⟨p, hnamed p hp, hlocate⟩

/-- What adds directories at such paths twice adds directories at such paths. -/
theorem trans (h : AddsDirectoriesAt named t t') (h' : AddsDirectoriesAt named t' t'') :
    AddsDirectoriesAt named t t'' := by
  refine ⟨h.toAddsDirectories.trans h'.toAddsDirectories, fun l hnone hsome => ?_⟩
  by_cases hmiddle : t'.node? l = none
  · exact h'.exists_path l hmiddle hsome
  · -- A directory made first is still found by its path.
    obtain ⟨p, hp, hlocate⟩ := h.exists_path l hnone hmiddle
    exact ⟨p, hp, h'.keepsDirectories.locate_eq hlocate⟩

end AddsDirectoriesAt

/-- Putting a file or a directory where no directory stands takes no directory away. -/
theorem keepsDirectories_put {t : Tree} {l : Location} (hl : t.node? l ≠ some .directory)
    (n : Node) : KeepsDirectories t (t.put l n) := by
  refine ⟨rfl, fun l' hl' => ?_⟩
  rw [node?_put, if_neg]
  · exact hl'
  · rintro ⟨-, rfl⟩
    exact hl hl'

/-- Making one directory adds at most that directory. -/
theorem addsDirectoriesAt_makeDirectory (t : Tree) (p : Path) :
    AddsDirectoriesAt (· = p) t (t.makeDirectory p).1 := by
  unfold makeDirectory
  split
  · exact AddsDirectoriesAt.refl _ t
  · rename_i l hlocate
    split
    · exact AddsDirectoriesAt.refl _ t
    · exact AddsDirectoriesAt.refl _ t
    · rename_i hnone
      have hkeeps : KeepsDirectories t (t.put l .directory) :=
        keepsDirectories_put (by simp [hnone]) _
      refine ⟨⟨rfl, fun l' => ?_⟩, fun l' hnone' hsome => ?_⟩
      · rw [node?_put]
        split
        · rename_i hl
          exact Or.inr ⟨hl.2 ▸ hnone, rfl⟩
        · exact Or.inl rfl
      · rw [node?_put] at hsome
        split at hsome
        · rename_i hl
          exact ⟨p, rfl, hl.2 ▸ hkeeps.locate_eq hlocate⟩
        · exact absurd hnone' hsome

/-- Making a directory with the missing ones above it adds nothing but directories, each at the
place of a path that the given one starts with, also if one of them cannot be made. -/
theorem addsDirectoriesAt_makeDirectoriesFrom (t : Tree) (root : String) (parts : List String) :
    AddsDirectoriesAt (fun p => p.root = root ∧ p.parts <+: parts.reverse) t
      (t.makeDirectoriesFrom root parts).1 := by
  have hhere : ∀ (t : Tree) (parts : List String),
      AddsDirectoriesAt (fun p => p.root = root ∧ p.parts <+: parts.reverse) t
        (t.makeDirectory ⟨root, parts.reverse⟩).1 := by
    intro t parts
    refine (addsDirectoriesAt_makeDirectory t _).imp ?_
    rintro p rfl
    exact ⟨rfl, List.prefix_rfl⟩
  -- The parts are given last first, so each step of the recursion goes one directory up.
  induction parts generalizing t with
  | nil => exact hhere t []
  | cons part above ih =>
    have habove : AddsDirectoriesAt (fun p => p.root = root ∧ p.parts <+: (part :: above).reverse) t
        (t.makeDirectoriesFrom root above).1 := by
      refine (ih t).imp fun p hp => ⟨hp.1, ?_⟩
      rw [List.reverse_cons]
      exact hp.2.trans (List.prefix_append _ _)
    rw [makeDirectoriesFrom]
    split
    · split
      · rename_i t' hmade
        rw [hmade] at habove
        exact habove.trans (hhere t' (part :: above))
      · rename_i t' fault hmade
        rw [hmade] at habove
        exact habove
    · exact hhere t (part :: above)

/-- Directories are made at the paths that a path goes through. -/
theorem addsDirectoriesAt_makeDirectories (t : Tree) (p : Path) :
    AddsDirectoriesAt (fun q => q.root = p.root ∧ q.parts <+: p.parts) t
      (t.makeDirectories p).1 := by
  have h := addsDirectoriesAt_makeDirectoriesFrom t p.root p.parts.reverse
  rwa [List.reverse_reverse] at h

/-- Making directories adds directories and changes nothing else. -/
theorem addsDirectories_makeDirectories (t : Tree) (p : Path) :
    AddsDirectories t (t.makeDirectories p).1 :=
  (addsDirectoriesAt_makeDirectories t p).toAddsDirectories

/-- What a write that succeeds does: the path leads to a place where no directory stands, and the
file is put there. -/
theorem write_eq_none {t t' : Tree} {p : Path} {bytes : ByteArray}
    (hwrite : t.write p bytes = (t', none)) :
    ∃ l, t.locate p = .ok l ∧ t.node? l ≠ some .directory ∧ t' = t.put l (.file bytes) := by
  unfold write at hwrite
  split at hwrite
  · simp at hwrite
  · rename_i l hl
    split at hwrite
    · simp at hwrite
    · rename_i hnode
      exact ⟨l, hl, hnode, (congrArg Prod.fst hwrite).symm⟩

/-- The bytes at a path that leads to a file. -/
theorem read_eq_ok_iff {t : Tree} {p : Path} {bytes : ByteArray} :
    t.read p = .ok bytes ↔ ∃ l, t.locate p = .ok l ∧ t.node? l = some (.file bytes) := by
  unfold read
  cases t.locate p with
  | error fault => simp
  | ok l =>
    cases hnode : t.node? l with
    | none => simp [hnode]
    | some n => cases n <;> simp [hnode]

/-- Putting what stands at a location changes nothing. -/
theorem put_eq_self {t : Tree} {l : Location} {n : Node} (hne : l ≠ []) (h : t.node? l = some n) :
    t.put l n = t := by
  rw [node?, if_neg hne] at h
  rw [put, OrderedMap.insert_eq_self h]

/-- The second tree has one more file, in place of what was there, and otherwise what the first has,
and perhaps directories where that has nothing. -/
structure AddsFile (t t' : Tree) (l : Location) (bytes : ByteArray) : Prop where
  keepsDirectories : KeepsDirectories t t'
  node?_self : t'.node? l = some (.file bytes)
  /-- Another location is as it was, or it is a directory and was nothing. -/
  node?_other : ∀ l', l' ≠ l →
    t'.node? l' = t.node? l' ∨ t.node? l' = none ∧ t'.node? l' = some .directory

/-- Writing a file after making directories adds that file, where its path leads. -/
theorem addsFile_of_write {t t₁ t' : Tree} {p : Path} {bytes : ByteArray}
    (hadds : AddsDirectories t t₁) (hwrite : t₁.write p bytes = (t', none)) :
    ∃ l, t'.locate p = .ok l ∧ AddsFile t t' l bytes := by
  obtain ⟨l, hl, hnode, rfl⟩ := write_eq_none hwrite
  have hkeeps := keepsDirectories_put hnode (.file bytes)
  have hne : l ≠ [] := by
    rintro rfl
    exact hnode rfl
  refine ⟨l, hkeeps.locate_eq hl, hadds.keepsDirectories.trans hkeeps, ?_, fun l' hl' => ?_⟩
  · rw [node?_put, if_pos ⟨hne, rfl⟩]
  · rw [node?_put, if_neg fun h => hl' h.2.symm]
    exact hadds.node?_eq_or l'

/-- The file at another place is read as before. -/
theorem AddsFile.read_eq_ok_iff {t t' : Tree} {l : Location} {bytes : ByteArray}
    (h : AddsFile t t' l bytes) {p : Path} {l' : Location} (hlocate : t.locate p = .ok l')
    (hne : t'.locate p ≠ .ok l) (bytes' : ByteArray) :
    t'.read p = .ok bytes' ↔ t.read p = .ok bytes' := by
  have hlocate' := h.keepsDirectories.locate_eq hlocate
  have hother : l' ≠ l := fun heq => hne (heq ▸ hlocate')
  rw [Tree.read_eq_ok_iff, Tree.read_eq_ok_iff, hlocate, hlocate']
  simp only [Except.ok.injEq, exists_eq_left']
  obtain hsame | ⟨hnone, hdirectory⟩ := h.node?_other l' hother
  · rw [hsame]
  · simp [hnone, hdirectory]

end Tree

end TraitDocs.File
