import TraitDocs.Proofs.Docblock.MethodContent

/-!
# Machines that are fed on

A machine can be fed on after the closing delimiter of a class comment, and after a parameter line
that it refuses. Lines of any kind may come, trimmed or not. A line that is refused leaves no trace,
and neither does a delimiter: what is read is what the other lines say.

Both machines only add to what they have read. `Progress` is what they have in common: two parts, of
which they write the first until they are turned, and names in the order in which they come up.
Each thing that a line can do is a growth of the progress (`growsTo_feed`, `growsTo_offer`), and so
is what any number of lines do.
-/

set_option autoImplicit false

namespace TraitDocs.Docblock

/-! ## What both machines have in common -/

/-- What a machine has read: whether it is turned to its second part, the lines of both parts, and
the names that have come up. -/
structure Progress where
  turned : Bool
  first : List String
  second : List String
  names : List String

namespace Progress

/-- Adds a line to the part that the machine is turned to. -/
def write (p : Progress) (line : String) : Progress :=
  if p.turned then { p with second := p.second ++ [line] }
  else { p with first := p.first ++ [line] }

/-- Notes a name at the end, unless it has come up before. -/
def note (p : Progress) (name : String) : Progress :=
  { p with names := if name ∈ p.names then p.names else p.names ++ [name] }

/-- Tells that lines and names are at most added, at the end, and that a machine that is turned
stays so and adds nothing to its first part. -/
structure GrowsTo (p q : Progress) : Prop where
  first : p.first <+: q.first
  second : p.second <+: q.second
  names : p.names <+: q.names
  turned : p.turned = true → q.turned = true ∧ q.first = p.first

/-- What stays as it is has grown, by nothing. -/
theorem GrowsTo.refl (p : Progress) : p.GrowsTo p where
  first := List.prefix_rfl
  second := List.prefix_rfl
  names := List.prefix_rfl
  turned := fun h => ⟨h, rfl⟩

/-- What grows and grows again has grown. -/
theorem GrowsTo.trans {p q s : Progress} (h : p.GrowsTo q) (h' : q.GrowsTo s) : p.GrowsTo s where
  first := h.first.trans h'.first
  second := h.second.trans h'.second
  names := h.names.trans h'.names
  turned := by
    intro hturned
    obtain ⟨hq, hfirst⟩ := h.turned hturned
    obtain ⟨hs, hfirst'⟩ := h'.turned hq
    exact ⟨hs, hfirst'.trans hfirst⟩

/-- A machine that is turned has grown. -/
theorem growsTo_turn (p : Progress) : p.GrowsTo { p with turned := true } :=
  { GrowsTo.refl p with turned := fun _ => ⟨rfl, rfl⟩ }

/-- A name that is noted is at most added. -/
theorem growsTo_note (p : Progress) (name : String) : p.GrowsTo (p.note name) := by
  refine { GrowsTo.refl p with names := ?_ }
  unfold note
  split
  · exact List.prefix_rfl
  · exact List.prefix_append _ _

/-- A line that is written is added to one part, and to the first only before the turn. -/
theorem growsTo_write (p : Progress) (line : String) : p.GrowsTo (p.write line) := by
  unfold write
  split
  · exact { GrowsTo.refl p with second := List.prefix_append _ _ }
  · rename_i hturned
    exact { GrowsTo.refl p with
      first := List.prefix_append _ _
      turned := fun h => absurd h hturned }

end Progress

/-! ## Class comments -/

namespace ClassReading

variable {r : ClassReading} {line : String} {lines : List String}

/-- What the machine for class comments has read. -/
def progress (r : ClassReading) : Progress where
  turned := decide (r.part = .doc)
  first := r.summary
  second := r.doc
  names := r.tags.keys

/-- The values that a tag has so far. -/
def valuesOf (r : ClassReading) (name : String) : List String :=
  (r.tags.get? name).getD []

/-- Tells that the progress grows and that values are at most added to a tag, at the end. -/
structure GrowsTo (r r' : ClassReading) : Prop where
  progress : r.progress.GrowsTo r'.progress
  values : ∀ name, r.valuesOf name <+: r'.valuesOf name

/-- Takes all lines, also those after the closing delimiter. -/
def feedOn (r : ClassReading) (lines : List String) : ClassReading :=
  lines.foldl (fun r line => (r.feed line).1) r

/-- What stays as it is has grown, by nothing. -/
theorem GrowsTo.refl (r : ClassReading) : r.GrowsTo r :=
  ⟨.refl _, fun _ => List.prefix_rfl⟩

/-- What grows and grows again has grown. -/
theorem GrowsTo.trans {r r' r'' : ClassReading} (h : r.GrowsTo r') (h' : r'.GrowsTo r'') :
    r.GrowsTo r'' :=
  ⟨h.progress.trans h'.progress, fun name => (h.values name).trans (h'.values name)⟩

/-- A line of text is written. -/
theorem progress_addText (r : ClassReading) (line : String) :
    (r.addText line).progress = r.progress.write line := by
  unfold addText Progress.write
  cases hpart : r.part <;> simp [progress, hpart]

/-- The name of a tag is noted. -/
theorem progress_addTag (r : ClassReading) (name value : String) :
    (r.addTag name value).progress = r.progress.note name := by
  unfold addTag Progress.note progress
  rw [OrderedMap.keys_insert]

/-- A value is added at the end of the values of its tag, and those of other tags stay. -/
theorem valuesOf_addTag (r : ClassReading) (name value name' : String) :
    (r.addTag name value).valuesOf name' =
      if name = name' then r.valuesOf name ++ [value] else r.valuesOf name' := by
  unfold addTag valuesOf
  rw [OrderedMap.get?_insert]
  split <;> rfl

/-- A line of text adds no value to a tag. -/
theorem valuesOf_addText (r : ClassReading) (line name : String) :
    (r.addText line).valuesOf name = r.valuesOf name := by
  unfold addText
  split <;> rfl

/-- A delimiter changes nothing. -/
theorem feed_of_isDelimiter (h : isDelimiter line = true) (r : ClassReading) :
    (r.feed line).1 = r := by
  rw [isDelimiter, Bool.or_eq_true, beq_iff_eq, beq_iff_eq] at h
  unfold feed
  obtain rfl | rfl := h <;> rfl

/-- A line makes the machine grow, in one of the ways of `feed_cases`. -/
theorem growsTo_feed (r : ClassReading) (line : String) : r.GrowsTo (r.feed line).1 := by
  obtain h | h | h | h := r.feed_cases line
  · rw [h]
    exact .refl r
  · rw [h]
    exact ⟨r.progress.growsTo_turn, fun _ => List.prefix_rfl⟩
  · rw [h]
    refine ⟨?_, fun name' => ?_⟩
    · rw [progress_addTag]
      exact r.progress.growsTo_note _
    · rw [valuesOf_addTag]
      split
      · rename_i hname
        rw [← hname]
        exact List.prefix_append _ _
      · exact List.prefix_rfl
  · rw [h]
    refine ⟨?_, fun name' => ?_⟩
    · rw [progress_addText]
      exact r.progress.growsTo_write _
    · exact (valuesOf_addText r _ name').symm ▸ List.prefix_rfl

/-- Lines make the machine grow, one after the other. -/
theorem growsTo_feedOn (r : ClassReading) (lines : List String) : r.GrowsTo (r.feedOn lines) := by
  apply List.foldlRecOn (motive := r.GrowsTo)
  · exact .refl r
  · intro r' h line _
    exact h.trans (r'.growsTo_feed line)

/-- Lines can be taken in two runs. -/
theorem feedOn_append (r : ClassReading) (lines more : List String) :
    r.feedOn (lines ++ more) = (r.feedOn lines).feedOn more :=
  List.foldl_append

/-- Delimiters can be left out of the lines. -/
theorem feedOn_filter (r : ClassReading) (lines : List String) :
    r.feedOn (lines.filter fun line => !isDelimiter line) = r.feedOn lines := by
  unfold feedOn
  induction lines generalizing r with
  | nil => rfl
  | cons line lines ih =>
    rw [List.foldl_cons]
    by_cases hdelimiter : isDelimiter line = true
    · rw [List.filter_cons_of_neg (by simp [hdelimiter]), feed_of_isDelimiter hdelimiter]
      exact ih r
    · rw [List.filter_cons_of_pos (by simp [hdelimiter]), List.foldl_cons]
      exact ih _

/-- Without a closing delimiter there is nothing to stop at. -/
theorem feedAll_eq_feedOn (h : closing ∉ lines) (r : ClassReading) :
    r.feedAll lines = r.feedOn lines := by
  unfold feedOn
  induction lines generalizing r with
  | nil => rfl
  | cons line lines ih =>
    rw [List.mem_cons, not_or] at h
    have hgoes : r.feed line = ((r.feed line).1, true) := by
      unfold feed
      rw [if_neg (Ne.symm h.1)]
      split <;> rfl
    rw [feedAll, hgoes, List.foldl_cons]
    exact ih h.2 _

end ClassReading

/-! ## Method comments -/

namespace MethodReading

variable {r : MethodReading} {line : String} {lines : List String}

/-- What the machine for method comments has read. -/
def progress (r : MethodReading) : Progress where
  turned := decide (r.part = .long)
  first := r.doc
  second := r.long
  names := r.params.keys

/-- Offers all lines, also after one that is refused. -/
def feedOn (r : MethodReading) (lines : List String) : MethodReading :=
  lines.foldl (fun r line => (r.offer line).1) r

/-- The lines that are taken when all are offered. -/
def taken (r : MethodReading) : List String → List String
  | [] => []
  | line :: lines =>
    match r.offer line with
    | (r, true) => line :: r.taken lines
    | (r, false) => r.taken lines

/-- A line of text is written. -/
theorem progress_addText (r : MethodReading) (line : String) :
    (r.addText line).progress = r.progress.write line := by
  unfold addText Progress.write
  cases hpart : r.part <;> simp [progress, hpart]

/-- The name of a parameter is noted. -/
theorem progress_addParam (r : MethodReading) (tag : ParamTag) :
    (r.addParam tag).progress = r.progress.note tag.name := by
  unfold addParam Progress.note progress
  rw [OrderedMap.keys_insert]

/-- A line that is taken is read as ever, and one that is refused changes nothing. -/
theorem offer_eq (r : MethodReading) (line : String) :
    r.offer line = ((r.feed line).getD r, (r.feed line).isSome) := by
  rw [feed_eq, offer]
  split
  · rfl
  · split
    · rfl
    · split
      · cases paramTag? (line.toList.drop paramStart.length) <;> rfl
      · rfl

/-- What is taken grows in one of the ways of `feed_cases`, and what is refused stays. -/
theorem growsTo_offer (r : MethodReading) (line : String) :
    r.progress.GrowsTo (r.offer line).1.progress := by
  rw [offer_eq]
  cases hfeed : r.feed line with
  | none => exact .refl _
  | some r' =>
    show r.progress.GrowsTo r'.progress
    obtain rfl | rfl | ⟨tag, -, rfl⟩ | rfl := feed_cases hfeed
    · exact .refl _
    · exact r.progress.growsTo_turn
    · rw [progress_addParam]
      exact r.progress.growsTo_note tag.name
    · rw [progress_addText]
      exact r.progress.growsTo_write _

/-- Lines make the machine grow, one after the other, also after one that is refused. -/
theorem growsTo_feedOn (r : MethodReading) (lines : List String) :
    r.progress.GrowsTo (r.feedOn lines).progress := by
  apply List.foldlRecOn (motive := fun r' : MethodReading => r.progress.GrowsTo r'.progress)
  · exact .refl r.progress
  · intro r' h line _
    exact h.trans (r'.growsTo_offer line)

/-- Lines can be offered in two runs. -/
theorem feedOn_append (r : MethodReading) (lines more : List String) :
    r.feedOn (lines ++ more) = (r.feedOn lines).feedOn more :=
  List.foldl_append

/-- Whether a line is taken is for the line alone to say. -/
theorem isSome_feed (r r' : MethodReading) (line : String) :
    (r.feed line).isSome = (r'.feed line).isSome := by
  cases hparam : MethodLine.isParam line with
  | true =>
    rw [feed_of_isParam hparam, feed_of_isParam hparam, Option.isSome_map, Option.isSome_map]
  | false =>
    rw [feed_of_not_isParam hparam, feed_of_not_isParam hparam]
    rfl

/-- Offering all lines comes to the same as feeding those that are taken. -/
theorem feedAll_taken (r : MethodReading) (lines : List String) :
    r.feedAll (r.taken lines) = some (r.feedOn lines) := by
  unfold feedOn
  induction lines generalizing r with
  | nil => rfl
  | cons line lines ih =>
    rw [taken, List.foldl_cons, offer_eq]
    cases hfeed : r.feed line with
    | none =>
      -- A refused line is not among those taken, and the state is the one before it.
      exact ih r
    | some r' =>
      show r.feedAll (line :: r'.taken lines) = some (lines.foldl _ r')
      rw [feedAll, hfeed]
      exact ih r'

/-- Lines that are all taken can be offered as well. -/
theorem feedOn_of_feedAll {r' : MethodReading} (h : r.feedAll lines = some r') :
    r.feedOn lines = r' := by
  unfold feedOn
  induction lines generalizing r with
  | nil => exact Option.some.inj h
  | cons line lines ih =>
    rw [feedAll] at h
    split at h
    · rename_i r₁ hr₁
      rw [List.foldl_cons, offer_eq, hr₁]
      exact ih h
    · cases h

end MethodReading

/-- Machines that are fed on. A line that the machine of a method refuses leaves no trace, and
whether it is refused does not depend on the lines before it. The delimiters leave no trace in the
machine of a class. Whatever more comes, both machines keep what they have read and add at the
end. -/
theorem feeding_on_leaves_no_trace (lines more : List String) (line : String) :
    (MethodReading.feedOn {} (MethodReading.taken {} lines) = MethodReading.feedOn {} lines ∧
      MethodReading.feedAll {} (MethodReading.taken {} lines) =
        some (MethodReading.feedOn {} lines)) ∧
    ((MethodReading.feedOn {} lines).offer line).2 = (MethodReading.feed {} line).isSome ∧
    (MethodReading.feedOn {} lines).progress.GrowsTo
      (MethodReading.feedOn {} (lines ++ more)).progress ∧
    (ClassReading.feedOn {} (lines.filter fun line => !isDelimiter line) =
        ClassReading.feedOn {} lines ∧
      ClassReading.feedAll {} (lines.filter fun line => !isDelimiter line) =
        ClassReading.feedOn {} lines) ∧
    (ClassReading.feedOn {} lines).GrowsTo (ClassReading.feedOn {} (lines ++ more)) := by
  have htaken := MethodReading.feedAll_taken {} lines
  have hclosing : closing ∉ lines.filter fun line => !isDelimiter line :=
    fun h => absurd (List.mem_filter.mp h).2 (by decide)
  have hundelimited := ClassReading.feedOn_filter {} lines
  refine ⟨⟨MethodReading.feedOn_of_feedAll htaken, htaken⟩, ?_, ?_, ⟨hundelimited, ?_⟩, ?_⟩
  · rw [MethodReading.offer_eq]
    exact MethodReading.isSome_feed _ _ line
  · rw [MethodReading.feedOn_append]
    exact MethodReading.growsTo_feedOn _ more
  · rw [ClassReading.feedAll_eq_feedOn hclosing, hundelimited]
  · rw [ClassReading.feedOn_append]
    exact ClassReading.growsTo_feedOn _ more

-- Among lines that are taken, one is refused for want of a name; its type is nowhere to be seen.
example : MethodReading.taken {} ["* @param int $n", "*", "* @param int", " * Ends.\n"] =
    ["* @param int $n", "*", " * Ends.\n"] := by
  decide

end TraitDocs.Docblock
