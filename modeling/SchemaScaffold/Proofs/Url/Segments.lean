import SchemaScaffold.Proofs.Text.Pieces
import SchemaScaffold.Url.Basic

/-!
# Segments of longer paths

A path that goes on behind a slash leads through the same segments as before, but for empty ones at
its end, and then through the new ones: dots that end a path mean the same inside of it.
-/

namespace SchemaScaffold
namespace Url
namespace Path

open Text (joinWith)

/-- A segment of characters that a path shows as they are and that have no meaning in it. -/
def IsPlain (segment : List Char) : Prop :=
  ∀ c ∈ segment, keeps c = true ∧ c ∉ ['/', '\\', '%', '.', ':', '|']

theorem isPlain_nil : IsPlain [] := by
  simp [IsPlain]

namespace IsPlain

variable {segment : List Char}

theorem not_mem (plain : IsPlain segment) {c : Char} (special : c ∈ ['/', '\\', '%', '.', ':', '|']) :
    c ∉ segment := fun member => (plain c member).2 special

theorem encode (plain : IsPlain segment) : Percent.encode keeps segment = segment :=
  Percent.encode_eq_self fun c member => (plain c member).1

theorem isDriveLetter (plain : IsPlain segment) : isDriveLetter segment = false := by
  unfold Path.isDriveLetter
  split
  · next letter mark =>
    have colon : mark ≠ ':' := fun same => plain.not_mem (c := ':') (by simp) (by simp [same])
    have bar : mark ≠ '|' := fun same => plain.not_mem (c := '|') (by simp) (by simp [same])
    simp [colon, bar]
  · rfl

theorem decodeDots (plain : IsPlain segment) : decodeDots segment = segment := by
  induction segment with
  | nil => rfl
  | cons c rest ih =>
    have percent : c ≠ '%' := fun same => plain.not_mem (c := '%') (by simp) (by simp [same])
    have tail := ih fun other member => plain other (List.mem_cons_of_mem c member)
    unfold Path.decodeDots
    split
    · next same => exact absurd (List.cons.inj same).1 percent
    · next same => exact absurd (List.cons.inj same).1 percent
    · next same =>
      obtain ⟨rfl, rfl⟩ := List.cons.inj same
      rw [tail]
    · next same => simp at same

end IsPlain

/-- The place that a segment leads to, last segment first. -/
def enter (done : List (List Char)) (segment : List Char) : List (List Char) :=
  match decodeDots segment with
  | ['.'] => done
  | ['.', '.'] => parent done
  | _ => Percent.encode keeps segment :: done

/-- A segment of one dot or two. -/
def isDots (segment : List Char) : Bool :=
  decodeDots segment == ['.'] || decodeDots segment == ['.', '.']

/-- An empty segment stands for dots at the end. -/
theorem follow_cons (done : List (List Char)) (segment : List Char) (rest : List (List Char)) :
    follow done (segment :: rest) =
      follow (if isDots segment && rest.isEmpty then [] :: enter done segment
        else enter done segment) rest := by
  rw [follow]
  split
  · next one => simp [isDots, enter, one]
  · next two => simp [isDots, enter, two]
  · next notOne notTwo =>
    have other : isDots segment = false := by simpa [isDots] using ⟨notOne, notTwo⟩
    rw [other, Bool.false_and, enter]
    simp

theorem follow_append {more : List (List Char)} (nonempty : more ≠ [])
    (done front : List (List Char)) :
    follow done (front ++ more) = follow (front.foldl enter done) more := by
  induction front generalizing done with
  | nil => rfl
  | cons segment rest ih =>
    have goesOn : (rest ++ more).isEmpty = false := by simp [nonempty]
    rw [List.cons_append, follow_cons, goesOn, Bool.and_false, List.foldl_cons]
    exact ih _

theorem exists_follow (done segments : List (List Char)) :
    ∃ empties, follow done segments = (segments.foldl enter done).reverse ++ empties ∧
      ∀ segment ∈ empties, segment = [] := by
  induction segments generalizing done with
  | nil => exact ⟨[], by simp [follow], by simp⟩
  | cons segment rest ih =>
    rw [follow_cons, List.foldl_cons]
    split
    · next last =>
      obtain rfl : rest = [] := by simpa using (Bool.and_eq_true_iff.1 last).2
      exact ⟨[[]], by simp [follow], by simp⟩
    · exact ih _

theorem IsPlain.enter {segment : List Char} (plain : IsPlain segment) (done : List (List Char)) :
    isDots segment = false ∧ enter done segment = segment :: done := by
  have apart (other : List Char) (dot : '.' ∈ other) : segment ≠ other := by
    rintro rfl
    exact plain.not_mem (by simp) dot
  have noDots : isDots segment = false := by
    rw [isDots, plain.decodeDots, Bool.or_eq_false_iff]
    exact ⟨beq_false_of_ne (apart _ (by simp)), beq_false_of_ne (apart _ (by simp))⟩
  refine ⟨noDots, ?_⟩
  unfold Path.enter
  rw [plain.decodeDots, plain.encode]
  split
  · exact absurd rfl (apart ['.'] (by simp))
  · exact absurd rfl (apart ['.', '.'] (by simp))
  · rfl

theorem follow_of_plain {segments : List (List Char)} (plain : ∀ segment ∈ segments, IsPlain segment)
    (done : List (List Char)) : follow done segments = done.reverse ++ segments := by
  induction segments generalizing done with
  | nil => simp [follow]
  | cons segment rest ih =>
    obtain ⟨first, others⟩ := List.forall_mem_cons.1 plain
    obtain ⟨noDots, entered⟩ := first.enter done
    rw [follow_cons, noDots, Bool.false_and, entered, if_neg Bool.false_ne_true, ih others]
    simp

/-- Segments lead the same way as older ones, but for empty ones at the end of these, and then
through plain ones, of which some are not empty. -/
def GoesOn (more old new : List (List Char)) : Prop :=
  ∃ way empties plain, old = way ++ empties ∧ new = way ++ plain ∧
    (∀ segment ∈ empties, segment = []) ∧ (∀ segment ∈ plain, IsPlain segment) ∧
    plain.filter (!·.isEmpty) = more

namespace GoesOn

variable {more old new : List (List Char)}

theorem filter (goesOn : GoesOn more old new) :
    new.filter (!·.isEmpty) = old.filter (!·.isEmpty) ++ more := by
  obtain ⟨way, empties, plain, rfl, rfl, isEmpty, -, rfl⟩ := goesOn
  have nothing : empties.filter (!·.isEmpty) = [] :=
    List.filter_eq_nil_iff.2 fun segment member => by simp [isEmpty segment member]
  rw [List.filter_append, List.filter_append, nothing, List.append_nil]

/-- A drive letter in front comes from the older segments. -/
theorem any_isDriveLetter (goesOn : GoesOn more old new) :
    new.head?.any isDriveLetter = old.head?.any isDriveLetter := by
  obtain ⟨way, empties, plain, rfl, rfl, isEmpty, isPlain, -⟩ := goesOn
  cases way with
  | cons first others => rfl
  | nil =>
    have noDrive {segments : List (List Char)} (each : ∀ segment ∈ segments, IsPlain segment) :
        segments.head?.any isDriveLetter = false := by
      cases segments with
      | nil => rfl
      | cons segment rest => exact (each segment List.mem_cons_self).isDriveLetter
    have empty : ∀ segment ∈ empties, IsPlain segment :=
      fun segment member => isEmpty segment member ▸ isPlain_nil
    exact (noDrive isPlain).trans (noDrive empty).symm

end GoesOn

/-- Segments with a colon behind a drive letter that comes first. -/
def normalizeFirst : List (List Char) → List (List Char)
  | [] => []
  | first :: rest => (if isDriveLetter first then normalizeDrive first else first) :: rest

theorem ofFileText_eq (text : List Char) : ofFileText text = normalizeFirst (ofText true text) := by
  rw [ofFileText]
  cases ofText true text <;> rfl

theorem normalizeFirst_of_plain {segments : List (List Char)}
    (plain : ∀ segment ∈ segments, IsPlain segment) : normalizeFirst segments = segments := by
  cases segments with
  | nil => rfl
  | cons first rest => simp [normalizeFirst, (plain first List.mem_cons_self).isDriveLetter]

theorem GoesOn.normalizeFirst {more old new : List (List Char)} (goesOn : GoesOn more old new) :
    GoesOn more (normalizeFirst old) (normalizeFirst new) := by
  obtain ⟨way, empties, plain, rfl, rfl, isEmpty, isPlain, rfl⟩ := goesOn
  cases way with
  | cons first others => exact ⟨_ :: others, empties, plain, rfl, rfl, isEmpty, isPlain, rfl⟩
  | nil =>
    have empty : ∀ segment ∈ empties, IsPlain segment :=
      fun segment member => isEmpty segment member ▸ isPlain_nil
    exact ⟨[], empties, plain, normalizeFirst_of_plain empty, normalizeFirst_of_plain isPlain,
      isEmpty, isPlain, rfl⟩

theorem split_append_slash (backslashes : Bool) (left right : List Char) :
    split backslashes (left ++ '/' :: right) = split backslashes left ++ split backslashes right := by
  induction left with
  | nil => simp [split]
  | cons c rest ih =>
    simp only [List.cons_append, split, ih]
    split
    · rfl
    · obtain ⟨segment, segments, shape⟩ := List.exists_cons_of_ne_nil (split_ne_nil backslashes rest)
      simp [shape]

theorem split_of_plain {segment : List Char} (plain : IsPlain segment) (backslashes : Bool) :
    split backslashes segment = [segment] := by
  induction segment with
  | nil => rfl
  | cons c rest ih =>
    have slash : c ≠ '/' := fun same => plain.not_mem (c := '/') (by simp) (by simp [same])
    have backslash : c ≠ '\\' := fun same => plain.not_mem (c := '\\') (by simp) (by simp [same])
    have tail := ih fun other member => plain other (List.mem_cons_of_mem c member)
    simp [split, slash, backslash, tail]

/-- Nonempty plain segments joined by slashes are found again, and an empty one for none. -/
theorem split_joinWith {segments : List (List Char)}
    (plain : ∀ segment ∈ segments, IsPlain segment ∧ segment ≠ []) (backslashes : Bool) :
    (∀ segment ∈ split backslashes (joinWith ['/'] segments), IsPlain segment) ∧
      (split backslashes (joinWith ['/'] segments)).filter (!·.isEmpty) = segments := by
  induction segments with
  | nil => simp [joinWith, split, isPlain_nil]
  | cons segment rest ih =>
    obtain ⟨⟨isPlain, nonempty⟩, others⟩ := List.forall_mem_cons.1 plain
    obtain ⟨allPlain, found⟩ := ih others
    cases rest with
    | nil => simp [joinWith, split_of_plain isPlain, isPlain, nonempty]
    | cons next more =>
      have shape : joinWith ['/'] (segment :: next :: more) =
          segment ++ '/' :: joinWith ['/'] (next :: more) := by
        simp [joinWith]
      rw [shape, split_append_slash, split_of_plain isPlain]
      exact ⟨List.forall_mem_cons.2 ⟨isPlain, allPlain⟩, by simp [found, nonempty]⟩

theorem split_replicate_slash (backslashes : Bool) (count : Nat) :
    split backslashes (List.replicate count '/') = List.replicate (count + 1) [] := by
  induction count with
  | zero => rfl
  | succ count ih => simp [List.replicate_succ, split, ih]

section Texts

variable {segments : List (List Char)}
  (plain : ∀ segment ∈ segments, IsPlain segment ∧ segment ≠ []) (backslashes : Bool)

include plain

/-- The segments of a path behind its first slash go on behind one more slash, whatever slashes the
path ended with. -/
theorem goesOn_ofText (text : List Char) (count : Nat) :
    GoesOn segments (ofText backslashes (text ++ List.replicate count '/'))
      (ofText backslashes (text ++ '/' :: joinWith ['/'] segments)) := by
  obtain ⟨allPlain, found⟩ := split_joinWith plain backslashes
  have new : ofText backslashes (text ++ '/' :: joinWith ['/'] segments) =
      ((split backslashes text).foldl enter []).reverse ++
        split backslashes (joinWith ['/'] segments) := by
    rw [ofText, split_append_slash, follow_append (split_ne_nil _ _), follow_of_plain allPlain]
  cases count with
  | zero =>
    obtain ⟨empties, old, isEmpty⟩ := exists_follow [] (split backslashes text)
    exact ⟨_, empties, _, by simpa [ofText] using old, new, isEmpty, allPlain, found⟩
  | succ count =>
    have empty : ∀ segment ∈ List.replicate (count + 1) ([] : List Char), segment = [] :=
      fun segment member => List.eq_of_mem_replicate member
    refine ⟨_, List.replicate (count + 1) [], _, ?_, new, empty, allPlain, found⟩
    rw [List.replicate_succ, ofText, split_append_slash, split_replicate_slash,
      follow_append (by simp), follow_of_plain]
    exact fun segment member => empty segment member ▸ isPlain_nil

/-- Behind nothing, or behind slashes only, a path begins with the new segments. -/
theorem goesOn_nil : GoesOn segments [] (ofText backslashes (joinWith ['/'] segments)) := by
  obtain ⟨allPlain, found⟩ := split_joinWith plain backslashes
  refine ⟨[], [], _, rfl, ?_, by simp, allPlain, found⟩
  rw [ofText, follow_of_plain allPlain]
  rfl

theorem goesOn_ofText_slashes (count : Nat) :
    GoesOn segments (ofText backslashes (List.replicate count '/'))
      (ofText backslashes (joinWith ['/'] segments)) := by
  obtain ⟨allPlain, found⟩ := split_joinWith plain backslashes
  have empty : ∀ segment ∈ List.replicate (count + 1) ([] : List Char), segment = [] :=
    fun segment member => List.eq_of_mem_replicate member
  refine ⟨[], List.replicate (count + 1) [], _, ?_, ?_, empty, allPlain, found⟩
  · rw [ofText, split_replicate_slash, follow_of_plain]
    · rfl
    · exact fun segment member => empty segment member ▸ isPlain_nil
  · rw [ofText, follow_of_plain allPlain]
    rfl

/-- One slash in front of a path does not count. -/
theorem goesOn_dropSlash (text : List Char) (count : Nat) :
    GoesOn segments (ofText backslashes (dropSlash backslashes (text ++ List.replicate count '/')))
      (ofText backslashes (dropSlash backslashes (text ++ '/' :: joinWith ['/'] segments))) := by
  have slash : isSlash backslashes '/' = true := rfl
  cases text with
  | nil =>
    simp only [List.nil_append, dropSlash, slash, if_true]
    cases count with
    | zero => exact goesOn_ofText_slashes plain backslashes 0
    | succ count =>
      simp only [List.replicate_succ, slash, if_true]
      exact goesOn_ofText_slashes plain backslashes count
  | cons c rest =>
    simp only [List.cons_append, dropSlash]
    split
    · exact goesOn_ofText plain backslashes rest count
    · exact goesOn_ofText plain backslashes (c :: rest) count

end Texts

end Path
end Url
end SchemaScaffold
