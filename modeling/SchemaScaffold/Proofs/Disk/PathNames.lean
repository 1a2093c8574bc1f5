import SchemaScaffold.Disk.Path
import SchemaScaffold.Proofs.Text.Pieces

/-!
# Names of joined paths and of parents

The names of a path that is seen from another one follow the names of that one, and the names of
a path's parent are the first of the path's own names.
-/

namespace SchemaScaffold
namespace Disk
namespace Path

open Text

theorem names_eq (path : String) :
    names path = ((splitOn '/' path.toList).map String.ofList).filter (· != "") := rfl

@[simp] theorem names_empty : names "" = [] := rfl

/-- The names of a path are found among its characters, without a look at their bytes. -/
theorem names_ofList (characters : List Char) :
    names (String.ofList characters) =
      ((splitOn '/' characters).filter (!·.isEmpty)).map String.ofList := by
  rw [names_eq, String.toList_ofList, List.filter_map]
  congr 1
  refine List.filter_congr fun piece _ => ?_
  cases piece <;> simp

theorem isAbsolute_ofList (characters : List Char) :
    isAbsolute (String.ofList characters) = (characters.head? == some '/') := by
  rw [isAbsolute, String.toList_ofList]

/-- A path between slashes has the names before and behind a slash. -/
theorem names_slash (left right : List Char) :
    names (String.ofList (left ++ '/' :: right)) =
      names (String.ofList left) ++ names (String.ofList right) := by
  simp [names_eq, splitOn_append_separator]

theorem names_ofList_slash (left : List Char) :
    names (String.ofList (left ++ ['/'])) = names (String.ofList left) := by
  rw [names_slash]
  simp

/-- Only a text with characters ends with a slash. -/
theorem endsWithSlash_iff (path : String) :
    endsWithSlash path = true ↔ ∃ front, path.toList = front ++ ['/'] := by
  simp only [endsWithSlash, beq_iff_eq]
  exact List.getLast?_eq_some_iff

theorem isAbsolute_empty : isAbsolute "" = false := rfl

/-- A relative path joined to a base starts where the base starts. -/
theorem isAbsolute_join {path : String} (relative : isAbsolute path = false)
    (base : String) : isAbsolute (join base path) = isAbsolute base := by
  unfold join
  rw [relative, if_neg (by simp)]
  by_cases empty : base = ""
  · subst empty
    simpa [isAbsolute_empty] using relative
  · have head : base.toList ≠ [] := by simpa using empty
    obtain ⟨c, rest, shape⟩ := List.exists_cons_of_ne_nil head
    split <;> simp [isAbsolute, String.join_cons, shape]

/-- A relative path joined to a base goes on with its names where the base ends. -/
theorem names_join {path : String} (relative : isAbsolute path = false)
    (base : String) : names (join base path) = names base ++ names path := by
  unfold join
  rw [relative, if_neg (by simp)]
  by_cases slash : endsWithSlash base = true
  · obtain ⟨front, shape⟩ := (endsWithSlash_iff base).1 slash
    have baseShape : base = String.ofList (front ++ ['/']) := by
      rw [← shape, String.ofList_toList]
    have whole : base ++ path = String.ofList (front ++ '/' :: path.toList) := by
      apply String.toList_injective
      simp [shape]
    rw [if_pos (by simp [slash]), whole, names_slash, baseShape, names_ofList_slash]
    simp
  · by_cases empty : base = ""
    · subst empty
      simp
    · have whole : String.join [base, "/", path] =
          String.ofList (base.toList ++ '/' :: path.toList) := by
        apply String.toList_injective
        simp [String.join_cons]
      rw [if_neg (by simp [slash, empty]), whole, names_slash]
      simp

theorem dropFiller_suffix (pieces : List String) : dropFiller pieces <:+ pieces := by
  induction pieces with
  | nil => simp [dropFiller]
  | cons piece before ih =>
    cases before with
    | nil => simp [dropFiller]
    | cons second others =>
      simp only [dropFiller]
      split
      · exact ih.trans (List.suffix_cons piece _)
      · exact List.suffix_refl _

theorem pieces_intercalate {parts : List String} (nonempty : parts ≠ [])
    (free : ∀ part ∈ parts, '/' ∉ part.toList) :
    pieces (String.intercalate "/" parts) = parts := by
  have split : splitOn '/' (String.intercalate "/" parts).toList = parts.map String.toList :=
    splitOn_intercalate nonempty free
  rw [pieces, split]
  simp

theorem free_of_mem_pieces {path piece : String} (member : piece ∈ pieces path) :
    '/' ∉ piece.toList := by
  obtain ⟨text, inside, rfl⟩ := List.mem_map.1 member
  simpa using not_mem_of_mem_splitOn inside

/-- An absolute path has an empty piece in front of others. -/
theorem isAbsolute_iff (path : String) :
    isAbsolute path = true ↔ ∃ second others, pieces path = "" :: second :: others := by
  have whole := joinWith_splitOn '/' path.toList
  simp only [isAbsolute, beq_iff_eq, pieces]
  constructor
  · intro slash
    obtain ⟨rest, shape⟩ := List.head?_eq_some_iff.1 slash
    obtain ⟨second, others, split⟩ := List.exists_cons_of_ne_nil (splitOn_ne_nil '/' rest)
    exact ⟨String.ofList second, others.map String.ofList, by simp [shape, splitOn, split]⟩
  · rintro ⟨second, others, shape⟩
    obtain ⟨first, tail, split, firstEmpty, tailShape⟩ := List.map_eq_cons_iff.1 shape
    obtain ⟨next, later, tailSplit, -, -⟩ := List.map_eq_cons_iff.1 tailShape
    obtain rfl : first = [] := by simpa using congrArg String.toList firstEmpty
    rw [← whole, split, tailSplit]
    rfl

/-- A path that shares its first pieces with another one starts where that one starts. -/
theorem isAbsolute_of_prefix {path other : String} (front : pieces other <+: pieces path)
    (named : pieces other ≠ [""]) : isAbsolute other = isAbsolute path := by
  obtain ⟨first, rest, shape⟩ := List.exists_cons_of_ne_nil
    (show pieces other ≠ [] by simp [pieces, splitOn_ne_nil])
  obtain ⟨back, whole⟩ := front
  rw [Bool.eq_iff_iff, isAbsolute_iff, isAbsolute_iff, ← whole, shape]
  cases rest with
  | nil =>
    have firstNamed : first ≠ "" := fun equal => named (by rw [shape, equal])
    simp [firstNamed]
  | cons second others => simp

/-- The parent of a path starts where the path starts, and leads along the first of its names. -/
theorem names_parent {path parent : String} (found : parent? path = some parent)
    (nonempty : parent ≠ "") :
    names parent <+: names path ∧ isAbsolute parent = isAbsolute path := by
  have whole := dropFiller_suffix (pieces path).reverse
  unfold parent? at found
  split at found
  · simp at found
  · split at found
    · simp at found
    · exact absurd (Option.some.inj found).symm nonempty
  · next last before further shape =>
    dsimp only at found
    have front : (dropFiller before).reverse <+: pieces path := by
      rw [← List.reverse_suffix, List.reverse_reverse]
      rw [shape] at whole
      exact ((dropFiller_suffix before).trans (List.suffix_cons last before)).trans whole
    split at found
    · next kept =>
      obtain rfl := Option.some.inj found
      rw [kept] at front
      obtain ⟨back, split⟩ := front
      have long := whole.length_le
      rw [shape, List.length_reverse, ← split] at long
      obtain ⟨second, others, rfl⟩ : ∃ second others, back = second :: others := by
        cases back with
        | cons second others => exact ⟨second, others, rfl⟩
        | nil =>
          have short : before.length = 0 := by
            simp only [List.append_nil, List.length_cons, List.reverse_cons, List.reverse_nil,
              List.nil_append, List.length_nil] at long
            omega
          exact absurd (List.length_eq_zero_iff.1 short) further
      refine ⟨List.nil_prefix, ?_⟩
      exact ((isAbsolute_iff path).2 ⟨second, others, split.symm⟩).symm
    · next kept =>
      obtain rfl := Option.some.inj found
      have hasPieces : (dropFiller before).reverse ≠ [] := by
        intro none
        simp [none] at nonempty
      have parts := pieces_intercalate hasPieces fun part member =>
        free_of_mem_pieces (front.subset member)
      refine ⟨?_, isAbsolute_of_prefix (by rw [parts]; exact front) ?_⟩
      · rw [names, names, parts]
        exact front.filter _
      · rw [parts]
        intro single
        exact kept (by simpa using congrArg List.reverse single)

end Path
end Disk
end SchemaScaffold
