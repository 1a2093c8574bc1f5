import SchemaScaffold.Proofs.Disk.Inside

/-!
# Texts of joined paths

A path that is seen from a directory is the directory's text, with a slash at its end, and the
path behind it. So its size is the sum of two sizes, its parent leads along the names of the
directory and all but the last of its own, and seen from the directory it is what it was.
-/

namespace SchemaScaffold
namespace Disk
namespace Path

open Text

/-- A relative path stands behind the text of a directory that ends with a slash. -/
theorem join_eq_append {path : String} (relative : isAbsolute path = false) (root : String) :
    join root path = join root "" ++ path := by
  simp only [join, relative, isAbsolute_empty, Bool.false_eq_true, if_false]
  split
  · simp
  · simp [String.join_cons, String.append_assoc]

theorem exists_toList_join {path : String} (relative : isAbsolute path = false) {root : String}
    (nonempty : root ≠ "") : ∃ front, (join root path).toList = front ++ '/' :: path.toList := by
  rw [join, relative, if_neg (by simp)]
  split
  · next condition =>
    have slash : endsWithSlash root = true := by simpa [nonempty] using condition
    obtain ⟨front, shape⟩ := (endsWithSlash_iff root).1 slash
    exact ⟨front, by simp [shape]⟩
  · exact ⟨root.toList, by simp [String.join_cons]⟩

theorem mem_toList_join {path : String} (relative : isAbsolute path = false) {root : String}
    {c : Char} (member : c ∈ (join root path).toList) :
    c ∈ root.toList ∨ c = '/' ∨ c ∈ path.toList := by
  rw [join, relative, if_neg (by simp)] at member
  split at member
  · simp only [String.toList_append, List.mem_append] at member
    exact member.imp_right .inr
  · simpa [String.join_cons] using member

theorem utf8ByteSize_join {path : String} (relative : isAbsolute path = false) (root : String) :
    (join root path).utf8ByteSize = (join root "").utf8ByteSize + path.utf8ByteSize := by
  rw [join_eq_append relative, String.utf8ByteSize_append]

/-- What is left out at the end of a path leads nowhere. -/
theorem exists_eq_append_dropFiller (reversed : List String) :
    ∃ filler, reversed = filler ++ dropFiller reversed ∧
      ∀ piece ∈ filler, piece = "" ∨ piece = "." := by
  induction reversed with
  | nil => exact ⟨[], rfl, by simp⟩
  | cons piece before ih =>
    cases before with
    | nil => exact ⟨[], rfl, by simp⟩
    | cons second others =>
      simp only [dropFiller]
      split
      · next filling =>
        obtain ⟨filler, shape, still⟩ := ih
        refine ⟨piece :: filler, ?_, List.forall_mem_cons.2 ⟨by simpa using filling, still⟩⟩
        rw [List.cons_append, ← shape]
      · exact ⟨[], rfl, by simp⟩

theorem dropFiller_ne_nil {reversed : List String} (nonempty : reversed ≠ []) :
    dropFiller reversed ≠ [] := by
  induction reversed with
  | nil => exact absurd rfl nonempty
  | cons piece before ih =>
    cases before with
    | nil => simp [dropFiller]
    | cons second others =>
      simp only [dropFiller]
      split
      · exact ih (by simp)
      · simp

theorem prefix_joinWith_append (separator : List Char) {front : List (List Char)}
    (nonempty : front ≠ []) (back : List (List Char)) :
    joinWith separator front <+: joinWith separator (front ++ back) := by
  induction front with
  | nil => exact absurd rfl nonempty
  | cons piece rest ih =>
    cases rest with
    | nil =>
      cases back with
      | nil => simp
      | cons second others => simp [joinWith]
    | cons second others =>
      simp only [List.cons_append, joinWith, List.append_assoc, List.prefix_append_right_inj]
      exact ih (by simp)

/-- A path with a plain name behind its last slash has a parent, which leads along all other names
and whose text is in front of that slash. -/
theorem exists_parent (front : List Char) {last : String} (nonempty : last ≠ "")
    (free : '/' ∉ last.toList) (plain : IsPlainName last) :
    ∃ parent, parent? (String.ofList (front ++ '/' :: last.toList)) = some parent ∧ parent ≠ "" ∧
      (∃ dots, (∀ dot ∈ dots, dot = ".") ∧
        names (String.ofList front) = names parent ++ dots) ∧
      (parent = "/" ∨ parent.toList <+: front) := by
  have split : pieces (String.ofList (front ++ '/' :: last.toList)) =
      pieces (String.ofList front) ++ [last] := by
    simp [pieces, splitOn_append_separator, splitOn_of_not_mem free]
  obtain ⟨filler, shape, still⟩ :=
    exists_eq_append_dropFiller (pieces (String.ofList front)).reverse
  have hasPieces : (pieces (String.ofList front)).reverse ≠ [] := by
    simp [pieces, splitOn_ne_nil]
  have keptPieces := dropFiller_ne_nil hasPieces
  obtain ⟨kept, keptShape⟩ :
      ∃ kept, kept = dropFiller (pieces (String.ofList front)).reverse := ⟨_, rfl⟩
  rw [← keptShape] at shape keptPieces
  have whole : pieces (String.ofList front) = kept.reverse ++ filler.reverse := by
    rw [← List.reverse_reverse (pieces (String.ofList front)), shape, List.reverse_append]
  have found : parent? (String.ofList (front ++ '/' :: last.toList)) =
      if kept = [""] then some "/" else some (String.intercalate "/" kept.reverse) := by
    obtain ⟨second, others, before⟩ := List.exists_cons_of_ne_nil hasPieces
    have stays : dropFiller (last :: second :: others) = last :: second :: others := by
      simp [dropFiller, nonempty, plain.1]
    rw [parent?, split, List.reverse_append, List.reverse_singleton, List.singleton_append, before,
      stays, keptShape, before]
  have dots : names (String.ofList front) =
      kept.reverse.filter (· != "") ++ filler.reverse.filter (· != "") := by
    rw [names, whole, List.filter_append]
  have onlyDots : ∀ dot ∈ filler.reverse.filter (· != ""), dot = "." := by
    intro dot member
    obtain ⟨inside, named⟩ := List.mem_filter.1 member
    exact (still dot (List.mem_reverse.1 inside)).resolve_left (by simpa using named)
  split_ifs at found with top
  · exact ⟨"/", found, by simp, ⟨_, onlyDots, by rw [dots, top]; rfl⟩, .inl rfl⟩
  · have keptFree : ∀ part ∈ kept.reverse, '/' ∉ part.toList := by
      intro part member
      have isPiece : part ∈ pieces (String.ofList front) := by
        rw [whole]
        exact List.mem_append_left _ member
      exact free_of_mem_pieces isPiece
    have parts := pieces_intercalate (by simpa using keptPieces) keptFree
    refine ⟨_, found, ?_, ⟨_, onlyDots, by rw [dots, names, parts]⟩, .inr ?_⟩
    · intro empty
      rw [empty] at parts
      exact top (by simpa [pieces, splitOn] using congrArg List.reverse parts.symm)
    · have text : front = joinWith ['/'] ((kept.reverse ++ filler.reverse).map String.toList) := by
        rw [← whole, pieces, List.map_map]
        simpa using (joinWith_splitOn '/' front).symm
      rw [text, String.toList_intercalate, ← joinWith_eq_intercalate, List.map_append]
      exact prefix_joinWith_append _ (by simpa using keptPieces) _

/-- The parent of a path that is seen from a directory leads along the names of the directory and
all but the last name of the path. -/
theorem IsInside.exists_parent_join {path : String} (inside : IsInside path)
    (further : names path ≠ []) (noSlash : endsWithSlash path = false) {root : String}
    (nonempty : root ≠ "") :
    ∃ parent, parent? (join root path) = some parent ∧ parent ≠ "" ∧
      isAbsolute parent = isAbsolute root ∧
      (∃ dots, (∀ dot ∈ dots, dot = ".") ∧
        names root ++ (names path).dropLast = names parent ++ dots) ∧
      (parent = "/" ∨ ∃ behind, parent.toList ++ behind = (join root path).toList ∧
        ((names path).getLast further).utf8ByteSize + 1 ≤ (String.ofList behind).utf8ByteSize) := by
  obtain ⟨start, text⟩ := exists_toList_join inside.relative nonempty
  have slash : '/' ∈ (join root path).toList.reverse := by simp [text]
  obtain ⟨reversedLast, reversedFront, cut, free⟩ := List.eq_append_cons_of_mem slash
  obtain ⟨last, rfl⟩ : ∃ last : String, reversedLast = last.toList.reverse :=
    ⟨String.ofList reversedLast.reverse, by simp⟩
  obtain ⟨front, rfl⟩ : ∃ front : List Char, reversedFront = front.reverse :=
    ⟨reversedFront.reverse, by simp⟩
  have whole : (join root path).toList = front ++ '/' :: last.toList := by
    simpa using congrArg List.reverse cut
  have ended : (join root path).toList.getLast? = path.toList.getLast? := by
    have nonempty : path.toList ≠ [] := by
      intro empty
      exact further (by simp [names_eq, empty, splitOn])
    obtain ⟨c, rest, shape⟩ := List.exists_cons_of_ne_nil nonempty
    rw [text, shape, List.getLast?_append, List.getLast?_cons_cons]
    simp [List.getLast?_eq_some_getLast]
  have named : last ≠ "" := by
    rintro rfl
    rw [endsWithSlash, ← ended, whole] at noSlash
    simp at noSlash
  have freeLast : '/' ∉ last.toList := by simpa using free
  have allNames : names root ++ names path = names (String.ofList front) ++ [last] := by
    rw [← names_join inside.relative, ← String.ofList_toList (s := join root path), whole,
      names_slash, String.ofList_toList, ← String.ofList_toList (s := last),
      names_of_not_mem (by simpa using named) freeLast]
  have ownNames := (List.dropLast_concat_getLast further).symm
  rw [ownNames, ← List.append_assoc] at allNames
  obtain ⟨upper, lastName⟩ := List.append_inj' allNames rfl
  obtain rfl : (names path).getLast further = last := by simpa using lastName
  have plain := inside.plain _ (List.getLast_mem further)
  obtain ⟨parent, found, someParent, ⟨dots, still, onWay⟩, size⟩ :=
    exists_parent front named freeLast plain
  rw [← whole, String.ofList_toList] at found
  refine ⟨parent, found, someParent, ?_, ⟨dots, still, upper.trans onWay⟩, size.imp_right ?_⟩
  · rw [(names_parent found someParent).2, isAbsolute_join inside.relative]
  · rintro ⟨between, rfl⟩
    refine ⟨between ++ '/' :: ((names path).getLast further).toList, ?_, ?_⟩
    · rw [whole, List.append_assoc]
    · have slash : (String.ofList ['/']).utf8ByteSize = 1 := rfl
      rw [← List.singleton_append, String.ofList_append, String.ofList_append,
        String.utf8ByteSize_append, String.utf8ByteSize_append, String.ofList_toList, slash]
      omega

/-- The components of a path that is seen from a directory follow those of the directory. -/
theorem IsInside.components_join {path : String} (inside : IsInside path) {root : String}
    (nonempty : root ≠ "") : components (join root path) = components root ++ names path := by
  have moving : (names path).filter (· != ".") = names path :=
    List.filter_eq_self.2 fun name member => by simpa using (inside.plain name member).1
  rw [components, components, isAbsolute_join inside.relative, names_join inside.relative]
  cases rootNames : names root with
  | nil =>
    have whole : isAbsolute root = true := by
      by_contra relative
      obtain ⟨c, rest, shape⟩ :=
        List.exists_cons_of_ne_nil (show root.toList ≠ [] by simpa using nonempty)
      have other : c ≠ '/' := by
        rintro rfl
        simp [isAbsolute, shape] at relative
      -- A text that starts with another character has a name.
      have first : names root ≠ [] := by
        obtain ⟨piece, pieces, split⟩ := List.exists_cons_of_ne_nil (splitOn_ne_nil '/' rest)
        simp [names_eq, shape, splitOn, other, split]
      exact first rootNames
    rw [whole, List.nil_append]
    cases pathNames : names path with
    | nil => simp
    | cons first rest =>
      rw [pathNames] at moving
      have plain : first ≠ "." := (inside.plain first (by simp [pathNames])).1
      have others : rest.filter (· != ".") = rest := by
        simpa [List.filter_cons, plain] using moving
      simp [plain, others]
  | cons first rest =>
    simp only [List.cons_append, List.filter_append, moving]
    split_ifs <;> simp

/-- Seen from the directory to which it was joined, a path is its names between slashes. -/
theorem IsInside.relativeTo_join {path : String} (inside : IsInside path) {root : String}
    (nonempty : root ≠ "") :
    relativeTo root (join root path) = String.intercalate "/" (names path) := by
  rw [relativeTo, inside.components_join nonempty, if_pos (by simp), List.drop_left]

end Path
end Disk
end SchemaScaffold
