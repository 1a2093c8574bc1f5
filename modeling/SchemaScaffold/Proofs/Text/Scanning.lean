import Mathlib.Data.List.Basic
import SchemaScaffold.Text.Search

/-!
# Scanning in parts

A scan goes on behind each match. At a character over which nothing is read a text falls into
two parts that are scanned on their own, and at characters where nothing is read it is passed
over.
-/

namespace SchemaScaffold
namespace Text

variable {α β γ : Type}

/-- Characters that are still to be passed over are dropped. -/
theorem scanFrom_eq_drop (read : Matcher α) (pending : Nat) (text : List Char) :
    scanFrom read pending text = scan read (text.drop pending) := by
  induction pending generalizing text with
  | zero => rfl
  | succ pending ih =>
    cases text with
    | nil => simp [scanFrom]
    | cons c rest => exact ih rest

theorem scan_of_none {read : Matcher α} {c : Char} {rest : List Char}
    (unread : read (c :: rest) = none) : scan read (c :: rest) = scan read rest := by
  simp only [scan, scanFrom, unread]

theorem scan_of_some {read : Matcher α} {c : Char} {rest after : List Char} {a : α}
    (found : read (c :: rest) = some (a, after)) :
    scan read (c :: rest) = a :: scan read (rest.drop (rest.length - after.length)) := by
  rw [← scanFrom_eq_drop]
  simp only [scan, scanFrom, found]

/-- The first match is the one that a scan finds first. -/
theorem firstMatch_eq_head? (read : Matcher α) (text : List Char) :
    firstMatch read text = (scan read text).head? := by
  induction text with
  | nil => rfl
  | cons c rest ih =>
    cases found : read (c :: rest) with
    | none => rw [scan_of_none found, ← ih, firstMatch, found]
    | some reading =>
      obtain ⟨a, after⟩ := reading
      rw [scan_of_some found, firstMatch, found]
      rfl

/-- A text at whose characters nothing is read is passed over. -/
theorem scan_append_of_none {read : Matcher α} {left right : List Char}
    (unread : ∀ front c back, left = front ++ c :: back → read (c :: (back ++ right)) = none) :
    scan read (left ++ right) = scan read right := by
  induction left with
  | nil => rfl
  | cons c rest ih =>
    rw [List.cons_append, scan_of_none (unread [] c rest rfl)]
    exact ih fun front d back shape => unread (c :: front) d back (by rw [shape]; rfl)

/-- A reader stops at a character if it reads in front of it as at the end of a text. What is
found goes on with the character and the text behind it by `extend`. -/
def StopsAt (stop : Char) (extend : β → List Char → β) (read : List Char → Option β) : Prop :=
  ∀ left right, read (left ++ stop :: right) = (read left).map (extend · (stop :: right))

/-- Put a text behind what is left once a value has been read. -/
def extendRest (found : α × List Char) (tail : List Char) : α × List Char :=
  (found.1, found.2 ++ tail)

namespace StopsAt

variable {stop : Char} {extend : β → List Char → β} {further : γ → List Char → γ}

/-- A reader stops if its parts do. -/
theorem bind {read : List Char → Option β} {next : β → Option γ}
    (first : StopsAt stop extend read)
    (second : ∀ found right, next (extend found (stop :: right)) =
      (next found).map (further · (stop :: right))) :
    StopsAt stop further fun text => (read text).bind next := by
  intro left right
  dsimp only
  rw [first, Option.bind_map, Option.map_bind]
  exact congrArg _ (funext fun found => second found right)

/-- A reader stops if what it makes of a reading keeps what is left. -/
theorem map {read : List Char → Option β} {convert : β → γ}
    (first : StopsAt stop extend read)
    (keeps : ∀ found tail, convert (extend found tail) = further (convert found) tail) :
    StopsAt stop further fun text => (read text).map convert := by
  intro left right
  dsimp only
  rw [first, Option.map_map, Option.map_map]
  exact congrArg (Option.map · _) (funext fun found => keeps found _)

/-- A choice stops if both readers do. -/
theorem or {read other : List Char → Option β} (first : StopsAt stop extend read)
    (second : StopsAt stop extend other) :
    StopsAt stop extend fun text => (read text).or (other text) := by
  intro left right
  dsimp only
  rw [first, second]
  cases read left <;> rfl

end StopsAt

/-- A text is scanned in two parts at a character over which nothing is read. -/
theorem scan_append_stop {stop : Char} {read : Matcher α}
    (stops : StopsAt stop extendRest read) (nonempty : read [] = none)
    (left right : List Char) :
    scan read (left ++ stop :: right) = scan read left ++ scan read right := by
  -- A match in front of the stop may take several characters, so the induction is on the length.
  induction length : left.length using Nat.strongRecOn generalizing left with
  | ind size ih =>
    cases left with
    | nil =>
      have unread : read (stop :: right) = none := by
        have same := stops [] right
        rwa [nonempty] at same
      exact scan_of_none unread
    | cons c rest =>
      have same := stops (c :: rest) right
      rw [List.cons_append] at same ⊢
      rw [List.length_cons] at length
      cases found : read (c :: rest) with
      | none =>
        rw [found] at same
        rw [scan_of_none found, scan_of_none same]
        exact ih rest.length (by omega) rest rfl
      | some reading =>
        obtain ⟨a, after⟩ := reading
        rw [found] at same
        rw [scan_of_some found, scan_of_some same, List.cons_append]
        have pending : (rest ++ stop :: right).length - (after ++ stop :: right).length =
            rest.length - after.length := by
          simp only [List.length_append]
          omega
        rw [pending, List.drop_append_of_le_length (Nat.sub_le _ _)]
        refine congrArg (a :: ·) (ih _ ?_ _ rfl)
        rw [List.length_drop]
        omega

/-- In two parts of a text the first match is that of the first part, or else that of the
second. -/
theorem firstMatch_append_stop {stop : Char} {read : Matcher α}
    (stops : StopsAt stop extendRest read) (nonempty : read [] = none)
    (left right : List Char) :
    firstMatch read (left ++ stop :: right) =
      (firstMatch read left).or (firstMatch read right) := by
  simp only [firstMatch_eq_head?, scan_append_stop stops nonempty, List.head?_append]

end Text
end SchemaScaffold
