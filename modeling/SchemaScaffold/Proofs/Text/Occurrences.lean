import Mathlib.Data.Bool.Basic
import Mathlib.Data.List.Basic
import SchemaScaffold.Text.Search

/-!
# Counting occurrences

The number of places at which a text occurs in another one. Where two texts meet the numbers add
up, unless an occurrence goes over the place where they meet.
-/

namespace SchemaScaffold
namespace Text

/-- The number of places at which a text has another one. -/
def occurrences (needle : List Char) : List Char → Nat
  | [] => needle.isEmpty.toNat
  | c :: rest => (needle.isPrefixOf (c :: rest)).toNat + occurrences needle rest

variable {α : Type} {needle left right : List Char}

theorem occurrences_nil (nonempty : needle ≠ []) : occurrences needle [] = 0 := by
  simpa [occurrences] using nonempty

theorem occurrences_eq_zero_iff {text : List Char} :
    occurrences needle text = 0 ↔ ¬ needle <:+: text := by
  induction text with
  | nil => simp [occurrences]
  | cons c rest ih =>
    rw [occurrences, Nat.add_eq_zero_iff, ih, List.infix_cons_iff, not_or,
      Bool.toNat_eq_zero, ← Bool.not_eq_true, List.isPrefixOf_iff_prefix]

theorem occurrences_pos_iff {text : List Char} :
    0 < occurrences needle text ↔ needle <:+: text := by
  rw [Nat.pos_iff_ne_zero, Ne, occurrences_eq_zero_iff, not_not]

/-- A text that is not empty occurs once in itself. -/
theorem occurrences_self (nonempty : needle ≠ []) : occurrences needle needle = 1 := by
  cases needle with
  | nil => exact absurd rfl nonempty
  | cons c rest =>
    have later : occurrences (c :: rest) rest = 0 :=
      occurrences_eq_zero_iff.2 fun inside => Nat.not_succ_le_self _ inside.length_le
    rw [occurrences, later, List.isPrefixOf_iff_prefix.2 List.prefix_rfl]
    rfl

/-- An occurrence goes over the place where two texts meet. -/
def Crosses (needle left right : List Char) : Prop :=
  ∃ front back, front ≠ [] ∧ back ≠ [] ∧ needle = front ++ back ∧ front <:+ left ∧ back <+: right

theorem Crosses.cons (crosses : Crosses needle left right) (c : Char) :
    Crosses needle (c :: left) right := by
  obtain ⟨front, back, started, further, shape, ends, starts⟩ := crosses
  exact ⟨front, back, started, further, shape, ends.trans (List.suffix_cons c left), starts⟩

/-- Numbers of occurrences add up if none goes over the place where the texts meet. -/
theorem occurrences_append (nonempty : needle ≠ []) (apart : ¬ Crosses needle left right) :
    occurrences needle (left ++ right) = occurrences needle left + occurrences needle right := by
  induction left with
  | nil => simp [occurrences_nil nonempty]
  | cons c rest ih =>
    have same : needle.isPrefixOf (c :: (rest ++ right)) = needle.isPrefixOf (c :: rest) := by
      rw [Bool.eq_iff_iff, List.isPrefixOf_iff_prefix, List.isPrefixOf_iff_prefix,
        ← List.cons_append]
      constructor
      · rintro ⟨tail, whole⟩
        rcases List.append_eq_append_iff.1 whole with ⟨more, within, -⟩ | ⟨back, shape, start⟩
        · exact ⟨more, within.symm⟩
        · by_cases further : back = []
          · exact ⟨[], by rw [shape, further, List.append_nil, List.append_nil]⟩
          · exact absurd ⟨c :: rest, back, List.cons_ne_nil c rest, further, shape,
              List.suffix_rfl, tail, start.symm⟩ apart
      · exact fun within => within.trans (List.prefix_append _ _)
    rw [List.cons_append, occurrences, occurrences, same,
      ih fun crosses => apart (crosses.cons c), Nat.add_assoc]

/-- No occurrence of either text is lost where they meet. -/
theorem le_occurrences_append (nonempty : needle ≠ []) (left right : List Char) :
    occurrences needle left + occurrences needle right ≤ occurrences needle (left ++ right) := by
  induction left with
  | nil => simp [occurrences_nil nonempty]
  | cons c rest ih =>
    have kept : needle.isPrefixOf (c :: rest) ≤ needle.isPrefixOf (c :: (rest ++ right)) := by
      intro starts
      rw [List.isPrefixOf_iff_prefix] at starts ⊢
      exact starts.trans (List.prefix_append _ _)
    have here := Bool.toNat_le_toNat kept
    simp only [List.cons_append, occurrences]
    omega

section Foreign

variable {c : Char}

theorem occurrences_cons_foreign (nonempty : needle ≠ []) (foreign : c ∉ needle)
    (text : List Char) : occurrences needle (c :: text) = occurrences needle text := by
  cases needle with
  | nil => exact absurd rfl nonempty
  | cons first others =>
    have other : first ≠ c := fun same => foreign (same ▸ List.mem_cons_self)
    simp [occurrences, List.isPrefixOf_cons_cons, other]

/-- A text is on one side of a character that it does not have. -/
theorem occurrences_append_foreign (nonempty : needle ≠ []) (foreign : c ∉ needle)
    (left right : List Char) : occurrences needle (left ++ c :: right) =
      occurrences needle left + occurrences needle right := by
  have apart : ¬ Crosses needle left (c :: right) := by
    rintro ⟨front, back, -, further, rfl, -, starts⟩
    cases back with
    | nil => exact further rfl
    | cons first others =>
      obtain ⟨rfl, -⟩ := List.cons_prefix_cons.1 starts
      exact foreign (by simp)
  rw [occurrences_append nonempty apart, occurrences_cons_foreign nonempty foreign]

/-- Characters that a text does not have are nothing in front of it. -/
theorem occurrences_foreign_append (nonempty : needle ≠ []) (foreign : ∀ c ∈ left, c ∉ needle)
    (right : List Char) : occurrences needle (left ++ right) = occurrences needle right := by
  induction left with
  | nil => rfl
  | cons c rest ih =>
    obtain ⟨here, later⟩ := List.forall_mem_cons.1 foreign
    rw [List.cons_append, occurrences_cons_foreign nonempty here, ih later]

end Foreign

/-- A text has no occurrence of another one, nor the end of one, whatever is in front of it. -/
def Silent (needle text : List Char) : Prop :=
  ∀ front, occurrences needle (front ++ text) = occurrences needle front

namespace Silent

variable {text : List Char}

theorem append (first : Silent needle left) (second : Silent needle right) :
    Silent needle (left ++ right) := by
  intro front
  rw [← List.append_assoc, second, first]

theorem infix_append_iff (silent : Silent needle text) (front : List Char) :
    needle <:+: front ++ text ↔ needle <:+: front := by
  rw [← occurrences_pos_iff, silent, occurrences_pos_iff]

/-- A text of several parts adds none if none of them does. -/
theorem flatMap {parts : List α} {part : α → List Char}
    (silent : ∀ item ∈ parts, Silent needle (part item)) : Silent needle (parts.flatMap part) := by
  induction parts with
  | nil => exact fun front => by rw [List.flatMap_nil, List.append_nil]
  | cons item rest ih =>
    obtain ⟨here, later⟩ := List.forall_mem_cons.1 silent
    exact here.append (ih later)

end Silent

/-- A text adds no occurrence if it starts with a character that does not occur. -/
theorem silent_of_head {c : Char} (nonempty : needle ≠ []) (foreign : c ∉ needle) {rest : List Char}
    (absent : ¬ needle <:+: rest) : Silent needle (c :: rest) := by
  intro front
  rw [occurrences_append_foreign nonempty foreign, occurrences_eq_zero_iff.2 absent, Nat.add_zero]

end Text
end SchemaScaffold
