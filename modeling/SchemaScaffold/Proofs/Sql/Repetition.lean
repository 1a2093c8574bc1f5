import Mathlib.Data.List.Basic
import SchemaScaffold.Sql.Parse

/-!
# Repeated names

The first of several statements of one name counts. What is kept of a list of statements in two
parts is what is kept of the first part, and what is kept of the second part under names that
the first one does not have.
-/

namespace SchemaScaffold

namespace Text

variable {α : Type} [BEq α] [LawfulBEq α]

theorem eraseDups_filter (member : α → Bool) :
    ∀ list : List α, (list.filter member).eraseDups = list.eraseDups.filter member
  | [] => rfl
  | a :: rest => by
    have later := eraseDups_filter member (rest.filter fun b => !b == a)
    rw [List.eraseDups_cons]
    cases chosen : member a with
    | true =>
      rw [List.filter_cons_of_pos chosen, List.filter_cons_of_pos chosen, List.eraseDups_cons,
        ← later, List.filter_filter, List.filter_filter]
      simp only [Bool.and_comm]
    | false =>
      rw [List.filter_cons_of_neg (by simp [chosen]), List.filter_cons_of_neg (by simp [chosen]),
        ← later, List.filter_filter]
      refine congrArg List.eraseDups (List.filter_congr fun b _ => ?_)
      -- What is chosen differs from a member that is not chosen.
      cases other : member b with
      | false => rfl
      | true =>
        have apart : b ≠ a := by
          rintro rfl
          simp [chosen] at other
        simp [apart]
termination_by list => list.length
decreasing_by exact Nat.lt_succ_of_le (List.length_filter_le _ _)

theorem eraseDups_eraseDups : ∀ list : List α, list.eraseDups.eraseDups = list.eraseDups
  | [] => rfl
  | a :: rest => by
    rw [List.eraseDups_cons, List.eraseDups_cons, ← eraseDups_filter, List.filter_filter]
    simp only [Bool.and_self]
    rw [eraseDups_eraseDups]
termination_by list => list.length
decreasing_by exact Nat.lt_succ_of_le (List.length_filter_le _ _)

theorem nodup_eraseDups : ∀ list : List α, list.eraseDups.Nodup
  | [] => .nil
  | a :: rest => by
    rw [List.eraseDups_cons, List.nodup_cons]
    exact ⟨by simp [List.mem_eraseDups], nodup_eraseDups _⟩
termination_by list => list.length
decreasing_by exact Nat.lt_succ_of_le (List.length_filter_le _ _)

/-- Repetitions in two parts may be erased before they are put together. -/
theorem eraseDups_append_eraseDups (left right : List α) :
    (left.eraseDups ++ right.eraseDups).eraseDups = (left ++ right).eraseDups := by
  have same : right.eraseDups.removeAll left.eraseDups = (right.removeAll left).eraseDups := by
    rw [List.removeAll, List.removeAll, eraseDups_filter]
    refine List.filter_congr fun a _ => ?_
    rw [Bool.eq_iff_iff]
    simp [List.mem_eraseDups]
  rw [List.eraseDups_append, List.eraseDups_append, same, eraseDups_eraseDups, eraseDups_eraseDups]

/-- The first occurrences that are new to a list are those of its other members. -/
theorem firstOccurrences_eq_eraseDups (seen list : List α) :
    firstOccurrences seen list = (list.removeAll seen).eraseDups := by
  induction list generalizing seen with
  | nil => rfl
  | cons a rest ih =>
    simp only [firstOccurrences]
    by_cases known : a ∈ seen
    · have left : (a :: rest).removeAll seen = rest.removeAll seen := by
        simp [List.removeAll, known]
      rw [left, if_pos (List.contains_iff_mem.2 known), ih]
    · have kept : (a :: rest).removeAll seen = a :: rest.removeAll seen := by
        simp [List.removeAll, known]
      rw [kept, if_neg fun found => known (List.contains_iff_mem.1 found), ih,
        List.eraseDups_cons, List.removeAll, List.removeAll, List.filter_filter]
      refine congrArg (a :: ·.eraseDups) (List.filter_congr fun b _ => ?_)
      simp [Bool.not_or]

end Text

namespace Sql

/-- Only the set of the names that have been seen matters. -/
theorem firstDeclarations_congr {seen other : List String}
    (same : ∀ name, name ∈ seen ↔ name ∈ other) (statements : List TableStatement) :
    firstDeclarations seen statements = firstDeclarations other statements := by
  induction statements generalizing seen other with
  | nil => rfl
  | cons statement rest ih =>
    have known : seen.contains statement.name = other.contains statement.name := by
      rw [Bool.eq_iff_iff]
      simp [same]
    have further : ∀ name, name ∈ statement.name :: seen ↔ name ∈ statement.name :: other := by
      simp [same]
    simp only [firstDeclarations, known, ih same, ih further]

/-- Of more names that have been seen, those statements are left that have none of them. -/
theorem firstDeclarations_append_seen (seen more : List String)
    (statements : List TableStatement) :
    (firstDeclarations (seen ++ more) statements).1 =
      (firstDeclarations seen statements).1.filter fun statement =>
        !more.contains statement.name := by
  induction statements generalizing seen with
  | nil => rfl
  | cons statement rest ih =>
    simp only [firstDeclarations]
    by_cases known : statement.name ∈ seen
    · simp only [List.contains_eq_mem, List.mem_append, known, true_or, decide_true, if_true]
      simpa only [List.contains_eq_mem] using ih seen
    · have later := ih (statement.name :: seen)
      by_cases further : statement.name ∈ more
      · -- The statement repeats one of the further names, so that its own name adds nothing.
        have same : firstDeclarations (seen ++ more) rest =
            firstDeclarations (statement.name :: seen ++ more) rest :=
          firstDeclarations_congr (by simp [further]) rest
        simp only [List.contains_eq_mem, List.mem_append, known, further, or_true, decide_true,
          decide_false, if_true, Bool.false_eq_true, if_false, Bool.not_true, not_false_eq_true,
          List.filter_cons_of_neg, same]
        simpa only [List.contains_eq_mem] using later
      · simp only [List.contains_eq_mem, List.mem_append, known, further, or_self, decide_false,
          Bool.false_eq_true, if_false, Bool.not_false, List.filter_cons_of_pos]
        simpa only [List.contains_eq_mem, List.cons_append] using congrArg (statement :: ·) later

/-- Statements in two parts are kept part by part. -/
theorem firstDeclarations_append (seen : List String) (left right : List TableStatement) :
    (firstDeclarations seen (left ++ right)).1 =
      (firstDeclarations seen left).1 ++
        (firstDeclarations (seen ++ left.map (·.name)) right).1 := by
  induction left generalizing seen with
  | nil => simp [firstDeclarations]
  | cons statement rest ih =>
    simp only [List.cons_append, firstDeclarations]
    by_cases known : statement.name ∈ seen
    · have same : firstDeclarations (seen ++ rest.map (·.name)) right =
          firstDeclarations (seen ++ (statement :: rest).map (·.name)) right :=
        firstDeclarations_congr (fun name => by grind) right
      simp only [List.contains_eq_mem, known, decide_true, if_true, ih, same]
    · have same : firstDeclarations (statement.name :: seen ++ rest.map (·.name)) right =
          firstDeclarations (seen ++ (statement :: rest).map (·.name)) right :=
        firstDeclarations_congr (fun name => by grind) right
      simp only [List.contains_eq_mem, known, decide_false, Bool.false_eq_true, if_false, ih,
        List.cons_append, ← same]

/-- A name is kept if a statement has it and it has not been seen. -/
theorem mem_map_firstDeclarations {name : String} {seen : List String}
    {statements : List TableStatement} :
    name ∈ (firstDeclarations seen statements).1.map (·.name) ↔
      name ∈ statements.map (·.name) ∧ name ∉ seen := by
  induction statements generalizing seen with
  | nil => simp [firstDeclarations]
  | cons statement rest ih =>
    simp only [firstDeclarations]
    by_cases known : statement.name ∈ seen
    · simp only [List.contains_eq_mem, known, decide_true, if_true, ih]
      grind
    · simp only [List.contains_eq_mem, known, decide_false, Bool.false_eq_true, if_false,
        List.map_cons, List.mem_cons, ih]
      grind

/-- Of two lists of statements, those of the second one are kept whose names the first one does
not have. -/
theorem tables_firstDeclarations_append (left right : List TableStatement) :
    (firstDeclarations [] (left ++ right)).1.map (·.table) =
      (firstDeclarations [] left).1.map (·.table) ++
        ((firstDeclarations [] right).1.map (·.table)).filter fun table =>
          !((firstDeclarations [] left).1.map (·.name)).contains table.name := by
  rw [firstDeclarations_append, firstDeclarations_append_seen, List.map_append, List.filter_map]
  refine congrArg (_ ++ List.map _ ·) (List.filter_congr fun statement _ => ?_)
  rw [Bool.eq_iff_iff]
  simp only [Bool.not_eq_true', List.contains_eq_mem, decide_eq_false_iff_not, Function.comp_apply]
  rw [mem_map_firstDeclarations]
  simp [TableStatement.table]

/-- Statements with names of their own are all kept. -/
theorem firstDeclarations_of_nodup {seen : List String} {statements : List TableStatement}
    (nodup : (statements.map (·.name)).Nodup)
    (fresh : ∀ statement ∈ statements, statement.name ∉ seen) :
    firstDeclarations seen statements = (statements, []) := by
  induction statements generalizing seen with
  | nil => rfl
  | cons statement rest ih =>
    obtain ⟨apart, restNodup⟩ := List.nodup_cons.1 (List.map_cons ▸ nodup)
    obtain ⟨new, restFresh⟩ := List.forall_mem_cons.1 fresh
    have otherFresh : ∀ other ∈ rest, other.name ∉ statement.name :: seen := by
      intro other member
      rw [List.mem_cons, not_or]
      exact ⟨fun same => apart (same ▸ List.mem_map_of_mem member), restFresh other member⟩
    have later := ih restNodup otherFresh
    simp [firstDeclarations, new, later]

end Sql
end SchemaScaffold
