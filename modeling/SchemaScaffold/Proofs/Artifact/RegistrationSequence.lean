import Mathlib.Data.List.Induction
import SchemaScaffold.Project.ShippedTemplates
import SchemaScaffold.Proofs.Artifact.RoutesIndex
import SchemaScaffold.Proofs.Sql.Repetition

/-!
# Registering several tables

Tables that are registered one after another, with repetitions or without. How often a line
occurs in the end does not depend on the order of the tables, and a table that was registered
once is not registered again. In the index of a fresh project the routers are loaded behind the
declaration, the last one first, and mounted in front of the export, in the order of the tables.
-/

namespace SchemaScaffold
namespace RoutesIndex

/-- Register tables in an index, one after another. -/
def patchNames (content : String) (names : List String) : String :=
  names.foldl patch content

theorem patchNames_nil (content : String) : patchNames content [] = content :=
  List.foldl_nil

theorem patchNames_append (content : String) (front back : List String) :
    patchNames content (front ++ back) = patchNames (patchNames content front) back :=
  List.foldl_append

/-- An index lacks a line of a table. -/
def lacks (content table : String) : Bool :=
  (lines table).any fun line => count content line == 0

theorem lacks_iff {content table : String} :
    lacks content table = true ↔ ∃ line ∈ lines table, count content line = 0 := by
  simp [lacks]

theorem lacks_iff_not_registered {content table : String} :
    lacks content table = true ↔ ¬ Registered content table := by
  simp [lacks_iff, registered_iff, Nat.pos_iff_ne_zero]

section Sequence

variable {names : List String} {table line : String}

/-- The lines of the tables of a sequence are there once, or as often as before. Those of other
tables are there as often as before. -/
theorem count_patchNames (named : ∀ name ∈ names, IsNameText name.toList)
    (tableNamed : IsNameText table.toList) (member : line ∈ lines table) (content : String) :
    count (patchNames content names) line =
      if table ∈ names then max 1 (count content line) else count content line := by
  induction names generalizing content with
  | nil => rfl
  | cons name rest ih =>
    obtain ⟨first, others⟩ := List.forall_mem_cons.1 named
    have tail : count (patchNames content (name :: rest)) line =
        if table ∈ rest then max 1 (count (patch content name) line)
        else count (patch content name) line := ih others (patch content name)
    rw [tail, count_patch tableNamed first member]
    by_cases same : table = name
    · simp only [same, List.mem_cons, true_or, if_true]
      split <;> omega
    · simp only [same, List.mem_cons, false_or, if_false]

/-- Every table of a sequence is registered in the end. -/
theorem registered_patchNames (named : ∀ name ∈ names, IsNameText name.toList)
    (member : table ∈ names) (content : String) :
    Registered (patchNames content names) table := by
  refine registered_iff.2 fun line isLine => ?_
  rw [count_patchNames named (named table member) isLine, if_pos member]
  exact Nat.lt_of_lt_of_le Nat.one_pos (Nat.le_max_left _ _)

/-- Tables that are registered are not registered again. -/
theorem patchNames_of_registered (named : ∀ name ∈ names, IsNameText name.toList)
    {content : String} (registered : ∀ name ∈ names, Registered content name) :
    patchNames content names = content := by
  induction names with
  | nil => rfl
  | cons name rest ih =>
    obtain ⟨first, others⟩ := List.forall_mem_cons.1 named
    obtain ⟨present, restPresent⟩ := List.forall_mem_cons.1 registered
    have same : patch content name = content := (patch_eq_self_iff first).2 present
    have tail : patchNames content (name :: rest) = patchNames (patch content name) rest := rfl
    rw [tail, same, ih others restPresent]

/-- Registering a sequence of tables twice is registering it once. -/
theorem patchNames_patchNames (named : ∀ name ∈ names, IsNameText name.toList)
    (content : String) :
    patchNames (patchNames content names) names = patchNames content names :=
  patchNames_of_registered named fun _ member => registered_patchNames named member content

/-- Only the first one of several registrations of a table counts. -/
theorem patchNames_eraseDups (named : ∀ name ∈ names, IsNameText name.toList)
    (content : String) : patchNames content names.eraseDups = patchNames content names := by
  induction names using List.reverseRecOn with
  | nil => rfl
  | append_singleton front name ih =>
    obtain ⟨frontNamed, ownNamed⟩ := List.forall_mem_append.1 named
    have kept := ih frontNamed
    rw [List.eraseDups_append, patchNames_append, kept, patchNames_append]
    by_cases known : name ∈ front
    · have registered : ∀ other ∈ [name], Registered (patchNames content front) other := by
        simpa using registered_patchNames frontNamed known content
      rw [patchNames_of_registered ownNamed registered]
      simp [List.removeAll, known, patchNames]
    · simp [List.removeAll, known, List.eraseDups_cons]

/-- What an index lacks of a table does not depend on other tables. -/
theorem lacks_patchNames (named : ∀ name ∈ names, IsNameText name.toList)
    (tableNamed : IsNameText table.toList) (fresh : table ∉ names) (content : String) :
    lacks (patchNames content names) table = lacks content table := by
  rw [Bool.eq_iff_iff, lacks_iff, lacks_iff]
  refine exists_congr fun line => and_congr_right fun member => ?_
  rw [count_patchNames named tableNamed member, if_neg fresh]

/-- The first registration of a table changes the index exactly if the index lacked one of its
lines at the beginning. -/
theorem patch_patchNames_ne_iff (named : ∀ name ∈ names, IsNameText name.toList)
    (tableNamed : IsNameText table.toList) (fresh : table ∉ names) (content : String) :
    patch (patchNames content names) table ≠ patchNames content names ↔
      lacks content table = true := by
  rw [Ne, patch_eq_self_iff tableNamed, ← lacks_iff_not_registered,
    lacks_patchNames named tableNamed fresh]

end Sequence

section FreshProject

open Project.Shipped (indexText toList_lines)
open Text (occurrences_eq_zero_iff splitAtFirst splitAtFirst_append)

/-- The line above the declaration of the router. -/
def packageLine : List Char :=
  "const express = require('express');".toList

/-- The lines that load routers. -/
def loadingLines (names : List String) : List Char :=
  names.reverse.flatMap fun name => (requireLine name).toList ++ ['\n']

/-- The lines that mount routers, each with an empty line behind it. -/
def mountingLines (names : List String) : List Char :=
  names.flatMap fun name => (useLine name).toList ++ ['\n', '\n']

/-- The shipped index up to its export, with lines that load some routers and mount some. -/
def freshFront (loaded mounted : List String) : List Char :=
  packageLine ++ '\n' :: (declaration ++ '\n' ::
    (loadingLines loaded ++ '\n' :: mountingLines mounted))

/-- The shipped index with the lines of some tables. -/
def freshIndex (names : List String) : List Char :=
  freshFront names names ++ (exportLine ++ ['\n'])

theorem freshIndex_nil : freshIndex [] = indexText.toList := by
  rw [indexText, toList_lines]
  simp only [List.flatMap_cons, List.flatMap_nil]
  repeat rw [String.toList_ofList]
  decide

/-- The shipped index has no line of a table. -/
theorem count_indexText {table line : String} (member : line ∈ lines table) :
    count indexText line = 0 := by
  have quiet : ¬ "./".toList <:+: indexText.toList ∧ ¬ "use('/".toList <:+: indexText.toList := by
    rw [← freshIndex_nil, ← Text.occursIn_iff, ← Text.occursIn_iff]
    decide
  have inside {part : List Char} (absent : ¬ part <:+: indexText.toList)
      (isPart : part <:+: line.toList) : count indexText line = 0 :=
    occurrences_eq_zero_iff.2 fun within => absent (isPart.trans within)
  rcases List.mem_pair.1 member with rfl | rfl
  · refine inside quiet.1 ⟨"const ".toList ++ table.toList ++ "Routes = require('".toList,
      table.toList ++ "');".toList, ?_⟩
    simp [requireLine, String.join_cons]
  · refine inside quiet.2 ⟨"router.".toList,
      table.toList ++ "', ".toList ++ table.toList ++ "Routes);".toList, ?_⟩
    simp [useLine, String.join_cons]

/-- A router is loaded above the other ones. -/
theorem insertRequire_freshFront (table : String) (loaded mounted : List String)
    (rest : List Char) :
    insertRequire (requireLine table).toList (freshFront loaded mounted ++ rest) =
      freshFront (loaded ++ [table]) mounted ++ rest := by
  have opening : splitAtFirst declaration (packageLine ++ '\n' :: declaration) =
      some (packageLine ++ ['\n'], declaration) := by
    decide
  have split (more : List Char) :
      splitAtFirst declaration (packageLine ++ '\n' :: (declaration ++ '\n' :: more)) =
        some (packageLine ++ ['\n'], declaration ++ '\n' :: more) := by
    simpa using splitAtFirst_append opening ('\n' :: more)
  have shape (names : List String) : freshFront names mounted ++ rest = packageLine ++ '\n' ::
      (declaration ++ '\n' :: (loadingLines names ++ '\n' :: (mountingLines mounted ++ rest))) := by
    simp [freshFront]
  rw [insertRequire, shape, split, shape]
  simp [loadingLines, lineBreak]

/-- A router is mounted below the other ones. -/
theorem insertUse_freshFront (table : String) (loaded mounted : List String) :
    insertUse (useLine table).toList (freshFront loaded mounted ++ (exportLine ++ ['\n'])) =
      freshFront loaded (mounted ++ [table]) ++ (exportLine ++ ['\n']) := by
  have found : beforeExport? (freshFront loaded mounted ++ (exportLine ++ ['\n'])) =
      some (freshFront loaded mounted) :=
    beforeExport?_eq_some_iff.2 ⟨['\n'], by decide, rfl⟩
  rw [insertUse, found]
  simp [freshFront, mountingLines]

/-- The shipped index in which different tables have been registered. -/
theorem patchNames_indexText {names : List String} (named : ∀ name ∈ names, IsNameText name.toList)
    (distinct : names.Nodup) : (patchNames indexText names).toList = freshIndex names := by
  induction names using List.reverseRecOn with
  | nil => rw [patchNames_nil, freshIndex_nil]
  | append_singleton front table ih =>
    obtain ⟨frontNamed, ownNamed⟩ := List.forall_mem_append.1 named
    obtain ⟨frontDistinct, -, apart⟩ := List.nodup_append.1 distinct
    have tableNamed : IsNameText table.toList := ownNamed table List.mem_cons_self
    have fresh : table ∉ front := fun member => apart table member table List.mem_cons_self rfl
    have absent : ∀ line ∈ lines table, count (patchNames indexText front) line = 0 := by
      intro line member
      rw [count_patchNames frontNamed tableNamed member, if_neg fresh, count_indexText member]
    have last : patchNames indexText (front ++ [table]) =
        patch (patchNames indexText front) table := by
      rw [patchNames_append]
      rfl
    rw [last, toList_patch_of_absent tableNamed absent, ih frontNamed frontDistinct, freshIndex,
      insertRequire_freshFront, insertUse_freshFront, freshIndex]

end FreshProject

end RoutesIndex
end SchemaScaffold
