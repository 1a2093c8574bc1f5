import Mathlib.Data.List.Nodup
import SchemaScaffold.Proofs.Artifact.RegistrationSequence
import SchemaScaffold.Proofs.Artifact.Template
import SchemaScaffold.Proofs.Schema.EntityWords
import SchemaScaffold.Proofs.Sql.ParsedNames
import SchemaScaffold.Proofs.Text.Pieces

/-!
# Constants of generated code

The constants that generated code declares under the names of tables: the router of a table in the
routes index, and the service, the controller and the repository of its entity in the files that are
made from the shipped templates. They are identifiers unless a digit comes first, and no two tables
share one in the index.
-/

namespace SchemaScaffold
namespace Script

open RoutesIndex (declaration exportLine freshFront freshIndex isCall_requireLine isCall_useLine
  loadingLines mountingLines packageLine patchNames patchNames_indexText requireLine useLine)
open Template (entityTokens renderChars renderChars_of_not_mem splitOn_renderChars_entityTokens
  token)
open Text (BeginsWithDigit IsIdentifier IsSuffix isIdentifier_append_iff splitOn
  splitOn_append_separator splitOn_of_not_mem)

/-- The constant that a line of code declares if it begins so. -/
def constant? (line : List Char) : Option (List Char) :=
  match splitOn ' ' line with
  | word :: name :: _ => if word = "const".toList then some name else none
  | _ => none

/-- The constants that code declares at the beginning of its lines. -/
def constants (code : List Char) : List (List Char) :=
  (splitOn '\n' code).filterMap constant?

theorem constants_cons_line {line : List Char} (unbroken : '\n' ∉ line) (rest : List Char) :
    constants (line ++ '\n' :: rest) = (constant? line).toList ++ constants rest := by
  rw [constants, splitOn_append_separator, splitOn_of_not_mem unbroken, List.singleton_append,
    constants, List.filterMap_cons]
  cases constant? line <;> rfl

/-- The constant of a declaration is what stands between its first two blanks. -/
theorem constant?_declaration {name : List Char} (noBlank : ' ' ∉ name) (rest : List Char) :
    constant? ("const".toList ++ ' ' :: (name ++ ' ' :: rest)) = some name := by
  have words : splitOn ' ' ("const".toList ++ ' ' :: (name ++ ' ' :: rest)) =
      "const".toList :: name :: splitOn ' ' rest := by
    rw [splitOn_append_separator, splitOn_append_separator, splitOn_of_not_mem noBlank,
      splitOn_of_not_mem (by decide)]
    rfl
  unfold constant?
  rw [words]
  rfl

theorem constant?_of_ne {word : List Char} (noBlank : ' ' ∉ word) (other : word ≠ "const".toList)
    (rest : List Char) : constant? (word ++ ' ' :: rest) = none := by
  unfold constant?
  rw [splitOn_append_separator, splitOn_of_not_mem noBlank, List.singleton_append]
  cases splitOn ' ' rest with
  | nil => rfl
  | cons name others => exact if_neg other

/-- Pieces of code that declare constants whatever follows. -/
theorem constants_flatMap {names : List String} {piece : String → List Char}
    {own : String → List (List Char)}
    (each : ∀ name ∈ names, ∀ rest, constants (piece name ++ rest) = own name ++ constants rest)
    (rest : List Char) :
    constants (names.flatMap piece ++ rest) = names.flatMap own ++ constants rest := by
  induction names with
  | nil => rfl
  | cons name others ih =>
    obtain ⟨first, later⟩ := List.forall_mem_cons.1 each
    rw [List.flatMap_cons, List.append_assoc, first, ih later, List.flatMap_cons,
      List.append_assoc]

/-- The constant under which the router of a table is loaded. -/
def routerName (table : String) : List Char :=
  table.toList ++ "Routes".toList

section Index

variable {table : String} (named : IsNameText table.toList)

include named

/-- The router of a table is declared by the line that loads it. -/
theorem constant?_requireLine :
    constant? (requireLine table).toList = some (routerName table) := by
  have shape : (requireLine table).toList = "const".toList ++ ' ' ::
      (routerName table ++ ' ' :: ("= require('./".toList ++ table.toList ++ "');".toList)) := by
    simp [requireLine, routerName, String.join_cons]
  have noBlank : ' ' ∉ routerName table := by
    simp [routerName, named.not_mem (c := ' ') (by decide)]
  rw [shape, constant?_declaration noBlank]

theorem constant?_useLine : constant? (useLine table).toList = none := by
  have shape : (useLine table).toList = ("router.use('/".toList ++ table.toList ++ "',".toList) ++
      ' ' :: (routerName table ++ ");".toList) := by
    simp [useLine, routerName, String.join_cons]
  have noBlank : ' ' ∉ "router.use('/".toList ++ table.toList ++ "',".toList := by
    simp [named.not_mem (c := ' ') (by decide)]
  rw [shape, constant?_of_ne noBlank (by simp)]

end Index

/-- The shipped index with the lines of tables declares their routers besides two constants of its
own. -/
theorem constants_freshIndex {names : List String}
    (named : ∀ name ∈ names, IsNameText name.toList) :
    constants (freshIndex names) =
      "express".toList :: "router".toList :: names.reverse.map routerName := by
  have package : constant? packageLine = some "express".toList := by decide
  have router : constant? declaration = some "router".toList := by decide
  have last : constants (exportLine ++ ['\n']) = [] := by decide
  have empty (rest : List Char) : constants ('\n' :: rest) = constants rest :=
    constants_cons_line List.not_mem_nil rest
  have loaded : ∀ name ∈ names.reverse, ∀ rest,
      constants ((requireLine name).toList ++ ['\n'] ++ rest) =
        [routerName name] ++ constants rest := by
    intro name member rest
    have own := named name (List.mem_reverse.1 member)
    rw [List.append_assoc, List.singleton_append,
      constants_cons_line (isCall_requireLine own).unbroken.1, constant?_requireLine own]
    rfl
  have mounted : ∀ name ∈ names, ∀ rest,
      constants ((useLine name).toList ++ ['\n', '\n'] ++ rest) = [] ++ constants rest := by
    intro name member rest
    have own := named name member
    rw [List.append_assoc, List.cons_append, List.singleton_append,
      constants_cons_line (isCall_useLine own).unbroken.1, constant?_useLine own, empty]
    rfl
  have shape : freshIndex names = packageLine ++ '\n' :: (declaration ++ '\n' ::
      (loadingLines names ++ '\n' :: (mountingLines names ++ (exportLine ++ ['\n'])))) := by
    simp [freshIndex, freshFront]
  rw [shape, constants_cons_line (by decide), package, constants_cons_line (by decide), router,
    loadingLines, constants_flatMap loaded, empty, mountingLines, constants_flatMap mounted, last,
    ← List.map_eq_flatMap, List.flatMap_eq_nil_iff.2 fun _ _ => rfl]
  simp

/-- No line of a template begins with a token. -/
def BeginsPlainly (template : List Char) : Prop :=
  ∀ line ∈ splitOn '\n' template, ∀ word ∈ (splitOn ' ' line).head?, '\x7b' ∉ word

instance (template : List Char) : Decidable (BeginsPlainly template) :=
  inferInstanceAs (Decidable (∀ line ∈ splitOn '\n' template,
    ∀ word ∈ (splitOn ' ' line).head?, '\x7b' ∉ word))

section Rendered

variable {table : String} (named : IsNameText table.toList)

include named

/-- A template whose lines begin with no token declares the constants of the rendered text. -/
theorem constants_renderChars {template : List Char} (plain : BeginsPlainly template) :
    constants (renderChars (entityTokens (EntityNames.ofTable table)) template) =
      (constants template).map (renderChars (entityTokens (EntityNames.ofTable table))) := by
  have split (separator : Char) (other : Sql.isNameChar separator = false)
      (noOpening : separator ≠ '\x7b') (noClosing : separator ≠ '\x7d') (text : List Char) :=
    splitOn_renderChars_entityTokens named other noOpening noClosing text
  rw [constants, constants, split '\n' (by decide) (by decide) (by decide), List.filterMap_map,
    List.map_filterMap]
  refine List.filterMap_congr fun line member => ?_
  have words := split ' ' (by decide) (by decide) (by decide) line
  unfold Function.comp constant?
  rw [words]
  have own := plain line member
  cases shape : splitOn ' ' line with
  | nil => rfl
  | cons word rest =>
    have kept : renderChars (entityTokens (EntityNames.ofTable table)) word = word :=
      renderChars_of_not_mem (own word (by simp [shape])) _
    cases rest with
    | nil => rfl
    | cons name others =>
      simp only [List.map_cons, kept]
      split <;> rfl

/-- A constant of the entity in a template becomes one under the name of the entity. -/
theorem renderChars_entity_append {suffix : List Char} (noBrace : '\x7b' ∉ suffix) :
    renderChars (entityTokens (EntityNames.ofTable table)) (token "entity" ++ suffix) =
      (EntityNames.ofTable table).camel.toList ++ suffix := by
  have camel := EntityNames.isNameText_camel named
  have rendered := Template.renderChars_entity (EntityNames.ofTable table)
    (List.not_mem_nil (a := '\x7b')) noBrace (camel.not_mem (by decide))
  rwa [List.nil_append, List.nil_append] at rendered

end Rendered

open Project.Shipped (controllerText indexText repositoryText routesText serviceText toList_lines)

/-- The functions of a module for the rows of a table. -/
def functionNames : List (List Char) :=
  ["list".toList, "getById".toList, "create".toList, "update".toList, "remove".toList]

/-- The templates for a table, with the constants that they declare for an entity. -/
def ownConstants (entity : List Char) : List (String × List (List Char)) :=
  [(controllerText, [entity ++ "Service".toList]),
    (serviceText, (entity ++ "Repository".toList) :: functionNames),
    (repositoryText, ["pool".toList, "TABLE".toList]),
    (routesText, ["express".toList, entity ++ "Controller".toList, "router".toList])]

/-- What an own template declares before it is rendered. -/
theorem constants_template : ∀ pair ∈ ownConstants (token "entity"),
    BeginsPlainly pair.1.toList ∧ constants pair.1.toList = pair.2 := by
  simp only [ownConstants, List.forall_mem_cons]
  refine ⟨?_, ?_, ?_, ?_, by simp⟩
  all_goals
    simp only [controllerText, serviceText, repositoryText, routesText, toList_lines,
      List.flatMap_cons, List.flatMap_nil]
    repeat rw [String.toList_ofList]
    decide +kernel

/-- The files of a table declare the constants of its entity. -/
theorem constants_render {table : String} (named : IsNameText table.toList) :
    ∀ pair ∈ ownConstants (EntityNames.ofTable table).camel.toList,
      constants (Template.render pair.1 (entityTokens (EntityNames.ofTable table))).toList =
        pair.2 := by
  have rendered {text : String} {names : List (List Char)}
      (own : BeginsPlainly text.toList ∧ constants text.toList = names) :
      constants (Template.render text (entityTokens (EntityNames.ofTable table))).toList =
        names.map (renderChars (entityTokens (EntityNames.ofTable table))) := by
    rw [Template.render, String.toList_ofList, constants_renderChars named own.1, own.2]
  have entity {suffix : List Char} (noBrace : '\x7b' ∉ suffix) :=
    renderChars_entity_append named noBrace
  have fixed {name : List Char} (noBrace : '\x7b' ∉ name) :=
    renderChars_of_not_mem noBrace (entityTokens (EntityNames.ofTable table))
  have shipped := constants_template
  simp only [ownConstants, functionNames, List.forall_mem_cons] at shipped ⊢
  obtain ⟨controller, service, repository, routes, -⟩ := shipped
  refine ⟨?_, ?_, ?_, ?_, by simp⟩
  · rw [rendered controller, List.map_singleton, entity (by decide)]
  · rw [rendered service]
    simp only [List.map_cons, List.map_nil]
    rw [entity (by decide), fixed (by decide), fixed (by decide), fixed (by decide),
      fixed (by decide), fixed (by decide)]
  · rw [rendered repository]
    simp only [List.map_cons, List.map_nil]
    rw [fixed (by decide), fixed (by decide)]
  · rw [rendered routes]
    simp only [List.map_cons, List.map_nil]
    rw [fixed (by decide), entity (by decide), fixed (by decide)]

/-- What is put behind the name of an entity. -/
def entityEndings : List (List Char) :=
  ["Service".toList, "Repository".toList, "Controller".toList]

theorem isSuffix_routes : IsSuffix "Routes".toList where
  named := by decide
  nonempty := by decide
  plain := by decide
  free := by decide

theorem isSuffix_entityEndings : ∀ ending ∈ entityEndings, IsSuffix ending := by
  simp only [entityEndings, List.forall_mem_cons]
  refine ⟨?_, ?_, ?_, by simp⟩
  all_goals exact ⟨by decide, by decide, by decide, by decide⟩

/-- The constants that code declares under the names of a table, and when they are identifiers. -/
structure NamesConstants (table : Table) : Prop where
  router : constants (requireLine table.name).toList = [routerName table.name]
  routerValid : IsIdentifier (routerName table.name) ↔ ¬ BeginsWithDigit table.name.toList
  rendered : ∀ pair ∈ ownConstants table.entityNames.camel.toList,
    constants (Template.render pair.1 (entityTokens table.entityNames)).toList = pair.2
  entityValid : ∀ ending ∈ entityEndings,
    (IsIdentifier (table.entityNames.camel.toList ++ ending) ↔
      ¬ BeginsWithDigit (behindUnderscores table.name.toList))
  otherValid : ∀ pair ∈ ownConstants table.entityNames.camel.toList, ∀ name ∈ pair.2,
    IsIdentifier name ∨ ∃ ending ∈ entityEndings, name = table.entityNames.camel.toList ++ ending

theorem namesConstants {table : Table} (named : IsNameText table.name.toList) :
    NamesConstants table where
  router := by
    have unbroken := (isCall_requireLine named).unbroken.1
    rw [constants, splitOn_of_not_mem unbroken,
      List.filterMap_cons_some (constant?_requireLine named), List.filterMap_nil]
  routerValid := isIdentifier_append_iff named isSuffix_routes
  rendered := constants_render named
  entityValid ending member :=
    (isIdentifier_append_iff (EntityNames.isNameText_camel named)
      (isSuffix_entityEndings ending member)).trans
      (not_congr (EntityNames.beginsWithDigit_camel named))
  otherValid pair inside name member := by
    have fixed : ∀ own ∈ "pool".toList :: "TABLE".toList :: "express".toList ::
        "router".toList :: functionNames, IsIdentifier own := by
      decide
    simp only [ownConstants, List.mem_cons, List.not_mem_nil, or_false] at inside
    rcases inside with rfl | rfl | rfl | rfl
    · exact .inr ⟨"Service".toList, by simp [entityEndings], List.mem_singleton.1 member⟩
    · rcases List.mem_cons.1 member with entity | function
      · exact .inr ⟨"Repository".toList, by simp [entityEndings], entity⟩
      · exact .inl (fixed name (by simp [function]))
    · rcases List.mem_pair.1 member with rfl | rfl
      · exact .inl (fixed _ (by simp))
      · exact .inl (fixed _ (by simp))
    · simp only [List.mem_cons, List.not_mem_nil, or_false] at member
      rcases member with rfl | entity | rfl
      · exact .inl (fixed _ (by simp))
      · exact .inr ⟨"Controller".toList, by simp [entityEndings], entity⟩
      · exact .inl (fixed _ (by simp))

/-- The constants of the index of a fresh project with the tables of a schema, and when they are
identifiers. -/
structure IndexConstants (schema : Schema) : Prop where
  declared : constants (patchNames indexText schema.tableNames).toList =
    "express".toList :: "router".toList :: schema.tableNames.reverse.map routerName
  distinct : (constants (patchNames indexText schema.tableNames).toList).Nodup
  valid : (∀ name ∈ constants (patchNames indexText schema.tableNames).toList,
    IsIdentifier name) ↔ ∀ table ∈ schema.tables, ¬ BeginsWithDigit table.name.toList

theorem routerName_injective : Function.Injective routerName := fun _ _ same =>
  String.toList_injective (List.append_cancel_right same)

theorem indexConstants {schema : Schema} (distinct : schema.tableNames.Nodup)
    (named : ∀ table ∈ schema.tables, IsNameText table.name.toList) : IndexConstants schema := by
  have allNamed : ∀ name ∈ schema.tableNames, IsNameText name.toList :=
    List.forall_mem_map.2 named
  have declared : constants (patchNames indexText schema.tableNames).toList =
      "express".toList :: "router".toList :: schema.tableNames.reverse.map routerName := by
    rw [patchNames_indexText allNamed distinct, constants_freshIndex allNamed]
  refine ⟨declared, ?_, ?_⟩
  · have other {own : List Char} (noRouter : ¬ "Routes".toList <:+ own) :
        own ∉ schema.tableNames.reverse.map routerName := by
      intro member
      obtain ⟨name, -, same⟩ := List.mem_map.1 member
      exact noRouter ⟨name.toList, same⟩
    rw [declared]
    refine List.nodup_cons.2 ⟨?_, List.nodup_cons.2 ⟨other (by decide), ?_⟩⟩
    · exact List.not_mem_cons_of_ne_of_not_mem (by decide) (other (by decide))
    · exact (List.nodup_reverse.2 distinct).map routerName_injective
  · have own : IsIdentifier "express".toList ∧ IsIdentifier "router".toList := by decide
    rw [declared]
    simp only [List.forall_mem_cons, own, true_and, List.forall_mem_map, List.mem_reverse,
      Schema.tableNames]
    exact forall₂_congr fun table member => (namesConstants (named table member)).routerValid

/-- The router of a table is an identifier unless the name of the table begins with a digit, and
the service, the repository and the controller of its entity are identifiers unless it does so
behind its underscores. Different tables of a schema have different routers, and all constants of
the index of a fresh project are different. -/
theorem constants_are_identifiers_iff (sql : String) :
    (∀ table ∈ (Sql.parse sql).tables, NamesConstants table) ∧
      ((Sql.parse sql).tables.map fun table => routerName table.name).Nodup ∧
      IndexConstants (Sql.parse sql) := by
  have named : ∀ table ∈ (Sql.parse sql).tables, IsNameText table.name.toList :=
    fun table member => (Sql.name_of_mem_parse member).2
  have distinct := Sql.nodup_tableNames_parse sql
  refine ⟨fun table member => namesConstants (named table member), ?_,
    indexConstants distinct named⟩
  have routers := distinct.map routerName_injective
  rwa [Schema.tableNames, List.map_map] at routers

/-- A schema with a table whose name begins with a digit. -/
def numberedSql : String :=
  "CREATE TABLE 2fa (id INT) ENGINE=InnoDB;"

/-- The router and the controller of a table are no identifiers if its name begins with a digit. -/
theorem digit_begins_constants : ∃ table ∈ (Sql.parse numberedSql).tables,
    constants (requireLine table.name).toList = ["2faRoutes".toList] ∧
      ¬ IsIdentifier "2faRoutes".toList ∧
      constants (Template.render controllerText (entityTokens table.entityNames)).toList =
        ["2faService".toList] ∧
      ¬ IsIdentifier "2faService".toList := by
  have names : (Sql.parse numberedSql).tableNames = ["2fa"] := by decide
  obtain ⟨table, member, name⟩ := List.mem_map.1 (names ▸ List.mem_singleton.2 rfl :
    "2fa" ∈ (Sql.parse numberedSql).tableNames)
  have own := namesConstants (Sql.name_of_mem_parse member).2
  have camel : table.entityNames.camel.toList = "2fa".toList := by
    rw [Table.entityNames, name]
    decide
  have service := own.rendered (controllerText, [table.entityNames.camel.toList ++
    "Service".toList]) List.mem_cons_self
  have whole : "2fa".toList ++ "Service".toList = "2faService".toList := by decide
  rw [camel, whole] at service
  refine ⟨table, member, ?_, by decide, service, by decide⟩
  rw [own.router, name]
  rfl

end Script
end SchemaScaffold
