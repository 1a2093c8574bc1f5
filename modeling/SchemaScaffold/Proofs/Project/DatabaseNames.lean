import SchemaScaffold.Proofs.Project.Asking
import SchemaScaffold.Proofs.Project.Production
import SchemaScaffold.Proofs.Sql.DatabaseForm

/-!
# Names of databases

A database is named by words that stand somewhere in the text, in statements, comments and literals
alike, and its name ends at the first character that is none of names, even between backticks. A
full run that is given no name takes this one, and it asks only if there is none.
-/

namespace SchemaScaffold

namespace Sql
namespace DatabaseStatement

open Text

/-- The words in front of a place are those of the first database statement of a text: they create
a database, or they use one and none is created anywhere. -/
inductive OpensFirst (lead words guard place : List Char) : Prop
  | creates (isCreate : words ∈ createForm) (isGuard : guard ∈ 1 + existForm)
      (isFirst : ∀ front back, front ++ back = lead → back ≠ [] →
        ¬ LeadsToName creatingForm (back ++ (words ++ (guard ++ place))))
  | uses (isUse : words ∈ usingForm) (unguarded : guard = []) (alone : EndsWord lead)
      (noneCreated : ∀ other, other <:+ lead ++ (words ++ (guard ++ place)) →
        ¬ LeadsToName creatingForm other)
      (isFirst : ∀ front back, front ++ back = lead → back ≠ [] → EndsWord front →
        ¬ LeadsToName usingForm (back ++ (words ++ (guard ++ place))))

namespace OpensFirst

variable {lead words guard content after : List Char}

/-- The name of a text with a name between backticks is what these start with. -/
theorem name?_eq_nameStart (first : OpensFirst lead words guard (quoted content after))
    (nonempty : nameStart content ≠ []) :
    name? (lead ++ (words ++ (guard ++ quoted content after))) =
      some (String.ofList (nameStart content)) := by
  cases first with
  | creates isCreate isGuard isFirst =>
    obtain ⟨rest, named⟩ := guardedName_quoted isGuard nonempty after
    have visible : StartsVisibly (guard ++ quoted content after) := by
      rcases isGuard with rfl | isGuard
      · exact startsVisibly_cons.2 rfl
      · exact startsVisibly_of_mem_existForm isGuard _
    exact name?_of_readCreate isFirst
      (by rw [readCreate_of_createForm isCreate visible, named]; rfl)
  | uses isUse unguarded alone noneCreated isFirst =>
    subst unguarded
    have starts := startsName_quoted nonempty after
    obtain ⟨rest, named⟩ := startsName_iff.1 starts
    exact name?_of_readUse alone noneCreated isFirst
      (by rw [List.nil_append, readUse_of_usingForm isUse starts.startsVisibly, named]; rfl)

/-- Without a name between the backticks the first word in front of them is taken for one. -/
theorem name?_eq_take (first : OpensFirst lead words guard (quoted content after))
    (empty : nameStart content = []) (guarded : guard ≠ []) :
    name? (lead ++ (words ++ (guard ++ quoted content after))) =
      some (String.ofList (guard.take 2)) := by
  cases first with
  | creates isCreate isGuard isFirst =>
    have isExist : guard ∈ existForm := isGuard.resolve_left guarded
    obtain ⟨rest, named⟩ := guardedName_of_empty isExist empty after
    exact name?_of_readCreate isFirst (by
      rw [readCreate_of_createForm isCreate (startsVisibly_of_mem_existForm isExist _), named]
      rfl)
  | uses isUse unguarded alone noneCreated isFirst => exact absurd unguarded guarded

/-- A name between backticks is taken as a whole exactly if it has no other characters than those
of names. -/
theorem name?_eq_content_iff (first : OpensFirst lead words guard (quoted content after)) :
    name? (lead ++ (words ++ (guard ++ quoted content after))) = some (String.ofList content) ↔
      content ≠ [] ∧ IsNameText content := by
  constructor
  · intro found
    obtain ⟨nonempty, isName⟩ := (of_name? found).1
    exact ⟨by simpa using nonempty, by simpa using isName⟩
  · rintro ⟨nonempty, isName⟩
    have whole : nameStart content = content := nameStart_eq_self_iff.2 isName
    have read := first.name?_eq_nameStart (by rwa [whole])
    rwa [whole] at read

end OpensFirst

end DatabaseStatement
end Sql

namespace Project

open Disk.Path (join)
open Sql (StartsName LeadsToName EndsWord)
open Sql.DatabaseStatement

theorem FullRun.Prepared.loads {run : FullRun} {disk : Disk} {schema : Schema} {name : String}
    (prepared : run.Prepared disk schema name) : Loads disk run.input run.templates schema :=
  ⟨prepared.input, prepared.directory, prepared.text, prepared.tables⟩

/-- A run that succeeds has a name for the database, and its environment file is for that name. -/
theorem FullRun.database_of_execute {run : FullRun} {disk after : Disk} {summary : Summary}
    (succeeded : execute run.program disk = (.ok summary, after)) :
    ∃ schema name, run.Prepared disk schema name ∧ summary.database = some name ∧
      textAt after (join run.root envPath) = .ok (EnvFile.render name run.config.env) := by
  obtain ⟨schema, name, prepared, produced⟩ := FullRun.execute_program_eq_ok.1 succeeded
  obtain ⟨outcomes, documents, middle, -, written, rfl⟩ :=
    FullRun.execute_produce_eq_ok.1 produced
  obtain ⟨_, _, _, _, -, -, -, -, env, -⟩ := execute_writeDocuments_eq_ok.1 written
  exact ⟨schema, name, prepared, rfl, textAt_of_read (read_of_put env).2⟩

/-- A name that is read needs no trimming. -/
theorem chosenName_of_name? {text : List Char} {name : String} (found : name? text = some name)
    (answer : Except Disk.Fault String) : chosenName none (name? text) answer = .ok name := by
  obtain ⟨nonempty, isName⟩ := (of_name? found).1
  have trimmed : Text.trim name.toList = name.toList :=
    Text.trim_of_visible fun c member => isBlank_eq_false_of_nameChar (isName c member)
  have given : name.isEmpty = false := by simpa using nonempty
  simp [chosenName, found, trimmed, given]

/-- Without a name that is given or declared the answer is taken. -/
theorem exists_answer_of_chosenName {answer : Except Disk.Fault String} {name : String}
    (chosen : chosenName none none answer = .ok name) :
    ∃ given, answer = .ok given ∧ name = String.ofList (Text.trim given.toList) := by
  cases answer with
  | error fault => simp [chosenName] at chosen
  | ok given =>
    simp only [chosenName, Option.or_none, Option.elim_none] at chosen
    split at chosen
    · simp at chosen
    · exact ⟨given, rfl, (Except.ok.inj chosen).symm⟩

/-- A text names a database: the name is read, and a full run that reads the text and is given no
name takes it for the database and writes it into the environment file. -/
structure NamesDatabase (text name : String) : Prop where
  read : name? text.toList = some name
  taken : ∀ {run : FullRun} {disk after : Disk} {summary : Summary}, run.database = none →
    textAt disk run.input = .ok text → execute run.program disk = (.ok summary, after) →
      summary.database = some name ∧
        textAt after (join run.root envPath) = .ok (EnvFile.render name run.config.env)

theorem namesDatabase_iff {text name : String} :
    NamesDatabase text name ↔ name? text.toList = some name := by
  refine ⟨NamesDatabase.read, fun found => ⟨found, ?_⟩⟩
  intro run disk after summary ungiven input succeeded
  obtain ⟨schema, chosen, prepared, database, env⟩ := FullRun.database_of_execute succeeded
  obtain ⟨sql, given, -, rfl⟩ := prepared.text
  obtain rfl := Except.ok.inj (input.symm.trans given)
  have named := prepared.named
  have declared : (Sql.parse text).database = name? text.toList := rfl
  rw [ungiven, declared, chosenName_of_name? found] at named
  obtain rfl := Except.ok.inj named
  exact ⟨database, env⟩

/-- The name of a database that is written between backticks is what the text between them starts
with, up to the first character that is none of names; it is the whole text exactly if there are no
other characters in it. If it does not start with a name, the first word of `IF NOT EXISTS` is taken
for one, or else a name that stands behind other words. -/
theorem quoted_names_are_cut {text : String} {lead words guard content after : List Char}
    (whole : lead ++ (words ++ (guard ++ quoted content after)) = text.toList)
    (first : OpensFirst lead words guard (quoted content after)) :
    (nameStart content ≠ [] → NamesDatabase text (String.ofList (nameStart content))) ∧
    (nameStart content = [] → guard ≠ [] → NamesDatabase text (String.ofList (guard.take 2))) ∧
    (nameStart content = [] → guard = [] → ∀ name, name? text.toList = some name →
      ∃ front, front ≠ lead ++ words ∧ IsBehindWords front text.toList name.toList) ∧
    (name? text.toList = some (String.ofList content) ↔ content ≠ [] ∧ IsNameText content) := by
  refine ⟨fun nonempty => ?_, fun empty guarded => ?_, fun empty unguarded name found => ?_, ?_⟩
  · rw [namesDatabase_iff, ← whole]
    exact first.name?_eq_nameStart nonempty
  · rw [namesDatabase_iff, ← whole]
    exact first.name?_eq_take empty guarded
  · obtain ⟨front, behind⟩ := exists_isBehindWords found
    refine ⟨front, ?_, behind⟩
    rintro rfl
    obtain ⟨named, same, starts⟩ := behind.name
    subst unguarded
    rw [← whole, List.append_assoc, List.append_cancel_left_eq, List.append_cancel_left_eq,
      List.nil_append] at same
    exact not_startsName_quoted empty after name.toList (same ▸ starts)
  · rw [← whole]
    exact first.name?_eq_content_iff

/-- A schema for a database whose name has a hyphen. -/
def hyphenSql : String :=
  "CREATE DATABASE \x60my-shop\x60;\nCREATE TABLE cars (id INT) ENGINE=InnoDB;"

/-- The hyphen ends the name. -/
theorem hyphen_cuts_name : NamesDatabase hyphenSql "my" := by
  have words : "CREATE DATABASE ".toList ∈ createForm :=
    takes_createWords.mem (by decide : createWords ("CREATE DATABASE ".toList ++ ['\x60']) = _)
  have first : OpensFirst [] "CREATE DATABASE ".toList []
      (quoted "my-shop".toList ";\nCREATE TABLE cars (id INT) ENGINE=InnoDB;".toList) :=
    .creates words (.inl rfl) fun front back shape nonempty =>
      absurd (List.append_eq_nil_iff.1 shape).2 nonempty
  have cut : String.ofList (nameStart "my-shop".toList) = "my" := by decide
  exact cut ▸ (quoted_names_are_cut (by decide) first).1 (by decide)

/-- Names that are not what is between the backticks. -/
theorem database_names_differ_from_content :
    name? "CREATE DATABASE \x60my-shop\x60;".toList = some "my" ∧
      name? "USE \x60my-shop\x60;".toList = some "my" ∧
      name? "CREATE DATABASE IF NOT EXISTS \x60-\x60;".toList = some "IF" := by
  decide

/-- A database is named by words for databases that stand anywhere in the text. Without any a full
run that is given no name asks for one and takes the answer; with words that stand alone it does not
ask. -/
theorem words_name_databases (sql : String) :
    (∀ name, name? sql.toList = some name →
      ∃ front, IsBehindWords front sql.toList name.toList) ∧
    (IsNameless sql.toList → name? sql.toList = none) ∧
    (HasName sql.toList → ∃ name, name? sql.toList = some name) ∧
    ∀ {σ : Type} (run : AskingRun σ) (state : σ) (disk : Disk), run.database = none →
      Loads disk run.input run.templates (Sql.parse sql) →
        ∃ answer last after, executeWith run.program state disk = ((answer, last), after) ∧
          (HasName sql.toList → last = state) ∧
          (IsNameless sql.toList → last = (run.ask state).2 ∧ ∀ summary, answer = .ok summary →
            ∃ given, (run.ask state).1 = .ok given ∧
              summary.database = some (String.ofList (Text.trim given.toList))) := by
  refine ⟨fun name => exists_isBehindWords, isNameless_iff.1, HasName.exists_name?,
    fun run state disk ungiven loads => ?_⟩
  obtain ⟨last, executed, asked, silent⟩ := run.exists_executeWith_program state disk
  have declared : (Sql.parse sql).database = name? sql.toList := rfl
  refine ⟨_, last, _, executed, fun has => silent ?_, fun nameless => ⟨asked ?_,
    fun summary succeeded => ?_⟩⟩
  · obtain ⟨name, found⟩ := has.exists_name?
    rw [AskingRun.asks_iff loads, ungiven, declared, found]
    exact Bool.false_ne_true
  · rw [AskingRun.asks_iff loads, ungiven, declared, isNameless_iff.1 nameless]
    rfl
  · obtain ⟨schema, name, prepared, database, -⟩ :=
      FullRun.database_of_execute (Prod.ext succeeded rfl)
    obtain rfl := loads.unique prepared.loads
    have named : chosenName run.database (name? sql.toList) (run.ask state).1 = .ok name :=
      prepared.named
    rw [ungiven, isNameless_iff.1 nameless] at named
    obtain ⟨given, answered, rfl⟩ := exists_answer_of_chosenName named
    exact ⟨given, answered, database⟩

/-- A schema in which a longer word ends in `USE`. -/
def causeSql : String :=
  "-- cause unknown\nCREATE TABLE cars (id INT) ENGINE=InnoDB;"

/-- A directory with this schema and no templates. -/
def causeDisk : Disk where
  workingDirectory := []
  nodes := [(["schema.sql"], .file causeSql.toUTF8)]

/-- A run for this schema that counts how often it asks. -/
def causeRun : AskingRun Nat where
  config := { templatesDir := "/" }
  sqlPath := some "/schema.sql"
  database := none
  ask count := (.ok "shop", count + 1)

/-- The word is no use of a database, and the run asks once. -/
theorem cause_is_no_use :
    ∃ answer after, executeWith causeRun.program 0 causeDisk = ((answer, 1), after) := by
  have nameless : IsNameless causeSql.toList := isNameless_iff.2 (by decide)
  have loads : Loads causeDisk causeRun.input causeRun.templates (Sql.parse causeSql) :=
    ⟨by decide, by decide,
      ⟨causeSql, textAt_of_read (by rfl), by decide, rfl⟩, by decide⟩
  obtain ⟨answer, last, after, executed, -, asks⟩ :=
    (words_name_databases causeSql).2.2.2 causeRun 0 causeDisk rfl loads
  obtain rfl : last = 1 := (asks nameless).1
  exact ⟨answer, after, executed⟩

/-- An index hint names a database, though no statement begins with words for databases. -/
theorem index_hint_names_database :
    (∀ statement ∈ Text.splitOn ';' "SELECT * FROM t USE INDEX (i);".toList,
      Sql.keyword "CREATE".toList (Text.trim statement) = none ∧
        Sql.keyword "USE".toList (Text.trim statement) = none) ∧
    name? "SELECT * FROM t USE INDEX (i);".toList = some "INDEX" := by
  decide

end Project
end SchemaScaffold
