import SchemaScaffold.Project.ShippedTemplates
import SchemaScaffold.Proofs.Artifact.RegistrationSequence
import SchemaScaffold.Proofs.Artifact.Template
import SchemaScaffold.Proofs.Schema.EntityNames
import SchemaScaffold.Proofs.Text.Quotes

/-!
# Loaded paths

A module names the modules that it loads by paths between quotes. Those of the shipped templates
that start with a dot become one path each when the templates are rendered for a table, and
registering tables in the routes index adds the paths of their routers and no other ones.
-/

namespace SchemaScaffold

open Text (Insertion QuotingLine dottedPieces mem_dottedPieces mem_splitOn_of_quoted splitOn)

namespace Modules

/-- A text has a call that loads a module by a path. -/
def Loads (text path : String) : Prop :=
  '\'' ∉ path.toList ∧
    "require(".toList ++ '\'' :: (path.toList ++ '\'' :: [')']) <:+: text.toList

/-- A path that starts at the folder of the module that has it. -/
def IsRelative (path : String) : Prop :=
  path = "." ∨ path = ".." ∨ "./".toList <+: path.toList ∨ "../".toList <+: path.toList

/-- A relative path that is loaded is a piece between quotes that starts with a dot. -/
theorem Loads.mem_dottedPieces {text path : String} (loads : Loads text path)
    (relative : IsRelative path) : path.toList ∈ dottedPieces text.toList := by
  obtain ⟨unquoted, front, back, whole⟩ := loads
  refine Text.mem_dottedPieces.2 ⟨?_, ?_⟩
  · rw [← whole]
    simpa using mem_splitOn_of_quoted unquoted (front ++ "require(".toList) (')' :: back)
  · rcases relative with rfl | rfl | ⟨rest, shape⟩ | ⟨rest, shape⟩
    · rfl
    · rfl
    · exact shape ▸ rfl
    · exact shape ▸ rfl

end Modules

namespace Template

/-- The pieces between quotes that start with a dot or with a token. -/
def leadingPieces (text : List Char) : List (List Char) :=
  (splitOn '\'' text).filter fun piece => piece.head? = some '.' ∨ piece.head? = some '\x7b'

section Rendered

variable {table : String} (named : IsNameText table.toList)

include named

/-- A dotted piece of a rendered template comes from a piece that starts with a dot or a token. -/
theorem exists_leadingPiece {template piece : List Char} (member : piece ∈
      dottedPieces (renderChars (entityTokens (EntityNames.ofTable table)) template)) :
    ∃ origin ∈ leadingPieces template,
      piece = renderChars (entityTokens (EntityNames.ofTable table)) origin := by
  obtain ⟨isPiece, dot⟩ := mem_dottedPieces.1 member
  rw [splitOn_renderChars_entityTokens named (by decide) (by decide) (by decide)] at isPiece
  obtain ⟨origin, inside, rfl⟩ := List.mem_map.1 isPiece
  refine ⟨origin, List.mem_filter.2 ⟨inside, ?_⟩, rfl⟩
  cases start : origin.head? with
  | none =>
    obtain rfl := List.head?_eq_none_iff.1 start
    rw [renderChars_of_not_mem (by simp)] at dot
    simp at dot
  | some c =>
    by_cases brace : c = '\x7b'
    · simp [brace]
    · have same := (head?_renderChars brace start _).symm.trans dot
      simp [same]

/-- A piece that starts with the token of a name starts with the name. -/
theorem head?_renderChars_token {back : List Char} (behind : '\x7b' ∉ back)
    (noDot : back.head? ≠ some '.') :
    (renderChars (entityTokens (EntityNames.ofTable table)) (token "Entity" ++ back)).head? ≠
        some '.' ∧
      (renderChars (entityTokens (EntityNames.ofTable table)) (token "table" ++ back)).head? ≠
        some '.' := by
  have pascal := EntityNames.isNameText_pascal named
  have start {text : List Char} (isName : IsNameText text) : (text ++ back).head? ≠ some '.' := by
    intro dot
    rw [List.head?_append] at dot
    cases first : text.head? with
    | none => exact noDot (by simpa [first] using dot)
    | some c =>
      obtain rfl : c = '.' := by simpa [first] using dot
      exact isName.not_mem (by decide) (List.mem_of_head? first)
  have entity := renderChars_pascal (EntityNames.ofTable table) (List.not_mem_nil (a := '\x7b'))
    behind (pascal.not_mem (by decide))
  have own := renderChars_table (EntityNames.ofTable table) (List.not_mem_nil (a := '\x7b')) behind
    (named.not_mem (by decide))
  rw [List.nil_append, List.nil_append] at entity own
  rw [entity, own]
  exact ⟨start pascal, start named⟩

/-- If only one dotted piece stands in a template, its rendering is the only dotted piece that is
left, since no other piece becomes one. -/
theorem eq_of_mem_dottedPieces {template origin piece : List Char}
    (leading : ∀ other ∈ leadingPieces template, other = origin ∨
      other = token "Entity" ++ " not found".toList ∨ other = token "table")
    (member : piece ∈
      dottedPieces (renderChars (entityTokens (EntityNames.ofTable table)) template)) :
    piece = renderChars (entityTokens (EntityNames.ofTable table)) origin := by
  obtain ⟨other, inside, rfl⟩ := exists_leadingPiece named member
  have dot := (mem_dottedPieces.1 member).2
  rcases leading other inside with rfl | rfl | rfl
  · rfl
  · exact absurd dot (head?_renderChars_token named (by decide) (by decide)).1
  · have own := (head?_renderChars_token named (List.not_mem_nil (a := '\x7b')) (by simp)).2
    rw [List.append_nil] at own
    exact absurd dot own

end Rendered

end Template

namespace Project
namespace Shipped

open Template (leadingPieces token)

theorem leadingPieces_controllerText : ∀ other ∈ leadingPieces controllerText.toList,
    other = "../services".toList ++ '/' :: (token "entity" ++ "Service".toList) ∨
      other = token "Entity" ++ " not found".toList ∨ other = token "table" := by
  rw [controllerText, toList_lines]
  simp only [List.flatMap_cons, List.flatMap_nil]
  repeat rw [String.toList_ofList]
  decide +kernel

theorem leadingPieces_serviceText : ∀ other ∈ leadingPieces serviceText.toList,
    other = "../repositories".toList ++ '/' :: (token "entity" ++ "Repository".toList) ∨
      other = token "Entity" ++ " not found".toList ∨ other = token "table" := by
  rw [serviceText, toList_lines]
  simp only [List.flatMap_cons, List.flatMap_nil]
  repeat rw [String.toList_ofList]
  decide +kernel

theorem leadingPieces_repositoryText : ∀ other ∈ leadingPieces repositoryText.toList,
    other = "../db/pool".toList ∨
      other = token "Entity" ++ " not found".toList ∨ other = token "table" := by
  rw [repositoryText, toList_lines]
  simp only [List.flatMap_cons, List.flatMap_nil]
  repeat rw [String.toList_ofList]
  decide +kernel

theorem leadingPieces_routesText : ∀ other ∈ leadingPieces routesText.toList,
    other = "../controllers".toList ++ '/' :: (token "entity" ++ "Controller".toList) ∨
      other = token "Entity" ++ " not found".toList ∨ other = token "table" := by
  rw [routesText, toList_lines]
  simp only [List.flatMap_cons, List.flatMap_nil]
  repeat rw [String.toList_ofList]
  decide

theorem dottedPieces_serverText : dottedPieces serverText.toList = ["./src/app".toList] := by
  rw [serverText, toList_lines]
  simp only [List.flatMap_cons, List.flatMap_nil]
  repeat rw [String.toList_ofList]
  decide +kernel

theorem dottedPieces_appText : dottedPieces appText.toList =
    ["./routes".toList, "./middlewares/notFound".toList, "./middlewares/errorHandler".toList] := by
  rw [appText, toList_lines]
  simp only [List.flatMap_cons, List.flatMap_nil]
  repeat rw [String.toList_ofList]
  decide

/-- The other templates load packages at most. -/
theorem dottedPieces_eq_nil : ∀ text ∈ [packageText, readmeText, indexText, authText,
    errorHandlerText, notFoundText, poolText], dottedPieces text.toList = [] := by
  simp only [List.forall_mem_cons]
  refine ⟨?_, ?_, ?_, ?_, ?_, ?_, ?_, by simp⟩
  all_goals
    simp only [packageText, readmeText, indexText, authText, errorHandlerText, notFoundText,
      poolText, toList_lines, List.flatMap_cons, List.flatMap_nil]
    repeat rw [String.toList_ofList]
    decide +kernel

end Shipped
end Project

namespace RoutesIndex

/-- The line that loads a router, around the path of the router. -/
def loadingLine {table : String} (named : IsNameText table.toList) : QuotingLine where
  front := "const ".toList ++ table.toList ++ "Routes = require(".toList
  quoted := '.' :: '/' :: table.toList
  behind := ");".toList
  frontCode := by simp [named.not_mem (c := '\'') (by decide)]
  unquoted := by simp [named.not_mem (c := '\'') (by decide)]
  behindCode := by decide
  frontPlain := by simp
  behindPlain := by decide
  further := by decide

/-- The line that mounts a router, around the path under which requests come. -/
def mountingLine {table : String} (named : IsNameText table.toList) : QuotingLine where
  front := "router.use(".toList
  quoted := '/' :: table.toList
  behind := ", ".toList ++ table.toList ++ "Routes);".toList
  frontCode := by decide
  unquoted := by simp [named.not_mem (c := '\'') (by decide)]
  behindCode := by simp [named.not_mem (c := '\'') (by decide)]
  frontPlain := by decide
  behindPlain := by simp
  further := by simp

theorem text_loadingLine {table : String} (named : IsNameText table.toList) :
    (loadingLine named).text = (requireLine table).toList := by
  have opening : "Routes = require('./".toList =
      "Routes = require(".toList ++ ['\'', '.', '/'] := by decide
  have closing : "');".toList = '\'' :: ");".toList := by decide
  unfold QuotingLine.text loadingLine
  simp only [requireLine, String.join_cons, String.join_nil, String.toList_append, opening,
    closing, String.toList_empty, List.append_assoc, List.cons_append, List.nil_append,
    List.append_nil]

theorem text_mountingLine {table : String} (named : IsNameText table.toList) :
    (mountingLine named).text = (useLine table).toList := by
  have opening : "router.use('/".toList = "router.use(".toList ++ ['\'', '/'] := by decide
  have closing : "', ".toList = '\'' :: ", ".toList := by decide
  unfold QuotingLine.text mountingLine
  simp only [useLine, String.join_cons, String.join_nil, String.toList_append, opening, closing,
    String.toList_empty, List.append_assoc, List.cons_append, List.nil_append, List.append_nil]

section Places

variable (line : QuotingLine)

/-- A line on top of a content. -/
def onTop (content : List Char) : Insertion line where
  before := []
  old := []
  above := []
  below := ['\n']
  back := content
  oldCode := by simp
  aboveCode := by simp
  belowCode := by decide
  abovePlain := by simp

theorem not_mem_of_breaks {c : Char} (noFeed : c ≠ '\n') (noReturn : c ≠ '\r')
    {ending : List Char} (breaks : ∀ d ∈ ending, d = '\n' ∨ d = '\r') : c ∉ ending :=
  fun member => (breaks c member).elim noFeed noReturn

/-- A line behind the declaration of the router and a line break. -/
def behindDeclaration (before tail : List Char) {ending : List Char}
    (breaks : ∀ c ∈ ending, c = '\n' ∨ c = '\r') : Insertion line where
  before := before
  old := declaration ++ ending
  above := declaration ++ if ending.isEmpty then ['\n'] else ending
  below := ['\n']
  back := tail
  oldCode := by
    simp only [List.mem_append, not_or]
    exact ⟨by decide, not_mem_of_breaks (by decide) (by decide) breaks⟩
  aboveCode := by
    simp only [List.mem_append, not_or]
    refine ⟨by decide, ?_⟩
    split
    · decide
    · exact not_mem_of_breaks (by decide) (by decide) breaks
  belowCode := by decide
  abovePlain := by
    have start : declaration.head? = some 'c' := by decide
    simp [List.head?_append, start]

/-- A line in front of the export of the router. -/
def beforeExport (before : List Char) {ending : List Char}
    (breaks : ∀ c ∈ ending, c = '\n' ∨ c = '\r') : Insertion line where
  before := before
  old := exportLine ++ ending
  above := []
  below := '\n' :: '\n' :: (exportLine ++ ['\n'])
  back := []
  oldCode := by
    simp only [List.mem_append, not_or]
    exact ⟨by decide, not_mem_of_breaks (by decide) (by decide) breaks⟩
  aboveCode := by simp
  belowCode := by decide
  abovePlain := by simp

/-- A line at the end, behind an empty line. -/
def atEnd (front : List Char) : Insertion line where
  before := front
  old := ['\n']
  above := ['\n', '\n']
  below := ['\n']
  back := []
  oldCode := by decide
  aboveCode := by decide
  belowCode := by decide
  abovePlain := by decide

end Places

/-- A content that ends in a line feed, with no dotted pieces but the paths of some tables. -/
structure LoadsOnly (tables : List String) (content : List Char) : Prop where
  pieces : ∀ piece ∈ dottedPieces content, ∃ table ∈ tables, piece = '.' :: '/' :: table.toList
  last : content.getLast? = some '\n'

namespace LoadsOnly

variable {tables : List String}

/-- A line is inserted that quotes nothing dotted but the path of one of the tables. -/
theorem result {line : QuotingLine} {insertion : Insertion line}
    (only : LoadsOnly tables insertion.source) (marked : insertion.IsMarked)
    (known : line.quoted.head? = some '.' →
      ∃ table ∈ tables, line.quoted = '.' :: '/' :: table.toList)
    (feed : insertion.below.getLast? = some '\n') : LoadsOnly tables insertion.result where
  pieces piece isPiece := by
    rcases marked.mem_dottedPieces isPiece with old | rfl
    · exact only.pieces piece old
    · exact known (mem_dottedPieces.1 isPiece).2
  last := by
    have last := only.last
    simp only [Insertion.source, List.getLast?_append] at last
    simp only [Insertion.result, List.getLast?_append, feed]
    cases back : insertion.back.getLast? with
    | none => rfl
    | some c => simpa [back] using last

variable (named : ∀ table ∈ tables, IsNameText table.toList) {table : String}
  (member : table ∈ tables) {content : List Char} (only : LoadsOnly tables content)

include named only

/-- No dotted piece has a character that neither names nor `./` have. -/
theorem not_mem {c : Char} (other : Sql.isNameChar c = false) (noDot : c ≠ '.')
    (noSlash : c ≠ '/') : ∀ piece ∈ dottedPieces content, c ∉ piece := by
  intro piece isPiece
  obtain ⟨table, member, rfl⟩ := only.pieces piece isPiece
  simp [noDot, noSlash, (named table member).not_mem other]

include member

/-- Loading the router of a table adds its path. -/
theorem insertRequire :
    LoadsOnly tables (insertRequire (requireLine table).toList content) := by
  have known : (loadingLine (named table member)).quoted.head? = some '.' →
      ∃ other ∈ tables, (loadingLine (named table member)).quoted = '.' :: '/' :: other.toList :=
    fun _ => ⟨table, member, rfl⟩
  unfold RoutesIndex.insertRequire
  rw [← text_loadingLine (named table member)]
  split
  · exact (show LoadsOnly tables (onTop _ content).source from only).result (.inl rfl) known rfl
  · next before found split =>
    obtain ⟨rfl, rest, rfl⟩ := Text.splitAtFirst_eq_some split
    dsimp only
    rw [List.drop_left]
    have source : before ++ (declaration ++ rest) =
        (behindDeclaration (loadingLine (named table member)) before (lineBreak rest).2
          (lineBreak_break rest)).source := by
      simp [Insertion.source, behindDeclaration, lineBreak_append]
    have absent := only.not_mem named (c := ';') (by decide) (by decide) (by decide)
    rw [source] at only absent
    have marked := only.result (.inr ⟨';', List.mem_append_left _ (by decide), absent⟩) known rfl
    simpa [Insertion.result, behindDeclaration] using marked

/-- Mounting the router of a table loads nothing. -/
theorem insertUse : LoadsOnly tables (insertUse (useLine table).toList content) := by
  have known : (mountingLine (named table member)).quoted.head? = some '.' →
      ∃ other ∈ tables, (mountingLine (named table member)).quoted = '.' :: '/' :: other.toList :=
    fun dot => absurd (show some '/' = some '.' from dot) (by decide)
  unfold RoutesIndex.insertUse
  rw [← text_mountingLine (named table member)]
  split
  · next before found =>
    obtain ⟨ending, rfl, breaks⟩ := beforeExport?_eq_some found
    have source : before ++ (exportLine ++ ending) =
        (beforeExport (mountingLine (named table member)) before breaks).source := by
      simp [Insertion.source, beforeExport]
    have absent := only.not_mem named (c := ';') (by decide) (by decide) (by decide)
    rw [source] at only absent
    have feed : (('\n' :: '\n' :: exportLine) ++ ['\n']).getLast? = some '\n' :=
      List.getLast?_concat
    have marked := only.result (.inr ⟨';', List.mem_append_left _ (by decide), absent⟩) known feed
    simpa [Insertion.result, beforeExport] using marked
  · obtain ⟨front, rfl⟩ := List.getLast?_eq_some_iff.1 only.last
    have absent := only.not_mem named (c := '\n') (by decide) (by decide) (by decide)
    have marked := (show LoadsOnly tables (atEnd (mountingLine (named table member)) front).source
      from only).result (.inr ⟨'\n', List.mem_singleton.2 rfl, absent⟩) known rfl
    simpa [Insertion.result, atEnd] using marked

/-- Registering a table adds the path of its router. -/
theorem patchChars : LoadsOnly tables (patchChars table content) := by
  have kept {insert : List Char → List Char → List Char} {line content : List Char}
      (only : LoadsOnly tables content) (changed : LoadsOnly tables (insert line content)) :
      LoadsOnly tables (ensure insert line content) := by
    unfold ensure
    split
    · exact only
    · exact changed
  have loaded := kept only (only.insertRequire named member)
  exact kept loaded (loaded.insertUse named member)

end LoadsOnly

/-- An index in which some tables have been registered loads nothing but their routers, if it loaded
nothing before. -/
theorem loadsOnly_patchNames {tables : List String}
    (named : ∀ table ∈ tables, IsNameText table.toList) {content : String}
    (only : LoadsOnly tables content.toList) :
    LoadsOnly tables (patchNames content tables).toList := by
  have each (others : List String) (within : others ⊆ tables) {content : String}
      (only : LoadsOnly tables content.toList) :
      LoadsOnly tables (patchNames content others).toList := by
    induction others generalizing content with
    | nil => exact only
    | cons table rest ih =>
      obtain ⟨member, later⟩ := List.cons_subset.1 within
      refine ih later ?_
      rw [patch, String.toList_ofList]
      exact only.patchChars named member
  exact each tables (List.Subset.refl _) only

end RoutesIndex
end SchemaScaffold
