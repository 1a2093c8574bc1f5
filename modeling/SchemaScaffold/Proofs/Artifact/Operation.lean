import SchemaScaffold.Artifact.Endpoint
import SchemaScaffold.Proofs.Schema.EntityNames
import SchemaScaffold.Proofs.Text.Pieces

/-!
# Operations of an interface

A method at a path, read from the texts in which descriptions of an interface write it. The
descriptions mark the number of a row in different ways, which are the same here.
-/

namespace SchemaScaffold

/-- The method of a word, in letters of any case. -/
def Method.ofWord? (word : List Char) : Option Method :=
  [get, post, put, delete].find? fun method => method.word.toList == Text.asciiUpper word

/-- A method at a path. -/
structure Operation where
  method : Method
  /-- The segments of the path, with one mark for the numbers of rows. -/
  path : List String
deriving DecidableEq, Repr

namespace Operation

/-- How descriptions mark the number of a row: as a parameter in one of two forms, or by the
number of the first row. -/
def rowMarks : List String := [":id", "\x7bid\x7d", "1"]

/-- Segments with one mark for the number of a row. The first segment names what there are rows
of and is no mark. -/
def unifyRows : List String → List String
  | [] => []
  | first :: rest =>
    first :: rest.map fun segment => if rowMarks.contains segment then ":id" else segment

/-- The operation of a method at segments, whatever their marks for rows. -/
def ofSegments (method : Method) (segments : List String) : Operation :=
  ⟨method, unifyRows segments⟩

/-- The segments of a path that begins with a slash. -/
def segments? (path : List Char) : Option (List String) :=
  match Text.splitOn '/' path with
  | [] :: first :: rest => some ((first :: rest).map String.ofList)
  | _ => none

/-- Read the word of a method and a path. -/
def read? (word path : List Char) : Option Operation :=
  (Method.ofWord? word).bind fun method => (segments? path).map (ofSegments method)

/-- Read a method and a path with a space between them. -/
def ofTitle? (title : List Char) : Option Operation :=
  match Text.splitOn ' ' title with
  | [word, path] => read? word path
  | _ => none

/-- The operation of an endpoint of a table. -/
def ofEndpoint (table : String) (endpoint : Endpoint) : Operation where
  method := endpoint.method
  path :=
    match endpoint.target with
    | .collection => [table]
    | .item => [table, ":id"]

/-- The question whether the backend is there. -/
def health : Operation := ⟨.get, ["health"]⟩

/-- An operation that a backend for tables has: the question for its health, or one of the
endpoints of a table. -/
def IsServed (tables : List Table) (operation : Operation) : Prop :=
  operation = health ∨ ∃ table ∈ tables, ∃ endpoint ∈ Endpoint.all,
    operation = ofEndpoint table.name endpoint

theorem ofWord?_word (method : Method) : Method.ofWord? method.word.toList = some method := by
  cases method <;> decide

theorem ofSegments_collection (method : Method) (table : String) :
    ofSegments method [table] = ⟨method, [table]⟩ := rfl

/-- Every mark stands for the number of a row. -/
theorem ofSegments_item (method : Method) (table : String) {mark : String}
    (isMark : mark ∈ rowMarks) : ofSegments method [table, mark] = ⟨method, [table, ":id"]⟩ := by
  simp [ofSegments, unifyRows, isMark]

/-- The path of an endpoint's operation has the mark for rows already. -/
theorem ofSegments_ofEndpoint (table : String) (endpoint : Endpoint) :
    ofSegments endpoint.method (ofEndpoint table endpoint).path = ofEndpoint table endpoint := by
  obtain ⟨method, target, summary⟩ := endpoint
  cases target with
  | collection => rfl
  | item => exact ofSegments_item method table (by decide)

section Named

variable {table : String} (named : IsNameText table.toList)

include named

theorem segments?_collection : segments? ("/" ++ table).toList = some [table] := by
  have slash : '/' ∉ table.toList := named.not_mem (by decide)
  have pieces := Text.splitOn_append_separator '/' [] table.toList
  rw [Text.splitOn_of_not_mem slash] at pieces
  have text : ("/" ++ table).toList = [] ++ '/' :: table.toList := by simp
  rw [segments?, text, pieces]
  simp [Text.splitOn]

theorem segments?_item {mark : String} (plain : '/' ∉ mark.toList) :
    segments? (String.join ["/", table, "/", mark]).toList = some [table, mark] := by
  have slash : '/' ∉ table.toList := named.not_mem (by decide)
  have text : (String.join ["/", table, "/", mark]).toList =
      [] ++ '/' :: (table.toList ++ '/' :: mark.toList) := by
    simp [String.join_cons]
  rw [segments?, text, Text.splitOn_append_separator, Text.splitOn_append_separator,
    Text.splitOn_of_not_mem slash, Text.splitOn_of_not_mem plain]
  simp [Text.splitOn]

/-- The route of an endpoint is that of its operation. -/
theorem segments?_route (endpoint : Endpoint) :
    segments? (endpoint.route table).toList = some (ofEndpoint table endpoint).path := by
  obtain ⟨method, target, summary⟩ := endpoint
  cases target with
  | collection => exact segments?_collection named
  | item =>
    have route : String.join ["/", table, "/:id"] = String.join ["/", table, "/", ":id"] := by
      apply String.toList_injective
      simp [String.join_cons]
    rw [Endpoint.route, route, segments?_item named (by decide)]
    rfl

/-- A title has the characters of names, and its own signs. -/
theorem not_mem_title (endpoint : Endpoint) {c : Char} (other : Sql.isNameChar c = false)
    (noSign : c ∉ [' ', '/', ':']) : c ∉ (endpoint.title table).toList := by
  have name : c ∉ table.toList := named.not_mem other
  have word : c ∉ endpoint.method.word.toList := by
    have letters : IsNameText endpoint.method.word.toList := by
      cases endpoint.method <;> decide
    exact letters.not_mem other
  have parameter : c ∉ "id".toList := (by decide : IsNameText "id".toList).not_mem other
  unfold Endpoint.title Endpoint.route
  split <;> simp_all [String.join_cons]

/-- The title of an endpoint is read as its operation. -/
theorem ofTitle?_title (endpoint : Endpoint) :
    ofTitle? (endpoint.title table).toList = some (ofEndpoint table endpoint) := by
  have space : ' ' ∉ table.toList := named.not_mem (by decide)
  have word : ' ' ∉ endpoint.method.word.toList := by cases endpoint.method <;> decide
  have route : ' ' ∉ (endpoint.route table).toList := by
    unfold Endpoint.route
    split <;> simp [String.join_cons, space]
  have text : (endpoint.title table).toList =
      endpoint.method.word.toList ++ ' ' :: (endpoint.route table).toList := by
    simp [Endpoint.title, String.join_cons]
  rw [ofTitle?, text, Text.splitOn_append_separator, Text.splitOn_of_not_mem word,
    Text.splitOn_of_not_mem route]
  simp only [List.cons_append, List.nil_append, read?, ofWord?_word, segments?_route named,
    Option.bind_some, Option.map_some, ofSegments_ofEndpoint]

end Named

end Operation
end SchemaScaffold
