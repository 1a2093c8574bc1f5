import SchemaScaffold.Schema.Basic

/-!
# Endpoints

The requests that a backend answers: five for every table, on the collection of its rows or on
one row.
-/

namespace SchemaScaffold

/-- The methods of requests. -/
inductive Method where
  | get
  | post
  | put
  | delete
deriving DecidableEq, Repr

/-- A method's name in requests. -/
def Method.word : Method → String
  | get => "GET"
  | post => "POST"
  | put => "PUT"
  | delete => "DELETE"

/-- What a request is made to. -/
inductive Target where
  /-- All rows of a table. -/
  | collection
  /-- One row of a table. -/
  | item
deriving DecidableEq, Repr

/-- A request to a table. -/
structure Endpoint where
  method : Method
  target : Target
  summary : String
deriving DecidableEq, Repr

namespace Endpoint

/-- The endpoints of a table, in the order in which they are documented. -/
def all : List Endpoint := [
  ⟨.get, .collection, "List records."⟩,
  ⟨.get, .item, "Get one record by id."⟩,
  ⟨.post, .collection, "Create a new record."⟩,
  ⟨.put, .item, "Update a record by id."⟩,
  ⟨.delete, .item, "Delete a record by id."⟩]

/-- The route of an endpoint, with a parameter for the row. -/
def route (endpoint : Endpoint) (table : String) : String :=
  match endpoint.target with
  | .collection => "/" ++ table
  | .item => String.join ["/", table, "/:id"]

/-- Method and route. -/
def title (endpoint : Endpoint) (table : String) : String :=
  String.join [endpoint.method.word, " ", endpoint.route table]

end Endpoint
end SchemaScaffold
