import Naco.Engine

/-!
# Routes of the management API

A route reads and writes one committed state. It ends in an outcome, the new state with the reasons it
gave to the re-evaluator after its commit, or it refuses the request, or an exception leaves it; then
the transaction is rolled back and nothing is scheduled.
-/

namespace Naco

open Py

inductive AdminRole where
  | viewer
  | operator
  | superuser
  deriving DecidableEq, Repr

namespace AdminRole

def rank : AdminRole → Nat
  | .viewer => 0
  | .operator => 1
  | .superuser => 2

def value : AdminRole → String
  | .viewer => "VIEWER"
  | .operator => "OPERATOR"
  | .superuser => "SUPERUSER"

def allows (role required : AdminRole) : Bool :=
  required.rank ≤ role.rank

end AdminRole

/-- `ApiError`: the status and the detail of a refused request. -/
structure ApiError where
  status : Nat
  detail : String
  deriving DecidableEq, Repr

/-- How a route ends without an answer: it refuses the request, or an exception leaves it. -/
inductive RouteError where
  | refused (error : ApiError)
  | raised (error : Error)
  /-- The policy set does not load: status 409, with the message of the load error. -/
  | policyLoad (error : PolicyLoadError)

/-- What a request leaves: the committed state, and the reasons of its calls of
`reevaluator.schedule`. -/
structure Outcome where
  db : Database
  scheduled : List String := []

def apiError {α : Type} (status : Nat) (detail : String) : Except RouteError α :=
  .error (.refused ⟨status, detail⟩)

/-- `require(role)`. -/
def require (role required : AdminRole) : Except RouteError Unit :=
  if role.allows required then .ok () else apiError 403 s!"requires the {required.value} role"

/-- `get_or_404`. -/
def getOr404 {α : Type} (rows : List α) (key : α → Nat) (ident : Nat) (what : String) :
    Except RouteError α :=
  match rows.find? fun row => key row = ident with
  | some row => .ok row
  | none => apiError 404 s!"{what} not found"

/-- `commit_or_conflict`, and what is scheduled after it. -/
def commitOrConflict (message : String) (t : Tables) (scheduled : List String := []) :
    Except RouteError Outcome :=
  match commit t with
  | .ok db => .ok { db, scheduled }
  | .error _ => apiError 409 message

/-- A plain `commit()`, and what is scheduled after it. -/
def commitOrRaise (t : Tables) (scheduled : List String := []) : Except RouteError Outcome :=
  match commit t with
  | .ok db => .ok { db, scheduled }
  | .error error => .error (.raised error)

/-- The rows with one of them replaced, found by its id. -/
def replaceRow {α : Type} (rows : List α) (key : α → Nat) (new : α) : List α :=
  rows.map fun row => if key row = key new then new else row

/-- The rows without the one with that id. -/
def deleteRow {α : Type} (rows : List α) (key : α → Nat) (ident : Nat) : List α :=
  rows.filter fun row => key row ≠ ident

end Naco
