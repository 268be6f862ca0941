import Naco.Identity
import Naco.Metrics
import Naco.Routes.Export

/-!
# Lists

The list of users: searched by a text in any of three columns, narrowed by group and state, in pages.
-/

namespace Naco

open Py

/-- `like`. -/
def like (term : String) : String :=
  "%" ++ replaceChar '_' "\\_" (replaceChar '%' "\\%" (replaceChar '\\' "\\\\" term)) ++ "%"

/-- `Paging`, as it validated. -/
structure Paging where
  page : Nat := 1
  perPage : Nat := 50
  pageBounds : 1 ≤ page ∧ page ≤ 100000
  perPageBounds : 1 ≤ perPage ∧ perPage ≤ 500

/-- `Paging.fetch`: the rows of the page, and how many there are in all. -/
def Paging.fetch {α : Type} (paging : Paging) (rows : List α) : List α × Nat :=
  ((rows.drop ((paging.page - 1) * paging.perPage)).take paging.perPage, rows.length)

structure Page (α : Type) where
  items : List α
  total : Nat
  page : Nat
  perPage : Nat

/-- The parameters of `list_users`, as they validated. -/
structure UserQuery where
  q : String := ""
  groupId : Option Nat := none
  enabled : Option Bool := none
  qBound : q.length ≤ 64

/-- The query of `list_users`, without its order; `ilike` is `column.ilike(pattern, escape="\\")` as the
database evaluates it. -/
def UserQuery.selects (ilike : String → String → Bool) (query : UserQuery) (user : User) : Bool :=
  (query.q = "" || ilike user.username (like query.q) || ilike user.fullName (like query.q) ||
      ilike user.email (like query.q)) &&
    query.groupId.all (fun id => user.groupId = some id) &&
    query.enabled.all (fun enabled => user.enabled = enabled)

/-- `list_users`; every user comes with its group. -/
def listUsers (ilike : String → String → Bool) (t : Tables) (query : UserQuery) (paging : Paging) :
    Page (User × Option Group) :=
  let rows := (orderBy (·.username) (t.users.filter (query.selects ilike))).map fun user =>
    (user, groupOf t user)
  let (items, total) := paging.fetch rows
  { items, total, page := paging.page, perPage := paging.perPage }

end Naco
