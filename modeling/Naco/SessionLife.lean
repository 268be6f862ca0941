import Naco.Maintenance
import Naco.Routes.Auth

/-!
# The life of an admin session

A session is created by a sign-in. Then requests come with its cookie, to the API and to the pages of
the web interface, maintenance passes sweep the sessions, and other requests may revoke it; nobody else
writes its row. The instants of the requests that were accepted are a record which nothing reads.
-/

namespace Naco

open Py

/-- `_principal` of the web pages. -/
def pagePrincipal (platform : AdminPlatform) (headers : Headers) :
    Coroutine AdminWorld (Except RouteError (Option Principal)) :=
  Coroutine.atomic fun world =>
    let (found, t) := resolveSession platform world.db.val world.now.utc headers.cookie
    match t.commit with
    | .error error => (.error (.raised error), world)
    | .ok db =>
        let principal := found.map fun (session, admin) => {
          kind := .session, username := admin.username, role := admin.role, adminId := admin.id,
          sessionId := session.id, csrfToken := session.csrfToken,
          restricted := restriction platform.security admin, ip := headers.ip }
        (.ok principal, { world with db })

inductive CookieRequest where
  | api (headers : Headers)
  | page (headers : Headers)

/-- `current_principal` takes the API token that comes with the request. -/
def Headers.bearer (headers : Headers) : Bool :=
  lower (partition ' ' headers.authorization).1 = "bearer" ∧
    (partition ' ' headers.authorization).2.any (· ≠ "")

namespace CookieRequest

/-- What is asked of a request besides its session: for a change, the CSRF token and the origin. -/
def Passes (csrf : String) : CookieRequest → Prop
  | .api headers =>
      headers.bearer = false ∧ (headers.safeMethod = true ∨
        headers.csrfToken ≠ "" ∧ headers.csrfToken = csrf ∧ checkSameOrigin headers = .ok ())
  | .page _ => True

/-- Whether the session was accepted, and the world after it. An API token is not a session. -/
def run (platform : AdminPlatform) (raw : String) : CookieRequest → AdminWorld → Bool × AdminWorld
  | .api headers, world =>
      let (answer, world) :=
        (currentPrincipal platform { headers with cookie := some raw }).runAlone world
      (match answer with
        | .ok principal => principal.kind = .session
        | .error _ => false, world)
  | .page headers, world =>
      let (answer, world) := (pagePrincipal platform { headers with cookie := some raw }).runAlone world
      (match answer with
        | .ok principal => principal.isSome
        | .error _ => false, world)

end CookieRequest

/-- The row of the session with this cookie. -/
def AdminTables.sessionOf (t : AdminTables) (platform : AdminPlatform) (raw : String) :
    Option AdminSession :=
  t.sessions.find? (·.tokenHash = platform.sha256 raw)

def AdminTables.enabled (t : AdminTables) (adminId : Nat) : Bool :=
  (t.admin? adminId).any (·.enabled)

inductive SessionEvent where
  | wait (now : ClockReading)
  | request (request : CookieRequest)
  /-- The sweep of a pass that started so long ago, with the other tables and settings of then. -/
  | maintenance (micros : Nat) (config : HouseConfig) (house : HouseTables)
  | other (world : AdminWorld)

structure SessionLife where
  world : AdminWorld
  accepted : List Int := []
  revoked : Bool := false

namespace SessionLife

/-- The world after the sweep of a maintenance pass with this `now`. -/
def sweep (platform : AdminPlatform) (config : HouseConfig) (house : HouseTables) (now : Int)
    (world : AdminWorld) : AdminWorld :=
  let config := { config with sessionIdleMinutes := platform.security.sessionIdleMinutes }
  { world with db := ({ house with admins := world.db }.sweep config now).admins }

/-- Whether an event took the session away. -/
def lost (platform : AdminPlatform) (raw : String) (before after : AdminWorld) : Bool :=
  (before.db.val.sessionOf platform raw).isSome && (after.db.val.sessionOf platform raw).isNone

/-- One event. A session is revoked when something else deletes it, or when it is used while its
administrator is disabled, which deletes it too. -/
def step (platform : AdminPlatform) (raw : String) (adminId : Nat) (life : SessionLife) :
    SessionEvent → SessionLife
  | .wait now =>
      if life.world.now.utc ≤ now.utc then { life with world := { life.world with now } } else life
  | .request request =>
      let (accepted, world) := request.run platform raw life.world
      { world
        accepted := if accepted then life.world.now.utc :: life.accepted else life.accepted
        revoked := life.revoked ||
          lost platform raw life.world world && !life.world.db.val.enabled adminId }
  | .maintenance micros config house =>
      { life with world := sweep platform config house (life.world.now.utc - micros) life.world }
  | .other world =>
      let row := world.db.val.sessionOf platform raw
      -- nobody else writes the row of a session
      if row.isSome ∧ row ≠ life.world.db.val.sessionOf platform raw then life
      else
        { life with
          world := { world with now := life.world.now }
          revoked := life.revoked || lost platform raw life.world world }

def run (platform : AdminPlatform) (raw : String) (adminId : Nat) (life : SessionLife)
    (events : List SessionEvent) : SessionLife :=
  events.foldl (step platform raw adminId) life

end SessionLife

end Naco
