import Naco.Lib.EventLoop
import Naco.RateLimit
import Naco.Routes.Devices

/-!
# The guest portal under load

A registration checks the cookie and knocks at the rate limit before its first `await`, and its
transaction is a second step. In between, and between any two registrations, the clocks go on and other
requests commit.
-/

namespace Naco

open Py

structure PortalWorld where
  db : Database
  now : Int
  monotonic : ℚ
  attempts : SlidingWindow

/-- `_attempts`. -/
def portalAttempts : SlidingWindow :=
  { limit := 10, window := 600 }

/-- The form comes with the cookie it was served with, and from the portal itself. -/
def PortalForm.ownPage (form : PortalForm) : Bool :=
  form.cookie ≠ "" && form.cookie = form.csrf && form.origin.all (· = form.ownOrigin)

/-- The request gets as far as `_attempts.hit`. -/
def PortalForm.knocks (config : PortalConfig) (form : PortalForm) : Bool :=
  config.enabled && form.fits && form.ownPage

/-- One transaction; a registration that fails leaves the tables as they were. -/
def portalTransaction (f : PortalWorld → Except RouteError Outcome) :
    Coroutine PortalWorld (Except RouteError (List String)) :=
  .atomic fun world =>
    match f world with
    | .ok outcome => (.ok outcome.scheduled, { world with db := outcome.db })
    | .error error => (.error error, world)

def PortalForm.transaction (platform : Platform) (config : PortalConfig) (form : PortalForm) :
    Coroutine PortalWorld (Except RouteError (List String)) :=
  portalTransaction fun world => portalRegister platform config world.now true form world.db

/-- `register`, with the reasons it gives to `reevaluator.schedule`. -/
def PortalForm.register (platform : Platform) (config : PortalConfig) (form : PortalForm) :
    Coroutine PortalWorld (Except RouteError (List String)) :=
  .step
    (fun world =>
      if form.knocks config then
        { world with attempts := (world.attempts.hit form.clientIp world.monotonic).2 }
      else world)
    fun world =>
      let withinLimit := (world.attempts.hit form.clientIp world.monotonic).1
      if form.knocks config && withinLimit then form.transaction platform config
      else
        .done ((portalRegister platform config world.now withinLimit form world.db).map (·.scheduled))

inductive PortalEvent where
  | clock (now : Int) (elapsed : ℚ≥0)
  | commit (db : Database)

def PortalEvent.react : PortalEvent → PortalWorld → PortalWorld
  | .clock now elapsed, world => { world with now, monotonic := world.monotonic + elapsed }
  | .commit db, world => { world with db }

abbrev PortalLoop := Loop PortalWorld PortalForm (Except RouteError (List String))

/-- The portal of a process that has just started, after a schedule. -/
def portalRun (platform : Platform) (config : PortalConfig) (db : Database) (now : Int) (monotonic : ℚ)
    (schedule : List (Move PortalForm PortalEvent)) : PortalLoop :=
  Loop.run (PortalForm.register platform config) PortalEvent.react
    { state := { db, now, monotonic, attempts := portalAttempts } } schedule

end Naco
