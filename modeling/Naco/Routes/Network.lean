import Naco.Api
import Naco.Netutils
import Naco.Vendors

/-!
# RADIUS clients
-/

namespace Naco

open Py

def defaultVendor : String := "standard"

/-- `VENDORS[vendor].coa_port`. -/
def vendorPort (key : String) : Nat :=
  (vendor key).coaPort

/-- `NasIn`, as it validated. -/
structure NasIn where
  name : String
  ipAddress : String
  secret : String
  vendor : String := defaultVendor
  coaPort : Option Nat := none
  requireMessageAuthenticator : Bool := true
  description : String := ""
  enabled : Bool := true
  deriving DecidableEq, Repr

/-- `NasUpdate`, as it validated; a null stands for a field that is left out. -/
structure NasUpdate where
  name : Option String := none
  ipAddress : Option String := none
  secret : Option String := none
  vendor : Option String := none
  coaPort : Option Nat := none
  requireMessageAuthenticator : Option Bool := none
  description : Option String := none
  enabled : Option Bool := none
  deriving DecidableEq, Repr

def NasIn.row (body : NasIn) (id : Nat) : NasClient where
  id
  name := body.name
  ipAddress := body.ipAddress
  secret := body.secret
  coaPort := body.coaPort.getD (vendorPort body.vendor)
  vendor := body.vendor
  requireMessageAuthenticator := body.requireMessageAuthenticator
  description := body.description
  enabled := body.enabled

def createNas (role : AdminRole) (body : NasIn) (db : Database) : Except RouteError Outcome := do
  require role .superuser
  let t := db.val
  commitOrConflict "a NAS with that name or address already exists"
    { t with nasClients := t.nasClients ++ [body.row (nextId (t.nasClients.map (·.id)))] }

def NasUpdate.apply (body : NasUpdate) (nas : NasClient) : NasClient :=
  { nas with
    name := body.name.getD nas.name
    ipAddress := body.ipAddress.getD nas.ipAddress
    secret := body.secret.getD nas.secret
    vendor := body.vendor.getD nas.vendor
    coaPort := body.coaPort.getD nas.coaPort
    requireMessageAuthenticator :=
      body.requireMessageAuthenticator.getD nas.requireMessageAuthenticator
    description := body.description.getD nas.description
    enabled := body.enabled.getD nas.enabled }

def updateNas (role : AdminRole) (id : Nat) (body : NasUpdate) (db : Database) :
    Except RouteError Outcome := do
  require role .superuser
  let t := db.val
  let nas ← getOr404 t.nasClients (·.id) id "NAS"
  commitOrConflict "a NAS with that name or address already exists"
    { t with nasClients := replaceRow t.nasClients (·.id) (body.apply nas) }

def deleteNas (role : AdminRole) (id : Nat) (db : Database) : Except RouteError Outcome := do
  require role .superuser
  let t := db.val
  let _ ← getOr404 t.nasClients (·.id) id "NAS"
  commitOrRaise { t with nasClients := deleteRow t.nasClients (·.id) id }

end Naco
