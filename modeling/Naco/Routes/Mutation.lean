import Naco.Routes.CommandSets
import Naco.Routes.Policies
import Naco.Routes.Transfer

/-!
# The requests that change what decisions are made on
-/

namespace Naco

open Py

/-- What the routes take from the process they run in: the clock among it. -/
structure Host where
  platform : Platform
  str : StrOf
  now : Int
  rules : NasRules
  portal : PortalConfig

/-- A request with its caller's role. A digest is what bcrypt gave for the password of the body. -/
inductive Mutation where
  | createPolicy (role : AdminRole) (body : PolicyIn)
  | updatePolicy (role : AdminRole) (id : Nat) (body : PolicyUpdate)
  | deletePolicy (role : AdminRole) (id : Nat)
  | reorder (role : AdminRole) (ids : List Int)
  | createUser (role : AdminRole) (digest : String) (body : UserCreate)
  | updateUser (role : AdminRole) (digest : String) (id : Nat) (body : UserUpdate)
  | deleteUser (role : AdminRole) (id : Nat)
  | createGroup (role : AdminRole) (body : GroupIn)
  | updateGroup (role : AdminRole) (id : Nat) (body : GroupUpdate)
  | deleteGroup (role : AdminRole) (id : Nat)
  | createDevice (role : AdminRole) (body : DeviceCreate)
  | updateDevice (role : AdminRole) (id : Nat) (body : DeviceUpdate)
  | bulkStatus (role : AdminRole) (ids : List Nat) (status : DeviceStatus)
  | deleteDevice (role : AdminRole) (id : Nat)
  | createNas (role : AdminRole) (body : NasIn)
  | updateNas (role : AdminRole) (id : Nat) (body : NasUpdate)
  | deleteNas (role : AdminRole) (id : Nat)
  /-- The state at its first transaction goes with the request. -/
  | importUsers (role : AdminRole) (digest : Nat → String) (rows : List CsvRow) (readAt : Database)
  | importDevices (role : AdminRole) (rows : List CsvRow)
  | importNas (role : AdminRole) (rows : List CsvRow)
  | addGuest (role : AdminRole) (body : GuestIn)
  | revokeGuest (role : AdminRole) (id : Nat)
  | portalRegister (withinLimit : Bool) (form : PortalForm)

def Mutation.run (host : Host) : Mutation → Database → Except RouteError Outcome
  | .createPolicy role body => Naco.createPolicy role body
  | .updatePolicy role id body => Naco.updatePolicy role id body
  | .deletePolicy role id => Naco.deletePolicy role id
  | .reorder role ids => Naco.reorder role ids
  | .createUser role digest body => Naco.createUser role digest body
  | .updateUser role digest id body => Naco.updateUser role digest id body
  | .deleteUser role id => Naco.deleteUser role id
  | .createGroup role body => Naco.createGroup role body
  | .updateGroup role id body => Naco.updateGroup host.str role id body
  | .deleteGroup role id => Naco.deleteGroup host.str role id
  | .createDevice role body => Naco.createDevice host.platform host.now role body
  | .updateDevice role id body => Naco.updateDevice role id body
  | .bulkStatus role ids status => Naco.bulkStatus role ids status
  | .deleteDevice role id => Naco.deleteDevice role id
  | .createNas role body => Naco.createNas role body
  | .updateNas role id body => Naco.updateNas role id body
  | .deleteNas role id => Naco.deleteNas role id
  | .importUsers role digest rows readAt => Naco.importUsers digest role rows readAt
  | .importDevices role rows => Naco.importDevices host.platform host.now role rows
  | .importNas role rows => Naco.importNas host.rules role rows
  | .addGuest role body => Naco.addGuest host.now role body
  | .revokeGuest role id => Naco.revokeGuest host.now role id
  | .portalRegister withinLimit form =>
      Naco.portalRegister host.platform host.portal host.now withinLimit form

/-- The requests that change the configuration: these, and those for command sets, which no decision on
network access reads. -/
inductive ConfigChange where
  | mutation (request : Mutation)
  | createCommandSet (role : AdminRole) (body : CommandSetIn)
  | updateCommandSet (role : AdminRole) (id : Nat) (body : CommandSetUpdate)
  | deleteCommandSet (role : AdminRole) (id : Nat)

def ConfigChange.run (host : Host) : ConfigChange → Database → Except RouteError Outcome
  | .mutation request => request.run host
  | .createCommandSet role body => Naco.createCommandSet role body
  | .updateCommandSet role id body => Naco.updateCommandSet role id body
  | .deleteCommandSet role id => Naco.deleteCommandSet role id

end Naco
