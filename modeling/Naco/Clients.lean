import Naco.Lib.IpAddress
import Naco.Models

/-!
# Which RADIUS client an address belongs to

The entry for exactly that address, else the narrowest network entry that contains it. A live request
asks the database for the exact entry first and builds the directory from the network entries only;
re-evaluation builds it once from all entries.
-/

namespace Naco

open Py

/-- The entry stands for a network. -/
def NasClient.isNetwork (client : NasClient) : Bool :=
  '/' ∈ client.ipAddress.toList

structure NasDirectory where
  exact : List NasClient
  /-- From the narrowest to the widest. -/
  networks : List (IpNetwork × NasClient)

namespace NasDirectory

/-- A network entry with its network, which raises `ValueError` when it is none. -/
def networkEntry (client : NasClient) : Except Error (IpNetwork × NasClient) :=
  (IpNetwork.parse client.ipAddress).map (·, client)

/-- `NasDirectory(clients)`. -/
def ofClients (clients : List NasClient) : Except Error NasDirectory := do
  let networks ← (clients.filter (·.isNetwork)).mapM networkEntry
  return {
    exact := clients.filter fun client => !client.isNetwork
    networks := networks.insertionSort fun a b => b.1.prefixlen ≤ a.1.prefixlen }

def find (directory : NasDirectory) (ip : String) : Option NasClient :=
  match directory.exact.reverse.find? (·.ipAddress = ip) with
  | some client => some client
  | none =>
      match IpAddress.parse ip with
      | none => none
      | some addr => (directory.networks.find? fun entry => entry.1.contains addr).map (·.2)

end NasDirectory

/-- `nas_directory`. -/
def nasDirectory (t : Tables) : Except Error NasDirectory :=
  NasDirectory.ofClients t.nasClients

/-- `find_nas`. -/
def findNas (t : Tables) (ip : String) : Except Error (Option NasClient) :=
  if ip = "" then .ok none
  else match t.nasClients.find? (·.ipAddress = ip) with
    | some nas => .ok (some nas)
    | none => do
        let directory ← NasDirectory.ofClients (t.nasClients.filter (·.isNetwork))
        return directory.find ip

end Naco
