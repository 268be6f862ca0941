import Naco.Lib.Dict
import Naco.Lib.IpAddress
import Naco.Lib.Tasks

/-!
# The connection slots of the TACACS+ server

`_handle` counts a connection before its first `await`, and gives the slot back in a `finally`. What it
awaits in between, the lookup of the client and the whole conversation, works on the rest of the program
and may end in any way.
-/

namespace Py

/-- `ipv4_mapped`. -/
def IpAddress.ipv4Mapped (address : IpAddress) : Option IpAddress :=
  if address.version = .v6 ∧ address.value / 2 ^ 32 = 0xFFFF then
    some ⟨.v4, address.value % 2 ^ 32, none⟩
  else
    none

end Py

namespace Naco.Tacacs

open Py

structure TacacsConfig where
  maxConnections : Int := 256
  maxConnectionsPerClient : Int := 32
  one_le_maxConnections : 1 ≤ maxConnections
  one_le_maxConnectionsPerClient : 1 ≤ maxConnectionsPerClient

/-- The two ends of a connection, and the address that the socket names. -/
structure Stream where
  id : Nat
  peername : Option String
  deriving DecidableEq, Repr

/-- `_peer`. -/
def peer (stream : Stream) : String :=
  let raw := stream.peername.getD ""
  match IpAddress.parse raw with
  | none => raw
  | some ip => (ip.ipv4Mapped.getD ip).format

/-- What `_handle` reads of a registered client. -/
structure TacacsClient where
  name : String
  key : String
  deriving DecidableEq, Repr

structure Slots where
  total : Int := 0
  perClient : Dict String Int := .empty

namespace Slots

/-- `self._per_client.get(ip, 0)`. -/
def count (slots : Slots) (ip : String) : Int :=
  (slots.perClient.get? ip).getD 0

def full (cfg : TacacsConfig) (slots : Slots) (ip : String) : Bool :=
  cfg.maxConnections ≤ slots.total || cfg.maxConnectionsPerClient ≤ slots.count ip

def take (slots : Slots) (ip : String) : Slots :=
  ⟨slots.total + 1, slots.perClient.set ip (slots.count ip + 1)⟩

/-- The entry of a client that has `count` connections left. -/
def leave (slots : Slots) (ip : String) (count : Int) : Slots :=
  let perClient := slots.perClient.set ip count
  { slots with perClient := if count = 0 then perClient.erase ip else perClient }

end Slots

/-- The server: its slots, and what else the program works on. -/
structure Server (τ : Type) where
  slots : Slots := {}
  rest : τ

/-- What `_handle` calls. -/
structure Outside (τ : Type) where
  client : String → Awaitable τ (Option TacacsClient)
  converse : String → TacacsClient → Stream → Awaitable τ Unit
  close : Stream → τ → τ
  waitClosed : Stream → Awaitable τ Unit

section

variable {τ α : Type}

/-- A task that has nothing to do with the slots. -/
def elsewhere (c : Awaitable τ α) : Awaitable (Server τ) α :=
  c.zoom Server.rest fun server rest => { server with rest }

/-- The slot is given back; a client without an entry would be a `KeyError`. -/
def release (ip : String) : Awaitable (Server τ) Unit :=
  .act (fun server => { server with slots.total := server.slots.total - 1 }) fun server =>
    match server.slots.perClient.get? ip with
    | none => .done (.error .exception)
    | some count => .run fun server => { server with slots := server.slots.leave ip (count - 1) }

variable (cfg : TacacsConfig) (outside : Outside τ)

/-- `_handle`. -/
def handle : Handler (Server τ) Stream where
  enter stream server :=
    let ip := peer stream
    if server.slots.full cfg ip then (false, { server with rest := outside.close stream server.rest })
    else (true, { server with slots := server.slots.take ip })
  body stream := do
    match ← elsewhere (outside.client (peer stream)) with
    | none => return ()
    | some client => elsewhere (outside.converse (peer stream) client stream)
  cleanup stream := do
    release (peer stream)
    elsewhere (.run (outside.close stream))
    (elsewhere (outside.waitClosed stream)).suppress

/-- What the rest of the program does while the connections wait. -/
def elsewhereOnly {ε : Type} (react : ε → τ → τ) (change : ε) (server : Server τ) : Server τ :=
  { server with rest := react change server.rest }

/-- The server after connections opened, went on, failed, were cancelled and closed. -/
def serveAll {ε : Type} (react : ε → τ → τ) (rest : τ) (events : List (Handler.Event Stream ε)) :
    Handler.System (Server τ) Stream :=
  (handle cfg outside).run (elsewhereOnly react) ⟨{ rest }, []⟩ events

end

end Naco.Tacacs
