import Naco.Api
import Naco.Coa
import Naco.Lib.Semaphore
import Naco.Reevaluate

/-!
# Exchanges with a NAS

`disconnect` sends one packet, and the same again each time the wait for an answer runs out. What comes
in meanwhile is up to the network: a datagram from anywhere, an error of the socket. Only an answer from
the address of the NAS with valid authenticators ends the wait.

A pass over many sessions runs their exchanges at the same time, behind a semaphore.
-/

namespace Naco

open Py

inductive CoaOutcome where
  | ack
  | nak
  | timeout
  | error
  deriving DecidableEq, Repr

structure CoaResult where
  outcome : CoaOutcome
  detail : String := ""
  deriving DecidableEq, Repr

structure CoaTarget where
  ip : String
  port : Nat
  secret : String
  deriving DecidableEq, Repr

/-- A target with the packet that `build_disconnect` made for it. -/
structure CoaRequest where
  target : CoaTarget
  packet : Bytes
  deriving DecidableEq, Repr

/-- An `OSError`; a `TimeoutError` is one too, and the loop over the attempts goes on after it. -/
structure SocketError where
  isTimeout : Bool := false
  message : String
  deriving DecidableEq, Repr

/-- What `disconnect` awaits, and how many attempts it has left. -/
inductive ExchangePhase where
  | opening
  | waiting (left : Nat)
  | returned (result : CoaResult)
  deriving DecidableEq, Repr

/-- `_Exchange` with the call of `disconnect` that waits for it, and the packets that were sent. -/
structure Exchange where
  target : CoaTarget
  packet : Bytes
  peer : String × Nat
  answer : Option (Except SocketError Bytes) := none
  sent : List Bytes := []
  phase : ExchangePhase := .opening

inductive ExchangeMove where
  /-- The socket is open, or could not be opened; then the first packet is sent. -/
  | opened (failure : Option String) (sendError : Option SocketError)
  | datagram (data : Bytes) (sender : String × Nat)
  | error (failure : SocketError)
  /-- The call goes on with the answer. -/
  | answered
  /-- The wait runs out; an error is that of the next `sendto`. -/
  | deadline (sendError : Option SocketError)

namespace Exchange

def disconnectAck : Nat := 41

/-- `disconnect` up to its first `await`. -/
def start (request : CoaRequest) : Exchange :=
  let target := request.target
  match IpAddress.parse target.ip with
  | none =>
      { target, packet := request.packet, peer := (target.ip, target.port)
        phase := .returned ⟨.error, "invalid NAS address " ++ reprText target.ip⟩ }
  | some ip => { target, packet := request.packet, peer := (ip.format, target.port) }

/-- `datagram_received`. -/
def datagramReceived (digests : Md5) (exchange : Exchange) (data : Bytes) (sender : String × Nat) :
    Exchange :=
  if sender ≠ exchange.peer ∨ exchange.answer.isSome then exchange
  else match verifyResponse digests exchange.packet data (encode exchange.target.secret) with
    | .ok true => { exchange with answer := some (.ok data) }
    | _ => exchange

/-- `error_received`. -/
def errorReceived (exchange : Exchange) (failure : SocketError) : Exchange :=
  if exchange.answer.isSome then exchange else { exchange with answer := some (.error failure) }

/-- What `disconnect` returns for an answer, if it does not go on. -/
def resultOf : Except SocketError Bytes → Option CoaResult
  | .error failure => if failure.isTimeout then none else some ⟨.error, failure.message⟩
  | .ok data =>
      let code := (data.headD 0).toNat
      some (if code = disconnectAck then ⟨.ack, ""⟩ else ⟨.nak, s!"NAS answered code {code}"⟩)

/-- `sendto`; when it fails it calls `error_received`. -/
def send (exchange : Exchange) (sendError : Option SocketError) : Exchange :=
  let exchange := { exchange with sent := exchange.sent ++ [exchange.packet] }
  match sendError with
  | none => exchange
  | some failure => exchange.errorReceived failure

/-- The loop over the attempts that are left; to wait for an answer that is there is no pause. -/
def attempt (exchange : Exchange) (sendError : Option SocketError) : Nat → Exchange
  | 0 =>
      let ip := exchange.target.ip
      let port := exchange.target.port
      { exchange with phase := .returned ⟨.timeout, s!"no answer from {ip}:{port}"⟩ }
  | left + 1 =>
      let exchange := exchange.send sendError
      match exchange.answer with
      | none => { exchange with phase := .waiting left }
      | some answer =>
          match resultOf answer with
          | some result => { exchange with phase := .returned result }
          | none => exchange.attempt none left

/-- The wait is over before its time. -/
def wake (exchange : Exchange) (left : Nat) : Exchange :=
  match exchange.answer with
  | none => exchange
  | some answer =>
      match resultOf answer with
      | some result => { exchange with phase := .returned result }
      | none => exchange.attempt none left

/-- What happens next; after the return the socket is closed. -/
def move (digests : Md5) (retries : Nat) (exchange : Exchange) (m : ExchangeMove) : Exchange :=
  match exchange.phase, m with
  | .returned _, _ => exchange
  | _, .datagram data sender => exchange.datagramReceived digests data sender
  | _, .error failure => exchange.errorReceived failure
  | .opening, .opened (some failure) _ => { exchange with phase := .returned ⟨.error, failure⟩ }
  | .opening, .opened none sendError => exchange.attempt sendError retries
  | .waiting left, .answered => exchange.wake left
  | .waiting left, .deadline sendError => exchange.attempt sendError left
  | _, _ => exchange

def run (digests : Md5) (retries : Nat) (exchange : Exchange) (moves : List ExchangeMove) : Exchange :=
  moves.foldl (move digests retries) exchange

def result (exchange : Exchange) : Option CoaResult :=
  match exchange.phase with
  | .returned result => some result
  | _ => none

end Exchange

/-- `send_disconnect` as the work of one job. -/
def disconnectWork (digests : Md5) (retries : Nat) :
    Work CoaRequest Exchange ExchangeMove CoaResult where
  start := Exchange.start
  move := Exchange.move digests retries
  result := Exchange.result

/-- The target of `send_disconnect`; the identifier and the time of the packet come from the process. -/
def disconnectRequestOf (digests : Md5) (identifier eventTime : Nat)
    (target : RadiusSession × NasClient) : CoaRequest where
  target := { ip := target.1.nasIp, port := target.2.coaPort, secret := target.2.secret }
  packet := sendDisconnect digests identifier eventTime target.1 target.2

/-- The requests for a list of targets, each with its own identifier and time. -/
def disconnectRequests (digests : Md5) (stamps : Nat → Nat × Nat)
    (targets : List (RadiusSession × NasClient)) : List CoaRequest :=
  targets.mapIdx fun i target => disconnectRequestOf digests (stamps i).1 (stamps i).2 target

abbrev DisconnectPool := Pool CoaRequest Exchange CoaResult

/-- The exchanges of one pass, not more than so many at a time. -/
def disconnectPool (digests : Md5) (stamps : Nat → Nat × Nat) (retries concurrency : Nat)
    (targets : List (RadiusSession × NasClient)) (moves : List (PoolMove ExchangeMove)) :
    DisconnectPool :=
  Pool.run (disconnectWork digests retries)
    (Pool.init concurrency (disconnectRequests digests stamps targets)) moves

/-- `summary.disconnected` and `summary.failed` of `reevaluate`, counted as the results come in. -/
def disconnectCounts (pool : DisconnectPool) : Nat × Nat :=
  pool.returned.foldl
    (fun counts returned =>
      if returned.2.outcome = .ack then (counts.1 + 1, counts.2) else (counts.1, counts.2 + 1))
    (0, 0)

/-! ### Disconnecting on request -/

/-- `BulkDisconnect`. -/
structure BulkDisconnect where
  username : Option String := none
  mac : Option String := none
  nasIp : Option String := none
  all : Bool := false

/-- `_one_filter`. -/
def BulkDisconnect.hasFilter (body : BulkDisconnect) : Bool :=
  body.all || body.username.any (· ≠ "") || body.mac.any (· ≠ "") || body.nasIp.any (· ≠ "")

structure DisconnectResult where
  requested : Nat
  acked : Nat
  failed : Nat
  skipped : Nat
  deriving DecidableEq, Repr

/-- A filter that is given and not empty. -/
def given (value : Option String) : Option String :=
  value.bind orNone

/-- `query.where` for a filter that may be left out. -/
def narrow (filter : Option String) (meets : RadiusSession → String → Bool)
    (sessions : List RadiusSession) : List RadiusSession :=
  match filter with
  | none => sessions
  | some value => sessions.filter (meets · value)

/-- The station of the filter, which must be one. -/
def bulkMac (body : BulkDisconnect) : Except RouteError (Option String) :=
  match given body.mac with
  | none => .ok none
  | some mac =>
      match normalizeMac (some mac) with
      | none => apiError 422 "not a MAC address"
      | some mac => .ok (some mac)

/-- The query of `disconnect_many`. -/
def bulkSessions (body : BulkDisconnect) (t : Tables) : Except RouteError (List RadiusSession) := do
  let sessions := narrow (given body.username) (·.username = lower ·) t.sessions
  let mac ← bulkMac body
  let sessions := narrow mac (·.macAddress = ·) sessions
  return narrow (given body.nasIp) (fun session ip => session.nasIp = (parseIp (some ip)).getD ip)
    sessions

/-- One round of the loop that looks up the NAS of each session. -/
def disconnectTarget (directory : NasDirectory) (done : List (RadiusSession × NasClient) × Nat)
    (session : RadiusSession) : List (RadiusSession × NasClient) × Nat :=
  match directory.find session.nasIp with
  | none => (done.1, done.2 + 1)
  | some nas => (done.1 ++ [(session, nas)], done.2)

/-- The sessions of `_disconnect` whose NAS is known, and the number of the others. -/
def disconnectTargets (directory : NasDirectory) (sessions : List RadiusSession) :
    List (RadiusSession × NasClient) × Nat :=
  sessions.foldl (disconnectTarget directory) ([], 0)

/-- `_disconnect` when its exchanges are over; `outcomes` are those of the jobs, in order. -/
def disconnectResult (sessions : List RadiusSession) (skipped : Nat) (outcomes : List CoaResult) :
    DisconnectResult :=
  let acked := outcomes.countP (·.outcome = .ack)
  { requested := sessions.length, acked, failed := outcomes.length - acked, skipped }

end Naco
