import Naco.Deps
import Naco.Lib.Calendar
import Naco.Lib.LossyQueue

/-!
# Live events

Decisions, accounting and changes are published on a bus in the process. The stream of a dashboard has a
queue of its own there while it is open, and sends what it takes from it. Whether its principal may
still see anything is read from the database every minute.
-/

namespace Naco

open Py

inductive EventType where
  | auth
  | accounting
  | tacacs
  | device
  | audit
  deriving DecidableEq, Repr

def EventType.value : EventType → String
  | .auth => "auth"
  | .accounting => "accounting"
  | .tacacs => "tacacs"
  | .device => "device"
  | .audit => "audit"

/-- What the data of an event holds. -/
inductive EventValue where
  | none
  | bool (value : Bool)
  | int (value : Int)
  | text (value : String)
  deriving DecidableEq, Repr

def EventValue.dumps : EventValue → String
  | .none => "null"
  | .bool value => if value then "true" else "false"
  | .int value => toString value
  | .text value => dumpString value

structure Event where
  type : EventType
  data : Dict String EventValue
  ts : Int

/-- `json.dumps({**event.data, "ts": event.ts.isoformat()}, default=str)`. -/
def Event.payload (event : Event) : String :=
  let members := (event.data.set "ts" (.text (isoformatUtc event.ts))).items
  "\x7b" ++ join ", " (members.map fun member => dumpString member.1 ++ ": " ++ member.2.dumps) ++ "\x7d"

/-! ### The bus -/

/-- `EventBus`; the queue of a subscriber is found by its stream. -/
structure EventBus where
  queueSize : Nat := 256
  subscribers : Dict Nat (Queue Event) := Dict.empty

def EventBus.publish (bus : EventBus) (event : Event) : EventBus :=
  { bus with subscribers := bus.subscribers.mapValues (·.offer event) }

/-- The queue that a subscriber has now; none is discarded. -/
def EventBus.place (bus : EventBus) (index : Nat) (queue : Option (Queue Event)) : EventBus :=
  match queue with
  | some queue => { bus with subscribers := bus.subscribers.set index queue }
  | none => { bus with subscribers := bus.subscribers.erase index }

/-! ### A stream -/

/-- `_still_valid`, by the tables that it reads. -/
def stillValid (t : AdminTables) (now : Int) (principal : Principal) : Bool :=
  match principal.sessionId with
  | some id => t.sessions.any fun session =>
      session.id = id && decide (now < session.expiresAt) &&
        t.admins.any fun admin => admin.id = session.adminId && admin.enabled
  | none =>
      match principal.tokenId with
      | some id => (t.tokens.find? (·.id = id)).any fun token =>
          token.revokedAt.isNone && token.expiresAt.all (now < ·)
      | none => false

/-- What `stream` awaits, with the time of its last check. -/
inductive StreamStage where
  | unstarted
  /-- The client takes the first chunk. -/
  | greeting
  /-- `request.is_disconnected()`. -/
  | polling (checked : Int)
  /-- `_still_valid(principal)`. -/
  | checking
  /-- `queue.get()`, for 15 seconds. -/
  | waiting (checked : Int)
  /-- The client takes a chunk. -/
  | sending (checked : Int)
  | ended
  deriving DecidableEq, Repr

/-- The response of one request for events: its chunks, and what it took from its queue. -/
structure EventStream where
  principal : Principal
  stage : StreamStage := .unstarted
  chunks : List String := []
  taken : List Event := []

/-- How the `await` of a stream ends, with what `utcnow` gives after it. -/
inductive StreamMove where
  | start
  | sent (now : Int)
  | polled (disconnected : Bool) (now : Int)
  /-- The check reads the tables, with the time it reads them for. -/
  | validated (readAt now : Int)
  | received
  | timedOut
  /-- The client goes, or the server stops. -/
  | cancelled

namespace EventStream

def retryChunk : String := "retry: 5000\n\n"

def keepAliveChunk : String := ": keep-alive\n\n"

def eventChunk (event : Event) : String :=
  "event: " ++ event.type.value ++ "\ndata: " ++ event.payload ++ "\n\n"

def seesAudit (stream : EventStream) : Bool :=
  stream.principal.role.allows .operator

/-- The event is sent on. -/
def shows (stream : EventStream) (event : Event) : Bool :=
  event.type ≠ .audit || stream.seesAudit

def send (stream : EventStream) (chunk : String) (checked : Int) : EventStream :=
  { stream with stage := .sending checked, chunks := stream.chunks ++ [chunk] }

/-- What is done with an event from the queue. -/
def receive (stream : EventStream) (event : Event) (checked : Int) : EventStream :=
  let stream := { stream with taken := stream.taken ++ [event] }
  if stream.shows event then stream.send (eventChunk event) checked
  else { stream with stage := .polling checked }

/-- `stream` from one `await` to the next, with the queue it has. To take from a queue that is not empty
is no pause; that others may run before it only allows more. -/
def step (t : AdminTables) (queueSize : Nat) (stream : EventStream) (queue : Option (Queue Event)) :
    StreamMove → EventStream × Option (Queue Event)
  | .start =>
      if stream.stage = .unstarted then
        ({ principal := stream.principal, stage := .greeting, chunks := [retryChunk] },
          some ⟨queueSize, []⟩)
      else (stream, queue)
  | .sent now =>
      match stream.stage with
      | .greeting => ({ stream with stage := .polling now }, queue)
      | .sending checked => ({ stream with stage := .polling checked }, queue)
      | _ => (stream, queue)
  | .polled disconnected now =>
      match stream.stage with
      | .polling checked =>
          if disconnected then ({ stream with stage := .ended }, none)
          else if 60000000 < now - checked then ({ stream with stage := .checking }, queue)
          else ({ stream with stage := .waiting checked }, queue)
      | _ => (stream, queue)
  | .validated readAt now =>
      if stream.stage = .checking then
        if stillValid t readAt stream.principal then ({ stream with stage := .waiting now }, queue)
        else ({ stream with stage := .ended }, none)
      else (stream, queue)
  | .received =>
      match stream.stage, queue.bind Queue.take with
      | .waiting checked, some (event, queue) => (stream.receive event checked, some queue)
      | _, _ => (stream, queue)
  | .timedOut =>
      match stream.stage with
      | .waiting checked => (stream.send keepAliveChunk checked, queue)
      | _ => (stream, queue)
  | .cancelled => ({ stream with stage := .ended }, none)

end EventStream

/-! ### All streams -/

structure EventServer where
  bus : EventBus := {}
  tables : AdminTables := {}
  streams : List EventStream := []

inductive ServerMove where
  | publish (event : Event)
  /-- Another request commits. -/
  | commit (tables : AdminTables)
  | connect (principal : Principal)
  | stream (index : Nat) (move : StreamMove)

namespace EventServer

def move (server : EventServer) : ServerMove → EventServer
  | .publish event => { server with bus := server.bus.publish event }
  | .commit tables => { server with tables }
  | .connect principal => { server with streams := server.streams ++ [{ principal }] }
  | .stream index m =>
      match server.streams[index]? with
      | none => server
      | some stream =>
          let (stream, queue) := stream.step server.tables server.bus.queueSize
            (server.bus.subscribers.get? index) m
          { server with
            bus := server.bus.place index queue
            streams := server.streams.set index stream }

def run (server : EventServer) (moves : List ServerMove) : EventServer :=
  moves.foldl move server

end EventServer

end Naco
