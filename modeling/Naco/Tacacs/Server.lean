import Naco.Lib.Dict
import Naco.RateLimit
import Naco.Tacacs.Authz
import Naco.Tacacs.Protocol

/-!
# The TACACS+ server

One connection: packets are handled one after the other, and the state of an ASCII login is kept by
session id until its password comes. The log rows that requests write are read by nothing here, so
writing one is a step that changes nothing.
-/

namespace Naco.Tacacs

open Py

/-- What the connections share: the database, the directory as it answers now, the clock, and the
failures of the server. -/
structure World where
  db : Database
  directory : Directory
  monotonic : ℚ
  failures : GuessGuard

/-- A connection: the address of the client and its key. -/
structure Connection where
  creds : Credentials
  md5 : Md5
  ip : String
  key : Bytes

inductive Awaiting where
  | user
  | pass
  deriving DecidableEq, Repr

/-- `_Login`. -/
structure Login where
  start : AuthenStart
  user : String
  awaiting : Awaiting
  nextSeq : Nat
  deriving DecidableEq, Repr

abbrev Logins := Dict Nat Login

/-- A call of `authenticate_user`. -/
structure Check where
  username : String
  password : String
  result : IdentityResult

/-- A reply, with the call of `authenticate_user` that was made for it. -/
structure Answer where
  reply : Reply
  checked : Option Check := none

/-- `record`. -/
def record : Coroutine World Unit :=
  Coroutine.read fun _ => ()

/-! ### Authentication -/

def authenReply (status : AuthenStatus) (serverMsg : String := "") (noecho : Bool := false) : Answer :=
  { reply := .authen status serverMsg noecho }

/-- `_authen_fail`. -/
def authenFail (checked : Option Check := none) : Coroutine World (Except Error Answer) := do
  record
  return .ok { reply := .authen .fail "" false, checked }

/-- A call of the guess guard, which reads the clock. -/
def withFailures {α : Type} (f : GuessGuard → ℚ → α × GuessGuard) : Coroutine World α :=
  Coroutine.atomic fun world =>
    ((f world.failures world.monotonic).1,
      { world with failures := (f world.failures world.monotonic).2 })

/-- The user may log in, at the level that `enable` asks for. A login's level is only what the device
would like. -/
def loginVerdict (start : AuthenStart) (user : Option UserInfo) : Verdict :=
  match user with
  | none => adminRights none
  | some user =>
      if !(adminRights (some user)).allowed then adminRights (some user)
      else if start.authenService = serviceEnable then privilegeAllowed user start.privLvl
      else ⟨true, "ok"⟩

/-- The rest of `verify` after `authenticate_user`. -/
def settleLogin (start : AuthenStart) (key source : String) (check : Check) :
    Coroutine World (Except Error Answer) :=
  if !check.result.ok then do
    match ← withFailures fun failures now => failures.failure key source now with
    | .error error => return .error error
    | .ok () => authenFail (some check)
  else do
    withFailures fun failures _ => ((), failures.success key source)
    if (loginVerdict start check.result.user).allowed then
      record
      return .ok { reply := .authen .pass "" false, checked := some check }
    else
      authenFail (some check)

/-- `authenticate_user`, with the directory as it answers at the call. -/
def checkCredentials (creds : Credentials) (username password : String) :
    Coroutine World IdentityResult := do
  let directory ← Coroutine.read World.directory
  (authenticateUser creds directory username password).zoom World.db fun world db => { world with db }

def verify (conn : Connection) (start : AuthenStart) (username password : String) :
    Coroutine World (Except Error Answer) := do
  let key := orElse (canonicalUsername (some username)) (truncate 64 username)
  let source := conn.ip ++ "|" ++ start.remAddr
  let wait ← withFailures fun failures now => failures.delayFor key source now
  if 0 < wait then authenFail
  else
    let result ← checkCredentials conn.creds username password
    settleLogin start key source { username, password, result }

/-- The answer of a handler, with the logins it leaves. -/
def withLogins (logins : Logins) (answer : Coroutine World (Except Error Answer)) :
    Coroutine World (Except Error (Answer × Logins)) := do
  match ← answer with
  | .ok answer => return .ok (answer, logins)
  | .error error => return .error error

def authenStart (conn : Connection) (logins : Logins) (header : Header) (start : AuthenStart) :
    Coroutine World (Except Error (Answer × Logins)) :=
  let logins := logins.erase header.sessionId
  if start.action ≠ actionLogin then withLogins logins authenFail
  else if start.authenType = typePap then
    withLogins logins (verify conn start start.user (decodeReplace start.data))
  else if start.authenType ≠ typeAscii then withLogins logins authenFail
  else if start.user ≠ "" then
    return .ok (authenReply .getPass "Password: " true,
      logins.set header.sessionId ⟨start, start.user, .pass, header.seqNo + 2⟩)
  else
    return .ok (authenReply .getUser "Username: ",
      logins.set header.sessionId ⟨start, "", .user, header.seqNo + 2⟩)

/-- What a CONTINUE answers. -/
def AuthenContinue.answer (cont : AuthenContinue) : String :=
  orElse cont.userMsg (decodeReplace cont.data)

/-- `authen_continue` for a login that expects this packet. -/
def continueLogin (conn : Connection) (logins : Logins) (header : Header) (login : Login)
    (cont : AuthenContinue) : Coroutine World (Except Error (Answer × Logins)) :=
  if cont.abort then
    return .ok (authenReply .fail "aborted", logins.erase header.sessionId)
  else match login.awaiting with
    | .user =>
        return .ok (authenReply .getPass "Password: " true,
          logins.set header.sessionId ⟨login.start, cont.answer, .pass, header.seqNo + 2⟩)
    | .pass =>
        withLogins (logins.erase header.sessionId) (verify conn login.start login.user cont.answer)

def authenContinue (conn : Connection) (logins : Logins) (header : Header) (cont : AuthenContinue) :
    Coroutine World (Except Error (Answer × Logins)) :=
  match (logins.get? header.sessionId).filter (·.nextSeq = header.seqNo) with
  | none =>
      return .ok (authenReply .error "unexpected packet", logins.erase header.sessionId)
  | some login => continueLogin conn logins header login cont

/-! ### Authorization -/

def authorFail : Coroutine World (Except Error Reply) := do
  record
  return .ok (.author .fail [])

/-- `authorize` for a service other than the shell: only what the group spells out for it. -/
def authorizeService (user : UserInfo) (service : String) : Coroutine World (Except Error Reply) :=
  match serviceAttributes user service with
  | .error error => return .error error
  | .ok [] => authorFail
  | .ok extra => do
      record
      return .ok (.author .passAdd extra)

/-- `authorize` at the start of a shell: the device is told the user's level. -/
def authorizeShell (user : UserInfo) : Coroutine World (Except Error Reply) := do
  record
  match serviceAttributes user "shell" with
  | .error error => return .error error
  | .ok extra =>
      let level := user.deviceAdminPrivilege.getD 0
      return .ok (.author .passAdd (s!"priv-lvl={level}" :: extra))

/-- `authorize` for a command: the command set is read in a transaction of its own. -/
def authorizeCommand (user : UserInfo) (line : String) : Coroutine World (Except Error Reply) := do
  let set ← Coroutine.read fun world => loadCommandSet world.db.val user.commandSetId
  if (commandAllowed line set).allowed then
    record
    return .ok (.author .passAdd [])
  else
    authorFail

/-- The rest of `authorize` after `lookup_user`. -/
def authorizeUser (args : ParsedArgs) (user : Option UserInfo) : Coroutine World (Except Error Reply) :=
  match user.filter fun user => (adminRights (some user)).allowed with
  | none => authorFail
  | some user =>
      let service := (args.get "service").getD ""
      if lower service ≠ "shell" then authorizeService user service
      else match (args.get "cmd").bind orNone with
        | none => authorizeShell user
        | some cmd => authorizeCommand user (commandLine cmd args.cmdArgs)

def authorize (req : Request) : Coroutine World (Except Error Reply) := do
  let user ← (lookupUser req.user).zoom World.db fun world db => { world with db }
  authorizeUser (parseArgs req.args) user

/-! ### Accounting -/

/-- `account`. -/
def account (_req : Request) : Coroutine World (Except Error Reply) := do
  record
  return .ok .acctSuccess

/-! ### The connection -/

/-- A handler for a body that may not decode. -/
def decoded {α β : Type} (body : Except Fault α)
    (handler : α → Coroutine World (Except Error β)) : Coroutine World (Except Fault β) :=
  match body with
  | .error fault => return .error fault
  | .ok body => do
      match ← handler body with
      | .error error => return .error (.raised error)
      | .ok answer => return .ok answer

/-- A reply that leaves the logins alone. -/
def plainAnswer (logins : Logins) (reply : Coroutine World (Except Error Reply)) :
    Coroutine World (Except Error (Answer × Logins)) :=
  withLogins logins do
    match ← reply with
    | .ok reply => return .ok { reply }
    | .error error => return .error error

def dispatch (conn : Connection) (logins : Logins) (header : Header) (body : Bytes) :
    Coroutine World (Except Fault (Answer × Logins)) :=
  match header.type with
  | .authen =>
      if header.seqNo = 1 then
        decoded (AuthenStart.decode body) (authenStart conn logins header)
      else
        decoded (AuthenContinue.decode body) (authenContinue conn logins header)
  | type =>
      if header.seqNo ≠ 1 then
        return .error (.protocol "authorization and accounting are single-packet sessions")
      else if type = .author then
        decoded (Request.decode false body) fun req => plainAnswer logins (authorize req)
      else
        decoded (Request.decode true body) fun req => plainAnswer logins (account req)

/-- A packet as it arrives: twelve bytes, and as many more as they declare. -/
structure Packet where
  header : Bytes
  body : Bytes
  framed : ∀ decoded, Header.decode header = .ok decoded → body.length = decoded.length

/-- The header and the restored body of a packet that is let in. -/
def receive (conn : Connection) (sent : Packet) : Except Fault (Header × Bytes) :=
  match Header.decode sent.header with
  | .error error => .error (.protocol error)
  | .ok header =>
      if header.flags &&& flagUnencrypted ≠ 0 then
        .error (.protocol "unencrypted packets are refused")
      else if header.seqNo % 2 = 0 then .error (.protocol "clients send odd sequence numbers")
      else match crypt conn.md5 sent.body conn.key header.sessionId header.version header.seqNo with
        | .error error => .error (.raised error)
        | .ok body => .ok (header, body)

/-- A packet that was answered. -/
structure Exchange where
  header : Header
  body : Bytes
  answer : Answer

/-- `run`: the packets that were answered, and the logins when the packets end or a fault closes the
connection. -/
def serve (conn : Connection) (logins : Logins) :
    List Packet → Coroutine World (List Exchange × Logins)
  | [] => return ([], logins)
  | sent :: packets =>
      match receive conn sent with
      | .error _ => return ([], logins)
      | .ok (header, body) => do
          match ← dispatch conn logins header body with
          | .error _ => return ([], logins)
          | .ok (answer, logins) =>
              let (exchanges, logins) ← serve conn logins packets
              return (⟨header, body, answer⟩ :: exchanges, logins)

end Naco.Tacacs
