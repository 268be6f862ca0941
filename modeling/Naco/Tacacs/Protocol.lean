import Naco.Lib.Struct

/-!
# The TACACS+ wire format

The header, the obfuscation of bodies, and the bodies themselves. Every length that a packet declares
is checked against the body; what does not fit is a `ProtocolError`, and closes the connection.
-/

namespace Naco.Tacacs

open Py

/-- The message of a `ProtocolError`. -/
abbrev ProtocolError := String

/-- How a call ends that does not return: with a `ProtocolError`, or with an exception of another kind. -/
inductive Fault where
  | protocol (error : ProtocolError)
  | raised (error : Error)

/-! ### Numbers of the protocol -/

def headerLen : Nat := 12
def maxBodyLen : Nat := 64 * 1024

inductive PacketType where
  | authen
  | author
  | acct
  deriving DecidableEq, Repr

namespace PacketType

def code : PacketType → Nat
  | .authen => 1
  | .author => 2
  | .acct => 3

def ofCode : Nat → Option PacketType
  | 1 => some .authen
  | 2 => some .author
  | 3 => some .acct
  | _ => none

end PacketType

def flagUnencrypted : Nat := 0x01
def flagSingleConnect : Nat := 0x04

def actionLogin : Nat := 0x01
def typeAscii : Nat := 0x01
def typePap : Nat := 0x02
def serviceEnable : Nat := 0x02
def continueFlagAbort : Nat := 0x01

/-- The statuses that the server answers with. -/
inductive AuthenStatus where
  | pass
  | fail
  | getUser
  | getPass
  | error
  deriving DecidableEq, Repr

def AuthenStatus.code : AuthenStatus → Nat
  | .pass => 0x01
  | .fail => 0x02
  | .getUser => 0x04
  | .getPass => 0x05
  | .error => 0x07

inductive AuthorStatus where
  | passAdd
  | fail
  deriving DecidableEq, Repr

def AuthorStatus.code : AuthorStatus → Nat
  | .passAdd => 0x01
  | .fail => 0x10

/-! ### Obfuscation -/

/-- `hashlib.md5`, of which only the size of a digest is known. -/
structure Md5 where
  digest : Bytes → Bytes
  length_digest : ∀ raw, (digest raw).length = 16

/-- The blocks of the pad, each hashed from the one before it. -/
def padBlocks (md5 : Md5) (seed : Bytes) : Nat → Bytes → Bytes
  | 0, _ => []
  | count + 1, last =>
      let block := md5.digest (seed ++ last)
      block ++ padBlocks md5 seed count block

/-- `_pad`. -/
def pad (md5 : Md5) (key : Bytes) (sessionId version seqNo length : Nat) : Except Error Bytes := do
  let id ← pack [(4, sessionId)]
  let numbers ← bytesOf [version, seqNo]
  let seed := id ++ key ++ numbers
  return (padBlocks md5 seed ((length + 15) / 16) []).take length

/-- `crypt`: the same operation obfuscates and restores. -/
def crypt (md5 : Md5) (body key : Bytes) (sessionId version seqNo : Nat) : Except Error Bytes :=
  if body = [] then .ok body
  else do
    let pad ← pad md5 key sessionId version seqNo body.length
    toBytes body.length (bigEndian body ^^^ bigEndian pad)

/-! ### Header -/

structure Header where
  version : Nat
  type : PacketType
  seqNo : Nat
  flags : Nat
  sessionId : Nat
  length : Nat
  deriving DecidableEq, Repr

namespace Header

/-- The checks of `Header.decode` on the unpacked fields. -/
def ofFields (version kind seqNo flags sessionId length : Nat) : Except ProtocolError Header :=
  if version / 16 ≠ 0xc ∨ 1 < version % 16 then
    let written := hexByte version
    .error s!"unsupported version 0x{written}"
  else match PacketType.ofCode kind with
    | none => .error s!"unknown packet type {kind}"
    | some type =>
        if maxBodyLen < length then .error s!"body too large ({length} bytes)"
        else if seqNo = 0xff then .error "sequence number exhausted"
        else .ok { version, type, seqNo, flags, sessionId, length }

def decode (raw : Bytes) : Except ProtocolError Header :=
  match raw with
  | [version, kind, seqNo, flags, s0, s1, s2, s3, l0, l1, l2, l3] =>
      ofFields version.toNat kind.toNat seqNo.toNat flags.toNat (bigEndian [s0, s1, s2, s3])
        (bigEndian [l0, l1, l2, l3])
  | _ => .error "short header"

def encode (header : Header) : Except Error Bytes :=
  pack [(1, header.version), (1, header.type.code), (1, header.seqNo), (1, header.flags),
    (4, header.sessionId), (4, header.length)]

end Header

/-- `packet`: the reply to a request, with the next sequence number. -/
def packet (md5 : Md5) (request : Header) (body key : Bytes) : Except Error Bytes := do
  let header := { request with
    seqNo := request.seqNo + 1
    flags := request.flags &&& flagSingleConnect
    length := body.length }
  let head ← header.encode
  return head ++ (← crypt md5 body key header.sessionId header.version header.seqNo)

/-! ### Bodies -/

/-- `_Reader`: what is left of the body. -/
abbrev Reader := StateT Bytes (Except Fault)

namespace Reader

def raise {α : Type} (fault : Fault) : Reader α := fun _ =>
  .error fault

def take (count : Nat) : Reader Bytes := fun data =>
  if data.length < count then .error (.protocol "declared lengths exceed the body")
  else .ok (data.take count, data.drop count)

def unpack (widths : List Nat) : Reader (List Nat) := do
  match Py.unpack widths (← take widths.sum) with
  | .ok values => return values
  | .error error => raise (.raised error)

/-- A tuple of the wrong size on the right of an assignment. -/
def raiseTuple {α : Type} : Reader α :=
  raise (.raised (.valueError "not enough values to unpack"))

/-- `_text(r.take(n))`. -/
def text (count : Nat) : Reader String := do
  return decodeReplace (← take count)

def done : Reader Unit := fun data =>
  if data = [] then .ok ((), data) else .error (.protocol "trailing bytes after the body")

/-- A check on what was read. -/
def check (ok : Bool) (message : ProtocolError) : Reader Unit := fun data =>
  if ok then .ok ((), data) else .error (.protocol message)

end Reader

structure AuthenStart where
  action : Nat
  privLvl : Nat
  authenType : Nat
  authenService : Nat
  user : String
  port : String
  remAddr : String
  data : Bytes
  deriving DecidableEq, Repr

def AuthenStart.read : Reader AuthenStart := do
  let [action, privLvl, authenType, authenService, userLen, portLen, remLen, dataLen] ←
    Reader.unpack [1, 1, 1, 1, 1, 1, 1, 1] | Reader.raiseTuple
  let user ← Reader.text userLen
  let port ← Reader.text portLen
  let remAddr ← Reader.text remLen
  let data ← Reader.take dataLen
  Reader.done
  Reader.check (privLvl ≤ 15) "privilege level above 15"
  return { action, privLvl, authenType, authenService, user, port, remAddr, data }

def AuthenStart.decode (body : Bytes) : Except Fault AuthenStart :=
  AuthenStart.read.run' body

structure AuthenContinue where
  userMsg : String
  data : Bytes
  abort : Bool
  deriving DecidableEq, Repr

def AuthenContinue.read : Reader AuthenContinue := do
  let [msgLen, dataLen, flags] ← Reader.unpack [2, 2, 1] | Reader.raiseTuple
  let userMsg ← Reader.text msgLen
  let data ← Reader.take dataLen
  Reader.done
  return { userMsg, data, abort := flags &&& continueFlagAbort ≠ 0 }

def AuthenContinue.decode (body : Bytes) : Except Fault AuthenContinue :=
  AuthenContinue.read.run' body

/-- Authorization and accounting requests share this layout; only accounting has flags. -/
structure Request where
  flags : Nat
  authenMethod : Nat
  privLvl : Nat
  authenType : Nat
  authenService : Nat
  user : String
  port : String
  remAddr : String
  args : List String
  deriving DecidableEq, Repr

/-- The flags of an accounting request. -/
def Request.readFlags (accounting : Bool) : Reader Nat :=
  if accounting then do
    let [flags] ← Reader.unpack [1] | Reader.raiseTuple
    return flags
  else return 0

def Request.read (accounting : Bool) : Reader Request := do
  let flags ← Request.readFlags accounting
  let [authenMethod, privLvl, authenType, authenService, userLen, portLen, remLen, count] ←
    Reader.unpack [1, 1, 1, 1, 1, 1, 1, 1] | Reader.raiseTuple
  let lengths ← Reader.unpack (List.replicate count 1)
  let user ← Reader.text userLen
  let port ← Reader.text portLen
  let remAddr ← Reader.text remLen
  let args ← lengths.mapM Reader.text
  Reader.done
  Reader.check (privLvl ≤ 15) "privilege level above 15"
  return { flags, authenMethod, privLvl, authenType, authenService, user, port, remAddr, args }

def Request.decode (accounting : Bool) (body : Bytes) : Except Fault Request :=
  (Request.read accounting).run' body

/-! ### Replies -/

/-- What the server answers, by the type of the packet. -/
inductive Reply where
  | authen (status : AuthenStatus) (serverMsg : String) (noecho : Bool)
  | author (status : AuthorStatus) (args : List String)
  | acctSuccess
  deriving DecidableEq, Repr

/-- `authen_reply`, `author_reply` and `acct_reply`. -/
def Reply.encode : Reply → Except Error Bytes
  | .authen status serverMsg noecho => do
      let msg := (Py.encode serverMsg).take 0xffff
      let head ← pack [(1, status.code), (1, if noecho then 1 else 0), (2, msg.length), (2, 0)]
      return head ++ msg
  | .author status args => do
      let encoded := args.map fun arg => (Py.encode arg).take 255
      let head ← pack [(1, status.code), (1, encoded.length), (2, 0), (2, 0)]
      return head ++ (← bytesOf (encoded.map List.length)) ++ encoded.flatten
  | .acctSuccess => pack [(2, 0), (2, 0), (1, 0x01)]

/-! ### The client's side

The encoders that tests and probes use, in a namespace of their own: the server has handlers of the same
names. -/

namespace Client

/-- `authen_start`. -/
def authenStart (action privLvl authenType service : Nat) (user port remAddr : String) (data : Bytes) :
    Except Error Bytes := do
  let u := Py.encode user
  let p := Py.encode port
  let a := Py.encode remAddr
  let head ← pack [(1, action), (1, privLvl), (1, authenType), (1, service), (1, u.length),
    (1, p.length), (1, a.length), (1, data.length)]
  return head ++ u ++ p ++ a ++ data

/-- `authen_continue`. -/
def authenContinue (data : Bytes) (userMsg : String) (abort : Bool) : Except Error Bytes := do
  let m := Py.encode userMsg
  let head ← pack [(2, m.length), (2, data.length), (1, if abort then continueFlagAbort else 0)]
  return head ++ m ++ data

/-- The flags in front of an accounting request. -/
def flagBytes : Option Nat → Except Error Bytes
  | none => .ok []
  | some flags => bytesOf [flags]

/-- `request`. -/
def request (args : List String) (user : String) (privLvl : Nat) (accountingFlags : Option Nat)
    (port remAddr : String) (authenType service method : Nat) : Except Error Bytes := do
  let u := Py.encode user
  let p := Py.encode port
  let a := Py.encode remAddr
  let encoded := args.map Py.encode
  let flags ← flagBytes accountingFlags
  let head ← pack [(1, method), (1, privLvl), (1, authenType), (1, service), (1, u.length),
    (1, p.length), (1, a.length), (1, encoded.length)]
  let lengths ← bytesOf (encoded.map List.length)
  return flags ++ head ++ lengths ++ u ++ p ++ a ++ encoded.flatten

end Client

end Naco.Tacacs
