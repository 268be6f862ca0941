import Naco.Lib.Struct
import Naco.Lib.IpAddress
import Naco.Models
import Naco.Vendors

/-!
# Disconnect-Requests

RFC 5176. The session is named to its NAS by the attributes that the vendor's profile lists, each with
the value that accounting stored. The packet carries a Message-Authenticator and a Request
Authenticator, which are computed over the rest.
-/

namespace Naco

open Py

/-! ### The packet -/

/-- A session as the NAS reported it; empty fields are never sent. -/
structure SessionIds where
  acctSessionId : String := ""
  userName : String := ""
  callingStationId : String := ""
  nasIpAddress : String := ""
  nasIdentifier : String := ""
  auditSessionId : String := ""

def SessionIds.get (ids : SessionIds) : IdField → String
  | .acctSessionId => ids.acctSessionId
  | .userName => ids.userName
  | .callingStationId => ids.callingStationId
  | .nasIpAddress => ids.nasIpAddress
  | .nasIdentifier => ids.nasIdentifier
  | .auditSessionId => ids.auditSessionId

/-- The types of the attributes. -/
def IdField.kind : IdField → Nat
  | .acctSessionId => 44
  | .userName => 1
  | .callingStationId => 31
  | .nasIpAddress => 4
  | .nasIdentifier => 32
  | .auditSessionId => 26

def attrEventTimestamp : Nat := 55
def attrMessageAuthenticator : Nat := 80
def vendorCisco : Nat := 9
def ciscoAvpair : Nat := 1
def disconnectRequest : Nat := 40

/-- `_attr`. -/
def coaAttr (kind : Nat) (value : Bytes) : Bytes :=
  UInt8.ofNat kind :: UInt8.ofNat ((value.take 253).length + 2) :: value.take 253

/-- The value under which a field is sent, if it is. -/
def idValue (ids : SessionIds) (field : IdField) : Option Bytes :=
  let value := ids.get field
  if value = "" then none
  else match field with
    | .nasIpAddress =>
        match IpAddress.parse value with
        | some ⟨.v4, packed, _⟩ => some (toBigEndian 4 packed)
        | _ => none
    | .auditSessionId =>
        some (toBigEndian 4 vendorCisco ++ coaAttr ciscoAvpair (encode ("audit-session-id=" ++ value)))
    | _ => some (encode value)

/-- `_identity`. -/
def sessionIdentity (ids : SessionIds) (wanted : List IdField) : Bytes :=
  wanted.flatMap fun field => ((idValue ids field).map (coaAttr field.kind)).getD []

/-- `hashlib.md5` and `hmac.new(secret, packet, hashlib.md5)`. -/
structure Md5 where
  md5 : Bytes → Bytes
  hmac : Bytes → Bytes → Bytes
  md5_length : ∀ data, (md5 data).length = 16
  hmac_length : ∀ secret data, (hmac secret data).length = 16

/-- `packet[offset:offset + len(value)] = value`. -/
def splice (packet : Bytes) (offset : Nat) (value : Bytes) : Bytes :=
  packet.take offset ++ value ++ packet.drop (offset + value.length)

/-- `build_disconnect`. -/
def buildDisconnect (digests : Md5) (secret : Bytes) (identifier eventTime : Nat) (ids : SessionIds)
    (nas : Vendor) : Bytes :=
  let attrs := sessionIdentity ids nas.identify ++
    if nas.eventTimestamp then coaAttr attrEventTimestamp (toBigEndian 4 eventTime) else []
  let maOffset := 20 + attrs.length + 2
  let attrs := attrs ++
    if nas.messageAuthenticator then coaAttr attrMessageAuthenticator (List.replicate 16 0) else []
  let header := [UInt8.ofNat disconnectRequest, UInt8.ofNat identifier] ++
    toBigEndian 2 (20 + attrs.length)
  let packet := header ++ List.replicate 16 0 ++ attrs
  let packet := if nas.messageAuthenticator then splice packet maOffset (digests.hmac secret packet)
    else packet
  splice packet 4 (digests.md5 (packet ++ secret))

/-! ### The answer -/

/-- `_find_attr`, from some place on. -/
def findAttr (packet : Bytes) (kind length pos : Nat) : Except Error (Option Nat) :=
  if pos + 2 ≤ length then do
    let aType ← byteAt packet pos
    let aLen ← byteAt packet (pos + 1)
    if _ : aLen < 2 ∨ pos + aLen > length then .ok none
    else if aType = kind then .ok (some (pos + 2))
    else findAttr packet kind length (pos + aLen)
  else .ok none
termination_by length - pos
decreasing_by omega

/-- `verify_response`. -/
def verifyResponse (digests : Md5) (request response secret : Bytes) : Except Error Bool := do
  if response.length < 20 ∨ request.length < 20 then return false
  let length ← unpackOne 2 (slice response 2 4)
  if length < 20 ∨ length > response.length then return false
  if (← byteAt response 1) ≠ (← byteAt request 1) then return false
  let expected := digests.md5
    (slice response 0 4 ++ slice request 4 20 ++ slice response 20 length ++ secret)
  if expected ≠ slice response 4 20 then return false
  match ← findAttr response attrMessageAuthenticator length 20 with
  | none => return true
  | some ma =>
      if (← byteAt response (ma - 1)) ≠ 18 then return false
      let check := splice (slice response 0 length) 4 (slice request 4 20)
      let check := splice check ma (List.replicate 16 0)
      return digests.hmac secret check = slice response ma (ma + 16)

/-! ### Sessions -/

/-- The Disconnect-Request that `send_disconnect` sends for a session. -/
def sendDisconnect (digests : Md5) (identifier eventTime : Nat) (session : RadiusSession)
    (nas : NasClient) : Bytes :=
  buildDisconnect digests (encode nas.secret) identifier eventTime
    { acctSessionId := session.acctSessionId, userName := session.acctUsername,
      callingStationId := session.callingStationId, nasIpAddress := session.nasIpAddress,
      nasIdentifier := session.nasIdentifier, auditSessionId := session.auditSessionId }
    (vendor nas.vendor)

end Naco
