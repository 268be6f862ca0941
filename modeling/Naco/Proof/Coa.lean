import Naco.Coa
import Naco.Proof.Accounting

/-!
# What a Disconnect-Request calls the session

The attributes of a packet are read back from its octets. Those of the profile carry what accounting
stored, and accounting stores the first 64 characters: a NAS that uses longer names for a session does
not find it.
-/

namespace Naco

open Py

/-- The attributes from some place of a packet on. -/
def attributesFrom : Nat → Bytes → List (Nat × Bytes)
  | fuel + 1, kind :: size :: rest =>
      (kind.toNat, rest.take (size.toNat - 2)) :: attributesFrom fuel (rest.drop (size.toNat - 2))
  | _, _ => []

/-- The attributes of a packet, which follow its header of 20 octets. -/
def packetAttributes (packet : Bytes) : List (Nat × Bytes) :=
  attributesFrom packet.length (packet.drop 20)

/-- The packet has one attribute of this type, with these octets. -/
def Carries (packet : Bytes) (kind : Nat) (octets : Bytes) : Prop :=
  (packetAttributes packet).filter (·.1 = kind) = [(kind, octets)]

/-! ### Reading a packet -/

def encodeAttributes (attributes : List (Nat × Bytes)) : Bytes :=
  attributes.flatMap fun attr => coaAttr attr.1 attr.2

theorem attributesFrom_coaAttr {kind : Nat} (hkind : kind < 256) (value rest : Bytes) (fuel : Nat) :
    attributesFrom (fuel + 1) (coaAttr kind value ++ rest) =
      (kind, value.take 253) :: attributesFrom fuel rest := by
  have hsize : (UInt8.ofNat ((value.take 253).length + 2)).toNat - 2 = (value.take 253).length := by
    have hle : (value.take 253).length ≤ 253 := List.length_take_le _ _
    rw [UInt8.toNat_ofNat', Nat.mod_eq_of_lt (by omega)]
    omega
  have htype : (UInt8.ofNat kind).toNat = kind := by
    rw [UInt8.toNat_ofNat', Nat.mod_eq_of_lt hkind]
  rw [coaAttr, List.cons_append, List.cons_append, attributesFrom, hsize, htype, List.take_left,
    List.drop_left]

theorem attributesFrom_encodeAttributes {attributes : List (Nat × Bytes)}
    (hkinds : ∀ attr ∈ attributes, attr.1 < 256) {fuel : Nat} (hfuel : attributes.length ≤ fuel) :
    attributesFrom fuel (encodeAttributes attributes) =
      attributes.map fun attr => (attr.1, attr.2.take 253) := by
  induction attributes generalizing fuel with
  | nil => cases fuel <;> rfl
  | cons attr attributes ih =>
      obtain ⟨hkind, hrest⟩ := List.forall_mem_cons.mp hkinds
      rw [List.length_cons] at hfuel
      obtain ⟨fuel, rfl⟩ : ∃ more, fuel = more + 1 := ⟨fuel - 1, by omega⟩
      calc
        attributesFrom (fuel + 1) (encodeAttributes (attr :: attributes)) =
            attributesFrom (fuel + 1) (coaAttr attr.1 attr.2 ++ encodeAttributes attributes) := rfl
        _ = (attr.1, attr.2.take 253) :: attributesFrom fuel (encodeAttributes attributes) :=
            attributesFrom_coaAttr hkind attr.2 _ fuel
        _ = (attr :: attributes).map fun attr => (attr.1, attr.2.take 253) := by
            rw [ih hrest (by omega), List.map_cons]

theorem length_le_encodeAttributes (attributes : List (Nat × Bytes)) :
    attributes.length ≤ (encodeAttributes attributes).length := by
  induction attributes with
  | nil => exact Nat.zero_le _
  | cons attr attributes ih =>
      have hcons : encodeAttributes (attr :: attributes) =
          coaAttr attr.1 attr.2 ++ encodeAttributes attributes := rfl
      rw [hcons, List.length_append, coaAttr, List.length_cons, List.length_cons, List.length_cons]
      omega

/-! ### The packet that is built -/

/-- The attributes of the session identity. -/
def identityAttributes (ids : SessionIds) (wanted : List IdField) : List (Nat × Bytes) :=
  wanted.filterMap fun field => (idValue ids field).map (field.kind, ·)

theorem sessionIdentity_eq (ids : SessionIds) (wanted : List IdField) :
    sessionIdentity ids wanted = encodeAttributes (identityAttributes ids wanted) := by
  induction wanted with
  | nil => rfl
  | cons field wanted ih =>
      have hcons : sessionIdentity ids (field :: wanted) =
          ((idValue ids field).map (coaAttr field.kind)).getD [] ++ sessionIdentity ids wanted :=
        List.flatMap_cons
      rw [hcons, ih]
      cases hvalue : idValue ids field with
      | none => simp [identityAttributes, hvalue]
      | some value => simp [identityAttributes, encodeAttributes, hvalue]

theorem splice_append {front old back value : Bytes} {offset : Nat} (hoffset : front.length = offset)
    (hlength : value.length = old.length) :
    splice (front ++ (old ++ back)) offset value = front ++ (value ++ back) := by
  subst hoffset
  have hback : (front ++ (old ++ back)).drop (front.length + old.length) = back := by
    rw [← List.append_assoc, ← List.length_append, List.drop_left]
  rw [splice, List.take_left, hlength, hback, List.append_assoc]

/-- All attributes of the packet, given the value of its Message-Authenticator. -/
def disconnectAttributes (ids : SessionIds) (nas : Vendor) (eventTime : Nat) (authenticator : Bytes) :
    List (Nat × Bytes) :=
  identityAttributes ids nas.identify ++
    (if nas.eventTimestamp then [(attrEventTimestamp, toBigEndian 4 eventTime)] else []) ++
    if nas.messageAuthenticator then [(attrMessageAuthenticator, authenticator)] else []

theorem encodeAttributes_append (front back : List (Nat × Bytes)) :
    encodeAttributes (front ++ back) = encodeAttributes front ++ encodeAttributes back :=
  List.flatMap_append

theorem splice_authenticator {header body digest : Bytes} (hheader : header.length = 4)
    (hdigest : digest.length = 16) :
    splice (header ++ List.replicate 16 0 ++
        (body ++ coaAttr attrMessageAuthenticator (List.replicate 16 0))) (20 + body.length + 2) digest =
      header ++ (List.replicate 16 0 ++ (body ++ coaAttr attrMessageAuthenticator digest)) := by
  have hattr {value : Bytes} (hlength : value.length = 16) :
      coaAttr attrMessageAuthenticator value = [80, 18] ++ value := by
    have htake : value.take 253 = value := List.take_of_length_le (by omega)
    rw [coaAttr, htake, hlength]
    rfl
  have hfront : (header ++ List.replicate 16 0 ++ body ++ [80, 18]).length = 20 + body.length + 2 := by
    simp only [List.length_append, List.length_replicate, hheader, List.length_cons, List.length_nil]
  have hzeros : digest.length = (List.replicate 16 (0 : UInt8)).length := by
    rw [hdigest, List.length_replicate]
  calc
    _ = splice ((header ++ List.replicate 16 0 ++ body ++ [80, 18]) ++ (List.replicate 16 0 ++ []))
          (20 + body.length + 2) digest := by
      rw [hattr List.length_replicate]
      simp only [List.append_assoc, List.append_nil]
    _ = (header ++ List.replicate 16 0 ++ body ++ [80, 18]) ++ (digest ++ []) :=
      splice_append hfront hzeros
    _ = _ := by
      rw [hattr hdigest]
      simp only [List.append_assoc, List.append_nil]

/-- The first four octets of a packet of this size. -/
def disconnectHeader (identifier size : Nat) : Bytes :=
  [UInt8.ofNat disconnectRequest, UInt8.ofNat identifier] ++ toBigEndian 2 size

@[simp]
theorem length_disconnectHeader (identifier size : Nat) :
    (disconnectHeader identifier size).length = 4 := by
  rw [disconnectHeader, List.length_append, length_toBigEndian]
  rfl

/-- The octets of all attributes. -/
def disconnectBody (ids : SessionIds) (nas : Vendor) (eventTime : Nat) (authenticator : Bytes) : Bytes :=
  encodeAttributes (disconnectAttributes ids nas eventTime authenticator)

theorem length_disconnectBody (ids : SessionIds) (nas : Vendor) (eventTime : Nat) {left right : Bytes}
    (h : left.length = right.length) : (disconnectBody ids nas eventTime left).length =
      (disconnectBody ids nas eventTime right).length := by
  have hlast :
      (encodeAttributes (if nas.messageAuthenticator then [(attrMessageAuthenticator, left)] else [])).length =
      (encodeAttributes (if nas.messageAuthenticator then [(attrMessageAuthenticator, right)] else [])).length := by
    cases nas.messageAuthenticator <;> simp [encodeAttributes, coaAttr, h]
  unfold disconnectBody disconnectAttributes
  rw [encodeAttributes_append, encodeAttributes_append (identityAttributes ids nas.identify ++ _),
    List.length_append, List.length_append, hlast]

/-- The packet before its Request Authenticator, given the values of both authenticators. -/
def disconnectPacket (identifier eventTime : Nat) (ids : SessionIds) (nas : Vendor)
    (authenticator message : Bytes) : Bytes :=
  disconnectHeader identifier (20 + (disconnectBody ids nas eventTime (List.replicate 16 0)).length) ++
    (authenticator ++ disconnectBody ids nas eventTime message)

/-- The digests are written over zeros of the same length, in the last attribute and in the header. -/
theorem buildDisconnect_eq (digests : Md5) (secret : Bytes) (identifier eventTime : Nat)
    (ids : SessionIds) (nas : Vendor) :
    let unsigned := disconnectPacket identifier eventTime ids nas (List.replicate 16 0)
    let message := digests.hmac secret (unsigned (List.replicate 16 0))
    buildDisconnect digests secret identifier eventTime ids nas =
      disconnectPacket identifier eventTime ids nas (digests.md5 (unsigned message ++ secret))
        message := by
  intro unsigned message
  have hbody : sessionIdentity ids nas.identify ++
      (if nas.eventTimestamp then coaAttr attrEventTimestamp (toBigEndian 4 eventTime) else []) =
        encodeAttributes (identityAttributes ids nas.identify ++
          if nas.eventTimestamp then [(attrEventTimestamp, toBigEndian 4 eventTime)] else []) := by
    rw [sessionIdentity_eq, encodeAttributes_append]
    cases nas.eventTimestamp <;> simp [encodeAttributes]
  have hattrs (value : Bytes) : disconnectBody ids nas eventTime value =
      sessionIdentity ids nas.identify ++
        (if nas.eventTimestamp then coaAttr attrEventTimestamp (toBigEndian 4 eventTime) else []) ++
          if nas.messageAuthenticator then coaAttr attrMessageAuthenticator value else [] := by
    rw [disconnectBody, disconnectAttributes, encodeAttributes_append, hbody]
    cases nas.messageAuthenticator <;> simp [encodeAttributes]
  have hdigest (data : Bytes) : (digests.md5 data).length = (List.replicate 16 (0 : UInt8)).length := by
    rw [digests.md5_length, List.length_replicate]
  -- the packet once its last attribute is signed
  have hsigned : (if nas.messageAuthenticator then
      splice (unsigned (List.replicate 16 0)) (20 + (sessionIdentity ids nas.identify ++
        if nas.eventTimestamp then coaAttr attrEventTimestamp (toBigEndian 4 eventTime)
          else []).length + 2) message
      else unsigned (List.replicate 16 0)) = unsigned message := by
    cases hma : nas.messageAuthenticator with
    | false =>
        simp only [unsigned, disconnectPacket, hattrs, hma, Bool.false_eq_true, if_false]
    | true =>
        simp only [unsigned, disconnectPacket, hattrs, hma, if_true]
        rw [← List.append_assoc, splice_authenticator (length_disconnectHeader _ _)
          (digests.hmac_length _ _)]
  have hunsigned : [UInt8.ofNat disconnectRequest, UInt8.ofNat identifier] ++
      toBigEndian 2 (20 + (disconnectBody ids nas eventTime (List.replicate 16 0)).length) ++
        List.replicate 16 0 ++ disconnectBody ids nas eventTime (List.replicate 16 0) =
          unsigned (List.replicate 16 0) := by
    rw [List.append_assoc]
    rfl
  unfold buildDisconnect
  dsimp only
  rw [← hattrs, hunsigned, hsigned]
  exact splice_append (length_disconnectHeader _ _) (hdigest _)

theorem drop_buildDisconnect (digests : Md5) (secret : Bytes) (identifier eventTime : Nat)
    (ids : SessionIds) (nas : Vendor) :
    ∃ authenticator, (buildDisconnect digests secret identifier eventTime ids nas).drop 20 =
      encodeAttributes (disconnectAttributes ids nas eventTime authenticator) := by
  refine ⟨digests.hmac secret (disconnectPacket identifier eventTime ids nas (List.replicate 16 0)
    (List.replicate 16 0)), ?_⟩
  rw [buildDisconnect_eq, disconnectPacket, ← List.append_assoc]
  refine List.drop_left' ?_
  rw [List.length_append, length_disconnectHeader, digests.md5_length]

/-! ### Reading the identity back -/

theorem IdField.kind_lt (field : IdField) : field.kind < 256 := by
  cases field <;> decide

theorem IdField.kind_injective : Function.Injective IdField.kind := by
  intro left right h
  cases left <;> cases right <;> first | rfl | cases h

theorem filter_identityAttributes (ids : SessionIds) {wanted : List IdField} (hnodup : wanted.Nodup)
    {field : IdField} (hfield : field ∈ wanted) :
    (identityAttributes ids wanted).filter (·.1 = field.kind) =
      ((idValue ids field).map (field.kind, ·)).toList := by
  have hnone {others : List IdField} (hother : field ∉ others) :
      (identityAttributes ids others).filter (·.1 = field.kind) = [] := by
    rw [List.filter_eq_nil_iff]
    intro attr hattr
    obtain ⟨other, hmem, hvalue⟩ := List.mem_filterMap.mp hattr
    obtain ⟨value, -, rfl⟩ := Option.map_eq_some_iff.mp hvalue
    intro hkind
    exact hother (IdField.kind_injective (of_decide_eq_true hkind) ▸ hmem)
  induction wanted with
  | nil => cases hfield
  | cons head wanted ih =>
      obtain ⟨hhead, hrest⟩ := List.nodup_cons.mp hnodup
      have hcons : identityAttributes ids (head :: wanted) =
          ((idValue ids head).map (head.kind, ·)).toList ++ identityAttributes ids wanted := by
        cases hvalue : idValue ids head <;> simp [identityAttributes, hvalue]
      rw [hcons, List.filter_append]
      rcases List.mem_cons.mp hfield with rfl | hmem
      · rw [hnone hhead, List.append_nil]
        cases idValue ids field <;> simp
      · have hkind : head.kind ≠ field.kind := fun h => hhead (IdField.kind_injective h ▸ hmem)
        rw [ih hrest hmem]
        cases idValue ids head <;> simp [hkind]

theorem packetAttributes_buildDisconnect (digests : Md5) (secret : Bytes) (identifier eventTime : Nat)
    (ids : SessionIds) (nas : Vendor) :
    ∃ authenticator, packetAttributes (buildDisconnect digests secret identifier eventTime ids nas) =
      (disconnectAttributes ids nas eventTime authenticator).map fun attr => (attr.1, attr.2.take 253) := by
  obtain ⟨authenticator, hdrop⟩ := drop_buildDisconnect digests secret identifier eventTime ids nas
  refine ⟨authenticator, ?_⟩
  have hlength : (disconnectAttributes ids nas eventTime authenticator).length ≤
      (buildDisconnect digests secret identifier eventTime ids nas).length := by
    calc
      _ ≤ (encodeAttributes (disconnectAttributes ids nas eventTime authenticator)).length :=
        length_le_encodeAttributes _
      _ = ((buildDisconnect digests secret identifier eventTime ids nas).drop 20).length := by
        rw [hdrop]
      _ ≤ (buildDisconnect digests secret identifier eventTime ids nas).length := by
        rw [List.length_drop]
        exact Nat.sub_le _ _
  rw [packetAttributes, hdrop]
  refine attributesFrom_encodeAttributes ?_ hlength
  intro attr hattr
  rcases List.mem_append.mp hattr with hattr | hattr
  · rcases List.mem_append.mp hattr with hattr | hattr
    · obtain ⟨field, -, hvalue⟩ := List.mem_filterMap.mp hattr
      obtain ⟨value, -, rfl⟩ := Option.map_eq_some_iff.mp hvalue
      exact field.kind_lt
    · split at hattr
      · rw [List.mem_singleton.mp hattr]
        exact (by decide : attrEventTimestamp < 256)
      · cases hattr
  · split at hattr
    · rw [List.mem_singleton.mp hattr]
      exact (by decide : attrMessageAuthenticator < 256)
    · cases hattr

/-- A listed field is in the packet with its value, cut to what an attribute can hold. -/
theorem carries_buildDisconnect_iff (digests : Md5) (secret : Bytes) (identifier eventTime : Nat)
    (ids : SessionIds) {nas : Vendor} (hnodup : nas.identify.Nodup) {field : IdField}
    (hfield : field ∈ nas.identify) (octets : Bytes) :
    Carries (buildDisconnect digests secret identifier eventTime ids nas) field.kind octets ↔
      (idValue ids field).map (·.take 253) = some octets := by
  obtain ⟨authenticator, hattributes⟩ :=
    packetAttributes_buildDisconnect digests secret identifier eventTime ids nas
  have hstamp : attrEventTimestamp ≠ field.kind := by
    cases field <;> decide
  have hlast : attrMessageAuthenticator ≠ field.kind := by
    cases field <;> decide
  have hfilter : (disconnectAttributes ids nas eventTime authenticator).filter (·.1 = field.kind) =
      ((idValue ids field).map (field.kind, ·)).toList := by
    rw [disconnectAttributes, List.filter_append, List.filter_append,
      filter_identityAttributes ids hnodup hfield]
    cases nas.eventTimestamp <;> cases nas.messageAuthenticator <;> simp [hstamp, hlast]
  have hmap : (packetAttributes (buildDisconnect digests secret identifier eventTime ids nas)).filter
      (·.1 = field.kind) =
        ((disconnectAttributes ids nas eventTime authenticator).filter (·.1 = field.kind)).map
          fun attr => (attr.1, attr.2.take 253) := by
    rw [hattributes, List.filter_map]
    rfl
  rw [Carries, hmap, hfilter]
  cases idValue ids field <;> simp

/-! ### What accounting stored -/

/-- The attribute in which the NAS reports a field, for those sent back as they are. -/
def IdField.reportedIn : IdField → Option String
  | .acctSessionId => some "Acct-Session-Id"
  | .userName => some "User-Name"
  | .callingStationId => some "Calling-Station-Id"
  | .nasIdentifier => some "NAS-Identifier"
  | .nasIpAddress | .auditSessionId => none

/-- The identifiers under which `send_disconnect` names a session. -/
def RadiusSession.ids (session : RadiusSession) : SessionIds where
  acctSessionId := session.acctSessionId
  userName := session.acctUsername
  callingStationId := session.callingStationId
  nasIpAddress := session.nasIpAddress
  nasIdentifier := session.nasIdentifier
  auditSessionId := session.auditSessionId

theorem idValue_of_reportedIn {field : IdField} {name : String} (hname : field.reportedIn = some name)
    (ids : SessionIds) :
    idValue ids field = if ids.get field = "" then none else some (encode (ids.get field)) := by
  cases field with
  | nasIpAddress => cases hname
  | auditSessionId => cases hname
  | _ => rfl

theorem truncate_ne_empty {n : Nat} (hn : 0 < n) {s : String} (hs : s ≠ "") : truncate n s ≠ "" := by
  intro h
  have hempty : s.toList.take n = [] := by
    rw [← String.toList_ofList (l := s.toList.take n)]
    exact congrArg String.toList h
  rcases List.take_eq_nil_iff.mp hempty with hzero | hnil
  · omega
  · exact hs (String.toList_inj.mp hnil)

theorem reported_reportSession (attrs : Attrs) (session : RadiusSession) :
    (reportSession attrs session).acctUsername = orElse (acctUser attrs) session.acctUsername ∧
      (reportSession attrs session).callingStationId =
        orElse (truncate 64 (attrs.text "Calling-Station-Id")) session.callingStationId ∧
      (reportSession attrs session).nasIdentifier =
        orElse (truncate 64 (attrs.text "NAS-Identifier")) session.nasIdentifier := by
  simp only [reportSession, requestInfo, Attrs.text, and_self]

/-- A Start or an Interim-Update leaves the first 64 characters of each field that it reports. -/
theorem stored_of_opens {packet : AcctPacket} (hopens : packet.Opens packet.nasIp packet.sid)
    {db db' : Database} (hrun : AcctPacket.run db packet = .ok db') {session : RadiusSession}
    (hmem : session ∈ db'.val.sessions) (hkey : session.isOf packet.nasIp packet.sid = true)
    {field : IdField} {name : String} (hname : field.reportedIn = some name)
    (hvalue : packet.attrs.text name ≠ "") :
    session.ids.get field = truncate 64 (packet.attrs.text name) := by
  obtain ⟨old, updated, hupdated, hold, hcases⟩ :=
    saveSession_eq_ok (saveSession_of_opens hopens hrun)
  have hupdatedMem : updated ∈ db'.val.sessions := by
    rcases hcases with ⟨holdMem, htables⟩ | ⟨-, -, htables⟩
    · rw [htables]
      exact List.mem_map.mpr ⟨old, holdMem, if_pos rfl⟩
    · rw [htables]
      exact List.mem_append_right _ (List.mem_singleton_self _)
  obtain ⟨-, hnasIp, hsessionId⟩ := key_updateSession hupdated
  obtain ⟨holdNas, holdSid⟩ := isOf_iff.mp hold
  obtain ⟨hkeyNas, hkeySid⟩ := isOf_iff.mp hkey
  obtain rfl : session = updated := by
    refine Rows.eq_of_key db'.property.sessionKeys hmem hupdatedMem ?_
    rw [hkeyNas, hkeySid, hnasIp, hsessionId, holdNas, holdSid]
    rfl
  have hor (other : String) :
      orElse (truncate 64 (packet.attrs.text name)) other = truncate 64 (packet.attrs.text name) :=
    if_neg (truncate_ne_empty (by omega) hvalue)
  obtain ⟨context, -, hsession⟩ := updateSession_eq_ok hupdated
  obtain ⟨huser, hcalling, hidentifier⟩ := reported_reportSession packet.attrs old
  have hkept : session.acctUsername = (reportSession packet.attrs old).acctUsername ∧
      session.callingStationId = (reportSession packet.attrs old).callingStationId ∧
      session.nasIdentifier = (reportSession packet.attrs old).nasIdentifier := by
    rw [hsession]
    generalize reportSession packet.attrs old = reported
    cases context <;> simp only [countSession, contextSession, and_self]
  cases field with
  | acctSessionId =>
      cases hname
      exact hkeySid
  | userName =>
      cases hname
      exact (hkept.1.trans huser).trans (hor _)
  | callingStationId =>
      cases hname
      exact (hkept.2.1.trans hcalling).trans (hor _)
  | nasIdentifier =>
      cases hname
      exact (hkept.2.2.trans hidentifier).trans (hor _)
  | nasIpAddress => cases hname
  | auditSessionId => cases hname

theorem length_utf8EncodeChar_pos (c : Char) : 0 < (String.utf8EncodeChar c).length := by
  rw [String.length_utf8EncodeChar]
  exact Char.utf8Size_pos c

/-- The first 64 characters have all the octets only if there are no others. -/
theorem take_encode_truncate_iff {value : String} (hlength : (encode value).length ≤ 253) :
    (encode (truncate 64 value)).take 253 = encode value ↔ value.toList.length ≤ 64 := by
  constructor
  · intro h
    by_contra hlong
    have hsplit : encode value =
        encode (truncate 64 value) ++ (value.toList.drop 64).flatMap String.utf8EncodeChar := by
      rw [encode, encode, truncate, String.toList_ofList, ← List.flatMap_append,
        List.take_append_drop]
    have hrest : 0 < ((value.toList.drop 64).flatMap String.utf8EncodeChar).length := by
      cases hdrop : value.toList.drop 64 with
      | nil =>
          have := List.drop_eq_nil_iff.mp hdrop
          omega
      | cons c rest =>
          rw [List.flatMap_cons, List.length_append]
          exact Nat.add_pos_left (length_utf8EncodeChar_pos c) _
    have htotal := congrArg List.length hsplit
    rw [List.length_append] at htotal
    have htaken := congrArg List.length h
    rw [List.length_take] at htaken
    omega
  · intro hshort
    have hsame : truncate 64 value = value := by
      rw [truncate, List.take_of_length_le hshort, String.ofList_toList]
    rw [hsame, List.take_of_length_le hlength]

theorem nodup_identify (key : String) : (vendor key).identify.Nodup := by
  have hall : ∀ entry ∈ vendors, entry.2.identify.Nodup := by decide
  unfold vendor
  cases hlookup : vendors.lookup key with
  | none => exact (by decide : standardVendor.identify.Nodup)
  | some found =>
      obtain ⟨front, back, hsplit, -⟩ := List.lookup_eq_some_iff.mp hlookup
      exact hall (key, found) (by rw [hsplit]; simp)

/-- A Start from a valid address that reports all four names, each as 1 to 253 octets. -/
structure AcctPacket.Names (packet : AcctPacket) (reported : IdField → String) : Prop where
  start : acctStatus packet.attrs = some .start
  nasIp : packet.nasIp ≠ ""
  reports : ∀ field name, field.reportedIn = some name →
    packet.attrs.get name = some (reported field) ∧
      1 ≤ (encode (reported field)).length ∧ (encode (reported field)).length ≤ 253

theorem AcctPacket.Names.text {packet : AcctPacket} {reported : IdField → String}
    (h : packet.Names reported) {field : IdField} {name : String}
    (hname : field.reportedIn = some name) :
    packet.attrs.text name = reported field ∧ reported field ≠ "" := by
  obtain ⟨hget, hpos, -⟩ := h.reports field name hname
  refine ⟨by rw [Attrs.text, hget, Option.getD_some], fun hempty => ?_⟩
  rw [hempty] at hpos
  exact absurd hpos (by decide)

theorem AcctPacket.Names.opens {packet : AcctPacket} {reported : IdField → String}
    (h : packet.Names reported) : packet.Opens packet.nasIp packet.sid := by
  obtain ⟨hvalue, hne⟩ := @AcctPacket.Names.text _ _ h .acctSessionId _ rfl
  refine ⟨.inl h.start, rfl, rfl, h.nasIp, ?_⟩
  rw [AcctPacket.sid, sessionId, hvalue]
  exact truncate_ne_empty (by omega) hne

theorem carries_sendDisconnect_iff (digests : Md5) (identifier eventTime : Nat) (nas : NasClient)
    {packet : AcctPacket} {reported : IdField → String} (hpacket : packet.Names reported)
    {db db' : Database} (hrun : AcctPacket.run db packet = .ok db') {session : RadiusSession}
    (hmem : session ∈ db'.val.sessions) (hkey : session.isOf packet.nasIp packet.sid = true)
    {field : IdField} (hfield : field ∈ (vendor nas.vendor).identify)
    (hsome : field.reportedIn.isSome = true) :
    Carries (sendDisconnect digests identifier eventTime session nas) field.kind
        (encode (reported field)) ↔
      (reported field).toList.length ≤ 64 := by
  obtain ⟨name, hname⟩ := Option.isSome_iff_exists.mp hsome
  obtain ⟨hvalue, hne⟩ := hpacket.text hname
  obtain ⟨-, -, hlength⟩ := hpacket.reports field name hname
  have hstored : session.ids.get field = truncate 64 (reported field) := by
    rw [← hvalue]
    exact stored_of_opens hpacket.opens hrun hmem hkey hname (hvalue ▸ hne)
  have hsent : idValue session.ids field = some (encode (truncate 64 (reported field))) := by
    rw [idValue_of_reportedIn hname, hstored, if_neg (truncate_ne_empty (by omega) hne)]
  calc
    _ ↔ (idValue session.ids field).map (·.take 253) = some (encode (reported field)) :=
      carries_buildDisconnect_iff digests _ identifier eventTime session.ids (nodup_identify _) hfield _
    _ ↔ (encode (truncate 64 (reported field))).take 253 = encode (reported field) := by
      rw [hsent, Option.map_some, Option.some_inj]
    _ ↔ (reported field).toList.length ≤ 64 := take_encode_truncate_iff hlength

/-- The packet that disconnects the session of a Start has the octets of each name the profile lists
if and only if none of them is longer than 64 characters. -/
theorem disconnect_names_session_iff (digests : Md5) (identifier eventTime : Nat) (nas : NasClient)
    (packet : AcctPacket) (reported : IdField → String) (hpacket : packet.Names reported)
    (db db' : Database) (hrun : AcctPacket.run db packet = .ok db') (session : RadiusSession)
    (hmem : session ∈ db'.val.sessions) (hkey : session.isOf packet.nasIp packet.sid = true) :
    (∀ field ∈ (vendor nas.vendor).identify, field.reportedIn.isSome = true →
      Carries (sendDisconnect digests identifier eventTime session nas) field.kind
        (encode (reported field))) ↔
      ∀ field ∈ (vendor nas.vendor).identify, field.reportedIn.isSome = true →
        (reported field).toList.length ≤ 64 :=
  forall₂_congr fun _ hfield => forall_congr' fun hsome =>
    carries_sendDisconnect_iff digests identifier eventTime nas hpacket hrun hmem hkey hfield hsome

def deskSwitch : NasClient where
  id := 1
  name := "sw1"
  ipAddress := "10.0.0.1"
  secret := "testing123"

/-- The first packet of a user on a port of the switch. -/
def deskStart (user : String) : AcctPacket where
  attrs := ⟨[("Acct-Status-Type", ["Start"]), ("NACo-NAS-IP", ["10.0.0.1"]),
    ("Acct-Session-Id", ["0000002A"]), ("User-Name", [user]),
    ("Calling-Station-Id", ["AA-BB-CC-00-00-01"]), ("NAS-Identifier", ["sw1"])]⟩
  now := ⟨63850334400000000, ClockReading.inRange_may2024⟩
  later := ⟨63850334400000000, ClockReading.inRange_may2024⟩

def deskNames (user : String) : IdField → String
  | .acctSessionId => "0000002A"
  | .userName => user
  | .callingStationId => "AA-BB-CC-00-00-01"
  | .nasIdentifier => "sw1"
  | .nasIpAddress | .auditSessionId => ""

/-- The session of the packet in the empty database. -/
def DeskSession (user : String) (session : RadiusSession) : Prop :=
  ∃ db', AcctPacket.run ⟨{}, Tables.consistent_empty⟩ (deskStart user) = .ok db' ∧ session ∈ db'.val.sessions ∧
    session.isOf (deskStart user).nasIp (deskStart user).sid = true

theorem exists_deskSession {user : String} (hpacket : (deskStart user).Names (deskNames user))
    (hrun : Returns (AcctPacket.run ⟨{}, Tables.consistent_empty⟩ (deskStart user))) :
    ∃ session, DeskSession user session := by
  obtain ⟨db', hrun⟩ := hrun
  have hsave := saveSession_of_opens hpacket.opens hrun
  obtain ⟨session, hmem, hnas, hsid⟩ := (hasSession_saveSession_iff hsave).mpr (.inl ⟨rfl, rfl⟩)
  exact ⟨session, db', hrun, hmem, isOf_iff.mpr ⟨hnas, hsid⟩⟩

/-- The digests of the packet for `alice`. -/
def aliceDigests : Md5 where
  md5 _ := [0xd1, 0xaa, 0x60, 0x1a, 0x23, 0x42, 0x60, 0x54, 0xe7, 0xe9, 0xb6, 0xe3, 0x94, 0x60, 0x2e, 0x97]
  hmac _ _ := [0x00, 0xd1, 0x1d, 0x3e, 0xb8, 0x95, 0x9d, 0xc5, 0x82, 0xa1, 0xb1, 0x0d, 0xbc, 0xd9, 0x29, 0x0b]
  md5_length _ := rfl
  hmac_length _ _ := rfl

theorem disconnect_names_session_alice :
    ∃ session, DeskSession "alice" session ∧
      ∀ field ∈ (vendor "standard").identify, field.reportedIn.isSome = true →
        Carries (sendDisconnect aliceDigests 7 1700000000 session deskSwitch) field.kind
          (encode (deskNames "alice" field)) := by
  have hpacket : (deskStart "alice").Names (deskNames "alice") := by
    refine ⟨by decide +kernel, by decide +kernel, fun field name hname => ?_⟩
    cases field <;> cases hname <;> decide +kernel
  obtain ⟨session, hsession⟩ := exists_deskSession hpacket (by decide +kernel)
  obtain ⟨db', hrun, hmem, hkey⟩ := id hsession
  refine ⟨session, hsession, ?_⟩
  refine (disconnect_names_session_iff aliceDigests 7 1700000000 deskSwitch _ _ hpacket _ db' hrun
    session hmem hkey).mpr ?_
  decide +kernel

/-- The digests of the packet that is sent for a name of 65 characters. -/
def longDigests : Md5 where
  md5 _ := [0xb4, 0xb9, 0x51, 0xdf, 0xec, 0xd4, 0xca, 0xb0, 0xb5, 0xcb, 0x73, 0xcf, 0xcd, 0x78, 0x28, 0x3a]
  hmac _ _ := [0xe0, 0x99, 0xa7, 0xbb, 0xc9, 0x0c, 0x03, 0x3d, 0x4b, 0xc6, 0x54, 0x19, 0xb4, 0xea, 0xc3, 0x54]
  md5_length _ := rfl
  hmac_length _ _ := rfl

def longName : String := String.ofList (List.replicate 65 'a')

/-- Of a name of 65 characters the switch hears 64. -/
theorem disconnect_cuts_long_name :
    ∃ session, DeskSession longName session ∧ (deskStart longName).Names (deskNames longName) ∧
      IdField.userName ∈ (vendor deskSwitch.vendor).identify ∧
      ¬ Carries (sendDisconnect longDigests 7 1700000000 session deskSwitch) IdField.userName.kind
        (encode longName) := by
  have hpacket : (deskStart longName).Names (deskNames longName) := by
    refine ⟨by decide +kernel, by decide +kernel, fun field name hname => ?_⟩
    cases field <;> cases hname <;> decide +kernel
  obtain ⟨session, hsession⟩ := exists_deskSession hpacket (by decide +kernel)
  obtain ⟨db', hrun, hmem, hkey⟩ := id hsession
  have hlisted : IdField.userName ∈ (vendor deskSwitch.vendor).identify := by decide +kernel
  refine ⟨session, hsession, hpacket, hlisted, fun hcarries => ?_⟩
  have hshort := (carries_sendDisconnect_iff longDigests 7 1700000000 deskSwitch hpacket hrun hmem hkey
    hlisted rfl).mp hcarries
  exact absurd hshort (by decide +kernel)

end Naco
