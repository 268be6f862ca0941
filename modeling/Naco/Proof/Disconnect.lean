import Naco.Proof.Coa

/-!
# Disconnect-Requests as a NAS reads them

A NAS walks the attributes of a packet, each by the size that it states, and checks both authenticators
over the octets. The packets that are built read as the attributes of the profile, but for one: an audit
session id of more than 230 octets does not fit in its Vendor-Specific attribute, which is cut while the
attribute inside it still states its full size.
-/

namespace Naco

open Py

/-! ### Sequences of attributes -/

/-- The octets are these attributes, one after the other. -/
inductive AttributeSeq : Bytes → List (Nat × Bytes) → Prop where
  | nil : AttributeSeq [] []
  | cons {kind size : UInt8} {value rest : Bytes} {attributes : List (Nat × Bytes)} :
      size.toNat = value.length + 2 → AttributeSeq rest attributes →
        AttributeSeq (kind :: size :: (value ++ rest)) ((kind.toNat, value) :: attributes)

theorem AttributeSeq.unique {raw : Bytes} {attributes attributes' : List (Nat × Bytes)}
    (h : AttributeSeq raw attributes) (h' : AttributeSeq raw attributes') :
    attributes = attributes' := by
  induction h generalizing attributes' with
  | nil =>
      cases h'
      rfl
  | @cons kind size value rest attributes hsize hrest ih =>
      generalize hraw : kind :: size :: (value ++ rest) = raw at h'
      cases h' with
      | nil => cases hraw
      | @cons kind' size' value' rest' attributes' hsize' hrest' =>
          simp only [List.cons.injEq] at hraw
          obtain ⟨rfl, rfl, hvalues⟩ := hraw
          obtain ⟨rfl, rfl⟩ := List.append_inj hvalues (by omega)
          rw [ih hrest']

/-- What is cut to the size of an attribute. -/
def cutToFit (attributes : List (Nat × Bytes)) : List (Nat × Bytes) :=
  attributes.map fun attr => (attr.1, attr.2.take 253)

theorem attributeSeq_encodeAttributes {attributes : List (Nat × Bytes)}
    (hkinds : ∀ attr ∈ attributes, attr.1 < 256) :
    AttributeSeq (encodeAttributes attributes) (cutToFit attributes) := by
  induction attributes with
  | nil => exact .nil
  | cons attr attributes ih =>
      obtain ⟨hkind, hrest⟩ := List.forall_mem_cons.mp hkinds
      have hle : (attr.2.take 253).length ≤ 253 := List.length_take_le _ _
      have htype : (UInt8.ofNat attr.1).toNat = attr.1 := by
        rw [UInt8.toNat_ofNat', Nat.mod_eq_of_lt hkind]
      have hsize : (UInt8.ofNat ((attr.2.take 253).length + 2)).toNat =
          (attr.2.take 253).length + 2 := by
        rw [UInt8.toNat_ofNat', Nat.mod_eq_of_lt (by omega)]
      have hseq := @AttributeSeq.cons (UInt8.ofNat attr.1) _ _ _ _ hsize (ih hrest)
      rwa [htype] at hseq

/-- Walking the attributes reaches one of this type, the first: what stands before it, its size, its
value, and what follows. -/
inductive Reaches (kind : UInt8) : Bytes → Bytes → UInt8 → Bytes → Bytes → Prop where
  | here {size : UInt8} {value rest : Bytes} :
      size.toNat = value.length + 2 →
        Reaches kind (kind :: size :: (value ++ rest)) [] size value rest
  | next {other step size : UInt8} {skipped raw front value rest : Bytes} :
      other ≠ kind → step.toNat = skipped.length + 2 → Reaches kind raw front size value rest →
        Reaches kind (other :: step :: (skipped ++ raw)) (other :: step :: (skipped ++ front)) size
          value rest

section

variable {kind size : UInt8} {raw front value rest : Bytes}

theorem Reaches.eq_append (h : Reaches kind raw front size value rest) :
    raw = front ++ kind :: size :: (value ++ rest) := by
  induction h with
  | here => rfl
  | next hother hstep hrest ih =>
      rw [List.cons_append, List.cons_append, List.append_assoc, ← ih]

theorem Reaches.size_eq (h : Reaches kind raw front size value rest) :
    size.toNat = value.length + 2 := by
  induction h with
  | here hsize => exact hsize
  | next hother hstep hrest ih => exact ih

/-- What a walk does at an attribute. -/
theorem reaches_cons_iff {other step : UInt8} : Reaches kind (other :: step :: raw) front size value rest ↔
    other = kind ∧ front = [] ∧ size = step ∧ step.toNat = value.length + 2 ∧ raw = value ++ rest ∨
      other ≠ kind ∧ ∃ skipped raw' front', step.toNat = skipped.length + 2 ∧ raw = skipped ++ raw' ∧
        front = other :: step :: (skipped ++ front') ∧ Reaches kind raw' front' size value rest := by
  constructor
  · intro h
    generalize hraw : other :: step :: raw = whole at h
    cases h with
    | here hsize =>
        simp only [List.cons.injEq] at hraw
        obtain ⟨rfl, rfl, rfl⟩ := hraw
        exact .inl ⟨rfl, rfl, rfl, hsize, rfl⟩
    | next hother hstep hrest =>
        simp only [List.cons.injEq] at hraw
        obtain ⟨rfl, rfl, rfl⟩ := hraw
        exact .inr ⟨hother, _, _, _, hstep, rfl, rfl, hrest⟩
  · rintro (⟨rfl, rfl, rfl, hsize, rfl⟩ | ⟨hother, skipped, raw', front', hstep, rfl, rfl, hrest⟩)
    · exact .here hsize
    · exact .next hother hstep hrest

/-- Less than two octets are no attribute. -/
theorem Reaches.two_le (h : Reaches kind raw front size value rest) : 2 ≤ raw.length := by
  cases h <;> simp

/-- A walk reaches one place only. -/
theorem Reaches.unique (h : Reaches kind raw front size value rest) {front' value' rest' : Bytes}
    {size' : UInt8} (h' : Reaches kind raw front' size' value' rest') :
    front = front' ∧ size = size' ∧ value = value' ∧ rest = rest' := by
  induction h generalizing front' with
  | here hsize =>
      rcases reaches_cons_iff.mp h' with ⟨-, rfl, rfl, hsize', hraw⟩ | ⟨hother, -⟩
      · obtain ⟨rfl, rfl⟩ := List.append_inj hraw (by omega)
        exact ⟨rfl, rfl, rfl, rfl⟩
      · exact absurd rfl hother
  | next hother hstep hrest ih =>
      rcases reaches_cons_iff.mp h' with ⟨heq, -⟩ | ⟨-, skipped', raw', front', hstep', hraw, rfl, hrest'⟩
      · exact absurd heq hother
      · obtain ⟨rfl, rfl⟩ := List.append_inj hraw (by omega)
        obtain ⟨rfl, hsame⟩ := ih hrest'
        exact ⟨rfl, hsame⟩

/-- Attributes of other types are walked over. -/
theorem reaches_of_attributeSeq {attributes : List (Nat × Bytes)} (h : AttributeSeq front attributes)
    (hkinds : ∀ attr ∈ attributes, attr.1 ≠ kind.toNat) (hsize : size.toNat = value.length + 2) :
    Reaches kind (front ++ kind :: size :: (value ++ rest)) front size value rest := by
  induction h with
  | nil => exact .here hsize
  | @cons other step skipped front attributes hstep hrest ih =>
      obtain ⟨hother, hkinds⟩ := List.forall_mem_cons.mp hkinds
      rw [List.cons_append, List.cons_append, List.append_assoc]
      exact .next (fun heq => hother (congrArg UInt8.toNat heq)) hstep (ih hkinds)

end

theorem slice_cons_cons {raw : Bytes} {start stop : Nat} (hlt : start + 2 ≤ stop)
    (hle : stop ≤ raw.length) :
    slice raw start stop = raw[start] :: raw[start + 1] :: slice raw (start + 2) stop := by
  have hlength : stop ≤ (raw.take stop).length := by
    rw [List.length_take]
    omega
  rw [slice, List.drop_eq_getElem_cons (by omega), List.drop_eq_getElem_cons (by omega),
    List.getElem_take, List.getElem_take]
  rfl

/-- `_find_attr` finds the place of the value that a walk reaches, within the length it is given. -/
theorem findAttr_spec (packet : Bytes) (kind : UInt8) {length : Nat} (hle : length ≤ packet.length)
    (pos : Nat) : ∃ found, findAttr packet kind.toNat length pos = .ok found ∧ ∀ offset,
      found = some offset ↔ ∃ front size value rest,
        Reaches kind (slice packet pos length) front size value rest ∧ offset = pos + front.length + 2 := by
  induction hleft : length - pos using Nat.strong_induction_on generalizing pos with
  | _ left ih =>
  rw [findAttr]
  by_cases hpos : pos + 2 ≤ length
  · rw [if_pos hpos, byteAt_of_lt (by omega), byteAt_of_lt (by omega)]
    simp only [bind, Except.bind]
    rw [slice_cons_cons hpos hle]
    generalize packet[pos] = other
    generalize packet[pos + 1] = step
    by_cases hbad : step.toNat < 2 ∨ pos + step.toNat > length
    · -- a size that leaves no attribute ends the walk
      rw [dif_pos hbad]
      refine ⟨none, rfl, fun offset => ⟨nofun, ?_⟩⟩
      rintro ⟨front, size, value, rest, hreach, -⟩
      have hrest : (slice packet (pos + 2) length).length = length - (pos + 2) := length_slice hle
      rcases reaches_cons_iff.mp hreach with
        ⟨-, -, -, hsize, heq⟩ | ⟨-, skipped, raw', front', hsize, heq, -⟩
      · rw [heq, List.length_append] at hrest
        omega
      · rw [heq, List.length_append] at hrest
        omega
    · rw [dif_neg hbad]
      have hsplit : slice packet (pos + 2) (pos + step.toNat) ++ slice packet (pos + step.toNat) length =
          slice packet (pos + 2) length := slice_append_slice (by omega) (by omega)
      have hskipped : (slice packet (pos + 2) (pos + step.toNat)).length =
          pos + step.toNat - (pos + 2) := length_slice (by omega)
      by_cases hkind : other = kind
      · subst hkind
        rw [if_pos rfl]
        refine ⟨some (pos + 2), rfl, fun offset => ?_⟩
        rw [Option.some.injEq]
        constructor
        · rintro rfl
          rw [← hsplit]
          exact ⟨[], step, _, _, .here (by omega), rfl⟩
        · rintro ⟨front, size, value, rest, hreach, rfl⟩
          rcases reaches_cons_iff.mp hreach with ⟨-, rfl, -⟩ | ⟨hother, -⟩
          · rfl
          · exact absurd rfl hother
      · rw [if_neg (fun heq => hkind (UInt8.toNat_inj.mp heq))]
        obtain ⟨found, hfound, hiff⟩ := ih (length - (pos + step.toNat)) (by omega) _ rfl
        refine ⟨found, hfound, fun offset => (hiff offset).trans ?_⟩
        rw [← hsplit]
        constructor
        · rintro ⟨front, size, value, rest, hreach, rfl⟩
          refine ⟨_, size, value, rest, .next hkind (by omega) hreach, ?_⟩
          simp only [List.length_cons, List.length_append, hskipped]
          omega
        · rintro ⟨front, size, value, rest, hreach, rfl⟩
          rcases reaches_cons_iff.mp hreach with
            ⟨heq, -⟩ | ⟨-, skipped, raw', front', hsize, heq, rfl, hreach'⟩
          · exact absurd heq hkind
          · obtain ⟨rfl, rfl⟩ := List.append_inj heq (by omega)
            refine ⟨front', size, value, rest, hreach', ?_⟩
            simp only [List.length_cons, List.length_append, hskipped]
            omega
  · rw [if_neg hpos]
    refine ⟨none, rfl, fun offset => ⟨nofun, ?_⟩⟩
    rintro ⟨front, size, value, rest, hreach, -⟩
    have htwo := hreach.two_le
    have hlength : (slice packet pos length).length = length - pos := length_slice hle
    omega

/-! ### The packet that is sent -/

section

variable {header authenticator body : Bytes} (hheader : header.length = 4)

include hheader

theorem take_packet : slice (header ++ (authenticator ++ body)) 0 4 = header :=
  List.take_left' hheader

theorem slice_packet (hauthenticator : authenticator.length = 16) :
    slice (header ++ (authenticator ++ body)) 4 20 = authenticator :=
  slice_append hheader (by rw [hauthenticator])

theorem drop_packet (hauthenticator : authenticator.length = 16) :
    (header ++ (authenticator ++ body)).drop 20 = body := by
  rw [← List.append_assoc]
  exact List.drop_left' (by rw [List.length_append, hheader, hauthenticator])

end

/-- The digests of a packet are those of RFC 5176: the Message-Authenticator over zeros in its own place
and for the Request Authenticator, and the Request Authenticator over zeros, with the secret behind. -/
structure Signed (digests : Md5) (secret packet : Bytes) (withMessage : Bool) : Prop where
  authenticator : slice packet 4 20 =
    digests.md5 (slice packet 0 4 ++ List.replicate 16 0 ++ packet.drop 20 ++ secret)
  message : withMessage = true → ∃ front value rest,
    Reaches 80 (packet.drop 20) front 18 value rest ∧ value = digests.hmac secret
      (slice packet 0 4 ++ List.replicate 16 0 ++ (front ++ 80 :: 18 :: (List.replicate 16 0 ++ rest)))

/-- The attributes before the Message-Authenticator. -/
def plainAttributes (ids : SessionIds) (nas : Vendor) (eventTime : Nat) : List (Nat × Bytes) :=
  identityAttributes ids nas.identify ++
    if nas.eventTimestamp then [(attrEventTimestamp, toBigEndian 4 eventTime)] else []

theorem plainAttributes_kind {ids : SessionIds} {nas : Vendor} {eventTime : Nat} {attr : Nat × Bytes}
    (h : attr ∈ plainAttributes ids nas eventTime) : attr.1 < 256 ∧ attr.1 ≠ 80 := by
  rcases List.mem_append.mp h with h | h
  · obtain ⟨field, -, hvalue⟩ := List.mem_filterMap.mp h
    obtain ⟨value, -, rfl⟩ := Option.map_eq_some_iff.mp hvalue
    have hkind : field.kind ≠ 80 := by
      cases field <;> decide
    exact ⟨field.kind_lt, hkind⟩
  · split at h
    · rw [List.mem_singleton.mp h]
      exact (by decide : attrEventTimestamp < 256 ∧ attrEventTimestamp ≠ 80)
    · cases h

theorem coaAttr_message {value : Bytes} (h : value.length = 16) :
    coaAttr attrMessageAuthenticator value = 80 :: 18 :: (value ++ []) := by
  have htake : value.take 253 = value := List.take_of_length_le (by omega)
  rw [coaAttr, htake, h, List.append_nil]
  rfl

theorem disconnectBody_eq (ids : SessionIds) {nas : Vendor} (hnas : nas.messageAuthenticator = true)
    (eventTime : Nat) {value : Bytes} (h : value.length = 16) :
    disconnectBody ids nas eventTime value =
      encodeAttributes (plainAttributes ids nas eventTime) ++ 80 :: 18 :: (value ++ []) := by
  rw [← coaAttr_message h, disconnectBody, disconnectAttributes, hnas, if_pos rfl,
    encodeAttributes_append]
  simp [plainAttributes, encodeAttributes]

/-- A packet verifies by the rules of RFC 5176. -/
theorem disconnect_signed (digests : Md5) (secret : Bytes) (identifier : UInt8) (eventTime : UInt32)
    (ids : SessionIds) (key : String) :
    Signed digests secret
      (buildDisconnect digests secret identifier.toNat eventTime.toNat ids (vendor key))
      (vendor key).messageAuthenticator := by
  have hpacket :=
    buildDisconnect_eq digests secret identifier.toNat eventTime.toNat ids (vendor key)
  dsimp only at hpacket
  generalize hmessage : digests.hmac secret (disconnectPacket identifier.toNat eventTime.toNat ids
    (vendor key) (List.replicate 16 0) (List.replicate 16 0)) = message at hpacket
  unfold disconnectPacket at hpacket hmessage
  generalize hheader : disconnectHeader identifier.toNat
    (20 + (disconnectBody ids (vendor key) eventTime.toNat (List.replicate 16 0)).length) = header
    at hpacket hmessage
  have hlength : header.length = 4 := by
    rw [← hheader, length_disconnectHeader]
  have hsize : message.length = 16 := by
    rw [← hmessage, digests.hmac_length]
  rw [hpacket]
  constructor
  · rw [take_packet hlength, slice_packet hlength (digests.md5_length _),
      drop_packet hlength (digests.md5_length _)]
    simp only [List.append_assoc]
  · intro hnas
    rw [take_packet hlength, drop_packet hlength (digests.md5_length _),
      disconnectBody_eq ids hnas eventTime.toNat hsize]
    refine ⟨_, message, [], reaches_of_attributeSeq
      (attributeSeq_encodeAttributes fun attr hattr => (plainAttributes_kind hattr).1) ?_ ?_, ?_⟩
    · intro attr hattr
      obtain ⟨plain, hplain, rfl⟩ := List.mem_map.mp hattr
      exact (plainAttributes_kind hplain).2
    · rw [hsize]
      rfl
    · rw [← hmessage, disconnectBody_eq ids hnas eventTime.toNat List.length_replicate,
        List.append_assoc]

/-! ### The answer -/

/-- The length that a packet declares. -/
def declaredLength (packet : Bytes) : Nat :=
  bigEndian (slice packet 2 4)

/-- A response answers the request and is signed by the rules of RFC 5176. -/
structure Answers (digests : Md5) (request response secret : Bytes) : Prop where
  requestSize : 20 ≤ request.length
  responseSize : 20 ≤ response.length
  declared : 20 ≤ declaredLength response ∧ declaredLength response ≤ response.length
  identifier : response[1]? = request[1]?
  authenticator : slice response 4 20 = digests.md5 (slice response 0 4 ++ slice request 4 20 ++
    slice response 20 (declaredLength response) ++ secret)
  message : ∀ front size value rest,
    Reaches 80 (slice response 20 (declaredLength response)) front size value rest →
      size = 18 ∧ value = digests.hmac secret (slice response 0 4 ++ slice request 4 20 ++
        (front ++ 80 :: 18 :: (List.replicate 16 0 ++ rest)))

section

variable {request response front value rest : Bytes} {size : UInt8} {length : Nat}

/-- The response around the attribute that a walk reaches. -/
theorem slice_zero_of_reaches (hle : 20 ≤ length)
    (hreach : Reaches 80 (slice response 20 length) front size value rest) :
    slice response 0 length = slice response 0 4 ++ (slice response 4 20 ++
      (front ++ 80 :: size :: (value ++ rest))) := by
  rw [← hreach.eq_append, slice_append_slice (by omega) hle, slice_append_slice (by omega) (by omega)]

/-- The octet before the value is its size. -/
theorem byteAt_of_reaches (hle : 20 ≤ length) (hlength : length ≤ response.length)
    (hreach : Reaches 80 (slice response 20 length) front size value rest) :
    byteAt response (20 + front.length + 2 - 1) = .ok size.toNat := by
  have hplace : slice response 0 length =
      (slice response 0 4 ++ slice response 4 20 ++ front ++ [80]) ++ size :: (value ++ rest) := by
    rw [slice_zero_of_reaches hle hreach]
    simp only [List.append_assoc, List.cons_append, List.nil_append]
  have hindex : (slice response 0 4 ++ slice response 4 20 ++ front ++ [80]).length =
      20 + front.length + 2 - 1 := by
    have hhead : (slice response 0 4).length = 4 := length_slice (by omega)
    have hold : (slice response 4 20).length = 16 := length_slice (by omega)
    simp only [List.length_append, hhead, hold, List.length_cons, List.length_nil]
    omega
  have hlt : 20 + front.length + 2 - 1 < length := by
    have hlengths := congrArg List.length hplace
    rw [List.length_append, hindex, length_slice hlength, List.length_cons] at hlengths
    omega
  have hget : response[20 + front.length + 2 - 1]? = some size := by
    calc
      response[20 + front.length + 2 - 1]? = (slice response 0 length)[20 + front.length + 2 - 1]? := by
        rw [slice, List.drop_zero, List.getElem?_take_of_lt hlt]
      _ = some size := by
        rw [hplace, ← hindex, List.getElem?_append_right (Nat.le_refl _), Nat.sub_self]
        rfl
  rw [byteAt, hget]

/-- The octets that the Message-Authenticator is computed over, and the value it is compared with. -/
theorem splice_response (hrequest : 20 ≤ request.length) (hle : 20 ≤ length)
    (hlength : length ≤ response.length)
    (hreach : Reaches 80 (slice response 20 length) front size value rest) (hvalue : value.length = 16) :
    splice (splice (slice response 0 length) 4 (slice request 4 20)) (20 + front.length + 2)
        (List.replicate 16 0) =
      slice response 0 4 ++ slice request 4 20 ++
        (front ++ 80 :: size :: (List.replicate 16 0 ++ rest)) ∧
    slice response (20 + front.length + 2) (20 + front.length + 2 + 16) = value := by
  have hhead : (slice response 0 4).length = 4 := length_slice (by omega)
  have hold : (slice response 4 20).length = 16 := length_slice (by omega)
  have hnew : (slice request 4 20).length = 16 := length_slice (by omega)
  have hwhole := slice_zero_of_reaches hle hreach
  have hfront (middle : Bytes) (hmiddle : middle.length = 16) :
      (slice response 0 4 ++ middle ++ front ++ [80, size]).length = 20 + front.length + 2 := by
    simp only [List.length_append, hhead, hmiddle, List.length_cons, List.length_nil]
  constructor
  · rw [hwhole, splice_append hhead (by rw [hnew, hold])]
    calc
      _ = splice ((slice response 0 4 ++ slice request 4 20 ++ front ++ [80, size]) ++ (value ++ rest))
            (20 + front.length + 2) (List.replicate 16 0) := by
        simp only [List.append_assoc, List.cons_append, List.nil_append]
      _ = (slice response 0 4 ++ slice request 4 20 ++ front ++ [80, size]) ++
            (List.replicate 16 0 ++ rest) :=
        splice_append (hfront _ hnew) (by rw [hvalue, List.length_replicate])
      _ = _ := by
        simp only [List.append_assoc, List.cons_append, List.nil_append]
  · have hplace : slice response 0 length =
        (slice response 0 4 ++ slice response 4 20 ++ front ++ [80, size]) ++ (value ++ rest) := by
      rw [hwhole]
      simp only [List.append_assoc, List.cons_append, List.nil_append]
    have hsize : 20 + front.length + 2 + 16 ≤ length := by
      have hlengths := congrArg List.length hplace
      rw [List.length_append, hfront _ hold, length_slice hlength, List.length_append] at hlengths
      omega
    rw [← slice_slice_zero hsize, hplace]
    exact slice_append (hfront _ hold) (by rw [hvalue])

end

/-- `verify_response` always answers, and accepts exactly what the rules accept. -/
theorem verifyResponse_spec (digests : Md5) (request response secret : Bytes) :
    ∃ answer, verifyResponse digests request response secret = .ok answer ∧
      (answer = true ↔ Answers digests request response secret) := by
  unfold verifyResponse
  by_cases hsizes : response.length < 20 ∨ request.length < 20
  · rw [if_pos hsizes]
    refine ⟨false, rfl, nofun, fun h => ?_⟩
    have hrequest := h.requestSize
    have hresponse := h.responseSize
    omega
  rw [if_neg hsizes]
  have hunpack : unpackOne 2 (slice response 2 4) = .ok (declaredLength response) :=
    unpackOne_of_length (length_slice (by omega))
  have hanswer : 1 < response.length := by omega
  have hask : 1 < request.length := by omega
  rw [hunpack, byteAt_of_lt hanswer, byteAt_of_lt hask]
  dsimp only [bind, Except.bind, pure, Except.pure]
  by_cases hdeclared : declaredLength response < 20 ∨ declaredLength response > response.length
  · rw [if_pos hdeclared]
    refine ⟨false, rfl, nofun, fun h => ?_⟩
    have hlength := h.declared
    omega
  rw [if_neg hdeclared]
  by_cases hid : response[1].toNat ≠ request[1].toNat
  · rw [if_pos hid]
    refine ⟨false, rfl, nofun, fun h => ?_⟩
    have hidentifier := h.identifier
    rw [List.getElem?_eq_getElem hanswer, List.getElem?_eq_getElem hask] at hidentifier
    exact absurd (congrArg UInt8.toNat (Option.some.inj hidentifier)) hid
  rw [if_neg hid]
  by_cases hauth : digests.md5 (slice response 0 4 ++ slice request 4 20 ++
      slice response 20 (declaredLength response) ++ secret) ≠ slice response 4 20
  · rw [if_pos hauth]
    exact ⟨false, rfl, nofun, fun h => absurd h.authenticator.symm hauth⟩
  rw [if_neg hauth]
  have hidentifier : response[1]? = request[1]? := by
    rw [List.getElem?_eq_getElem hanswer, List.getElem?_eq_getElem hask]
    exact congrArg some (UInt8.toNat_inj.mp (not_not.mp hid))
  have hanswers (hmessage : ∀ front size value rest,
      Reaches 80 (slice response 20 (declaredLength response)) front size value rest →
        size = 18 ∧ value = digests.hmac secret (slice response 0 4 ++ slice request 4 20 ++
          (front ++ 80 :: 18 :: (List.replicate 16 0 ++ rest)))) :
      Answers digests request response secret :=
    ⟨by omega, by omega, by omega, hidentifier, (not_not.mp hauth).symm, hmessage⟩
  have hlength : declaredLength response ≤ response.length := by omega
  obtain ⟨found, hfound, hiff⟩ := findAttr_spec response 80 hlength 20
  change findAttr response attrMessageAuthenticator (declaredLength response) 20 = .ok found at hfound
  rw [hfound]
  cases found with
  | none =>
      refine ⟨true, rfl, fun _ => hanswers ?_, fun _ => rfl⟩
      intro front size value rest hreach
      exact absurd ((hiff _).mpr ⟨front, size, value, rest, hreach, rfl⟩) nofun
  | some ma =>
      obtain ⟨front, size, value, rest, hreach, rfl⟩ := (hiff ma).mp rfl
      dsimp only
      rw [byteAt_of_reaches (by omega) (by omega) hreach]
      dsimp only
      by_cases hsize : size.toNat ≠ 18
      · rw [if_pos hsize]
        refine ⟨false, rfl, nofun, fun h => ?_⟩
        exact absurd (congrArg UInt8.toNat (h.message front size value rest hreach).1) hsize
      · rw [if_neg hsize]
        have hsame : size = 18 := UInt8.toNat_inj.mp (not_not.mp hsize)
        subst hsame
        have hvalue : value.length = 16 := Nat.succ.inj (Nat.succ.inj hreach.size_eq.symm)
        have hrequest : 20 ≤ request.length := by omega
        obtain ⟨hcheck, hslice⟩ := splice_response hrequest (by omega) hlength hreach hvalue
        refine ⟨_, rfl, ?_⟩
        rw [decide_eq_true_iff, hcheck, hslice]
        constructor
        · intro hhmac
          refine hanswers fun front' size' value' rest' hreach' => ?_
          obtain ⟨rfl, rfl, rfl, rfl⟩ := hreach.unique hreach'
          exact ⟨rfl, hhmac.symm⟩
        · intro h
          exact (h.message front 18 value rest hreach).2.symm

/-- The response with which a NAS answers: its Message-Authenticator stands between other attributes. -/
def signedAnswer (digests : Md5) (request secret : Bytes) (code : UInt8) (front back : Bytes) : Bytes :=
  let attributes (value : Bytes) := front ++ 80 :: 18 :: (value ++ back)
  let header := [code, request.getD 1 0] ++
    toBigEndian 2 (20 + (attributes (List.replicate 16 0)).length)
  let message := digests.hmac secret
    (header ++ slice request 4 20 ++ attributes (List.replicate 16 0))
  let authenticator := digests.md5 (header ++ slice request 4 20 ++ attributes message ++ secret)
  header ++ (authenticator ++ attributes message)

theorem answers_signedAnswer (digests : Md5) {request : Bytes} (secret : Bytes) (code : UInt8)
    {front : Bytes} (back : Bytes) {attributes : List (Nat × Bytes)} (hrequest : 20 ≤ request.length)
    (hfront : AttributeSeq front attributes) (hkinds : ∀ attr ∈ attributes, attr.1 ≠ 80)
    (hsize : 20 + (front.length + 18 + back.length) < 65536) :
    Answers digests request (signedAnswer digests request secret code front back) secret := by
  have hattributes (value : Bytes) (h : value.length = 16) :
      (front ++ 80 :: 18 :: (value ++ back)).length = front.length + 18 + back.length := by
    simp only [List.length_append, List.length_cons, h]
    omega
  unfold signedAnswer
  dsimp only
  rw [hattributes _ List.length_replicate]
  generalize hheader : [code, request.getD 1 0] ++
    toBigEndian 2 (20 + (front.length + 18 + back.length)) = header
  generalize hmessage : digests.hmac secret (header ++ slice request 4 20 ++
    (front ++ 80 :: 18 :: (List.replicate 16 0 ++ back))) = message
  generalize hauthenticator : digests.md5 (header ++ slice request 4 20 ++
    (front ++ 80 :: 18 :: (message ++ back)) ++ secret) = authenticator
  have hhead : header.length = 4 := by
    rw [← hheader, List.length_append, length_toBigEndian]
    rfl
  have hmac : message.length = 16 := by
    rw [← hmessage, digests.hmac_length]
  have hmd5 : authenticator.length = 16 := by
    rw [← hauthenticator, digests.md5_length]
  have hbody := hattributes message hmac
  have hwhole : (header ++ (authenticator ++ (front ++ 80 :: 18 :: (message ++ back)))).length =
      20 + (front.length + 18 + back.length) := by
    rw [List.length_append, List.length_append, hbody, hhead, hmd5]
    omega
  have hdeclared : declaredLength (header ++ (authenticator ++ (front ++ 80 :: 18 :: (message ++ back)))) =
      20 + (front.length + 18 + back.length) := by
    rw [declaredLength, ← hheader, List.append_assoc,
      slice_append (by rfl) (by rw [length_toBigEndian]), bigEndian_toBigEndian hsize]
  have hslice : slice (header ++ (authenticator ++ (front ++ 80 :: 18 :: (message ++ back)))) 20
      (20 + (front.length + 18 + back.length)) = front ++ 80 :: 18 :: (message ++ back) := by
    rw [slice, List.take_of_length_le (Nat.le_of_eq hwhole), drop_packet hhead hmd5]
  refine ⟨hrequest, by omega, by omega, ?_, ?_, ?_⟩
  · rw [← hheader]
    change some (request.getD 1 0) = _
    rw [List.getD_eq_getElem?_getD, List.getElem?_eq_getElem (by omega), Option.getD_some]
  · rw [hdeclared, hslice, take_packet hhead, slice_packet hhead hmd5]
    exact hauthenticator.symm
  · intro front' size' value' rest' hreach'
    rw [hdeclared, hslice] at hreach'
    have hreach : Reaches 80 (front ++ 80 :: 18 :: (message ++ back)) front 18 message back :=
      reaches_of_attributeSeq hfront hkinds (by rw [hmac]; rfl)
    obtain ⟨rfl, rfl, rfl, rfl⟩ := hreach.unique hreach'
    rw [take_packet hhead]
    exact ⟨rfl, hmessage.symm⟩

/-- A response is read without an error, and accepted exactly when the rules accept it; so is every
response that a NAS signed for the request. -/
theorem responses_verified_iff (digests : Md5) (request secret : Bytes) :
    (∀ response, ∃ answer, verifyResponse digests request response secret = .ok answer ∧
      (answer = true ↔ Answers digests request response secret)) ∧
    ∀ (code : UInt8) (front back : Bytes) (attributes : List (Nat × Bytes)), 20 ≤ request.length →
      AttributeSeq front attributes → (∀ attr ∈ attributes, attr.1 ≠ 80) →
        20 + (front.length + 18 + back.length) < 65536 →
          verifyResponse digests request (signedAnswer digests request secret code front back) secret =
            .ok true := by
  refine ⟨fun response => verifyResponse_spec digests request response secret, ?_⟩
  intro code front back attributes hrequest hfront hkinds hsize
  obtain ⟨answer, hanswer, hiff⟩ := verifyResponse_spec digests request
    (signedAnswer digests request secret code front back) secret
  rw [hanswer, hiff.mpr (answers_signedAnswer digests secret code back hrequest hfront hkinds hsize)]

/-- A signed Disconnect-Request without attributes. -/
def bareRequest : Bytes :=
  [40, 7, 0, 20, 118, 95, 51, 73, 15, 112, 12, 155, 239, 68, 71, 51, 21, 102, 53, 92]

/-- The digests of its acknowledgement. -/
def acknowledgementDigests : Md5 where
  md5 data :=
    if data = [41, 7, 0, 45] ++ bareRequest.drop 4 ++ [18, 4, 111, 107, 80, 18, 74, 94, 1, 146, 251, 255,
        139, 244, 77, 20, 169, 138, 93, 93, 102, 133, 33, 3, 7] ++ encode "testing123" then
      [194, 6, 15, 200, 188, 122, 72, 132, 217, 36, 134, 107, 200, 33, 89, 78]
    else List.replicate 16 0
  hmac secret data :=
    if secret = encode "testing123" ∧ data = [41, 7, 0, 45] ++ bareRequest.drop 4 ++
        [18, 4, 111, 107, 80, 18] ++ List.replicate 16 0 ++ [33, 3, 7] then
      [74, 94, 1, 146, 251, 255, 139, 244, 77, 20, 169, 138, 93, 93, 102, 133]
    else List.replicate 16 0
  md5_length data := by
    split
    · rfl
    · exact List.length_replicate
  hmac_length secret data := by
    split
    · rfl
    · exact List.length_replicate

/-- Its acknowledgement, with an attribute on either side of the authenticator, is accepted; with another
octet in the last attribute it is not. -/
theorem responses_verified_acknowledgement :
    verifyResponse acknowledgementDigests bareRequest
        (signedAnswer acknowledgementDigests bareRequest (encode "testing123") 41 [18, 4, 111, 107]
          [33, 3, 7]) (encode "testing123") = .ok true ∧
      verifyResponse acknowledgementDigests bareRequest
        ((signedAnswer acknowledgementDigests bareRequest (encode "testing123") 41 [18, 4, 111, 107]
          [33, 3, 7]).dropLast ++ [8]) (encode "testing123") = .ok false :=
  ⟨(responses_verified_iff acknowledgementDigests bareRequest (encode "testing123")).2 41
    [18, 4, 111, 107] [33, 3, 7] [(18, [111, 107])] (by decide)
    (@AttributeSeq.cons 18 4 [111, 107] [] [] (by decide) .nil) (by decide) (by decide),
    by decide +kernel⟩

/-! ### The attributes of the profile -/

/-- The attribute that names a field of the session: its type, and of its value the octets that an
attribute holds. The audit session id is an AV-pair of Cisco, in full. -/
inductive Names (ids : SessionIds) : IdField → Nat × Bytes → Prop where
  | acctSessionId : Names ids .acctSessionId (44, (encode ids.acctSessionId).take 253)
  | userName : Names ids .userName (1, (encode ids.userName).take 253)
  | callingStationId : Names ids .callingStationId (31, (encode ids.callingStationId).take 253)
  | nasIpAddress {packed : Nat} {scope : Option String} :
      IpAddress.parse ids.nasIpAddress = some ⟨.v4, packed, scope⟩ →
        Names ids .nasIpAddress (4, toBigEndian 4 packed)
  | nasIdentifier : Names ids .nasIdentifier (32, (encode ids.nasIdentifier).take 253)
  | auditSessionId {pair : Bytes} :
      AttributeSeq pair [(1, encode ("audit-session-id=" ++ ids.auditSessionId))] →
        Names ids .auditSessionId (26, [0, 0, 0, 9] ++ pair)

/-- The attributes name just the fields of the profile that are not empty, in its order. -/
def Identify (ids : SessionIds) (wanted : List IdField) (attributes : List (Nat × Bytes)) : Prop :=
  List.Forall₂ (Names ids) (wanted.filter fun field => ids.get field ≠ "") attributes

/-- The value of a Vendor-Specific attribute: a vendor, and attributes that fill the rest. -/
def VendorSpecific (value : Bytes) : Prop :=
  ∃ vendorId sub attributes, value = vendorId ++ sub ∧ vendorId.length = 4 ∧
    AttributeSeq sub attributes

/-- The packet states its size, and its octets are the attributes of the profile. -/
structure WellFormed (packet : Bytes) (ids : SessionIds) (nas : Vendor) (eventTime : Nat) : Prop where
  size : declaredLength packet = packet.length
  attributes : ∃ identity message, Identify ids nas.identify identity ∧ message.length = 16 ∧
    AttributeSeq (packet.drop 20)
      (identity ++ (if nas.eventTimestamp then [(55, toBigEndian 4 eventTime)] else []) ++
        if nas.messageAuthenticator then [(80, message)] else [])
  vendorSpecific : ∀ attributes, AttributeSeq (packet.drop 20) attributes →
    ∀ attr ∈ attributes, attr.1 = 26 → VendorSpecific attr.2

/-- What the profile lists fits and can be read: an audit session id that a Vendor-Specific attribute holds,
and an address of the NAS that is an IPv4 address. -/
structure Namable (ids : SessionIds) (wanted : List IdField) : Prop where
  auditSessionId : .auditSessionId ∈ wanted → (encode ids.auditSessionId).length ≤ 230
  nasIpAddress : .nasIpAddress ∈ wanted → ids.nasIpAddress ≠ "" →
    ∃ packed scope, IpAddress.parse ids.nasIpAddress = some ⟨.v4, packed, scope⟩

theorem length_encode_append (left right : String) :
    (encode (left ++ right)).length = (encode left).length + (encode right).length := by
  rw [encode, String.toList_append, List.flatMap_append, List.length_append]
  rfl

theorem length_auditPair (id : String) :
    (encode ("audit-session-id=" ++ id)).length = 17 + (encode id).length := by
  rw [length_encode_append]
  rfl

/-- An attribute is its size on the wire. -/
theorem AttributeSeq.length_le {raw : Bytes} {attributes : List (Nat × Bytes)}
    (h : AttributeSeq raw attributes) : ∀ attr ∈ attributes, attr.2.length ≤ 253 := by
  induction h with
  | nil => nofun
  | @cons kind size value rest attributes hsize hrest ih =>
      have hbyte := size.toNat_lt
      exact List.forall_mem_cons.mpr ⟨by dsimp only; omega, ih⟩

/-- An AV-pair is the audit session id with nineteen octets in front. -/
theorem length_of_auditPair {ids : SessionIds} {pair : Bytes}
    (h : AttributeSeq pair [(1, encode ("audit-session-id=" ++ ids.auditSessionId))]) :
    pair.length = 19 + (encode ids.auditSessionId).length := by
  generalize hattributes : [(1, encode ("audit-session-id=" ++ ids.auditSessionId))] = attributes at h
  cases h with
  | nil => cases hattributes
  | @cons kind size value rest attributes hsize hrest =>
      simp only [List.cons.injEq, Prod.mk.injEq] at hattributes
      obtain ⟨⟨-, rfl⟩, rfl⟩ := hattributes
      cases hrest
      simp only [List.length_cons, List.length_append, List.length_nil, length_auditPair]
      omega

/-- The values of the fields are those that name them. -/
theorem names_of_idValue {ids : SessionIds} {wanted : List IdField} (h : Namable ids wanted)
    {field : IdField} (hfield : field ∈ wanted) (hget : ids.get field ≠ "") :
    ∃ value, idValue ids field = some value ∧ Names ids field (field.kind, value.take 253) := by
  cases field with
  | acctSessionId => exact ⟨encode ids.acctSessionId, by simp only [idValue, if_neg hget]; rfl, .acctSessionId⟩
  | userName => exact ⟨encode ids.userName, by simp only [idValue, if_neg hget]; rfl, .userName⟩
  | callingStationId => exact ⟨encode ids.callingStationId, by simp only [idValue, if_neg hget]; rfl, .callingStationId⟩
  | nasIdentifier => exact ⟨encode ids.nasIdentifier, by simp only [idValue, if_neg hget]; rfl, .nasIdentifier⟩
  | nasIpAddress =>
      obtain ⟨packed, scope, hparse⟩ := h.nasIpAddress hfield hget
      have hvalue : idValue ids .nasIpAddress = some (toBigEndian 4 packed) := by
        have hget' : IpAddress.parse (ids.get .nasIpAddress) = some ⟨.v4, packed, scope⟩ := hparse
        simp only [idValue, if_neg hget, hget']
      have hshort : (toBigEndian 4 packed).take 253 = toBigEndian 4 packed :=
        List.take_of_length_le (by rw [length_toBigEndian]; omega)
      refine ⟨_, hvalue, ?_⟩
      rw [hshort]
      exact .nasIpAddress hparse
  | auditSessionId =>
      have hlength := length_auditPair ids.auditSessionId
      have hle := h.auditSessionId hfield
      generalize hpair : encode ("audit-session-id=" ++ ids.auditSessionId) = pair at hlength
      have hwhole : pair.take 253 = pair := List.take_of_length_le (by omega)
      have hvalue : idValue ids .auditSessionId = some ([0, 0, 0, 9] ++ coaAttr ciscoAvpair pair) := by
        simp only [← hpair, idValue, if_neg hget]
        rfl
      have hattr : coaAttr ciscoAvpair pair = 1 :: UInt8.ofNat (pair.length + 2) :: (pair ++ []) := by
        rw [coaAttr, hwhole, List.append_nil]
        rfl
      have hshort : ([0, 0, 0, 9] ++ coaAttr ciscoAvpair pair).take 253 =
          [0, 0, 0, 9] ++ coaAttr ciscoAvpair pair := by
        refine List.take_of_length_le ?_
        simp only [hattr, List.length_append, List.length_cons, List.length_nil]
        omega
      refine ⟨_, hvalue, ?_⟩
      rw [hshort, hattr]
      refine .auditSessionId ?_
      rw [hpair]
      refine .cons ?_ .nil
      rw [UInt8.toNat_ofNat', Nat.mod_eq_of_lt (by omega)]

/-- The attributes of the identity name its fields. -/
theorem identify_identityAttributes {ids : SessionIds} {wanted : List IdField} (h : Namable ids wanted) :
    Identify ids wanted (cutToFit (identityAttributes ids wanted)) := by
  induction wanted with
  | nil => exact .nil
  | cons field wanted ih =>
      have hrest := ih ⟨fun hmem => h.auditSessionId (List.mem_cons_of_mem _ hmem),
        fun hmem => h.nasIpAddress (List.mem_cons_of_mem _ hmem)⟩
      by_cases hget : ids.get field = ""
      · have hnone : idValue ids field = none := by simp only [idValue, if_pos hget]
        have hskip : identityAttributes ids (field :: wanted) = identityAttributes ids wanted := by
          rw [identityAttributes, List.filterMap_cons_none (by rw [hnone]; rfl)]
          rfl
        rw [Identify, List.filter_cons_of_neg (by simp [hget]), hskip]
        exact hrest
      · obtain ⟨value, hvalue, hnames⟩ := names_of_idValue h List.mem_cons_self hget
        have hcons : identityAttributes ids (field :: wanted) =
            (field.kind, value) :: identityAttributes ids wanted := by
          rw [identityAttributes, List.filterMap_cons_some (by rw [hvalue]; rfl)]
          rfl
        rw [Identify, List.filter_cons_of_pos (by simp [hget]), hcons]
        exact .cons hnames hrest

/-- A Vendor-Specific attribute is that of the audit session id. -/
theorem Names.vendorSpecific {ids : SessionIds} {field : IdField} {attr : Nat × Bytes}
    (h : Names ids field attr) (hkind : attr.1 = 26) : VendorSpecific attr.2 := by
  cases h with
  | auditSessionId hpair => exact ⟨_, _, _, rfl, rfl, hpair⟩
  | acctSessionId | userName | callingStationId | nasIpAddress | nasIdentifier => cases hkind

theorem disconnectAttributes_eq (ids : SessionIds) (nas : Vendor) (eventTime : Nat)
    (authenticator : Bytes) : disconnectAttributes ids nas eventTime authenticator =
      plainAttributes ids nas eventTime ++
        if nas.messageAuthenticator then [(attrMessageAuthenticator, authenticator)] else [] :=
  rfl

theorem disconnectAttributes_kind {ids : SessionIds} {nas : Vendor} {eventTime : Nat}
    {authenticator : Bytes} {attr : Nat × Bytes}
    (h : attr ∈ disconnectAttributes ids nas eventTime authenticator) : attr.1 < 256 := by
  rw [disconnectAttributes_eq] at h
  rcases List.mem_append.mp h with h | h
  · exact (plainAttributes_kind h).1
  · split at h
    · rw [List.mem_singleton.mp h]
      exact (by decide : attrMessageAuthenticator < 256)
    · cases h

theorem length_encodeAttributes_le (attributes : List (Nat × Bytes)) :
    (encodeAttributes attributes).length ≤ 255 * attributes.length := by
  induction attributes with
  | nil => exact Nat.zero_le _
  | cons attr attributes ih =>
      have hcons : encodeAttributes (attr :: attributes) =
          coaAttr attr.1 attr.2 ++ encodeAttributes attributes := rfl
      have hattr : (coaAttr attr.1 attr.2).length ≤ 255 := by
        rw [coaAttr, List.length_cons, List.length_cons, List.length_take]
        omega
      rw [hcons, List.length_append, List.length_cons]
      omega

theorem length_identify (key : String) : (vendor key).identify.length ≤ 5 := by
  have hall : ∀ entry ∈ vendors, entry.2.identify.length ≤ 5 := by decide
  unfold vendor
  cases hlookup : vendors.lookup key with
  | none => exact (by decide : standardVendor.identify.length ≤ 5)
  | some found =>
      obtain ⟨front, back, hsplit, -⟩ := List.lookup_eq_some_iff.mp hlookup
      exact hall (key, found) (by rw [hsplit]; simp)

/-- No profile lists more than the size of a packet can state. -/
theorem length_disconnectBody_le (ids : SessionIds) (key : String) (eventTime : Nat)
    (authenticator : Bytes) :
    (disconnectBody ids (vendor key) eventTime authenticator).length ≤ 255 * 7 := by
  have hidentity : (identityAttributes ids (vendor key).identify).length ≤ 5 :=
    (List.length_filterMap_le _ _).trans (length_identify key)
  have hattributes :
      (disconnectAttributes ids (vendor key) eventTime authenticator).length ≤ 7 := by
    rw [disconnectAttributes, List.length_append, List.length_append]
    have hstamp : (if (vendor key).eventTimestamp then
        [(attrEventTimestamp, toBigEndian 4 eventTime)] else []).length ≤ 1 := by
      split <;> simp
    have hlast : (if (vendor key).messageAuthenticator then
        [(attrMessageAuthenticator, authenticator)] else []).length ≤ 1 := by
      split <;> simp
    omega
  exact (length_encodeAttributes_le _).trans (Nat.mul_le_mul_left 255 hattributes)

/-- What names the fields of a profile can be named. -/
theorem Identify.namable {ids : SessionIds} {wanted : List IdField} {attributes : List (Nat × Bytes)}
    (h : Identify ids wanted attributes) (hsize : ∀ attr ∈ attributes, attr.2.length ≤ 253) :
    Namable ids wanted := by
  have hnamed {field : IdField} (hfield : field ∈ wanted) (hget : ids.get field ≠ "") :
      ∃ attr ∈ attributes, Names ids field attr :=
    forall₂_mem_left h (List.mem_filter.mpr ⟨hfield, decide_eq_true hget⟩)
  constructor
  · intro hfield
    by_cases hempty : ids.auditSessionId = ""
    · rw [hempty]
      decide
    · obtain ⟨attr, hattr, hnames⟩ := hnamed hfield hempty
      have hle := hsize attr hattr
      cases hnames with
      | auditSessionId hpair =>
          have hlength := length_of_auditPair hpair
          simp only [List.length_append, List.length_cons, List.length_nil] at hle
          omega
  · intro hfield hempty
    obtain ⟨attr, -, hnames⟩ := hnamed hfield hempty
    cases hnames with
    | nasIpAddress hparse => exact ⟨_, _, hparse⟩

/-- The Vendor-Specific attributes of a packet are well-formed where its attributes are those of the
profile. -/
theorem vendorSpecific_of_identify {ids : SessionIds} {wanted : List IdField}
    {identity later : List (Nat × Bytes)} (h : Identify ids wanted identity)
    (hlater : ∀ attr ∈ later, attr.1 ≠ 26) :
    ∀ attr ∈ identity ++ later, attr.1 = 26 → VendorSpecific attr.2 := by
  intro attr hattr hkind
  rcases List.mem_append.mp hattr with hattr | hattr
  · obtain ⟨field, -, hnames⟩ := forall₂_mem_right h hattr
    exact hnames.vendorSpecific hkind
  · exact absurd hkind (hlater attr hattr)

theorem cutToFit_disconnectAttributes (ids : SessionIds) (nas : Vendor) (eventTime : Nat) {message : Bytes}
    (hmessage : message.length = 16) : cutToFit (disconnectAttributes ids nas eventTime message) =
      cutToFit (identityAttributes ids nas.identify) ++
        ((if nas.eventTimestamp then [(55, toBigEndian 4 eventTime)] else []) ++
          if nas.messageAuthenticator then [(80, message)] else []) := by
  have hstamp : (toBigEndian 4 eventTime).take 253 = toBigEndian 4 eventTime :=
    List.take_of_length_le (by rw [length_toBigEndian]; omega)
  have hlast : message.take 253 = message := List.take_of_length_le (by omega)
  rw [disconnectAttributes, cutToFit, List.map_append, List.map_append, List.append_assoc]
  congr 2
  · split
    · rw [List.map_cons, hstamp]
      rfl
    · rfl
  · split
    · rw [List.map_cons, hlast]
      rfl
    · rfl

/-- A packet reads as the attributes of its profile exactly when the audit session id, if the profile
lists it, has at most 230 octets, and the address of the NAS, if that is listed and not empty, is an IPv4
address. -/
theorem disconnect_wellFormed_iff (digests : Md5) (secret : Bytes) (identifier : UInt8)
    (eventTime : UInt32) (ids : SessionIds) (key : String) :
    WellFormed (buildDisconnect digests secret identifier.toNat eventTime.toNat ids (vendor key)) ids
        (vendor key) eventTime.toNat ↔
      Namable ids (vendor key).identify := by
  have hpacket :=
    buildDisconnect_eq digests secret identifier.toNat eventTime.toNat ids (vendor key)
  dsimp only at hpacket
  generalize hmessage : digests.hmac secret (disconnectPacket identifier.toNat eventTime.toNat ids
    (vendor key) (List.replicate 16 0) (List.replicate 16 0)) = message at hpacket
  have hmac : message.length = 16 := by
    rw [← hmessage, digests.hmac_length]
  generalize hauthenticator : digests.md5 (disconnectPacket identifier.toNat eventTime.toNat ids
    (vendor key) (List.replicate 16 0) message ++ secret) = authenticator at hpacket
  have hmd5 : authenticator.length = 16 := by
    rw [← hauthenticator, digests.md5_length]
  have hseq : AttributeSeq (disconnectBody ids (vendor key) eventTime.toNat message)
      (cutToFit (disconnectAttributes ids (vendor key) eventTime.toNat message)) :=
    attributeSeq_encodeAttributes fun attr hattr => disconnectAttributes_kind hattr
  rw [cutToFit_disconnectAttributes _ _ _ hmac] at hseq
  have hbody : (disconnectBody ids (vendor key) eventTime.toNat message).length =
      (disconnectBody ids (vendor key) eventTime.toNat (List.replicate 16 0)).length :=
    length_disconnectBody ids (vendor key) eventTime.toNat (by rw [hmac, List.length_replicate])
  have hfits := length_disconnectBody_le ids key eventTime.toNat (List.replicate 16 0)
  constructor
  · intro h
    obtain ⟨identity, message, hidentity, -, hread⟩ := h.attributes
    refine hidentity.namable fun attr hattr => hread.length_le attr ?_
    rw [List.append_assoc]
    exact List.mem_append_left _ hattr
  · intro hnamable
    have hidentify := identify_identityAttributes hnamable
    rw [hpacket, disconnectPacket]
    refine ⟨?_, ⟨_, message, hidentify, hmac, ?_⟩, fun attributes hattributes => ?_⟩
    · rw [declaredLength, disconnectHeader, List.append_assoc,
        slice_append (by rfl) (by rw [length_toBigEndian]), bigEndian_toBigEndian (by omega)]
      simp only [List.length_append, List.length_cons, List.length_nil, length_toBigEndian, hmd5, hbody]
      omega
    · rw [drop_packet (length_disconnectHeader _ _) hmd5, List.append_assoc]
      exact hseq
    · rw [drop_packet (length_disconnectHeader _ _) hmd5] at hattributes
      rw [hattributes.unique hseq]
      refine vendorSpecific_of_identify hidentify fun attr hattr => ?_
      rcases List.mem_append.mp hattr with hattr | hattr
      · split at hattr
        · rw [List.mem_singleton.mp hattr]
          exact (by decide : 55 ≠ 26)
        · cases hattr
      · split at hattr
        · rw [List.mem_singleton.mp hattr]
          exact (by decide : 80 ≠ 26)
        · cases hattr

/-- An audit session id of 58 characters that take four octets each. -/
def wideIds : SessionIds where
  acctSessionId := "0000002A"
  auditSessionId := String.ofList (List.replicate 58 '𝟘')

/-- The attribute in which a Cisco NAS reads this id states more octets than there are. -/
theorem audit_session_id_cut :
    ¬ ∀ (digests : Md5) (secret : Bytes) (identifier : UInt8) (eventTime : UInt32) (ids : SessionIds)
        (key : String), (∀ field, (ids.get field).toList.length ≤ 64) →
      WellFormed (buildDisconnect digests secret identifier.toNat eventTime.toNat ids (vendor key)) ids
        (vendor key) eventTime.toNat := by
  intro hall
  have hwide : ∀ field, (wideIds.get field).toList.length ≤ 64 := by
    intro field
    cases field <;> decide +kernel
  have hlisted : IdField.auditSessionId ∈ (vendor "cisco").identify := by decide +kernel
  obtain ⟨identity, message, hidentity, -, hread⟩ :=
    (hall aliceDigests (encode "testing123") 7 1700000000 wideIds "cisco" hwide).attributes
  have hnamable := hidentity.namable fun attr hattr => hread.length_le attr
    (List.mem_append_left _ (List.mem_append_left _ hattr))
  exact absurd (hnamable.auditSessionId hlisted) (by decide +kernel)

end Naco
