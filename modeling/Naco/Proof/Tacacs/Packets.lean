import Naco.Tacacs.Protocol

/-!
# Packets of the TACACS+ server

The pad of RFC 8907 as a stream of bytes, and the obfuscation as the exclusive or with it. The source
computes it with big integers, so a body's leading zeros and its last, cut block have to survive.
-/

namespace Naco.Tacacs

open Py

/-! ### The pad -/

/-- `MD5_1` is the hash of the seed, and each later block hashes the seed and the block before it. -/
def rfcBlock (md5 : Md5) (seed : Bytes) : Nat → Bytes
  | 0 => md5.digest seed
  | count + 1 => md5.digest (seed ++ rfcBlock md5 seed count)

/-- The seed of a packet: session id, key, version and sequence number. -/
def rfcSeed (key : Bytes) (sessionId : UInt32) (version seqNo : UInt8) : Bytes :=
  toBigEndian 4 sessionId.toNat ++ key ++ [version, seqNo]

/-- The bytes of the pad: block after block, sixteen bytes each. -/
def rfcPad (md5 : Md5) (key : Bytes) (sessionId : UInt32) (version seqNo : UInt8) (index : Nat) : UInt8 :=
  (rfcBlock md5 (rfcSeed key sessionId version seqNo) (index / 16)).getD (index % 16) 0

section

variable {md5 : Md5} {seed : Bytes}

/-- The blocks after the first `done` ones. -/
theorem getElem?_padBlocks (done count : Nat) (last : Bytes)
    (hlast : md5.digest (seed ++ last) = rfcBlock md5 seed done) {index : Nat}
    (hindex : index < 16 * count) :
    (padBlocks md5 seed count last)[index]? = (rfcBlock md5 seed (done + index / 16))[index % 16]? := by
  induction count generalizing done last index with
  | zero => exact absurd hindex (by omega)
  | succ count ih =>
      have hlength : (rfcBlock md5 seed done).length = 16 := hlast ▸ md5.length_digest _
      rw [padBlocks, hlast]
      by_cases hfirst : index < 16
      · have hdiv : index / 16 = 0 := by omega
        have hmod : index % 16 = index := by omega
        rw [List.getElem?_append_left (by omega), hdiv, hmod, Nat.add_zero]
      · have hdiv : done + 1 + (index - 16) / 16 = done + index / 16 := by omega
        have hmod : (index - 16) % 16 = index % 16 := by omega
        rw [List.getElem?_append_right (by omega), hlength, ih (done + 1) _ rfl (by omega), hdiv, hmod]

end

section

variable (md5 : Md5) (key : Bytes) (sessionId : UInt32) (version seqNo : UInt8)

theorem length_rfcBlock (seed : Bytes) (count : Nat) : (rfcBlock md5 seed count).length = 16 := by
  cases count <;> exact md5.length_digest _

/-- The pad that is computed is the start of the stream. -/
theorem pad_eq (length : Nat) :
    pad md5 key sessionId.toNat version.toNat seqNo.toNat length =
      .ok (List.ofFn fun index : Fin length => rfcPad md5 key sessionId version seqNo index) := by
  have hid : pack [(4, sessionId.toNat)] = .ok (toBigEndian 4 sessionId.toNat) := by
    rw [pack_eq_ok_iff]
    refine ⟨?_, by simp⟩
    simpa using sessionId.toNat_lt
  have hnumbers : bytesOf [version.toNat, seqNo.toNat] = .ok [version, seqNo] := by
    rw [bytesOf_eq_ok_iff]
    refine ⟨?_, by simp⟩
    simpa using ⟨version.toNat_lt, seqNo.toNat_lt⟩
  unfold pad
  rw [hid]
  change (bytesOf _ >>= _) = _
  rw [hnumbers]
  refine congrArg Except.ok (List.ext_getElem? fun index => ?_)
  change ((padBlocks md5 (rfcSeed key sessionId version seqNo) _ []).take length)[index]? = _
  rw [List.getElem?_take, List.getElem?_ofFn]
  split
  · next hindex =>
      rw [getElem?_padBlocks 0 _ [] (by rw [List.append_nil]; rfl) (by omega), Nat.zero_add]
      have hlength := length_rfcBlock md5 (rfcSeed key sessionId version seqNo) (index / 16)
      rw [rfcPad, List.getD_eq_getElem?_getD, List.getElem?_eq_getElem (by omega), Option.getD_some]
  · rfl

/-! ### The obfuscation -/

/-- A body is obfuscated byte by byte. -/
theorem crypt_eq (body : Bytes) :
    crypt md5 body key sessionId.toNat version.toNat seqNo.toNat =
      .ok (body.mapIdx fun index byte => byte ^^^ rfcPad md5 key sessionId version seqNo index) := by
  unfold crypt
  split
  · next hempty => rw [hempty, List.mapIdx_nil]
  · rw [pad_eq]
    change toBytes _ (_ ^^^ bigEndian (List.ofFn _)) = _
    rw [toBytes_xor (List.length_ofFn).symm]
    refine congrArg Except.ok (List.ext_getElem? fun index => ?_)
    rw [List.getElem?_zipWith, List.getElem?_mapIdx, List.getElem?_ofFn]
    by_cases hindex : index < body.length
    · rw [List.getElem?_eq_getElem hindex, dif_pos hindex]
      rfl
    · rw [List.getElem?_eq_none (by omega)]
      rfl

/-- Obfuscating twice restores the body. -/
theorem crypt_crypt {body hidden : Bytes}
    (h : crypt md5 body key sessionId.toNat version.toNat seqNo.toNat = .ok hidden) :
    crypt md5 hidden key sessionId.toNat version.toNat seqNo.toNat = .ok body := by
  rw [crypt_eq] at h ⊢
  rw [← Except.ok.inj h, List.mapIdx_mapIdx]
  refine congrArg Except.ok (List.ext_getElem? fun index => ?_)
  rw [List.getElem?_mapIdx]
  cases body[index]? with
  | none => rfl
  | some byte =>
      rw [Option.map_some]
      dsimp only [Function.comp]
      rw [UInt8.xor_assoc, UInt8.xor_self, UInt8.xor_zero]

theorem length_of_crypt {body hidden : Bytes}
    (h : crypt md5 body key sessionId.toNat version.toNat seqNo.toNat = .ok hidden) :
    hidden.length = body.length := by
  rw [crypt_eq] at h
  rw [← Except.ok.inj h, List.length_mapIdx]

end

/-! ### Headers -/

namespace Header

/-- The fields have room in the format. -/
structure Fits (header : Header) : Prop where
  version : header.version < 256
  seqNo : header.seqNo < 256
  flags : header.flags < 256
  sessionId : header.sessionId < 2 ^ 32
  length : header.length < 2 ^ 32

/-- What `decode` lets in. -/
structure Accepted (header : Header) : Prop where
  version : header.version / 16 = 0xc ∧ header.version % 16 ≤ 1
  length : header.length ≤ maxBodyLen
  seqNo : header.seqNo ≠ 0xff

theorem ofCode_eq_some_iff {kind : Nat} {type : PacketType} :
    PacketType.ofCode kind = some type ↔ kind = type.code := by
  constructor
  · intro h
    unfold PacketType.ofCode at h
    split at h <;> cases h <;> rfl
  · rintro rfl
    cases type <;> rfl

theorem ofFields_eq_ok_iff {version kind seqNo flags sessionId length : Nat} {header : Header} :
    ofFields version kind seqNo flags sessionId length = .ok header ↔
      header.Accepted ∧ version = header.version ∧ kind = header.type.code ∧ seqNo = header.seqNo ∧
        flags = header.flags ∧ sessionId = header.sessionId ∧ length = header.length := by
  constructor
  · intro h
    unfold ofFields at h
    split at h
    · cases h
    next hversion =>
      split at h
      · cases h
      next type htype =>
        split at h
        · cases h
        next hlength =>
          split at h
          · cases h
          next hseqNo =>
            cases h
            refine ⟨⟨by dsimp only; omega, by dsimp only; omega, hseqNo⟩, rfl, ?_, rfl, rfl, rfl, rfl⟩
            exact ofCode_eq_some_iff.mp htype
  · rintro ⟨haccepted, rfl, rfl, rfl, rfl, rfl, rfl⟩
    have hversion := haccepted.version
    have hlength := haccepted.length
    unfold ofFields
    rw [if_neg (by omega), ofCode_eq_some_iff.mpr rfl]
    dsimp only
    rw [if_neg (by omega), if_neg haccepted.seqNo]

/-- A header is read from twelve bytes. -/
theorem decode_eq_ok_iff {raw : Bytes} {header : Header} :
    decode raw = .ok header ↔ header.Accepted ∧ unpack [1, 1, 1, 1, 4, 4] raw =
      .ok [header.version, header.type.code, header.seqNo, header.flags, header.sessionId,
        header.length] := by
  by_cases hlength : raw.length = 12
  · obtain ⟨version, kind, seqNo, flags, s0, s1, s2, s3, l0, l1, l2, l3, rfl⟩ :
        ∃ version kind seqNo flags s0 s1 s2 s3 l0 l1 l2 l3,
          raw = [version, kind, seqNo, flags, s0, s1, s2, s3, l0, l1, l2, l3] := by
      match raw, hlength with
      | [version, kind, seqNo, flags, s0, s1, s2, s3, l0, l1, l2, l3], _ =>
          exact ⟨version, kind, seqNo, flags, s0, s1, s2, s3, l0, l1, l2, l3, rfl⟩
    rw [decode, ofFields_eq_ok_iff]
    simp [unpack, unpackFields]
  · constructor
    · intro h
      unfold decode at h
      split at h
      · exact absurd rfl hlength
      · cases h
    · rintro ⟨-, h⟩
      exact absurd (unpack_eq_ok_iff.mp h).1 hlength

theorem encode_of_fits {header : Header} (h : header.Fits) :
    header.encode = .ok ([UInt8.ofNat header.version, UInt8.ofNat header.type.code,
      UInt8.ofNat header.seqNo, UInt8.ofNat header.flags] ++ toBigEndian 4 header.sessionId ++
        toBigEndian 4 header.length) := by
  have htype : header.type.code < 256 := by cases header.type <;> decide
  rw [encode, pack_eq_ok_iff]
  constructor
  · simp only [List.forall_mem_cons]
    exact ⟨h.version, htype, h.seqNo, h.flags, h.sessionId, h.length, by simp⟩
  · simp [toBigEndian_one]

/-- What is written for a header is read back, field by field. -/
theorem unpack_encode {header : Header} {raw : Bytes} (h : header.encode = .ok raw) :
    unpack [1, 1, 1, 1, 4, 4] raw = .ok [header.version, header.type.code, header.seqNo, header.flags,
      header.sessionId, header.length] :=
  unpack_of_pack h

/-- Every number that is read fits in the field it is read from. -/
theorem fits_of_decode {raw : Bytes} {header : Header} (h : decode raw = .ok header) : header.Fits := by
  obtain ⟨-, hfields⟩ := decode_eq_ok_iff.mp h
  obtain ⟨-, hvalues⟩ := unpack_eq_ok_iff.mp hfields
  have hlt (width : Nat) (part : Bytes) : bigEndian (part.take width) < 256 ^ width :=
    (bigEndian_lt _).trans_le
      (Nat.pow_le_pow_right (by decide) (List.length_take_le width part))
  simp only [unpackFields, List.cons.injEq] at hvalues
  obtain ⟨hversion, -, hseqNo, hflags, hsession, hsize, -⟩ := hvalues
  exact ⟨hversion ▸ hlt 1 _, hseqNo ▸ hlt 1 _, hflags ▸ hlt 1 _, hsession ▸ hlt 4 _, hsize ▸ hlt 4 _⟩

theorem accepted_of_decode {raw : Bytes} {header : Header} (h : decode raw = .ok header) :
    header.Accepted :=
  (decode_eq_ok_iff.mp h).1

end Header

/-! ### Replies -/

/-- The header of the reply to a request. -/
def replyHeader (request : Header) (body : Bytes) : Header :=
  { request with
    seqNo := request.seqNo + 1
    flags := request.flags &&& flagSingleConnect
    length := body.length }

/-- A request that the connection lets in. -/
structure Admitted (request : Header) : Prop where
  encrypted : request.flags &&& flagUnencrypted = 0
  odd : request.seqNo % 2 = 1

section

variable {raw body : Bytes} {request : Header} (md5 : Md5) (key : Bytes)

theorem fits_replyHeader (hdecode : Header.decode raw = .ok request) (hadmitted : Admitted request)
    (hbody : body.length < 2 ^ 32) : (replyHeader request body).Fits ∧ request.seqNo + 1 ≤ 254 := by
  have hfits := Header.fits_of_decode hdecode
  have hseqNo := hfits.seqNo
  have hlast := (Header.accepted_of_decode hdecode).seqNo
  have hodd := hadmitted.odd
  have hnext : request.seqNo + 1 ≤ 254 := by omega
  refine ⟨⟨hfits.version, by dsimp only [replyHeader]; omega, ?_, hfits.sessionId, hbody⟩, hnext⟩
  exact Nat.and_le_left.trans_lt hfits.flags

/-- A reply is written, and its body is restored with the fields of its header. -/
theorem packet_returns (hdecode : Header.decode raw = .ok request) (hadmitted : Admitted request)
    (hbody : body.length < 2 ^ 32) :
    ∃ head hidden, packet md5 request body key = .ok (head ++ hidden) ∧
      (replyHeader request body).encode = .ok head ∧ head.length = headerLen ∧
        crypt md5 hidden key request.sessionId request.version (request.seqNo + 1) = .ok body := by
  obtain ⟨hfits, hnext⟩ := fits_replyHeader hdecode hadmitted hbody
  have hversion : (UInt8.ofNat request.version).toNat = request.version :=
    Nat.mod_eq_of_lt hfits.version
  have hseqNo : (UInt8.ofNat (request.seqNo + 1)).toNat = request.seqNo + 1 :=
    Nat.mod_eq_of_lt hfits.seqNo
  have hsession : (UInt32.ofNat request.sessionId).toNat = request.sessionId :=
    Nat.mod_eq_of_lt hfits.sessionId
  have hhead := Header.encode_of_fits hfits
  have hcrypt := crypt_eq md5 key (UInt32.ofNat request.sessionId) (UInt8.ofNat request.version)
    (UInt8.ofNat (request.seqNo + 1)) body
  have hrestore := crypt_crypt md5 key _ _ _ hcrypt
  rw [hversion, hseqNo, hsession] at hcrypt hrestore
  refine ⟨_, _, ?_, hhead, by simp [headerLen], hrestore⟩
  change ((replyHeader request body).encode >>= fun head =>
    crypt md5 body key request.sessionId request.version (request.seqNo + 1) >>= fun hidden =>
      pure (head ++ hidden)) = _
  rw [hhead, hcrypt]
  rfl

/-- The server itself would read the header of a reply if its body is not too large. -/
theorem decode_head_iff {head : Bytes} (hdecode : Header.decode raw = .ok request)
    (hadmitted : Admitted request) (hbody : body.length < 2 ^ 32)
    (hhead : (replyHeader request body).encode = .ok head) {header : Header} :
    Header.decode head = .ok header ↔ body.length ≤ maxBodyLen ∧ replyHeader request body = header := by
  have hnext := (fits_replyHeader hdecode hadmitted hbody).2
  have haccepted := Header.accepted_of_decode hdecode
  constructor
  · intro hheader
    obtain ⟨hlength, hfields⟩ := Header.decode_eq_ok_iff.mp hheader
    have hsame := hfields.symm.trans (Header.unpack_encode hhead)
    obtain ⟨hversion, hkind, hseqNo, hflags, hsession, hsize⟩ :
        header.version = request.version ∧ header.type.code = request.type.code ∧
          header.seqNo = request.seqNo + 1 ∧ header.flags = request.flags &&& flagSingleConnect ∧
          header.sessionId = request.sessionId ∧ header.length = body.length := by
      simpa [replyHeader] using hsame
    refine ⟨hsize ▸ hlength.length, ?_⟩
    have htype : header.type = request.type := by
      rw [← Option.some_inj, ← Header.ofCode_eq_some_iff.mpr hkind.symm]
      exact Header.ofCode_eq_some_iff.mpr rfl
    cases header
    simp_all only [replyHeader]
  · rintro ⟨hlength, rfl⟩
    refine Header.decode_eq_ok_iff.mpr ⟨⟨haccepted.version, hlength, ?_⟩, Header.unpack_encode hhead⟩
    dsimp only [replyHeader]
    omega

/-- The reply to every request that is let in is written, its header carries the fields of the request
with the next sequence number, and its body is restored with them; `Header.decode` reads that header
unless the body is too large for it. The obfuscation is the exclusive or with the pad of the RFC, and
every header that is read is written as it was. -/
theorem reply_inverts (hdecode : Header.decode raw = .ok request) (hadmitted : Admitted request)
    (hbody : body.length < 2 ^ 32) :
    (∃ head hidden, packet md5 request body key = .ok (head ++ hidden) ∧ head.length = headerLen ∧
      unpack [1, 1, 1, 1, 4, 4] head = .ok [request.version, request.type.code, request.seqNo + 1,
        request.flags &&& flagSingleConnect, request.sessionId, body.length] ∧
      request.seqNo + 1 ≤ 254 ∧
      (Header.decode head = .ok (replyHeader request body) ↔ body.length ≤ maxBodyLen) ∧
      crypt md5 hidden key request.sessionId request.version (request.seqNo + 1) = .ok body) ∧
    (∀ (key body : Bytes) (sessionId : UInt32) (version seqNo : UInt8), ∃ hidden,
      crypt md5 body key sessionId.toNat version.toNat seqNo.toNat = .ok hidden ∧
      hidden = (body.mapIdx fun index byte => byte ^^^ rfcPad md5 key sessionId version seqNo index) ∧
      hidden.length = body.length ∧
      crypt md5 hidden key sessionId.toNat version.toNat seqNo.toNat = .ok body) ∧
    (∀ raw header, Header.decode raw = .ok header →
      ∃ written, header.encode = .ok written ∧ Header.decode written = .ok header) := by
  refine ⟨?_, fun key body sessionId version seqNo => ?_, fun raw header h => ?_⟩
  · obtain ⟨head, hidden, hpacket, hhead, hlength, hrestore⟩ :=
      packet_returns md5 key hdecode hadmitted hbody
    have hnext := (fits_replyHeader hdecode hadmitted hbody).2
    refine ⟨head, hidden, hpacket, hlength, Header.unpack_encode hhead, hnext, ?_, hrestore⟩
    rw [decode_head_iff hdecode hadmitted hbody hhead, and_iff_left rfl]
  · have hcrypt := crypt_eq md5 key sessionId version seqNo body
    exact ⟨_, hcrypt, rfl, length_of_crypt md5 key _ _ _ hcrypt, crypt_crypt md5 key _ _ _ hcrypt⟩
  · have hwritten := Header.encode_of_fits (Header.fits_of_decode h)
    exact ⟨_, hwritten, Header.decode_eq_ok_iff.mpr
      ⟨Header.accepted_of_decode h, Header.unpack_encode hwritten⟩⟩

end

/-- A hash whose digests are all zero. -/
def zeroMd5 : Md5 where
  digest _ := List.replicate 16 0
  length_digest _ := List.length_replicate

/-- The first packet of session 7, a request for authorization. -/
def firstHeader : Header where
  version := 0xc0
  type := .author
  seqNo := 1
  flags := 0
  sessionId := 7
  length := 0

theorem decode_firstHeader : Header.decode [0xc0, 2, 1, 0, 0, 0, 0, 7, 0, 0, 0, 0] = .ok firstHeader := by
  decide

theorem admitted_firstHeader : Admitted firstHeader :=
  ⟨by decide, by decide⟩

theorem reply_inverts_firstHeader :
    ∃ head hidden, packet zeroMd5 firstHeader [1, 16, 0, 0, 0, 0] [] = .ok (head ++ hidden) ∧
      Header.decode head = .ok (replyHeader firstHeader [1, 16, 0, 0, 0, 0]) := by
  have hbody : ([1, 16, 0, 0, 0, 0] : Bytes).length < 2 ^ 32 := by decide
  obtain ⟨⟨head, hidden, hpacket, -, -, -, hhead, -⟩, -, -⟩ :=
    reply_inverts zeroMd5 [] decode_firstHeader admitted_firstHeader hbody
  exact ⟨head, hidden, hpacket, hhead.mpr (by decide)⟩

/-- A reply that is larger than what `Header.decode` lets in is written all the same. -/
theorem large_reply_unread :
    Header.decode [0xc0, 2, 1, 0, 0, 0, 0, 7, 0, 0, 0, 0] = .ok firstHeader ∧ Admitted firstHeader ∧
      (List.replicate 65537 (0 : UInt8)).length < 2 ^ 32 ∧
      ∃ sent, packet zeroMd5 firstHeader (List.replicate 65537 0) [] = .ok sent ∧
        ∀ header, Header.decode (sent.take headerLen) ≠ .ok header := by
  have hbody : (List.replicate 65537 (0 : UInt8)).length < 2 ^ 32 := by
    rw [List.length_replicate]
    decide
  obtain ⟨head, hidden, hpacket, hhead, hlength, -⟩ :=
    packet_returns zeroMd5 [] decode_firstHeader admitted_firstHeader hbody
  refine ⟨decode_firstHeader, admitted_firstHeader, hbody, _, hpacket, fun header hheader => ?_⟩
  rw [List.take_left' hlength, decode_head_iff decode_firstHeader admitted_firstHeader hbody hhead,
    List.length_replicate] at hheader
  exact absurd hheader.1 (by decide)

end Naco.Tacacs
