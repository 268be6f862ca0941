import Naco.Lib.Utf8
import Naco.Tacacs.Protocol
import Mathlib.Data.List.SplitLengths

/-!
# Bodies of TACACS+ packets

A body is a fixed part that declares lengths, and the parts that have them. Each layout is described
once, by its parts; the decoder and the client's encoder are both compared with that description.
-/

namespace Naco.Tacacs

open Py

/-! ### Reading -/

namespace Reader

variable {α β : Type}

theorem bind_eq_ok_iff {reader : Reader α} {next : α → Reader β} {data rest : Bytes} {value : β} :
    (reader >>= next) data = .ok (value, rest) ↔
      ∃ read middle, reader data = .ok (read, middle) ∧ next read middle = .ok (value, rest) := by
  change (reader data >>= fun result => next result.1 result.2) = _ ↔ _
  rw [Py.bind_eq_ok_iff]
  exact ⟨fun ⟨⟨read, middle⟩, h⟩ => ⟨read, middle, h⟩, fun ⟨read, middle, h⟩ => ⟨⟨read, middle⟩, h⟩⟩

theorem pure_eq_ok_iff {data rest : Bytes} {value result : α} :
    (pure value : Reader α) data = .ok (result, rest) ↔ value = result ∧ data = rest := by
  change Except.ok (value, data) = _ ↔ _
  simp

theorem run'_eq_ok_iff {reader : Reader α} {data : Bytes} {value : α} :
    reader.run' data = .ok value ↔ ∃ rest, reader data = .ok (value, rest) := by
  change ((·.1) <$> reader data) = _ ↔ _
  cases reader data with
  | error fault => simp
  | ok result =>
      obtain ⟨read, rest⟩ := result
      simp

theorem take_eq_ok_iff {count : Nat} {data front rest : Bytes} :
    take count data = .ok (front, rest) ↔ data = front ++ rest ∧ front.length = count := by
  unfold take
  split
  · next hshort =>
      refine ⟨nofun, ?_⟩
      rintro ⟨rfl, hfront⟩
      rw [List.length_append] at hshort
      omega
  · next hlong =>
      constructor
      · intro h
        cases h
        exact ⟨(List.take_append_drop count data).symm, List.length_take_of_le (by omega)⟩
      · rintro ⟨rfl, rfl⟩
        rw [List.take_left, List.drop_left]

theorem unpack_eq_ok_iff {widths values : List Nat} {data rest : Bytes} :
    unpack widths data = .ok (values, rest) ↔
      ∃ raw, data = raw ++ rest ∧ raw.length = widths.sum ∧ unpackFields widths raw = values := by
  unfold unpack
  rw [bind_eq_ok_iff]
  simp only [take_eq_ok_iff]
  constructor
  · rintro ⟨raw, middle, ⟨hdata, hlength⟩, h⟩
    rw [Py.unpack, if_pos hlength] at h
    obtain ⟨hvalues, rfl⟩ := pure_eq_ok_iff.mp h
    exact ⟨raw, hdata, hlength, hvalues⟩
  · rintro ⟨raw, hdata, hlength, hvalues⟩
    refine ⟨raw, rest, ⟨hdata, hlength⟩, ?_⟩
    rw [Py.unpack, if_pos hlength]
    exact pure_eq_ok_iff.mpr ⟨hvalues, rfl⟩

theorem unpackFields_bytes (raw : Bytes) :
    unpackFields (List.replicate raw.length 1) raw = raw.map UInt8.toNat := by
  induction raw with
  | nil => rfl
  | cons byte raw ih =>
      rw [List.length_cons, List.replicate_succ, unpackFields, List.map_cons]
      change bigEndian [byte] :: _ = _
      rw [bigEndian_singleton]
      exact congrArg _ ih

/-- `unpack` of bytes. -/
theorem unpack_bytes_eq_ok_iff (count : Nat) {values : List Nat} {data rest : Bytes} :
    unpack (List.replicate count 1) data = .ok (values, rest) ↔
      ∃ raw, data = raw ++ rest ∧ raw.length = count ∧ raw.map UInt8.toNat = values := by
  rw [unpack_eq_ok_iff, List.sum_replicate_nat, Nat.mul_one]
  constructor <;> rintro ⟨raw, hdata, rfl, hvalues⟩
  · exact ⟨raw, hdata, rfl, (unpackFields_bytes raw).symm.trans hvalues⟩
  · exact ⟨raw, hdata, rfl, (unpackFields_bytes raw).trans hvalues⟩

theorem text_eq_ok_iff {count : Nat} {data rest : Bytes} {result : String} :
    text count data = .ok (result, rest) ↔
      ∃ raw, data = raw ++ rest ∧ raw.length = count ∧ decodeReplace raw = result := by
  unfold text
  rw [bind_eq_ok_iff]
  simp only [take_eq_ok_iff, pure_eq_ok_iff]
  constructor
  · rintro ⟨raw, _, ⟨hdata, hlength⟩, htext, rfl⟩
    exact ⟨raw, hdata, hlength, htext⟩
  · rintro ⟨raw, hdata, hlength, htext⟩
    exact ⟨raw, rest, ⟨hdata, hlength⟩, htext, rfl⟩

/-- The texts of these lengths, one after the other. -/
theorem mapM_text_eq_ok_iff {lengths : List Nat} {data rest : Bytes} {results : List String} :
    (lengths.mapM text) data = .ok (results, rest) ↔
      ∃ pieces : List Bytes, data = pieces.flatten ++ rest ∧ pieces.map List.length = lengths ∧
        pieces.map decodeReplace = results := by
  induction lengths generalizing data results with
  | nil =>
      rw [List.mapM_nil, pure_eq_ok_iff]
      constructor
      · rintro ⟨rfl, rfl⟩
        exact ⟨[], rfl, rfl, rfl⟩
      · rintro ⟨pieces, rfl, hlengths, rfl⟩
        obtain rfl := List.map_eq_nil_iff.mp hlengths
        exact ⟨rfl, rfl⟩
  | cons length lengths ih =>
      rw [List.mapM_cons, bind_eq_ok_iff]
      constructor
      · rintro ⟨_, _, htext, hrest⟩
        obtain ⟨_, _, htexts, hpure⟩ := bind_eq_ok_iff.mp hrest
        obtain ⟨raw, rfl, rfl, rfl⟩ := text_eq_ok_iff.mp htext
        obtain ⟨rfl, rfl⟩ := pure_eq_ok_iff.mp hpure
        obtain ⟨pieces, rfl, rfl, rfl⟩ := ih.mp htexts
        exact ⟨raw :: pieces, by simp, rfl, rfl⟩
      · rintro ⟨pieces, rfl, hlengths, rfl⟩
        obtain ⟨raw, pieces, rfl, rfl, rfl⟩ := List.map_eq_cons_iff.mp hlengths
        refine ⟨_, pieces.flatten ++ rest, text_eq_ok_iff.mpr ⟨raw, by simp, rfl, rfl⟩, ?_⟩
        exact bind_eq_ok_iff.mpr ⟨_, _, ih.mpr ⟨pieces, rfl, rfl, rfl⟩, pure_eq_ok_iff.mpr ⟨rfl, rfl⟩⟩

theorem done_eq_ok_iff {data rest : Bytes} : done data = .ok ((), rest) ↔ data = [] ∧ rest = [] := by
  unfold done
  split
  · next h => simp [h, eq_comm]
  · next h => simp [h]

theorem check_eq_ok_iff {ok : Bool} {message : ProtocolError} {data rest : Bytes} :
    check ok message data = .ok ((), rest) ↔ ok = true ∧ data = rest := by
  unfold check
  split
  · next h => simp [h]
  · next h => simp [h]

/-! A reader that ends with no other exception than a `ProtocolError`. -/

def OnlyProtocol (reader : Reader α) : Prop :=
  ∀ data fault, reader data = .error fault → ∃ message, fault = .protocol message

theorem onlyProtocol_bind {reader : Reader α} {next : α → Reader β} (h : OnlyProtocol reader)
    (hnext : ∀ data value rest, reader data = .ok (value, rest) → OnlyProtocol (next value)) :
    OnlyProtocol (reader >>= next) := by
  intro data fault hfault
  change (reader data >>= fun result => next result.1 result.2) = _ at hfault
  cases hread : reader data with
  | error error =>
      rw [hread] at hfault
      cases hfault
      exact h data _ hread
  | ok result =>
      rw [hread] at hfault
      exact hnext data result.1 result.2 hread result.2 fault hfault

theorem onlyProtocol_pure (value : α) : OnlyProtocol (pure value : Reader α) := by
  intro data fault hfault
  cases hfault

theorem onlyProtocol_take (count : Nat) : OnlyProtocol (take count) := by
  intro data fault hfault
  unfold take at hfault
  split at hfault
  · cases hfault
    exact ⟨_, rfl⟩
  · cases hfault

theorem onlyProtocol_unpack (widths : List Nat) : OnlyProtocol (unpack widths) := by
  refine onlyProtocol_bind (onlyProtocol_take _) fun data raw rest htake => ?_
  obtain ⟨-, hlength⟩ := take_eq_ok_iff.mp htake
  rw [Py.unpack, if_pos hlength]
  exact onlyProtocol_pure _

theorem onlyProtocol_text (count : Nat) : OnlyProtocol (text count) :=
  onlyProtocol_bind (onlyProtocol_take count) fun _ _ _ _ => onlyProtocol_pure _

theorem onlyProtocol_mapM_text (lengths : List Nat) : OnlyProtocol (lengths.mapM text) := by
  induction lengths with
  | nil => exact onlyProtocol_pure _
  | cons length lengths ih =>
      rw [List.mapM_cons]
      exact onlyProtocol_bind (onlyProtocol_text length) fun _ _ _ _ =>
        onlyProtocol_bind ih fun _ _ _ _ => onlyProtocol_pure _

theorem onlyProtocol_done : OnlyProtocol done := by
  intro data fault hfault
  unfold done at hfault
  split at hfault
  · cases hfault
  · cases hfault
    exact ⟨_, rfl⟩

theorem onlyProtocol_check (ok : Bool) (message : ProtocolError) : OnlyProtocol (check ok message) := by
  intro data fault hfault
  unfold check at hfault
  split at hfault
  · cases hfault
  · cases hfault
    exact ⟨_, rfl⟩

theorem onlyProtocol_run' {reader : Reader α} (h : OnlyProtocol reader) {data : Bytes} {fault : Fault}
    (hfault : reader.run' data = .error fault) : ∃ message, fault = .protocol message := by
  change ((·.1) <$> reader data) = _ at hfault
  cases hread : reader data with
  | error error =>
      rw [hread] at hfault
      cases hfault
      exact h data fault hread
  | ok result =>
      rw [hread] at hfault
      cases hfault

end Reader

/-! ### Exact codecs -/

/-- A decoder and an encoder that agree on the bodies `Accepts` describes and on the values that `Fits`
describes. Texts that are not UTF-8 are read with replacement characters, and cannot be restored. -/
structure ExactCodec {α : Type} (decode : Bytes → Except Fault α) (encode : α → Except Error Bytes)
    (Accepts : Bytes → Prop) (Fits : α → Prop) (Restorable : Bytes → Prop) : Prop where
  faults : ∀ body fault, decode body = .error fault → ∃ message, fault = .protocol message
  accepts : ∀ body, Returns (decode body) ↔ Accepts body
  decode_encode : ∀ value, Fits value → ∃ body, encode value = .ok body ∧ decode body = .ok value
  encode_decode : ∀ body value, decode body = .ok value → Restorable body → encode value = .ok body

/-- The byte at a position of a body. -/
def byteAt (body : Bytes) (index : Nat) : Nat :=
  (body.getD index 0).toNat

theorem byteAt_append_right {front rest : Bytes} {start index : Nat} (hstart : front.length = start) :
    byteAt (front ++ rest) (start + index) = byteAt rest index := by
  rw [byteAt, List.getD_append_right _ _ _ _ (by omega), hstart, Nat.add_sub_cancel_left, byteAt]

theorem byteAt_append_left {front rest : Bytes} {index : Nat} (hindex : index < front.length) :
    byteAt (front ++ rest) index = byteAt front index := by
  rw [byteAt, List.getD_append _ _ _ _ hindex, byteAt]

theorem splitLengths_flatten (pieces : List Bytes) (rest : Bytes) :
    (pieces.map List.length).splitLengths (pieces.flatten ++ rest) = pieces := by
  induction pieces generalizing rest with
  | nil => rfl
  | cons piece pieces ih =>
      rw [List.map_cons, List.splitLengths_cons, List.flatten_cons, List.append_assoc, List.take_left,
        List.drop_left, ih]

/-- Bytes of these lengths, one after the other. -/
theorem exists_pieces {lengths : List Nat} {raw : Bytes} (h : raw.length = lengths.sum) :
    ∃ pieces : List Bytes, pieces.flatten = raw ∧ pieces.map List.length = lengths :=
  ⟨lengths.splitLengths raw, List.flatten_splitLengths _ _ h.le, List.map_splitLengths_length _ _ h.ge⟩

theorem exists_head {count : Nat} {body : Bytes} (h : count ≤ body.length) :
    ∃ head rest, body = head ++ rest ∧ head.length = count :=
  ⟨body.take count, body.drop count, (List.take_append_drop count body).symm, List.length_take_of_le h⟩

theorem pack_bytes {values : List UInt8} :
    pack (values.map fun value => (1, value.toNat)) = .ok values := by
  rw [pack_eq_ok_iff]
  constructor
  · intro field hfield
    obtain ⟨value, -, rfl⟩ := List.mem_map.mp hfield
    exact value.toNat_lt
  · rw [List.flatMap_map]
    simp [toBigEndian_one]

/-! ### START -/

/-- The parts of a START. -/
structure StartParts where
  action : UInt8
  privLvl : UInt8
  authenType : UInt8
  authenService : UInt8
  user : Bytes
  port : Bytes
  remAddr : Bytes
  data : Bytes
  short : ∀ part ∈ [user, port, remAddr, data], part.length < 256

namespace StartParts

def lengths (parts : StartParts) : Bytes :=
  [parts.user, parts.port, parts.remAddr, parts.data].map fun part => UInt8.ofNat part.length

def body (parts : StartParts) : Bytes :=
  [parts.action, parts.privLvl, parts.authenType, parts.authenService] ++ parts.lengths ++
    parts.user ++ parts.port ++ parts.remAddr ++ parts.data

def value (parts : StartParts) : AuthenStart where
  action := parts.action.toNat
  privLvl := parts.privLvl.toNat
  authenType := parts.authenType.toNat
  authenService := parts.authenService.toNat
  user := decodeReplace parts.user
  port := decodeReplace parts.port
  remAddr := decodeReplace parts.remAddr
  data := parts.data

end StartParts

/-- A length that was declared for a part. -/
theorem ofNat_length_of_eq {part : Bytes} {length : UInt8} (h : part.length = length.toNat) :
    UInt8.ofNat part.length = length := by
  rw [h, UInt8.ofNat_toNat]

theorem toNat_ofNat_length {part : Bytes} (h : part.length < 256) :
    (UInt8.ofNat part.length).toNat = part.length :=
  Nat.mod_eq_of_lt h

theorem AuthenStart.decode_eq_ok_iff {body : Bytes} {start : AuthenStart} :
    AuthenStart.decode body = .ok start ↔
      ∃ parts : StartParts, parts.body = body ∧ parts.value = start ∧ parts.privLvl.toNat ≤ 15 := by
  rw [AuthenStart.decode, Reader.run'_eq_ok_iff]
  unfold AuthenStart.read
  constructor
  · rintro ⟨rest, h⟩
    obtain ⟨_, _, hhead, h⟩ := Reader.bind_eq_ok_iff.mp h
    obtain ⟨head, rfl, hlength, rfl⟩ := (Reader.unpack_bytes_eq_ok_iff 8).mp hhead
    match head, hlength with
    | [action, privLvl, authenType, authenService, userLen, portLen, remLen, dataLen], _ =>
      dsimp only [List.map] at h
      obtain ⟨_, _, huser, h⟩ := Reader.bind_eq_ok_iff.mp h
      obtain ⟨_, _, hport, h⟩ := Reader.bind_eq_ok_iff.mp h
      obtain ⟨_, _, hrem, h⟩ := Reader.bind_eq_ok_iff.mp h
      obtain ⟨data, _, hdata, h⟩ := Reader.bind_eq_ok_iff.mp h
      obtain ⟨_, _, hdone, h⟩ := Reader.bind_eq_ok_iff.mp h
      obtain ⟨_, _, hcheck, h⟩ := Reader.bind_eq_ok_iff.mp h
      obtain ⟨user, rfl, huserLen, rfl⟩ := Reader.text_eq_ok_iff.mp huser
      obtain ⟨port, rfl, hportLen, rfl⟩ := Reader.text_eq_ok_iff.mp hport
      obtain ⟨remAddr, rfl, hremLen, rfl⟩ := Reader.text_eq_ok_iff.mp hrem
      obtain ⟨rfl, hdataLen⟩ := Reader.take_eq_ok_iff.mp hdata
      obtain ⟨rfl, rfl⟩ := Reader.done_eq_ok_iff.mp hdone
      obtain ⟨hprivLvl, rfl⟩ := Reader.check_eq_ok_iff.mp hcheck
      obtain ⟨rfl, rfl⟩ := Reader.pure_eq_ok_iff.mp h
      have hshort : ∀ part ∈ [user, port, remAddr, data], part.length < 256 := by
        simp only [List.forall_mem_cons, huserLen, hportLen, hremLen, hdataLen]
        exact ⟨userLen.toNat_lt, portLen.toNat_lt, remLen.toNat_lt, dataLen.toNat_lt, by simp⟩
      refine ⟨⟨action, privLvl, authenType, authenService, user, port, remAddr, data, hshort⟩, ?_, rfl,
        of_decide_eq_true hprivLvl⟩
      simp [StartParts.body, StartParts.lengths, ofNat_length_of_eq huserLen,
        ofNat_length_of_eq hportLen, ofNat_length_of_eq hremLen, ofNat_length_of_eq hdataLen]
  · rintro ⟨parts, rfl, rfl, hprivLvl⟩
    have hshort := parts.short
    simp only [List.forall_mem_cons] at hshort
    obtain ⟨huser, hport, hrem, hdata, -⟩ := hshort
    have hbody : parts.body = ([parts.action, parts.privLvl, parts.authenType, parts.authenService] ++
        parts.lengths) ++ (parts.user ++ (parts.port ++ (parts.remAddr ++ (parts.data ++ [])))) := by
      simp [StartParts.body]
    refine ⟨[], Reader.bind_eq_ok_iff.mpr ⟨_, _,
      (Reader.unpack_bytes_eq_ok_iff 8).mpr ⟨_, hbody, rfl, rfl⟩, ?_⟩⟩
    dsimp only [StartParts.lengths, List.map, List.cons_append, List.nil_append]
    refine Reader.bind_eq_ok_iff.mpr ⟨_, _, Reader.text_eq_ok_iff.mpr
      ⟨_, rfl, (toNat_ofNat_length huser).symm, rfl⟩, ?_⟩
    refine Reader.bind_eq_ok_iff.mpr ⟨_, _, Reader.text_eq_ok_iff.mpr
      ⟨_, rfl, (toNat_ofNat_length hport).symm, rfl⟩, ?_⟩
    refine Reader.bind_eq_ok_iff.mpr ⟨_, _, Reader.text_eq_ok_iff.mpr
      ⟨_, rfl, (toNat_ofNat_length hrem).symm, rfl⟩, ?_⟩
    refine Reader.bind_eq_ok_iff.mpr ⟨_, _, Reader.take_eq_ok_iff.mpr
      ⟨rfl, (toNat_ofNat_length hdata).symm⟩, ?_⟩
    refine Reader.bind_eq_ok_iff.mpr ⟨_, _, Reader.done_eq_ok_iff.mpr ⟨rfl, rfl⟩, ?_⟩
    refine Reader.bind_eq_ok_iff.mpr ⟨_, _, Reader.check_eq_ok_iff.mpr
      ⟨decide_eq_true hprivLvl, rfl⟩, ?_⟩
    exact Reader.pure_eq_ok_iff.mpr ⟨rfl, rfl⟩

/-- The length of a START is the one that it declares, and its level is one of the sixteen. -/
def AuthenStart.Accepts (body : Bytes) : Prop :=
  body.length = 8 + byteAt body 4 + byteAt body 5 + byteAt body 6 + byteAt body 7 ∧ byteAt body 1 ≤ 15

theorem AuthenStart.returns_decode_iff (body : Bytes) :
    Returns (AuthenStart.decode body) ↔ AuthenStart.Accepts body := by
  constructor
  · rintro ⟨start, h⟩
    obtain ⟨parts, rfl, -, hprivLvl⟩ := AuthenStart.decode_eq_ok_iff.mp h
    have hshort := parts.short
    simp only [List.forall_mem_cons] at hshort
    obtain ⟨huser, hport, hrem, hdata, -⟩ := hshort
    refine ⟨?_, hprivLvl⟩
    change _ = 8 + (UInt8.ofNat parts.user.length).toNat + (UInt8.ofNat parts.port.length).toNat +
      (UInt8.ofNat parts.remAddr.length).toNat + (UInt8.ofNat parts.data.length).toNat
    rw [toNat_ofNat_length huser, toNat_ofNat_length hport, toNat_ofNat_length hrem,
      toNat_ofNat_length hdata]
    simp [StartParts.body, StartParts.lengths]
    omega
  · rintro ⟨hlength, hprivLvl⟩
    obtain ⟨head, rest, rfl, hhead⟩ := exists_head (by omega : 8 ≤ body.length)
    match head, hhead with
    | [action, privLvl, authenType, authenService, userLen, portLen, remLen, dataLen], _ =>
      have hrest : rest.length =
          [userLen.toNat, portLen.toNat, remLen.toNat, dataLen.toNat].sum := by
        simp [byteAt] at hlength
        simp
        omega
      obtain ⟨pieces, rfl, hpieces⟩ := exists_pieces hrest
      have hcount : pieces.length = 4 := by simpa using congrArg List.length hpieces
      match pieces, hcount with
      | [user, port, remAddr, data], _ =>
        simp only [List.map_cons, List.cons.injEq] at hpieces
        obtain ⟨huserLen, hportLen, hremLen, hdataLen, -⟩ := hpieces
        have hshort : ∀ part ∈ [user, port, remAddr, data], part.length < 256 := by
          simp only [List.forall_mem_cons, huserLen, hportLen, hremLen, hdataLen]
          exact ⟨userLen.toNat_lt, portLen.toNat_lt, remLen.toNat_lt, dataLen.toNat_lt, by simp⟩
        refine ⟨_, AuthenStart.decode_eq_ok_iff.mpr
          ⟨⟨action, privLvl, authenType, authenService, user, port, remAddr, data, hshort⟩, ?_, rfl,
            hprivLvl⟩⟩
        simp [StartParts.body, StartParts.lengths, ofNat_length_of_eq huserLen,
          ofNat_length_of_eq hportLen, ofNat_length_of_eq hremLen, ofNat_length_of_eq hdataLen]

theorem AuthenStart.onlyProtocol_read : AuthenStart.read.OnlyProtocol := by
  refine Reader.onlyProtocol_bind (Reader.onlyProtocol_unpack _) fun _ values _ hread => ?_
  obtain ⟨head, -, hlength, rfl⟩ := (Reader.unpack_bytes_eq_ok_iff 8).mp hread
  match head, hlength with
  | [_, _, _, _, _, _, _, _], _ =>
    refine Reader.onlyProtocol_bind (Reader.onlyProtocol_text _) fun _ _ _ _ => ?_
    refine Reader.onlyProtocol_bind (Reader.onlyProtocol_text _) fun _ _ _ _ => ?_
    refine Reader.onlyProtocol_bind (Reader.onlyProtocol_text _) fun _ _ _ _ => ?_
    refine Reader.onlyProtocol_bind (Reader.onlyProtocol_take _) fun _ _ _ _ => ?_
    refine Reader.onlyProtocol_bind Reader.onlyProtocol_done fun _ _ _ _ => ?_
    refine Reader.onlyProtocol_bind (Reader.onlyProtocol_check _ _) fun _ _ _ _ => ?_
    exact Reader.onlyProtocol_pure _

/-- The client's START with these fields. -/
def AuthenStart.encode (start : AuthenStart) : Except Error Bytes :=
  Client.authenStart start.action start.privLvl start.authenType start.authenService start.user
    start.port start.remAddr start.data

/-- The fields have room in the layout. -/
structure AuthenStart.Fits (start : AuthenStart) : Prop where
  action : start.action < 256
  privLvl : start.privLvl ≤ 15
  authenType : start.authenType < 256
  authenService : start.authenService < 256
  user : (Py.encode start.user).length < 256
  port : (Py.encode start.port).length < 256
  remAddr : (Py.encode start.remAddr).length < 256
  data : start.data.length < 256

/-- The three texts of a START. -/
def AuthenStart.texts (body : Bytes) : List Bytes :=
  [byteAt body 4, byteAt body 5, byteAt body 6].splitLengths (body.drop 8)

/-- Parts whose texts are UTF-8 are written as they are. -/
theorem StartParts.encode_value {parts : StartParts}
    (hutf8 : ∀ text ∈ [parts.user, parts.port, parts.remAddr], IsUtf8 text) :
    parts.value.encode = .ok parts.body := by
  simp only [List.forall_mem_cons] at hutf8
  obtain ⟨huser, hport, hrem, -⟩ := hutf8
  have hshort := parts.short
  simp only [List.forall_mem_cons] at hshort
  obtain ⟨huserLen, hportLen, hremLen, hdataLen, -⟩ := hshort
  have hhead : pack [(1, parts.action.toNat), (1, parts.privLvl.toNat), (1, parts.authenType.toNat),
      (1, parts.authenService.toNat), (1, parts.user.length), (1, parts.port.length),
      (1, parts.remAddr.length), (1, parts.data.length)] =
      .ok ([parts.action, parts.privLvl, parts.authenType, parts.authenService] ++ parts.lengths) := by
    rw [← pack_bytes]
    simp [StartParts.lengths, Nat.mod_eq_of_lt, huserLen, hportLen, hremLen, hdataLen]
  simp only [AuthenStart.encode, Client.authenStart, StartParts.value, encode_decodeReplace huser,
    encode_decodeReplace hport, encode_decodeReplace hrem]
  rw [hhead]
  rfl

theorem AuthenStart.texts_body (parts : StartParts) :
    AuthenStart.texts parts.body = [parts.user, parts.port, parts.remAddr] := by
  have hshort := parts.short
  simp only [List.forall_mem_cons] at hshort
  obtain ⟨huser, hport, hrem, hdata, -⟩ := hshort
  have hdrop : parts.body.drop 8 =
      [parts.user, parts.port, parts.remAddr].flatten ++ parts.data := by
    simp [StartParts.body, StartParts.lengths]
  rw [AuthenStart.texts, hdrop]
  change List.splitLengths [(UInt8.ofNat parts.user.length).toNat, (UInt8.ofNat parts.port.length).toNat,
    (UInt8.ofNat parts.remAddr.length).toNat] _ = _
  rw [toNat_ofNat_length huser, toNat_ofNat_length hport, toNat_ofNat_length hrem]
  exact splitLengths_flatten [parts.user, parts.port, parts.remAddr] parts.data

theorem AuthenStart.exactCodec : ExactCodec AuthenStart.decode AuthenStart.encode AuthenStart.Accepts
    AuthenStart.Fits fun body => ∀ text ∈ AuthenStart.texts body, IsUtf8 text where
  faults _ _ := Reader.onlyProtocol_run' AuthenStart.onlyProtocol_read
  accepts := AuthenStart.returns_decode_iff
  decode_encode start hfits := by
    let parts : StartParts :=
      { action := UInt8.ofNat start.action
        privLvl := UInt8.ofNat start.privLvl
        authenType := UInt8.ofNat start.authenType
        authenService := UInt8.ofNat start.authenService
        user := Py.encode start.user
        port := Py.encode start.port
        remAddr := Py.encode start.remAddr
        data := start.data
        short := by simp [hfits.user, hfits.port, hfits.remAddr, hfits.data] }
    have hprivLvl : start.privLvl < 256 := by
      have hlevel := hfits.privLvl
      omega
    have hvalue : parts.value = start := by
      simp only [StartParts.value, parts, decodeReplace_encode]
      congr 1
      · exact Nat.mod_eq_of_lt hfits.action
      · exact Nat.mod_eq_of_lt hprivLvl
      · exact Nat.mod_eq_of_lt hfits.authenType
      · exact Nat.mod_eq_of_lt hfits.authenService
    have hutf8 : ∀ text ∈ [parts.user, parts.port, parts.remAddr], IsUtf8 text := by
      simp only [List.forall_mem_cons]
      exact ⟨⟨_, rfl⟩, ⟨_, rfl⟩, ⟨_, rfl⟩, by simp⟩
    refine ⟨parts.body, hvalue ▸ parts.encode_value hutf8, ?_⟩
    refine AuthenStart.decode_eq_ok_iff.mpr ⟨parts, rfl, hvalue, ?_⟩
    exact (Nat.mod_eq_of_lt hprivLvl).trans_le hfits.privLvl
  encode_decode body start hdecode hutf8 := by
    obtain ⟨parts, rfl, rfl, -⟩ := AuthenStart.decode_eq_ok_iff.mp hdecode
    rw [AuthenStart.texts_body] at hutf8
    exact parts.encode_value hutf8

/-! ### CONTINUE -/

/-- The parts of a CONTINUE. -/
structure ContinueParts where
  flags : UInt8
  userMsg : Bytes
  data : Bytes
  short : ∀ part ∈ [userMsg, data], part.length < 256 ^ 2

namespace ContinueParts

def head (parts : ContinueParts) : Bytes :=
  toBigEndian 2 parts.userMsg.length ++ toBigEndian 2 parts.data.length ++ [parts.flags]

def body (parts : ContinueParts) : Bytes :=
  parts.head ++ parts.userMsg ++ parts.data

def value (parts : ContinueParts) : AuthenContinue where
  userMsg := decodeReplace parts.userMsg
  data := parts.data
  abort := parts.flags.toNat &&& continueFlagAbort ≠ 0

theorem length_head (parts : ContinueParts) : parts.head.length = 5 := by
  simp [head]

theorem short_userMsg (parts : ContinueParts) : parts.userMsg.length < 256 ^ 2 :=
  parts.short _ (by simp)

theorem short_data (parts : ContinueParts) : parts.data.length < 256 ^ 2 :=
  parts.short _ (by simp)

theorem pack_head (parts : ContinueParts) :
    pack [(2, parts.userMsg.length), (2, parts.data.length), (1, parts.flags.toNat)] =
      .ok parts.head := by
  rw [pack_eq_ok_iff]
  simp only [List.forall_mem_cons]
  refine ⟨⟨parts.short_userMsg, parts.short_data, parts.flags.toNat_lt, by simp⟩, ?_⟩
  simp [head, toBigEndian_one]

theorem unpackFields_head (parts : ContinueParts) :
    unpackFields [2, 2, 1] parts.head =
      [parts.userMsg.length, parts.data.length, parts.flags.toNat] :=
  (unpack_eq_ok_iff.mp (unpack_of_pack parts.pack_head)).2

end ContinueParts

/-- Two bytes that declare the length of a part. -/
theorem toBigEndian_length_of_eq {part : Bytes} {high low : UInt8}
    (h : part.length = bigEndian [high, low]) : toBigEndian 2 part.length = [high, low] := by
  rw [h]
  exact toBigEndian_bigEndian [high, low]

/-- The CONTINUE with the fields that five bytes hold. -/
theorem exists_continueParts {head userMsg data : Bytes} (hhead : head.length = 5)
    (huserMsg : userMsg.length = bigEndian (head.take 2))
    (hdata : data.length = bigEndian ((head.drop 2).take 2)) :
    ∃ parts : ContinueParts, parts.head = head ∧ parts.userMsg = userMsg ∧ parts.data = data := by
  match head, hhead with
  | [m0, m1, d0, d1, flags], _ =>
    have huserMsg' : userMsg.length = bigEndian [m0, m1] := huserMsg
    have hdata' : data.length = bigEndian [d0, d1] := hdata
    have hshort : ∀ part ∈ [userMsg, data], part.length < 256 ^ 2 := by
      simp only [List.forall_mem_cons]
      exact ⟨huserMsg' ▸ bigEndian_lt [m0, m1], hdata' ▸ bigEndian_lt [d0, d1], by simp⟩
    refine ⟨⟨flags, userMsg, data, hshort⟩, ?_, rfl, rfl⟩
    rw [ContinueParts.head, toBigEndian_length_of_eq huserMsg', toBigEndian_length_of_eq hdata']
    rfl

theorem AuthenContinue.decode_eq_ok_iff {body : Bytes} {cont : AuthenContinue} :
    AuthenContinue.decode body = .ok cont ↔
      ∃ parts : ContinueParts, parts.body = body ∧ parts.value = cont := by
  rw [AuthenContinue.decode, Reader.run'_eq_ok_iff]
  unfold AuthenContinue.read
  constructor
  · rintro ⟨rest, h⟩
    obtain ⟨_, _, hhead, h⟩ := Reader.bind_eq_ok_iff.mp h
    obtain ⟨head, rfl, hlength, rfl⟩ := Reader.unpack_eq_ok_iff.mp hhead
    dsimp only [unpackFields] at h
    obtain ⟨_, _, huserMsg, h⟩ := Reader.bind_eq_ok_iff.mp h
    obtain ⟨data, _, hdata, h⟩ := Reader.bind_eq_ok_iff.mp h
    obtain ⟨_, _, hdone, h⟩ := Reader.bind_eq_ok_iff.mp h
    obtain ⟨userMsg, rfl, hmsgLen, rfl⟩ := Reader.text_eq_ok_iff.mp huserMsg
    obtain ⟨rfl, hdataLen⟩ := Reader.take_eq_ok_iff.mp hdata
    obtain ⟨rfl, rfl⟩ := Reader.done_eq_ok_iff.mp hdone
    obtain ⟨rfl, rfl⟩ := Reader.pure_eq_ok_iff.mp h
    obtain ⟨parts, rfl, rfl, rfl⟩ := exists_continueParts hlength hmsgLen hdataLen
    refine ⟨parts, by simp [ContinueParts.body], ?_⟩
    have hflags := parts.unpackFields_head
    simp only [unpackFields, List.cons.injEq] at hflags
    rw [hflags.2.2.1]
    rfl
  · rintro ⟨parts, rfl, rfl⟩
    have hbody : parts.body = parts.head ++ (parts.userMsg ++ (parts.data ++ [])) := by
      simp [ContinueParts.body]
    refine ⟨[], Reader.bind_eq_ok_iff.mpr ⟨_, _, Reader.unpack_eq_ok_iff.mpr
      ⟨_, hbody, parts.length_head, parts.unpackFields_head⟩, ?_⟩⟩
    dsimp only
    refine Reader.bind_eq_ok_iff.mpr ⟨_, _, Reader.text_eq_ok_iff.mpr ⟨_, rfl, rfl, rfl⟩, ?_⟩
    refine Reader.bind_eq_ok_iff.mpr ⟨_, _, Reader.take_eq_ok_iff.mpr ⟨rfl, rfl⟩, ?_⟩
    refine Reader.bind_eq_ok_iff.mpr ⟨_, _, Reader.done_eq_ok_iff.mpr ⟨rfl, rfl⟩, ?_⟩
    exact Reader.pure_eq_ok_iff.mpr ⟨rfl, rfl⟩

def AuthenContinue.Accepts (body : Bytes) : Prop :=
  body.length = 5 + (byteAt body 0 * 256 + byteAt body 1) + (byteAt body 2 * 256 + byteAt body 3)

theorem AuthenContinue.returns_decode_iff (body : Bytes) :
    Returns (AuthenContinue.decode body) ↔ AuthenContinue.Accepts body := by
  constructor
  · rintro ⟨cont, h⟩
    obtain ⟨parts, rfl, -⟩ := AuthenContinue.decode_eq_ok_iff.mp h
    have hmsgLen := parts.short_userMsg
    have hdataLen := parts.short_data
    have hbody : parts.body = [UInt8.ofNat (parts.userMsg.length / 256 % 256),
        UInt8.ofNat (parts.userMsg.length % 256), UInt8.ofNat (parts.data.length / 256 % 256),
        UInt8.ofNat (parts.data.length % 256), parts.flags] ++ parts.userMsg ++ parts.data := rfl
    rw [AuthenContinue.Accepts, hbody]
    simp [byteAt]
    omega
  · intro hlength
    unfold AuthenContinue.Accepts at hlength
    obtain ⟨head, rest, rfl, hhead⟩ := exists_head (by omega : 5 ≤ body.length)
    have hrest : rest.length = [bigEndian (head.take 2), bigEndian ((head.drop 2).take 2)].sum := by
      match head, hhead with
      | [m0, m1, d0, d1, flags], _ =>
        simp [byteAt] at hlength
        simp [bigEndian]
        omega
    obtain ⟨pieces, rfl, hpieces⟩ := exists_pieces hrest
    have hcount : pieces.length = 2 := by simpa using congrArg List.length hpieces
    obtain ⟨userMsg, data, rfl⟩ := List.length_eq_two.mp hcount
    simp only [List.map_cons, List.cons.injEq] at hpieces
    obtain ⟨parts, rfl, rfl, rfl⟩ := exists_continueParts hhead hpieces.1 hpieces.2.1
    exact ⟨_, AuthenContinue.decode_eq_ok_iff.mpr ⟨parts, by simp [ContinueParts.body], rfl⟩⟩

theorem AuthenContinue.onlyProtocol_read : AuthenContinue.read.OnlyProtocol := by
  refine Reader.onlyProtocol_bind (Reader.onlyProtocol_unpack _) fun _ values _ hread => ?_
  obtain ⟨head, -, -, rfl⟩ := Reader.unpack_eq_ok_iff.mp hread
  refine Reader.onlyProtocol_bind (Reader.onlyProtocol_text _) fun _ _ _ _ => ?_
  refine Reader.onlyProtocol_bind (Reader.onlyProtocol_take _) fun _ _ _ _ => ?_
  refine Reader.onlyProtocol_bind Reader.onlyProtocol_done fun _ _ _ _ => ?_
  exact Reader.onlyProtocol_pure _

def AuthenContinue.encode (cont : AuthenContinue) : Except Error Bytes :=
  Client.authenContinue cont.data cont.userMsg cont.abort

structure AuthenContinue.Fits (cont : AuthenContinue) : Prop where
  userMsg : (Py.encode cont.userMsg).length < 65536
  data : cont.data.length < 65536

def AuthenContinue.texts (body : Bytes) : List Bytes :=
  [byteAt body 0 * 256 + byteAt body 1].splitLengths (body.drop 5)

/-- The texts of the body are UTF-8, and its flags are those that the client writes. -/
def AuthenContinue.Restorable (body : Bytes) : Prop :=
  (∀ text ∈ AuthenContinue.texts body, IsUtf8 text) ∧ (byteAt body 4 = 0 ∨ byteAt body 4 = 1)

theorem ContinueParts.encode_value {parts : ContinueParts} (hutf8 : IsUtf8 parts.userMsg)
    (hflags : parts.flags.toNat = 0 ∨ parts.flags.toNat = 1) :
    parts.value.encode = .ok parts.body := by
  have hflag : (if parts.value.abort then continueFlagAbort else 0) = parts.flags.toNat := by
    rcases hflags with hflags | hflags <;> simp [value, hflags, continueFlagAbort]
  have huserMsg : Py.encode parts.value.userMsg = parts.userMsg := encode_decodeReplace hutf8
  simp only [AuthenContinue.encode, Client.authenContinue, hflag, huserMsg]
  change (pack [(2, parts.userMsg.length), (2, parts.data.length), (1, parts.flags.toNat)] >>= _) = _
  rw [parts.pack_head]
  rfl

theorem AuthenContinue.texts_body (parts : ContinueParts) :
    AuthenContinue.texts parts.body = [parts.userMsg] := by
  have hmsgLen := parts.short_userMsg
  have hbody : parts.body = [UInt8.ofNat (parts.userMsg.length / 256 % 256),
      UInt8.ofNat (parts.userMsg.length % 256), UInt8.ofNat (parts.data.length / 256 % 256),
      UInt8.ofNat (parts.data.length % 256), parts.flags] ++ parts.userMsg ++ parts.data := rfl
  have hlength : byteAt parts.body 0 * 256 + byteAt parts.body 1 = parts.userMsg.length := by
    rw [hbody]
    simp [byteAt]
    omega
  have hdrop : parts.body.drop 5 = [parts.userMsg].flatten ++ parts.data := by
    rw [hbody]
    simp
  rw [AuthenContinue.texts, hlength, hdrop]
  exact splitLengths_flatten [parts.userMsg] parts.data

theorem AuthenContinue.exactCodec : ExactCodec AuthenContinue.decode AuthenContinue.encode
    AuthenContinue.Accepts AuthenContinue.Fits AuthenContinue.Restorable where
  faults _ _ := Reader.onlyProtocol_run' AuthenContinue.onlyProtocol_read
  accepts := AuthenContinue.returns_decode_iff
  decode_encode cont hfits := by
    let parts : ContinueParts :=
      { flags := if cont.abort then 1 else 0
        userMsg := Py.encode cont.userMsg
        data := cont.data
        short := by
          simp only [List.forall_mem_cons]
          exact ⟨hfits.userMsg, hfits.data, by simp⟩ }
    have hvalue : parts.value = cont := by
      simp only [ContinueParts.value, parts, decodeReplace_encode]
      cases cont with
      | mk userMsg data abort => cases abort <;> simp [continueFlagAbort]
    have hflags : parts.flags.toNat = 0 ∨ parts.flags.toNat = 1 := by
      cases habort : cont.abort <;> simp [parts, habort]
    exact ⟨parts.body, hvalue ▸ parts.encode_value ⟨_, rfl⟩ hflags,
      AuthenContinue.decode_eq_ok_iff.mpr ⟨parts, rfl, hvalue⟩⟩
  encode_decode body cont hdecode hrestorable := by
    obtain ⟨parts, rfl, rfl⟩ := AuthenContinue.decode_eq_ok_iff.mp hdecode
    obtain ⟨hutf8, hflags⟩ := hrestorable
    rw [AuthenContinue.texts_body] at hutf8
    exact parts.encode_value (hutf8 _ (by simp)) hflags

/-! ### REQUEST -/

/-- The parts of a request; only accounting has flags. -/
structure RequestParts where
  flags : Option UInt8
  authenMethod : UInt8
  privLvl : UInt8
  authenType : UInt8
  authenService : UInt8
  user : Bytes
  port : Bytes
  remAddr : Bytes
  args : List Bytes
  short : ∀ part ∈ [user, port, remAddr] ++ args, part.length < 256
  few : args.length < 256

namespace RequestParts

def head (parts : RequestParts) : Bytes :=
  [parts.authenMethod, parts.privLvl, parts.authenType, parts.authenService,
    UInt8.ofNat parts.user.length, UInt8.ofNat parts.port.length, UInt8.ofNat parts.remAddr.length,
    UInt8.ofNat parts.args.length]

def table (parts : RequestParts) : Bytes :=
  parts.args.map fun arg => UInt8.ofNat arg.length

def body (parts : RequestParts) : Bytes :=
  parts.flags.toList ++ parts.head ++ parts.table ++ parts.user ++ parts.port ++ parts.remAddr ++
    parts.args.flatten

def value (parts : RequestParts) : Request where
  flags := (parts.flags.map UInt8.toNat).getD 0
  authenMethod := parts.authenMethod.toNat
  privLvl := parts.privLvl.toNat
  authenType := parts.authenType.toNat
  authenService := parts.authenService.toNat
  user := decodeReplace parts.user
  port := decodeReplace parts.port
  remAddr := decodeReplace parts.remAddr
  args := parts.args.map decodeReplace

theorem short_user (parts : RequestParts) : parts.user.length < 256 :=
  parts.short _ (by simp)

theorem short_port (parts : RequestParts) : parts.port.length < 256 :=
  parts.short _ (by simp)

theorem short_remAddr (parts : RequestParts) : parts.remAddr.length < 256 :=
  parts.short _ (by simp)

theorem toNat_table (parts : RequestParts) :
    parts.table.map UInt8.toNat = parts.args.map List.length := by
  rw [table, List.map_map]
  refine List.map_congr_left fun arg harg => ?_
  exact toNat_ofNat_length (parts.short arg (by simp [harg]))

theorem length_table (parts : RequestParts) :
    parts.table.length = (UInt8.ofNat parts.args.length).toNat := by
  rw [table, List.length_map]
  exact (Nat.mod_eq_of_lt parts.few).symm

end RequestParts

theorem Request.readFlags_eq_ok_iff {accounting : Bool} {data rest : Bytes} {flags : Nat} :
    Request.readFlags accounting data = .ok (flags, rest) ↔
      ∃ flag : Option UInt8, flag.isSome = accounting ∧ data = flag.toList ++ rest ∧
        (flag.map UInt8.toNat).getD 0 = flags := by
  cases accounting with
  | false =>
      change (pure 0 : Reader Nat) data = _ ↔ _
      rw [Reader.pure_eq_ok_iff]
      constructor
      · rintro ⟨rfl, rfl⟩
        exact ⟨none, rfl, rfl, rfl⟩
      · rintro ⟨flag, hflag, rfl, rfl⟩
        obtain rfl := Option.isSome_eq_false_iff.mp hflag |> Option.isNone_iff_eq_none.mp
        exact ⟨rfl, rfl⟩
  | true =>
      unfold Request.readFlags
      rw [if_pos rfl, Reader.bind_eq_ok_iff]
      constructor
      · rintro ⟨_, _, hread, h⟩
        obtain ⟨raw, rfl, hlength, rfl⟩ := (Reader.unpack_bytes_eq_ok_iff 1).mp hread
        match raw, hlength with
        | [flag], _ =>
          obtain ⟨rfl, rfl⟩ := Reader.pure_eq_ok_iff.mp h
          exact ⟨some flag, rfl, rfl, rfl⟩
      · rintro ⟨flag, hflag, rfl, rfl⟩
        obtain ⟨byte, rfl⟩ := Option.isSome_iff_exists.mp hflag
        exact ⟨_, _, (Reader.unpack_bytes_eq_ok_iff 1).mpr ⟨[byte], rfl, rfl, rfl⟩,
          Reader.pure_eq_ok_iff.mpr ⟨rfl, rfl⟩⟩

/-- The request whose fixed part, table and texts these are. -/
theorem exists_requestParts (flags : Option UInt8) {head table user port remAddr : Bytes}
    {args : List Bytes} (hhead : head.length = 8) (huser : user.length = byteAt head 4)
    (hport : port.length = byteAt head 5) (hrem : remAddr.length = byteAt head 6)
    (hcount : table.length = byteAt head 7) (hargs : args.map List.length = table.map UInt8.toNat) :
    ∃ parts : RequestParts, parts.flags = flags ∧ parts.head = head ∧ parts.table = table ∧
      parts.user = user ∧ parts.port = port ∧ parts.remAddr = remAddr ∧ parts.args = args := by
  match head, hhead with
  | [authenMethod, privLvl, authenType, authenService, userLen, portLen, remLen, count], _ =>
    have huser' : user.length = userLen.toNat := huser
    have hport' : port.length = portLen.toNat := hport
    have hrem' : remAddr.length = remLen.toNat := hrem
    have hcount' : args.length = count.toNat := by
      have hlengths := congrArg List.length hargs
      rw [List.length_map, List.length_map] at hlengths
      exact hlengths.trans hcount
    have hshort : ∀ part ∈ [user, port, remAddr] ++ args, part.length < 256 := by
      simp only [List.cons_append, List.nil_append, List.forall_mem_cons, huser', hport', hrem']
      refine ⟨userLen.toNat_lt, portLen.toNat_lt, remLen.toNat_lt, fun arg harg => ?_⟩
      have hmem : arg.length ∈ table.map UInt8.toNat := hargs ▸ List.mem_map_of_mem harg
      obtain ⟨length, -, hlength⟩ := List.mem_map.mp hmem
      exact hlength ▸ length.toNat_lt
    refine ⟨⟨flags, authenMethod, privLvl, authenType, authenService, user, port, remAddr, args, hshort,
      hcount' ▸ count.toNat_lt⟩, rfl, ?_, ?_, rfl, rfl, rfl, rfl⟩
    · simp only [RequestParts.head, huser', hport', hrem', hcount', UInt8.ofNat_toNat]
    · have htable := congrArg (List.map UInt8.ofNat) hargs
      simpa [RequestParts.table, Function.comp_def] using htable

theorem Request.decode_eq_ok_iff {accounting : Bool} {body : Bytes} {req : Request} :
    Request.decode accounting body = .ok req ↔ ∃ parts : RequestParts,
      parts.flags.isSome = accounting ∧ parts.body = body ∧ parts.value = req ∧
        parts.privLvl.toNat ≤ 15 := by
  rw [Request.decode, Reader.run'_eq_ok_iff]
  unfold Request.read
  constructor
  · rintro ⟨rest, h⟩
    obtain ⟨_, _, hflags, h⟩ := Reader.bind_eq_ok_iff.mp h
    obtain ⟨_, _, hhead, h⟩ := Reader.bind_eq_ok_iff.mp h
    obtain ⟨flags, hsome, rfl, rfl⟩ := Request.readFlags_eq_ok_iff.mp hflags
    obtain ⟨head, rfl, hlength, rfl⟩ := (Reader.unpack_bytes_eq_ok_iff 8).mp hhead
    match head, hlength with
    | [authenMethod, privLvl, authenType, authenService, userLen, portLen, remLen, count], _ =>
      dsimp only [List.map] at h
      obtain ⟨_, _, htable, h⟩ := Reader.bind_eq_ok_iff.mp h
      obtain ⟨_, _, huser, h⟩ := Reader.bind_eq_ok_iff.mp h
      obtain ⟨_, _, hport, h⟩ := Reader.bind_eq_ok_iff.mp h
      obtain ⟨_, _, hrem, h⟩ := Reader.bind_eq_ok_iff.mp h
      obtain ⟨_, _, hargs, h⟩ := Reader.bind_eq_ok_iff.mp h
      obtain ⟨_, _, hdone, h⟩ := Reader.bind_eq_ok_iff.mp h
      obtain ⟨_, _, hcheck, h⟩ := Reader.bind_eq_ok_iff.mp h
      obtain ⟨table, rfl, hcount, rfl⟩ := (Reader.unpack_bytes_eq_ok_iff count.toNat).mp htable
      obtain ⟨user, rfl, huserLen, rfl⟩ := Reader.text_eq_ok_iff.mp huser
      obtain ⟨port, rfl, hportLen, rfl⟩ := Reader.text_eq_ok_iff.mp hport
      obtain ⟨remAddr, rfl, hremLen, rfl⟩ := Reader.text_eq_ok_iff.mp hrem
      obtain ⟨args, rfl, hargsLen, rfl⟩ := Reader.mapM_text_eq_ok_iff.mp hargs
      obtain ⟨rfl, rfl⟩ := Reader.done_eq_ok_iff.mp hdone
      obtain ⟨hprivLvl, rfl⟩ := Reader.check_eq_ok_iff.mp hcheck
      obtain ⟨rfl, rfl⟩ := Reader.pure_eq_ok_iff.mp h
      have hhead : [authenMethod, privLvl, authenType, authenService, userLen, portLen, remLen,
        count].length = 8 := rfl
      obtain ⟨parts, rfl, hfixed, rfl, rfl, rfl, rfl, rfl⟩ :=
        exists_requestParts flags hhead huserLen hportLen hremLen hcount hargsLen
      refine ⟨parts, hsome, by simp [RequestParts.body, hfixed], ?_, ?_⟩
      · simp only [RequestParts.head, List.cons.injEq] at hfixed
        obtain ⟨rfl, rfl, rfl, rfl, -⟩ := hfixed
        rfl
      · simp only [RequestParts.head, List.cons.injEq] at hfixed
        obtain ⟨-, rfl, -⟩ := hfixed
        exact of_decide_eq_true hprivLvl
  · rintro ⟨parts, hsome, rfl, rfl, hprivLvl⟩
    have hbody : parts.body = parts.flags.toList ++ (parts.head ++ (parts.table ++ (parts.user ++
        (parts.port ++ (parts.remAddr ++ (parts.args.flatten ++ [])))))) := by
      simp [RequestParts.body]
    refine ⟨[], Reader.bind_eq_ok_iff.mpr ⟨_, _, Request.readFlags_eq_ok_iff.mpr
      ⟨parts.flags, hsome, hbody, rfl⟩, ?_⟩⟩
    refine Reader.bind_eq_ok_iff.mpr ⟨_, _, (Reader.unpack_bytes_eq_ok_iff 8).mpr
      ⟨parts.head, rfl, rfl, rfl⟩, ?_⟩
    dsimp only [RequestParts.head, List.map]
    refine Reader.bind_eq_ok_iff.mpr ⟨_, _, (Reader.unpack_bytes_eq_ok_iff _).mpr
      ⟨parts.table, rfl, parts.length_table, rfl⟩, ?_⟩
    refine Reader.bind_eq_ok_iff.mpr ⟨_, _, Reader.text_eq_ok_iff.mpr
      ⟨_, rfl, (toNat_ofNat_length parts.short_user).symm, rfl⟩, ?_⟩
    refine Reader.bind_eq_ok_iff.mpr ⟨_, _, Reader.text_eq_ok_iff.mpr
      ⟨_, rfl, (toNat_ofNat_length parts.short_port).symm, rfl⟩, ?_⟩
    refine Reader.bind_eq_ok_iff.mpr ⟨_, _, Reader.text_eq_ok_iff.mpr
      ⟨_, rfl, (toNat_ofNat_length parts.short_remAddr).symm, rfl⟩, ?_⟩
    refine Reader.bind_eq_ok_iff.mpr ⟨_, _, Reader.mapM_text_eq_ok_iff.mpr
      ⟨_, rfl, parts.toNat_table.symm, rfl⟩, ?_⟩
    refine Reader.bind_eq_ok_iff.mpr ⟨_, _, Reader.done_eq_ok_iff.mpr ⟨rfl, rfl⟩, ?_⟩
    refine Reader.bind_eq_ok_iff.mpr ⟨_, _, Reader.check_eq_ok_iff.mpr
      ⟨decide_eq_true hprivLvl, rfl⟩, ?_⟩
    exact Reader.pure_eq_ok_iff.mpr ⟨rfl, rfl⟩

/-- Where the fixed part of a request starts. -/
def Request.offset (accounting : Bool) : Nat :=
  if accounting then 1 else 0

/-- The table of the lengths of a request's arguments. -/
def Request.table (accounting : Bool) (body : Bytes) : List Nat :=
  ((body.drop (Request.offset accounting + 8)).take
    (byteAt body (Request.offset accounting + 7))).map UInt8.toNat

def Request.Accepts (accounting : Bool) (body : Bytes) : Prop :=
  body.length = Request.offset accounting + 8 + byteAt body (Request.offset accounting + 7) +
    byteAt body (Request.offset accounting + 4) + byteAt body (Request.offset accounting + 5) +
    byteAt body (Request.offset accounting + 6) + (Request.table accounting body).sum ∧
  byteAt body (Request.offset accounting + 1) ≤ 15

namespace RequestParts

variable (parts : RequestParts)

theorem length_flags : parts.flags.toList.length = Request.offset parts.flags.isSome := by
  cases parts.flags <;> rfl

theorem body_eq : parts.body = parts.flags.toList ++ (parts.head ++ (parts.table ++
    (([parts.user, parts.port, parts.remAddr] ++ parts.args).flatten))) := by
  simp [body]

/-- The bytes of the fixed part. -/
theorem byteAt_body {index : Nat} (hindex : index < 8) :
    byteAt parts.body (Request.offset parts.flags.isSome + index) = byteAt parts.head index := by
  rw [body_eq, byteAt_append_right parts.length_flags, byteAt_append_left hindex]

theorem table_body : Request.table parts.flags.isSome parts.body = parts.args.map List.length := by
  have hcount : byteAt parts.body (Request.offset parts.flags.isSome + 7) = parts.table.length :=
    (parts.byteAt_body (by decide)).trans parts.length_table.symm
  have hlength : (parts.flags.toList ++ parts.head).length = Request.offset parts.flags.isSome + 8 := by
    rw [List.length_append, length_flags]
    rfl
  rw [Request.table, hcount, body_eq, ← List.append_assoc, List.drop_left' hlength, List.take_left,
    parts.toNat_table]

theorem length_body : parts.body.length = Request.offset parts.flags.isSome + 8 +
    parts.args.length + parts.user.length + parts.port.length + parts.remAddr.length +
      (parts.args.map List.length).sum := by
  have hhead : parts.head.length = 8 := rfl
  have htable : parts.table.length = parts.args.length := List.length_map _
  simp only [body, List.length_append, length_flags, hhead, htable, List.length_flatten]

end RequestParts

/-- The flags of a request as the bytes in front of its fixed part. -/
theorem exists_flags {accounting : Bool} {front : Bytes}
    (h : front.length = Request.offset accounting) :
    ∃ flags : Option UInt8, flags.toList = front ∧ flags.isSome = accounting := by
  cases accounting with
  | false =>
      obtain rfl := List.length_eq_zero_iff.mp h
      exact ⟨none, rfl, rfl⟩
  | true =>
      obtain ⟨flag, rfl⟩ := List.length_eq_one_iff.mp h
      exact ⟨some flag, rfl, rfl⟩

theorem Request.returns_decode_iff (accounting : Bool) (body : Bytes) :
    Returns (Request.decode accounting body) ↔ Request.Accepts accounting body := by
  constructor
  · rintro ⟨req, h⟩
    obtain ⟨parts, rfl, rfl, -, hprivLvl⟩ := Request.decode_eq_ok_iff.mp h
    have hcount : byteAt parts.head 7 = parts.args.length := Nat.mod_eq_of_lt parts.few
    have huser : byteAt parts.head 4 = parts.user.length := toNat_ofNat_length parts.short_user
    have hport : byteAt parts.head 5 = parts.port.length := toNat_ofNat_length parts.short_port
    have hrem : byteAt parts.head 6 = parts.remAddr.length := toNat_ofNat_length parts.short_remAddr
    refine ⟨?_, (parts.byteAt_body (by decide)).trans_le hprivLvl⟩
    rw [parts.byteAt_body (by decide), parts.byteAt_body (by decide), parts.byteAt_body (by decide),
      parts.byteAt_body (by decide), parts.table_body, hcount, huser, hport, hrem, parts.length_body]
  · rintro ⟨hlength, hprivLvl⟩
    obtain ⟨front, rest, rfl, hfront⟩ :=
      exists_head (by omega : Request.offset accounting ≤ body.length)
    obtain ⟨flags, rfl, rfl⟩ := exists_flags hfront
    simp only [byteAt_append_right hfront] at hlength hprivLvl
    rw [List.length_append, hfront] at hlength
    obtain ⟨head, rest, rfl, hhead⟩ := exists_head (by omega : 8 ≤ rest.length)
    have hbyte {index : Nat} (hindex : index < 8) :
        byteAt (head ++ rest) index = byteAt head index := byteAt_append_left (by omega)
    rw [hbyte (by decide), hbyte (by decide), hbyte (by decide), hbyte (by decide), List.length_append,
      hhead] at hlength
    rw [hbyte (by decide)] at hprivLvl
    obtain ⟨table, rest, rfl, htable⟩ := exists_head (by omega : byteAt head 7 ≤ rest.length)
    have hlengths : Request.table flags.isSome (flags.toList ++ (head ++ (table ++ rest))) =
        table.map UInt8.toNat := by
      have hstart : (flags.toList ++ head).length = Request.offset flags.isSome + 8 := by
        rw [List.length_append, hfront, hhead]
      rw [Request.table, byteAt_append_right hfront, hbyte (by decide), ← List.append_assoc,
        List.drop_left' hstart, List.take_left' htable]
    rw [hlengths, List.length_append, htable] at hlength
    have hrest : rest.length = (byteAt head 4 :: byteAt head 5 :: byteAt head 6 ::
        table.map UInt8.toNat).sum := by
      simp only [List.sum_cons]
      omega
    obtain ⟨pieces, rfl, hpieces⟩ := exists_pieces hrest
    obtain ⟨user, pieces, rfl, huser, hpieces⟩ := List.map_eq_cons_iff.mp hpieces
    obtain ⟨port, pieces, rfl, hport, hpieces⟩ := List.map_eq_cons_iff.mp hpieces
    obtain ⟨remAddr, args, rfl, hrem, hargs⟩ := List.map_eq_cons_iff.mp hpieces
    obtain ⟨parts, rfl, rfl, rfl, rfl, rfl, rfl, rfl⟩ :=
      exists_requestParts flags hhead huser hport hrem htable hargs
    exact ⟨_, Request.decode_eq_ok_iff.mpr ⟨parts, rfl, by simp [RequestParts.body], rfl, hprivLvl⟩⟩

theorem Request.onlyProtocol_read (accounting : Bool) : (Request.read accounting).OnlyProtocol := by
  have hflags : (Request.readFlags accounting).OnlyProtocol := by
    unfold Request.readFlags
    split
    · refine Reader.onlyProtocol_bind (Reader.onlyProtocol_unpack _) fun _ values _ hread => ?_
      obtain ⟨raw, -, hlength, rfl⟩ := (Reader.unpack_bytes_eq_ok_iff 1).mp hread
      match raw, hlength with
      | [_], _ => exact Reader.onlyProtocol_pure _
    · exact Reader.onlyProtocol_pure _
  refine Reader.onlyProtocol_bind hflags fun _ _ _ _ => ?_
  refine Reader.onlyProtocol_bind (Reader.onlyProtocol_unpack _) fun _ values _ hread => ?_
  obtain ⟨head, -, hlength, rfl⟩ := (Reader.unpack_bytes_eq_ok_iff 8).mp hread
  match head, hlength with
  | [_, _, _, _, _, _, _, _], _ =>
    refine Reader.onlyProtocol_bind (Reader.onlyProtocol_unpack _) fun _ _ _ _ => ?_
    refine Reader.onlyProtocol_bind (Reader.onlyProtocol_text _) fun _ _ _ _ => ?_
    refine Reader.onlyProtocol_bind (Reader.onlyProtocol_text _) fun _ _ _ _ => ?_
    refine Reader.onlyProtocol_bind (Reader.onlyProtocol_text _) fun _ _ _ _ => ?_
    refine Reader.onlyProtocol_bind (Reader.onlyProtocol_mapM_text _) fun _ _ _ _ => ?_
    refine Reader.onlyProtocol_bind Reader.onlyProtocol_done fun _ _ _ _ => ?_
    refine Reader.onlyProtocol_bind (Reader.onlyProtocol_check _ _) fun _ _ _ _ => ?_
    exact Reader.onlyProtocol_pure _

/-- The client's request with these fields. -/
def Request.encode (accounting : Bool) (req : Request) : Except Error Bytes :=
  Client.request req.args req.user req.privLvl (if accounting then some req.flags else none) req.port
    req.remAddr req.authenType req.authenService req.authenMethod

structure Request.Fits (accounting : Bool) (req : Request) : Prop where
  flags : if accounting then req.flags < 256 else req.flags = 0
  authenMethod : req.authenMethod < 256
  privLvl : req.privLvl ≤ 15
  authenType : req.authenType < 256
  authenService : req.authenService < 256
  texts : ∀ text ∈ [req.user, req.port, req.remAddr] ++ req.args, (Py.encode text).length < 256
  args : req.args.length < 256

def Request.texts (accounting : Bool) (body : Bytes) : List Bytes :=
  (byteAt body (Request.offset accounting + 4) :: byteAt body (Request.offset accounting + 5) ::
    byteAt body (Request.offset accounting + 6) :: Request.table accounting body).splitLengths
      (body.drop (Request.offset accounting + 8 + byteAt body (Request.offset accounting + 7)))

theorem Request.texts_body (parts : RequestParts) :
    Request.texts parts.flags.isSome parts.body =
      [parts.user, parts.port, parts.remAddr] ++ parts.args := by
  have hcount : byteAt parts.head 7 = parts.table.length := parts.length_table.symm
  have huser : byteAt parts.head 4 = parts.user.length := toNat_ofNat_length parts.short_user
  have hport : byteAt parts.head 5 = parts.port.length := toNat_ofNat_length parts.short_port
  have hrem : byteAt parts.head 6 = parts.remAddr.length := toNat_ofNat_length parts.short_remAddr
  have hstart : (parts.flags.toList ++ parts.head ++ parts.table).length =
      Request.offset parts.flags.isSome + 8 + parts.table.length := by
    rw [List.length_append, List.length_append, parts.length_flags]
    rfl
  have hdrop : parts.body.drop (Request.offset parts.flags.isSome + 8 + parts.table.length) =
      ([parts.user, parts.port, parts.remAddr] ++ parts.args).flatten ++ [] := by
    rw [parts.body_eq, ← List.append_assoc, ← List.append_assoc, List.drop_left' hstart, List.append_nil]
  rw [Request.texts, parts.byteAt_body (by decide), parts.byteAt_body (by decide),
    parts.byteAt_body (by decide), parts.byteAt_body (by decide), parts.table_body, hcount, huser,
    hport, hrem, hdrop]
  exact splitLengths_flatten ([parts.user, parts.port, parts.remAddr] ++ parts.args) []

theorem RequestParts.encode_value {parts : RequestParts}
    (hutf8 : ∀ text ∈ [parts.user, parts.port, parts.remAddr] ++ parts.args, IsUtf8 text) :
    Request.encode parts.flags.isSome parts.value = .ok parts.body := by
  have huser : Py.encode parts.value.user = parts.user := encode_decodeReplace (hutf8 _ (by simp))
  have hport : Py.encode parts.value.port = parts.port := encode_decodeReplace (hutf8 _ (by simp))
  have hrem : Py.encode parts.value.remAddr = parts.remAddr := encode_decodeReplace (hutf8 _ (by simp))
  have hargs : parts.value.args.map Py.encode = parts.args := by
    rw [RequestParts.value, List.map_map]
    refine (List.map_congr_left fun arg harg => ?_).trans (List.map_id _)
    exact encode_decodeReplace (hutf8 arg (by simp [harg]))
  have hhead : pack [(1, parts.authenMethod.toNat), (1, parts.privLvl.toNat),
      (1, parts.authenType.toNat), (1, parts.authenService.toNat), (1, parts.user.length),
      (1, parts.port.length), (1, parts.remAddr.length), (1, parts.args.length)] =
      .ok parts.head := by
    rw [← pack_bytes]
    simp [RequestParts.head, Nat.mod_eq_of_lt, parts.short_user, parts.short_port,
      parts.short_remAddr, parts.few]
  have htable : bytesOf (parts.args.map List.length) = .ok parts.table := by
    rw [bytesOf_eq_ok_iff]
    refine ⟨fun length hlength => ?_, by simp [RequestParts.table]⟩
    obtain ⟨arg, harg, rfl⟩ := List.mem_map.mp hlength
    exact parts.short arg (by simp [harg])
  have hflags : Client.flagBytes (if parts.flags.isSome then some parts.value.flags else none) =
      .ok parts.flags.toList := by
    cases hflag : parts.flags with
    | none => rfl
    | some flag =>
        have hvalue : parts.value.flags = flag.toNat := by simp [RequestParts.value, hflag]
        rw [Option.isSome_some, if_pos rfl, hvalue]
        exact bytesOf_eq_ok_iff.mpr ⟨by simpa using flag.toNat_lt, by simp⟩
  simp only [Request.encode, Client.request, huser, hport, hrem, hargs]
  rw [hflags]
  change (pack [(1, parts.authenMethod.toNat), (1, parts.privLvl.toNat),
      (1, parts.authenType.toNat), (1, parts.authenService.toNat), (1, parts.user.length),
      (1, parts.port.length), (1, parts.remAddr.length), (1, parts.args.length)] >>= _) = _
  rw [hhead]
  change (bytesOf (parts.args.map List.length) >>= _) = _
  rw [htable]
  rfl

theorem Request.exactCodec (accounting : Bool) : ExactCodec (Request.decode accounting)
    (Request.encode accounting) (Request.Accepts accounting) (Request.Fits accounting)
    fun body => ∀ text ∈ Request.texts accounting body, IsUtf8 text where
  faults _ _ := Reader.onlyProtocol_run' (Request.onlyProtocol_read accounting)
  accepts := Request.returns_decode_iff accounting
  decode_encode req hfits := by
    let parts : RequestParts :=
      { flags := if accounting then some (UInt8.ofNat req.flags) else none
        authenMethod := UInt8.ofNat req.authenMethod
        privLvl := UInt8.ofNat req.privLvl
        authenType := UInt8.ofNat req.authenType
        authenService := UInt8.ofNat req.authenService
        user := Py.encode req.user
        port := Py.encode req.port
        remAddr := Py.encode req.remAddr
        args := req.args.map Py.encode
        short := by simpa using hfits.texts
        few := (List.length_map _).trans_lt hfits.args }
    have hsome : parts.flags.isSome = accounting := by cases accounting <;> rfl
    have hprivLvl : req.privLvl < 256 := by
      have hlevel := hfits.privLvl
      omega
    have hflags : (parts.flags.map UInt8.toNat).getD 0 = req.flags := by
      have hrange := hfits.flags
      cases accounting with
      | false => exact hrange.symm
      | true => exact Nat.mod_eq_of_lt hrange
    have hargs : (req.args.map Py.encode).map decodeReplace = req.args := by
      simp [Function.comp_def, decodeReplace_encode]
    have hvalue : parts.value = req := by
      simp only [RequestParts.value, hflags]
      simp only [parts, decodeReplace_encode, hargs]
      congr 1
      · exact Nat.mod_eq_of_lt hfits.authenMethod
      · exact Nat.mod_eq_of_lt hprivLvl
      · exact Nat.mod_eq_of_lt hfits.authenType
      · exact Nat.mod_eq_of_lt hfits.authenService
    have hutf8 : ∀ text ∈ [parts.user, parts.port, parts.remAddr] ++ parts.args, IsUtf8 text := by
      simp only [List.cons_append, List.nil_append, List.forall_mem_cons, parts]
      refine ⟨⟨_, rfl⟩, ⟨_, rfl⟩, ⟨_, rfl⟩, fun arg harg => ?_⟩
      obtain ⟨text, -, rfl⟩ := List.mem_map.mp harg
      exact ⟨text, rfl⟩
    refine ⟨parts.body, ?_, ?_⟩
    · have hencode := parts.encode_value hutf8
      rwa [hsome, hvalue] at hencode
    · refine Request.decode_eq_ok_iff.mpr ⟨parts, hsome, rfl, hvalue, ?_⟩
      exact (Nat.mod_eq_of_lt hprivLvl).trans_le hfits.privLvl
  encode_decode body req hdecode hutf8 := by
    obtain ⟨parts, rfl, rfl, rfl, -⟩ := Request.decode_eq_ok_iff.mp hdecode
    rw [Request.texts_body] at hutf8
    exact parts.encode_value hutf8

/-- The three kinds of bodies that clients send are decoded exactly, and encoded exactly. -/
theorem bodies_exact :
    ExactCodec AuthenStart.decode AuthenStart.encode AuthenStart.Accepts AuthenStart.Fits
      (fun body => ∀ text ∈ AuthenStart.texts body, IsUtf8 text) ∧
    ExactCodec AuthenContinue.decode AuthenContinue.encode AuthenContinue.Accepts AuthenContinue.Fits
      AuthenContinue.Restorable ∧
    ∀ accounting, ExactCodec (Request.decode accounting) (Request.encode accounting)
      (Request.Accepts accounting) (Request.Fits accounting)
      fun body => ∀ text ∈ Request.texts accounting body, IsUtf8 text :=
  ⟨AuthenStart.exactCodec, AuthenContinue.exactCodec, Request.exactCodec⟩

end Naco.Tacacs
