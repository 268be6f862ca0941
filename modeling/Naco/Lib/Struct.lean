import Naco.Lib.Bytes
import Naco.Lib.Python

/-!
# Fixed-width fields

`struct` with big-endian formats (`!`): a field is its width and its value. A value that does not fit is
an exception, never a wrapped number.
-/

namespace Py

/-- `raw[index]` for an index that is not negative. -/
def byteAt (raw : Bytes) (index : Nat) : Except Error Nat :=
  match raw[index]? with
  | some byte => .ok byte.toNat
  | none => .error (.lookupError "index out of range")

/-- `raw[start:stop]` for bounds that are not negative. -/
def slice (raw : Bytes) (start stop : Nat) : Bytes :=
  (raw.take stop).drop start

/-- `value.to_bytes(width, "big")`. -/
def toBytes (width value : Nat) : Except Error Bytes :=
  if value < 256 ^ width then .ok (toBigEndian width value)
  else .error (.overflowError "int too big to convert")

/-- `bytes(values)`. -/
def bytesOf (values : List Nat) : Except Error Bytes :=
  if ∀ value ∈ values, value < 256 then .ok (values.map UInt8.ofNat)
  else .error (.valueError "bytes must be in range(0, 256)")

/-- `struct.pack`. -/
def pack (fields : List (Nat × Nat)) : Except Error Bytes :=
  if ∀ field ∈ fields, field.2 < 256 ^ field.1 then
    .ok (fields.flatMap fun field => toBigEndian field.1 field.2)
  else .error (.structError "argument out of range")

/-- The numbers at the start of `raw`, of these widths. -/
def unpackFields : List Nat → Bytes → List Nat
  | [], _ => []
  | width :: widths, raw => bigEndian (raw.take width) :: unpackFields widths (raw.drop width)

/-- `struct.unpack`. -/
def unpack (widths : List Nat) (raw : Bytes) : Except Error (List Nat) :=
  if raw.length = widths.sum then .ok (unpackFields widths raw)
  else .error (.structError s!"unpack requires a buffer of {widths.sum} bytes")

/-- `struct.unpack(format, raw)[0]` for a format of one field. -/
def unpackOne (width : Nat) (raw : Bytes) : Except Error Nat := do
  let values ← unpack [width] raw
  return values.headD 0

theorem unpackOne_of_length {width : Nat} {raw : Bytes} (h : raw.length = width) :
    unpackOne width raw = .ok (bigEndian raw) := by
  have htake : raw.take width = raw := List.take_of_length_le (Nat.le_of_eq h)
  have hsum : raw.length = [width].sum := h
  rw [unpackOne, unpack, if_pos hsum, unpackFields, unpackFields, htake]
  rfl

theorem byteAt_of_lt {raw : Bytes} {index : Nat} (h : index < raw.length) :
    byteAt raw index = .ok raw[index].toNat := by
  rw [byteAt, List.getElem?_eq_getElem h]

theorem length_slice {raw : Bytes} {start stop : Nat} (h : stop ≤ raw.length) :
    (slice raw start stop).length = stop - start := by
  rw [slice, List.length_drop, List.length_take, Nat.min_eq_left h]

/-- Slices that meet make up the slice over both. -/
theorem slice_append_slice {raw : Bytes} {start middle stop : Nat} (hle : start ≤ middle)
    (hle' : middle ≤ stop) : slice raw start middle ++ slice raw middle stop = slice raw start stop := by
  have htake : raw.take middle = (raw.take stop).take middle := by
    rw [List.take_take, Nat.min_eq_left hle']
  rw [slice, slice, slice, htake, List.drop_take]
  conv_rhs => rw [← List.take_append_drop (middle - start) ((raw.take stop).drop start)]
  rw [List.drop_drop, Nat.add_sub_cancel' hle]

/-- What stands between is sliced out. -/
theorem slice_append {front value rest : Bytes} {start stop : Nat} (hstart : front.length = start)
    (hstop : start + value.length = stop) : slice (front ++ (value ++ rest)) start stop = value := by
  subst hstart hstop
  have htake : (front ++ (value ++ rest)).take (front.length + value.length) = front ++ value := by
    rw [← List.append_assoc, ← List.length_append, List.take_left]
  rw [slice, htake, List.drop_left]

/-- A slice of a part of the bytes is the slice of them all. -/
theorem slice_slice_zero {raw : Bytes} {start stop length : Nat} (h : stop ≤ length) :
    slice (slice raw 0 length) start stop = slice raw start stop := by
  rw [slice, slice, slice, List.drop_zero, List.take_take, Nat.min_eq_left h]

theorem pack_eq_ok_iff {fields : List (Nat × Nat)} {raw : Bytes} :
    pack fields = .ok raw ↔ (∀ field ∈ fields, field.2 < 256 ^ field.1) ∧
      (fields.flatMap fun field => toBigEndian field.1 field.2) = raw := by
  unfold pack
  split
  · next h => exact ⟨fun hraw => ⟨h, Except.ok.inj hraw⟩, fun hraw => congrArg _ hraw.2⟩
  · next h => exact ⟨nofun, fun hraw => absurd hraw.1 h⟩

theorem bytesOf_eq_ok_iff {values : List Nat} {raw : Bytes} :
    bytesOf values = .ok raw ↔ (∀ value ∈ values, value < 256) ∧ values.map UInt8.ofNat = raw := by
  unfold bytesOf
  split
  · next h => exact ⟨fun hraw => ⟨h, Except.ok.inj hraw⟩, fun hraw => congrArg _ hraw.2⟩
  · next h => exact ⟨nofun, fun hraw => absurd hraw.1 h⟩

theorem unpack_eq_ok_iff {widths values : List Nat} {raw : Bytes} :
    unpack widths raw = .ok values ↔ raw.length = widths.sum ∧ unpackFields widths raw = values := by
  unfold unpack
  split
  · next h => exact ⟨fun hvalues => ⟨h, Except.ok.inj hvalues⟩, fun hvalues => congrArg _ hvalues.2⟩
  · next h => exact ⟨nofun, fun hvalues => absurd hvalues.1 h⟩

/-- What is packed is unpacked. -/
theorem unpack_of_pack {fields : List (Nat × Nat)} {raw : Bytes} (h : pack fields = .ok raw) :
    unpack (fields.map Prod.fst) raw = .ok (fields.map Prod.snd) := by
  obtain ⟨hfits, rfl⟩ := pack_eq_ok_iff.mp h
  clear h
  have hlength : (fields.flatMap fun field => toBigEndian field.1 field.2).length =
      (fields.map Prod.fst).sum := by
    simp only [List.length_flatMap, length_toBigEndian]
  rw [unpack, if_pos hlength]
  refine congrArg Except.ok ?_
  clear hlength
  induction fields with
  | nil => rfl
  | cons field fields ih =>
      obtain ⟨hfield, hfields⟩ := List.forall_mem_cons.mp hfits
      rw [List.flatMap_cons, List.map_cons, List.map_cons, unpackFields,
        List.take_left' (length_toBigEndian _ _), List.drop_left' (length_toBigEndian _ _),
        bigEndian_toBigEndian hfield, ih hfields]

/-- The exclusive or of two numbers of one width always fits in it. -/
theorem toBytes_xor {left right : Bytes} (h : left.length = right.length) :
    toBytes left.length (bigEndian left ^^^ bigEndian right) =
      .ok (List.zipWith (· ^^^ ·) left right) := by
  have hlength : left.length = (List.zipWith (· ^^^ ·) left right).length := by
    rw [List.length_zipWith, ← h, Nat.min_self]
  rw [bigEndian_xor h, hlength]
  generalize List.zipWith (· ^^^ ·) left right = raw
  rw [toBytes, if_pos (bigEndian_lt raw), toBigEndian_bigEndian]

end Py
