import Naco.Rlm

/-!
# Request bodies mean the same on every CPU

A document is written in two ways that differ in the bytes from 0x80 up only: as they are, or as one
escape each. Decoding the first puts surrogates in the place of bytes that are not UTF-8, and reading
the second gives one character for each byte; both are the text of the bytes. The reader is followed
through a document once, for any way of writing the strings that it reads back.
-/

namespace Naco.Rlm

open Py

/-! ### Documents as they are written -/

/-- A hex digit as a byte. -/
def hexByteOf (upper : Bool) (digit : Nat) : UInt8 :=
  UInt8.ofNat (if digit < 10 then 0x30 + digit else if upper then 0x37 + digit else 0x57 + digit)

/-- `\u00XX`. -/
def escapeOf (upper : Bool) (byte : UInt8) : Bytes :=
  [0x5c, 0x75, 0x30, 0x30, hexByteOf upper (byte.toNat / 16), hexByteOf upper (byte.toNat % 16)]

/-- An ASCII byte of a string as it is written: as it is, or escaped in one of the two ways. -/
inductive Spelled where
  | plain (byte : UInt8) (h : 0x20 ≤ byte.toNat ∧ byte.toNat < 0x80 ∧ byte.toNat ≠ 0x22 ∧
      byte.toNat ≠ 0x5c)
  | short (escape : Nat × Nat) (h : escape ∈ JsonReader.shortEscapes)
  | unicode (byte : UInt8) (h : byte.toNat < 0x80) (upper : Bool)

namespace Spelled

def byte : Spelled → UInt8
  | plain byte _ => byte
  | short escape _ => UInt8.ofNat escape.2
  | unicode byte _ _ => byte

def written : Spelled → Bytes
  | plain byte _ => [byte]
  | short escape _ => [0x5c, UInt8.ofNat escape.1]
  | unicode byte _ upper => escapeOf upper byte

end Spelled

/-- A byte of a string; one from 0x80 up has the case of the digits of its escape. -/
inductive Piece where
  | ascii (byte : Spelled)
  | high (byte : UInt8) (h : 0x80 ≤ byte.toNat) (upper : Bool)

namespace Piece

def byte : Piece → UInt8
  | ascii spelled => spelled.byte
  | high byte _ _ => byte

/-- Where C's `char` is unsigned. -/
def raw : Piece → Bytes
  | ascii spelled => spelled.written
  | high byte _ _ => [byte]

/-- Where it is signed. -/
def escaped : Piece → Bytes
  | ascii spelled => spelled.written
  | high byte _ upper => escapeOf upper byte

end Piece

inductive Blank where
  | space
  | tab
  | lineFeed
  | carriageReturn

def Blank.byte : Blank → UInt8
  | space => 0x20
  | tab => 0x09
  | lineFeed => 0x0a
  | carriageReturn => 0x0d

/-- White space between the parts of a document. -/
abbrev Gap := List Blank

def blanks (gap : Gap) : Bytes :=
  gap.map Blank.byte

mutual

/-- A document of byte strings. -/
inductive Doc where
  | str (text : List Piece)
  | emptyArr (gap : Gap)
  | arr (items : Items)
  | emptyObj (gap : Gap)
  | obj (members : Members)

inductive Items where
  | one (before : Gap) (item : Doc) (after : Gap)
  | more (before : Gap) (item : Doc) (after : Gap) (later : Items)

/-- Members, each with the gaps around its name and around its value. -/
inductive Members where
  | one (before : Gap) (name : List Spelled) (colon : Gap) (space : Gap) (value : Doc) (after : Gap)
  | more (before : Gap) (name : List Spelled) (colon : Gap) (space : Gap) (value : Doc) (after : Gap)
      (later : Members)

end

def writtenName (name : List Spelled) : Bytes :=
  0x22 :: name.flatMap Spelled.written ++ [0x22]

mutual

/-- The bytes of a document, its strings written piece by piece. -/
def Doc.written (write : Piece → Bytes) : Doc → Bytes
  | .str text => 0x22 :: text.flatMap write ++ [0x22]
  | .emptyArr gap => 0x5b :: blanks gap ++ [0x5d]
  | .arr items => 0x5b :: items.written write
  | .emptyObj gap => 0x7b :: blanks gap ++ [0x7d]
  | .obj members => 0x7b :: members.written write

def Items.written (write : Piece → Bytes) : Items → Bytes
  | .one before item after => blanks before ++ item.written write ++ blanks after ++ [0x5d]
  | .more before item after later =>
      blanks before ++ item.written write ++ blanks after ++ 0x2c :: later.written write

def Members.written (write : Piece → Bytes) : Members → Bytes
  | .one before name colon space value after =>
      blanks before ++ writtenName name ++ blanks colon ++ 0x3a :: blanks space ++
        value.written write ++ blanks after ++ [0x7d]
  | .more before name colon space value after later =>
      blanks before ++ writtenName name ++ blanks colon ++ 0x3a :: blanks space ++
        value.written write ++ blanks after ++ 0x2c :: later.written write

end

def nameOf (name : List Spelled) : CodePoints :=
  name.map (·.byte.toNat)

mutual

/-- What a document means, with a meaning for its strings. -/
def Doc.value (mean : List Piece → CodePoints) : Doc → Value
  | .str text => .str (mean text)
  | .emptyArr _ => .arr []
  | .arr items => .arr (items.values mean)
  | .emptyObj _ => .obj []
  | .obj members => .obj (members.addTo mean [])

def Items.values (mean : List Piece → CodePoints) : Items → List Value
  | .one _ item _ => [item.value mean]
  | .more _ item _ later => item.value mean :: later.values mean

/-- The dictionary with the members set in it one after the other. -/
def Members.addTo (mean : List Piece → CodePoints) (read : List (CodePoints × Value)) :
    Members → List (CodePoints × Value)
  | .one _ name _ _ value _ => JsonReader.setMember read (nameOf name) (value.value mean)
  | .more _ name _ _ value _ later =>
      later.addTo mean (JsonReader.setMember read (nameOf name) (value.value mean))

end

/-- The bytes of a string. -/
def bytesOf (text : List Piece) : Bytes :=
  text.map Piece.byte

/-- A string read from its raw bytes. -/
def meanRaw (text : List Piece) : CodePoints :=
  decodeEscaping (bytesOf text)

/-- A string read from its escapes. -/
def meanEscaped (text : List Piece) : CodePoints :=
  (bytesOf text).map UInt8.toNat

/-- A request body: a document with the space around it. -/
structure Body where
  before : Gap
  doc : Doc
  after : Gap

def Body.written (write : Piece → Bytes) (body : Body) : Bytes :=
  blanks body.before ++ body.doc.written write ++ blanks body.after

/-! ### Strings are read back -/

theorem hexDigit_hexByteOf {upper : Bool} {digit : Nat} (h : digit < 16) :
    JsonReader.hexDigit (hexByteOf upper digit).toNat = some digit := by
  have hall : ∀ upper, ∀ digit < 16,
      JsonReader.hexDigit (hexByteOf upper digit).toNat = some digit := by decide
  exact hall upper digit h

theorem hexUnit_escapeOf (upper : Bool) (byte : UInt8) :
    JsonReader.hexUnit 0x30 0x30 (hexByteOf upper (byte.toNat / 16)).toNat
      (hexByteOf upper (byte.toNat % 16)).toNat = some byte.toNat := by
  have hbyte := byte.toNat_lt
  have hzero : JsonReader.hexDigit 0x30 = some 0 := by decide
  have hvalue : ((0 * 16 + 0) * 16 + byte.toNat / 16) * 16 + byte.toNat % 16 = byte.toNat := by omega
  simp only [JsonReader.hexUnit, hzero, hexDigit_hexByteOf (by omega : byte.toNat / 16 < 16),
    hexDigit_hexByteOf (by omega : byte.toNat % 16 < 16), Option.bind_eq_bind, Option.bind_some, hvalue]
  rfl

theorem ascii_escapeOf (upper : Bool) (byte : UInt8) : ∀ c ∈ escapeOf upper byte, c.toNat < 0x80 := by
  have hall : ∀ upper, ∀ digit < 16, (hexByteOf upper digit).toNat < 0x80 := by decide
  have hbyte := byte.toNat_lt
  simp only [escapeOf, List.forall_mem_cons, List.not_mem_nil, false_imp_iff, implies_true, and_true]
  exact ⟨by decide, by decide, by decide, by decide, hall upper _ (by omega), hall upper _ (by omega)⟩

theorem shortEscapes_spec : ∀ escape ∈ JsonReader.shortEscapes,
    escape.1 < 0x80 ∧ escape.2 < 0x80 ∧ escape.1 ≠ 0x75 ∧
      JsonReader.shortEscapes.lookup escape.1 = some escape.2 := by
  decide

theorem Spelled.byte_ascii (spelled : Spelled) : spelled.byte.toNat < 0x80 := by
  cases spelled with
  | plain byte h => exact h.2.1
  | short escape h =>
      have hescape := shortEscapes_spec escape h
      rw [Spelled.byte, UInt8.toNat_ofNat_of_lt' (hescape.2.1.trans (by decide))]
      exact hescape.2.1
  | unicode byte h upper => exact h

theorem Spelled.written_ascii (spelled : Spelled) : ∀ c ∈ spelled.written, c.toNat < 0x80 := by
  cases spelled with
  | plain byte h => simpa [Spelled.written] using h.2.1
  | short escape h =>
      have hescape := shortEscapes_spec escape h
      have hfirst : (UInt8.ofNat escape.1).toNat = escape.1 :=
        UInt8.toNat_ofNat_of_lt' (hescape.1.trans (by decide))
      simp only [Spelled.written, List.forall_mem_cons, hfirst, hescape.1, true_and]
      exact ⟨by decide, by simp⟩
  | unicode byte h upper => exact ascii_escapeOf upper byte

section

variable {text after rest : CodePoints}

theorem prepend_ok {c : Nat} (h : JsonReader.scanString text = .ok (after, rest)) :
    JsonReader.prepend c (JsonReader.scanString text) = .ok (c :: after, rest) := by
  rw [h]
  rfl

/-- An escape is one character of the string. -/
theorem scanString_escapeOf (upper : Bool) (byte : UInt8)
    (h : JsonReader.scanString text = .ok (after, rest)) :
    JsonReader.scanString ((escapeOf upper byte).map UInt8.toNat ++ text) =
      .ok (byte.toNat :: after, rest) := by
  have hbyte := byte.toNat_lt
  exact (JsonReader.scanString_unit (hexUnit_escapeOf upper byte) (by omega)).trans (prepend_ok h)

theorem scanString_spelled (spelled : Spelled) (h : JsonReader.scanString text = .ok (after, rest)) :
    JsonReader.scanString (spelled.written.map UInt8.toNat ++ text) =
      .ok (spelled.byte.toNat :: after, rest) := by
  cases spelled with
  | plain byte hbyte =>
      exact (JsonReader.scanString_char hbyte.2.2.1 hbyte.2.2.2 hbyte.1).trans (prepend_ok h)
  | short escape hescape =>
      obtain ⟨hfirst, hsecond, hunicode, hlookup⟩ := shortEscapes_spec escape hescape
      have hletter : (UInt8.ofNat escape.1).toNat = escape.1 :=
        UInt8.toNat_ofNat_of_lt' (hfirst.trans (by decide))
      have hchar : (UInt8.ofNat escape.2).toNat = escape.2 :=
        UInt8.toNat_ofNat_of_lt' (hsecond.trans (by decide))
      simp only [Spelled.written, Spelled.byte, List.map_cons, List.map_nil, hletter, hchar]
      exact (JsonReader.scanString_short hunicode hlookup).trans (prepend_ok h)
  | unicode byte hbyte upper => exact scanString_escapeOf upper byte h

/-- Characters from 0x80 up are taken as they are. -/
theorem scanString_high {high : CodePoints} (hhigh : ∀ point ∈ high, 0x80 ≤ point)
    (h : JsonReader.scanString text = .ok (after, rest)) :
    JsonReader.scanString (high ++ text) = .ok (high ++ after, rest) := by
  induction high with
  | nil => exact h
  | cons point high ih =>
      obtain ⟨hpoint, hhigh⟩ := List.forall_mem_cons.mp hhigh
      exact (JsonReader.scanString_char (by omega) (by omega) (by omega)).trans (prepend_ok (ih hhigh))

end

theorem decodeEscapingFrom_ascii_append {held : Option Held} (hheld : ∀ state ∈ held, state.Valid)
    {text raw : Bytes} (htext : ∀ byte ∈ text, byte.toNat < 0x80) (hne : text ≠ []) :
    decodeEscapingFrom held (text ++ raw) = flush held ++ (text.map UInt8.toNat ++ decodeEscaping raw) := by
  cases text with
  | nil => exact absurd rfl hne
  | cons byte text =>
      obtain ⟨hbyte, htext⟩ := List.forall_mem_cons.mp htext
      rw [List.cons_append, decodeEscapingFrom_ascii hbyte fun state hstate => (hheld state hstate).low,
        decodeEscaping_ascii_append htext]
      rfl

theorem flush_high {held : Option Held} : ∀ point ∈ flush held, 0x80 ≤ point := by
  cases held with
  | none => simp [flush]
  | some state =>
      intro point hpoint
      obtain ⟨byte, -, rfl⟩ := List.mem_map.mp hpoint
      exact le_escapedByte byte

/-- A string of raw bytes is read as the text of its bytes, whatever is under way before it. -/
theorem scanString_rawFrom (text : List Piece) (rest : Bytes) {held : Option Held}
    (hheld : ∀ state ∈ held, state.Valid) :
    JsonReader.scanString (decodeEscapingFrom held (text.flatMap Piece.raw ++ 0x22 :: rest)) =
      .ok (decodeEscapingFrom held (bytesOf text), decodeEscaping rest) := by
  have hlow : ∀ state ∈ held, 0x80 ≤ state.pending.low := fun state hstate => (hheld state hstate).low
  induction text generalizing held with
  | nil =>
      have hquote : decodeEscapingFrom held (0x22 :: rest) = flush held ++ 0x22 :: decodeEscaping rest :=
        decodeEscapingFrom_ascii (by decide) hlow
      rw [List.flatMap_nil, List.nil_append, hquote, scanString_high flush_high
        JsonReader.scanString_quote, List.append_nil]
      rfl
  | cons piece text ih =>
      rw [List.flatMap_cons, List.append_assoc, bytesOf, List.map_cons]
      cases piece with
      | ascii spelled =>
          have hne : spelled.written ≠ [] := by cases spelled <;> simp [Spelled.written, escapeOf]
          have hlater := @ih none (by simp) (by simp)
          rw [Piece.raw, decodeEscapingFrom_ascii_append hheld spelled.written_ascii hne, Piece.byte,
            decodeEscapingFrom_ascii spelled.byte_ascii hlow]
          exact scanString_high flush_high (scanString_spelled spelled hlater)
      | high byte hbyte upper =>
          have hstep := steps_stepEscaping hheld byte
          have hlater := ih hstep.valid fun state hstate => (hstep.valid state hstate).low
          exact scanString_high (hstep.high hbyte) hlater

theorem scanString_raw (text : List Piece) (rest : Bytes) :
    JsonReader.scanString (decodeEscaping (text.flatMap Piece.raw ++ 0x22 :: rest)) =
      .ok (meanRaw text, decodeEscaping rest) :=
  scanString_rawFrom text rest (by simp)

/-- A string of escapes is read as one character for each byte. -/
theorem scanString_escaped (text : List Piece) (rest : Bytes) :
    JsonReader.scanString (decodeEscaping (text.flatMap Piece.escaped ++ 0x22 :: rest)) =
      .ok (meanEscaped text, decodeEscaping rest) := by
  induction text with
  | nil =>
      rw [List.flatMap_nil, List.nil_append, decodeEscaping_ascii (by decide)]
      exact JsonReader.scanString_quote
  | cons piece text ih =>
      rw [List.flatMap_cons, List.append_assoc]
      cases piece with
      | ascii spelled =>
          rw [Piece.escaped, decodeEscaping_ascii_append spelled.written_ascii]
          exact scanString_spelled spelled ih
      | high byte hbyte upper =>
          rw [Piece.escaped, decodeEscaping_ascii_append (ascii_escapeOf upper byte)]
          exact scanString_escapeOf upper byte ih

theorem scanString_name (name : List Spelled) (rest : Bytes) :
    JsonReader.scanString (decodeEscaping (name.flatMap Spelled.written ++ 0x22 :: rest)) =
      .ok (nameOf name, decodeEscaping rest) := by
  induction name with
  | nil =>
      rw [List.flatMap_nil, List.nil_append, decodeEscaping_ascii (by decide)]
      exact JsonReader.scanString_quote
  | cons spelled name ih =>
      rw [List.flatMap_cons, List.append_assoc, decodeEscaping_ascii_append spelled.written_ascii]
      exact scanString_spelled spelled ih

/-! ### Gaps -/

theorem skipSpace_blanks (gap : Gap) (raw : Bytes) :
    JsonReader.skipSpace (decodeEscaping (blanks gap ++ raw)) =
      JsonReader.skipSpace (decodeEscaping raw) := by
  induction gap with
  | nil => rfl
  | cons blank gap ih =>
      have hascii : blank.byte.toNat < 0x80 := by cases blank <;> decide
      have hspace : JsonReader.isSpace blank.byte.toNat = true := by cases blank <;> decide
      rw [blanks, List.map_cons, List.cons_append, decodeEscaping_ascii hascii, JsonReader.skipSpace,
        List.dropWhile_cons_of_pos hspace]
      exact ih

/-- A gap ends at the next mark. -/
theorem skipSpace_mark {byte : UInt8} (hascii : byte.toNat < 0x80)
    (hmark : JsonReader.isSpace byte.toNat = false) (gap : Gap) (raw : Bytes) :
    JsonReader.skipSpace (decodeEscaping (blanks gap ++ byte :: raw)) =
      byte.toNat :: decodeEscaping raw := by
  rw [skipSpace_blanks, decodeEscaping_ascii hascii, JsonReader.skipSpace,
    List.dropWhile_cons_of_neg (by simp [hmark])]

theorem expect_mark {byte : UInt8} (hascii : byte.toNat < 0x80)
    (hmark : JsonReader.isSpace byte.toNat = false) (message : String) (gap : Gap) (raw : Bytes) :
    JsonReader.expect byte.toNat message (decodeEscaping (blanks gap ++ byte :: raw)) =
      .ok (decodeEscaping raw) := by
  rw [JsonReader.expect, skipSpace_mark hascii hmark]
  exact if_pos rfl

/-! ### Documents are read back -/

mutual

/-- The fuel that reading a document takes. -/
def Doc.cost : Doc → Nat
  | .str _ | .emptyArr _ | .emptyObj _ => 1
  | .arr items => 1 + items.cost
  | .obj members => 1 + members.cost

def Items.cost : Items → Nat
  | .one _ item _ => 1 + item.cost
  | .more _ item _ later => 1 + item.cost + later.cost

def Members.cost : Members → Nat
  | .one _ _ _ _ value _ => 1 + value.cost
  | .more _ _ _ _ value _ later => 1 + value.cost + later.cost

end

section

variable {write : Piece → Bytes} {mean : List Piece → CodePoints}

/-- A document begins with a quote or a bracket. -/
theorem written_eq_cons (write : Piece → Bytes) (doc : Doc) :
    ∃ byte tail, doc.written write = byte :: tail ∧
      (byte = 0x22 ∨ byte = 0x5b ∨ byte = 0x7b) := by
  cases doc with
  | str text => exact ⟨_, _, rfl, .inl rfl⟩
  | emptyArr gap => exact ⟨_, _, rfl, .inr (.inl rfl)⟩
  | arr items => exact ⟨_, _, rfl, .inr (.inl rfl)⟩
  | emptyObj gap => exact ⟨_, _, rfl, .inr (.inr rfl)⟩
  | obj members => exact ⟨_, _, rfl, .inr (.inr rfl)⟩

theorem skipSpace_doc (gap : Gap) (doc : Doc) (raw : Bytes) :
    JsonReader.skipSpace (decodeEscaping (blanks gap ++ doc.written write ++ raw)) =
      decodeEscaping (doc.written write ++ raw) := by
  obtain ⟨byte, tail, hwritten, hbyte⟩ := written_eq_cons write doc
  have hascii : byte.toNat < 0x80 := by rcases hbyte with rfl | rfl | rfl <;> decide
  have hmark : JsonReader.isSpace byte.toNat = false := by rcases hbyte with rfl | rfl | rfl <;> decide
  rw [hwritten, List.append_assoc, List.cons_append, skipSpace_mark hascii hmark,
    decodeEscaping_ascii hascii]

/-- After the bracket of an array that is not empty comes an item. -/
theorem head_skipSpace_doc (gap : Gap) (doc : Doc) (raw : Bytes) :
    (JsonReader.skipSpace (decodeEscaping (blanks gap ++ doc.written write ++ raw))).head? ≠ some 0x5d := by
  obtain ⟨byte, tail, hwritten, hbyte⟩ := written_eq_cons write doc
  have hascii : byte.toNat < 0x80 := by rcases hbyte with rfl | rfl | rfl <;> decide
  rw [skipSpace_doc, hwritten, List.cons_append, decodeEscaping_ascii hascii, List.head?_cons]
  rcases hbyte with rfl | rfl | rfl <;> decide

theorem skipSpace_close (gap : Gap) (raw : Bytes) :
    JsonReader.skipSpace (decodeEscaping (blanks gap ++ 0x5d :: raw)) = 0x5d :: decodeEscaping raw :=
  skipSpace_mark (by decide) (by decide) gap raw

theorem skipSpace_closeBrace (gap : Gap) (raw : Bytes) :
    JsonReader.skipSpace (decodeEscaping (blanks gap ++ 0x7d :: raw)) = 0x7d :: decodeEscaping raw :=
  skipSpace_mark (by decide) (by decide) gap raw

theorem skipSpace_comma (gap : Gap) (raw : Bytes) :
    JsonReader.skipSpace (decodeEscaping (blanks gap ++ 0x2c :: raw)) = 0x2c :: decodeEscaping raw :=
  skipSpace_mark (by decide) (by decide) gap raw

theorem skipSpace_name (gap : Gap) (name : List Spelled) (raw : Bytes) :
    JsonReader.skipSpace (decodeEscaping (blanks gap ++ (writtenName name ++ raw))) =
      0x22 :: decodeEscaping (name.flatMap Spelled.written ++ 0x22 :: raw) := by
  simp only [writtenName, List.cons_append, List.append_assoc, List.nil_append]
  exact skipSpace_mark (by decide) (by decide) gap _

theorem Doc.cost_pos (doc : Doc) : 0 < doc.cost := by
  cases doc <;> simp only [Doc.cost] <;> omega

/-- Strings that are written in that way are read back with that meaning. -/
def ReadBack (write : Piece → Bytes) (mean : List Piece → CodePoints) : Prop :=
  ∀ text rest, JsonReader.scanString (decodeEscaping (text.flatMap write ++ 0x22 :: rest)) =
    .ok (mean text, decodeEscaping rest)

/-- A name and the colon after it. -/
theorem scanMembers_name (name : List Spelled) (before colon space : Gap) (value : Doc) (raw : Bytes)
    (fuel : Nat) (read : List (CodePoints × Value)) :
    JsonReader.scanMembers (fuel + 1)
        (JsonReader.skipSpace (decodeEscaping (blanks before ++ (writtenName name ++ (blanks colon ++
          0x3a :: (blanks space ++ value.written write ++ raw)))))) read = (do
      let (found, rest) ← JsonReader.scanOnce fuel (decodeEscaping (value.written write ++ raw))
      let members := JsonReader.setMember read (nameOf name) found
      if (JsonReader.skipSpace rest).head? = some 0x7d then
        return (.obj members, (JsonReader.skipSpace rest).tail)
      else
        let rest ← JsonReader.expect 0x2c "Expecting ',' delimiter" rest
        JsonReader.scanMembers fuel (JsonReader.skipSpace rest) members) := by
  have hquote (text : CodePoints) : JsonReader.expect 0x22
      "Expecting property name enclosed in double quotes" (0x22 :: text) = .ok text := rfl
  have hcolon : JsonReader.expect 0x3a "Expecting ':' delimiter" (decodeEscaping (blanks colon ++
      0x3a :: (blanks space ++ value.written write ++ raw))) =
        .ok (decodeEscaping (blanks space ++ value.written write ++ raw)) :=
    expect_mark (by decide) (by decide) _ colon _
  rw [skipSpace_name, JsonReader.scanMembers, hquote]
  simp only [bind, Except.bind, scanString_name, hcolon, skipSpace_doc]

mutual

/-- A document is read back from any text that goes on after it. -/
theorem scanOnce_doc (hwrite : ReadBack write mean) (doc : Doc) (fuel : Nat) (rest : Bytes)
    (hfuel : doc.cost ≤ fuel) :
    JsonReader.scanOnce fuel (decodeEscaping (doc.written write ++ rest)) =
      .ok (doc.value mean, decodeEscaping rest) := by
  obtain ⟨fuel, rfl⟩ : ∃ less, fuel = less + 1 :=
    ⟨fuel - 1, (Nat.sub_add_cancel (doc.cost_pos.trans_le hfuel)).symm⟩
  match doc with
  | .str text =>
      simp only [Doc.written, List.cons_append, List.append_assoc, List.nil_append]
      rw [decodeEscaping_ascii (by decide)]
      change JsonReader.scanOnce (fuel + 1) (0x22 :: _) = _
      rw [JsonReader.scanOnce, if_pos rfl, hwrite]
      rfl
  | .emptyArr gap =>
      simp only [Doc.written, List.cons_append, List.append_assoc, List.nil_append]
      rw [decodeEscaping_ascii (by decide)]
      change JsonReader.scanOnce (fuel + 1) (0x5b :: _) = _
      rw [JsonReader.scanOnce, if_neg (by decide), if_neg (by decide), if_pos rfl, skipSpace_close,
        List.head?_cons, if_pos rfl]
      rfl
  | .arr items =>
      have hitems := scanItems_items hwrite items fuel rest [] (by simp only [Doc.cost] at hfuel; omega)
      have hhead : (JsonReader.skipSpace (decodeEscaping (items.written write ++ rest))).head? ≠
          some 0x5d := by
        cases items with
        | one before item after =>
            simp only [Items.written, List.append_assoc]
            rw [← List.append_assoc]
            exact head_skipSpace_doc before item _
        | more before item after later =>
            simp only [Items.written, List.append_assoc]
            rw [← List.append_assoc]
            exact head_skipSpace_doc before item _
      simp only [Doc.written, List.cons_append]
      rw [decodeEscaping_ascii (by decide)]
      change JsonReader.scanOnce (fuel + 1) (0x5b :: _) = _
      rw [JsonReader.scanOnce, if_neg (by decide), if_neg (by decide), if_pos rfl, if_neg hhead, hitems]
      rfl
  | .emptyObj gap =>
      simp only [Doc.written, List.cons_append, List.append_assoc, List.nil_append]
      rw [decodeEscaping_ascii (by decide)]
      change JsonReader.scanOnce (fuel + 1) (0x7b :: _) = _
      rw [JsonReader.scanOnce, if_neg (by decide), if_pos rfl, skipSpace_closeBrace, List.head?_cons,
        if_pos rfl]
      rfl
  | .obj members =>
      have hmembers := scanMembers_members hwrite members fuel rest [] (by simp only [Doc.cost] at hfuel; omega)
      have hhead : (JsonReader.skipSpace (decodeEscaping (members.written write ++ rest))).head? =
          some 0x22 := by
        cases members with
        | one before name colon space value after =>
            simp only [Members.written, List.append_assoc, List.cons_append]
            rw [skipSpace_name, List.head?_cons]
        | more before name colon space value after later =>
            simp only [Members.written, List.append_assoc, List.cons_append]
            rw [skipSpace_name, List.head?_cons]
      simp only [Doc.written, List.cons_append]
      rw [decodeEscaping_ascii (by decide)]
      change JsonReader.scanOnce (fuel + 1) (0x7b :: _) = _
      rw [JsonReader.scanOnce, if_neg (by decide), if_pos rfl, if_neg (by rw [hhead]; decide), hmembers]
      rfl

theorem scanItems_items (hwrite : ReadBack write mean) (items : Items) (fuel : Nat) (rest : Bytes)
    (read : List Value) (hfuel : items.cost ≤ fuel) :
    JsonReader.scanItems fuel
        (JsonReader.skipSpace (decodeEscaping (items.written write ++ rest))) read =
      .ok (.arr (read ++ items.values mean), decodeEscaping rest) := by
  match items with
  | .one before item after =>
      simp only [Items.cost] at hfuel
      obtain ⟨fuel, rfl⟩ : ∃ less, fuel = less + 1 := ⟨fuel - 1, by omega⟩
      have hitem := scanOnce_doc hwrite item fuel (blanks after ++ 0x5d :: rest) (by omega)
      simp only [Items.written, List.append_assoc, List.cons_append, List.nil_append]
      rw [← List.append_assoc, skipSpace_doc, JsonReader.scanItems, hitem]
      simp only [bind, Except.bind, skipSpace_close, List.head?_cons, if_true]
      rfl
  | .more before item after later =>
      simp only [Items.cost] at hfuel
      obtain ⟨fuel, rfl⟩ : ∃ less, fuel = less + 1 := ⟨fuel - 1, by omega⟩
      have hitem := scanOnce_doc hwrite item fuel (blanks after ++ 0x2c :: (later.written write ++ rest)) (by omega)
      have hlater := scanItems_items hwrite later fuel rest (read ++ [item.value mean]) (by omega)
      have hcomma : JsonReader.expect 0x2c "Expecting ',' delimiter" (decodeEscaping (blanks after ++
          0x2c :: (later.written write ++ rest))) = .ok (decodeEscaping (later.written write ++ rest)) :=
        expect_mark (by decide) (by decide) _ after _
      have hopen : ¬ some 0x2c = some 0x5d := by decide
      simp only [Items.written, List.append_assoc, List.cons_append]
      rw [← List.append_assoc, skipSpace_doc, JsonReader.scanItems, hitem]
      simp only [bind, Except.bind, skipSpace_comma, List.head?_cons, hcomma]
      rw [if_neg hopen, hlater, Items.values, List.append_assoc]
      rfl

theorem scanMembers_members (hwrite : ReadBack write mean) (members : Members) (fuel : Nat)
    (rest : Bytes) (read : List (CodePoints × Value)) (hfuel : members.cost ≤ fuel) :
    JsonReader.scanMembers fuel
        (JsonReader.skipSpace (decodeEscaping (members.written write ++ rest))) read =
      .ok (.obj (members.addTo mean read), decodeEscaping rest) := by
  match members with
  | .one before name colon space value after =>
      simp only [Members.cost] at hfuel
      obtain ⟨fuel, rfl⟩ : ∃ less, fuel = less + 1 := ⟨fuel - 1, by omega⟩
      have hvalue := scanOnce_doc hwrite value fuel (blanks after ++ 0x7d :: rest) (by omega)
      have hname := @scanMembers_name write name before colon space value (blanks after ++ 0x7d :: rest)
        fuel read
      simp only [List.append_assoc] at hname
      simp only [Members.written, List.append_assoc, List.cons_append, List.nil_append]
      rw [hname, hvalue]
      simp only [bind, Except.bind, skipSpace_closeBrace, List.head?_cons, if_true]
      rfl
  | .more before name colon space value after later =>
      simp only [Members.cost] at hfuel
      obtain ⟨fuel, rfl⟩ : ∃ less, fuel = less + 1 := ⟨fuel - 1, by omega⟩
      have hvalue := scanOnce_doc hwrite value fuel (blanks after ++ 0x2c :: (later.written write ++ rest))
        (by omega)
      have hlater := scanMembers_members hwrite later fuel rest
        (JsonReader.setMember read (nameOf name) (value.value mean)) (by omega)
      have hcomma : JsonReader.expect 0x2c "Expecting ',' delimiter" (decodeEscaping (blanks after ++
          0x2c :: (later.written write ++ rest))) = .ok (decodeEscaping (later.written write ++ rest)) :=
        expect_mark (by decide) (by decide) _ after _
      have hopen : ¬ some 0x2c = some 0x7d := by decide
      have hname := @scanMembers_name write name before colon space value
        (blanks after ++ 0x2c :: (later.written write ++ rest)) fuel read
      simp only [List.append_assoc] at hname
      simp only [Members.written, List.append_assoc, List.cons_append]
      rw [hname, hvalue]
      simp only [bind, Except.bind, skipSpace_comma, List.head?_cons, hcomma]
      rw [if_neg hopen, hlater, Members.addTo]

end

/-! ### The fuel is enough -/

/-- The ASCII bytes, each of which is a character of the text. -/
def asciiCount (raw : Bytes) : Nat :=
  raw.countP (·.toNat < 0x80)

theorem asciiCount_append (left right : Bytes) :
    asciiCount (left ++ right) = asciiCount left + asciiCount right :=
  List.countP_append

theorem asciiCount_cons {byte : UInt8} (h : byte.toNat < 0x80) (raw : Bytes) :
    asciiCount (byte :: raw) = asciiCount raw + 1 := by
  rw [asciiCount, List.countP_cons_of_pos (by simpa using h), asciiCount]

theorem asciiCount_le_length (held : Option Held) (hheld : ∀ state ∈ held, state.Valid) (raw : Bytes) :
    asciiCount raw ≤ (decodeEscapingFrom held raw).length := by
  induction raw generalizing held with
  | nil => exact Nat.zero_le _
  | cons byte raw ih =>
      by_cases hbyte : byte.toNat < 0x80
      · have hlater := ih none (by simp)
        rw [decodeEscapingFrom_ascii hbyte fun state hstate => (hheld state hstate).low,
          asciiCount_cons hbyte, List.length_append, List.length_cons]
        rw [decodeEscaping]
        omega
      · have hcount : asciiCount (byte :: raw) = asciiCount raw := by
          rw [asciiCount, List.countP_cons_of_neg (by simpa using hbyte), asciiCount]
        have hlater := ih _ (steps_stepEscaping hheld byte).valid
        rw [hcount, decodeEscapingFrom, List.length_append]
        omega

mutual

theorem Doc.cost_le (write : Piece → Bytes) (doc : Doc) : doc.cost ≤ asciiCount (doc.written write) := by
  match doc with
  | .str text =>
      rw [Doc.cost, Doc.written, List.cons_append, asciiCount_cons (by decide)]
      omega
  | .emptyArr gap =>
      rw [Doc.cost, Doc.written, List.cons_append, asciiCount_cons (by decide)]
      omega
  | .arr items =>
      have := Items.cost_le write items
      rw [Doc.cost, Doc.written, asciiCount_cons (by decide)]
      omega
  | .emptyObj gap =>
      rw [Doc.cost, Doc.written, List.cons_append, asciiCount_cons (by decide)]
      omega
  | .obj members =>
      have := Members.cost_le write members
      rw [Doc.cost, Doc.written, asciiCount_cons (by decide)]
      omega

theorem Items.cost_le (write : Piece → Bytes) (items : Items) :
    items.cost ≤ asciiCount (items.written write) := by
  match items with
  | .one before item after =>
      have := Doc.cost_le write item
      simp only [Items.cost, Items.written, asciiCount_append, @asciiCount_cons 0x5d (by decide)]
      omega
  | .more before item after later =>
      have := Doc.cost_le write item
      have := Items.cost_le write later
      simp only [Items.cost, Items.written, asciiCount_append, @asciiCount_cons 0x2c (by decide)]
      omega

theorem Members.cost_le (write : Piece → Bytes) (members : Members) :
    members.cost ≤ asciiCount (members.written write) := by
  match members with
  | .one before name colon space value after =>
      have := Doc.cost_le write value
      simp only [Members.cost, Members.written, asciiCount_append, @asciiCount_cons 0x7d (by decide),
        List.append_assoc, List.cons_append, @asciiCount_cons 0x3a (by decide)]
      omega
  | .more before name colon space value after later =>
      have := Doc.cost_le write value
      have := Members.cost_le write later
      simp only [Members.cost, Members.written, asciiCount_append, @asciiCount_cons 0x2c (by decide),
        List.append_assoc, List.cons_append, @asciiCount_cons 0x3a (by decide)]
      omega

end

/-- `json.loads` of a body is what its document means. -/
theorem jsonLoads_written (hwrite : ReadBack write mean) (body : Body) :
    JsonReader.loads (decodeEscaping (body.written write)) = .ok (body.doc.value mean) := by
  obtain ⟨byte, tail, hdoc, hbyte⟩ := written_eq_cons write body.doc
  have hfuel : body.doc.cost ≤ (decodeEscaping (body.written write)).length + 1 := by
    have hcost := body.doc.cost_le write
    have hlength := asciiCount_le_length none (by simp) (body.written write)
    rw [Body.written, asciiCount_append, asciiCount_append] at hlength
    rw [decodeEscaping, Body.written]
    omega
  have hend : JsonReader.skipSpace (decodeEscaping (blanks body.after)) = [] := by
    have := skipSpace_blanks body.after []
    rw [List.append_nil] at this
    rw [this]
    rfl
  have hmark : (decodeEscaping (body.written write)).head? ≠ some 0xfeff := by
    obtain ⟨first, rest, hwritten, hascii⟩ : ∃ first rest, body.written write = first :: rest ∧
        first.toNat < 0x80 := by
      rw [Body.written, hdoc]
      cases body.before with
      | nil => exact ⟨byte, _, rfl, by rcases hbyte with rfl | rfl | rfl <;> decide⟩
      | cons blank gap => exact ⟨blank.byte, _, rfl, by cases blank <;> decide⟩
    rw [hwritten, decodeEscaping_ascii hascii, List.head?_cons, Ne, Option.some.injEq]
    omega
  have hscan := scanOnce_doc hwrite body.doc _ (blanks body.after) hfuel
  have hskip : JsonReader.skipSpace (decodeEscaping (body.written write)) =
      decodeEscaping (body.doc.written write ++ blanks body.after) :=
    skipSpace_doc body.before body.doc _
  rw [JsonReader.loads, if_neg hmark, hskip, hscan]
  simp only [bind, Except.bind, hend, if_true]
  rfl

end

/-! ### Both bodies have one meaning -/

theorem fromEscapedMembers_eq_map (members : List (CodePoints × Value)) :
    fromEscapedMembers members = members.map fun member => (member.1, fromEscapedBytes member.2) := by
  induction members with
  | nil => rfl
  | cons member members ih => rw [fromEscapedMembers, ih, List.map_cons]

theorem fromEscapedMembers_setMember (members : List (CodePoints × Value)) (key : CodePoints)
    (value : Value) :
    fromEscapedMembers (JsonReader.setMember members key value) =
      JsonReader.setMember (fromEscapedMembers members) key (fromEscapedBytes value) := by
  rw [fromEscapedMembers_eq_map, fromEscapedMembers_eq_map, JsonReader.map_setMember]

mutual

/-- Re-reading the strings of the escaped body gives the strings of the raw one. -/
theorem fromEscapedBytes_value (doc : Doc) :
    fromEscapedBytes (doc.value meanEscaped) = doc.value meanRaw := by
  match doc with
  | .str text =>
      rw [Doc.value, fromEscapedBytes, meanEscaped, encodeLatin1_map_toNat]
      rfl
  | .emptyArr _ => rfl
  | .arr items => rw [Doc.value, fromEscapedBytes, fromEscapedItems_values items, Doc.value]
  | .emptyObj _ => rfl
  | .obj members =>
      rw [Doc.value, fromEscapedBytes, fromEscapedMembers_addTo members, Doc.value]
      rfl

theorem fromEscapedItems_values (items : Items) :
    fromEscapedItems (items.values meanEscaped) = items.values meanRaw := by
  match items with
  | .one before item after =>
      rw [Items.values, fromEscapedItems, fromEscapedBytes_value item, fromEscapedItems, Items.values]
  | .more before item after later =>
      rw [Items.values, fromEscapedItems, fromEscapedBytes_value item, fromEscapedItems_values later,
        Items.values]

theorem fromEscapedMembers_addTo (members : Members) (read : List (CodePoints × Value)) :
    fromEscapedMembers (members.addTo meanEscaped read) =
      members.addTo meanRaw (fromEscapedMembers read) := by
  match members with
  | .one before name colon space value after =>
      rw [Members.addTo, fromEscapedMembers_setMember, fromEscapedBytes_value value, Members.addTo]
  | .more before name colon space value after later =>
      rw [Members.addTo, fromEscapedMembers_addTo later, fromEscapedMembers_setMember,
        fromEscapedBytes_value value, Members.addTo]

end

/-! ### Bodies without a byte from 0x80 up -/

theorem isAsciiBody_append (left right : Bytes) :
    isAsciiBody (left ++ right) = true ↔ isAsciiBody left = true ∧ isAsciiBody right = true := by
  rw [isAsciiBody, List.all_append, Bool.and_eq_true]
  rfl

theorem isAsciiBody_cons {byte : UInt8} (h : byte.toNat < 0x80) (raw : Bytes) :
    isAsciiBody (byte :: raw) = true ↔ isAsciiBody raw = true := by
  simp [isAsciiBody, h]

theorem isAsciiBody_of_forall {raw : Bytes} (h : ∀ byte ∈ raw, byte.toNat < 0x80) :
    isAsciiBody raw = true := by
  simpa [isAsciiBody] using h

theorem isAsciiBody_blanks (gap : Gap) : isAsciiBody (blanks gap) = true := by
  refine isAsciiBody_of_forall fun byte hbyte => ?_
  obtain ⟨blank, -, rfl⟩ := List.mem_map.mp hbyte
  cases blank <;> decide

theorem isAsciiBody_writtenName (name : List Spelled) : isAsciiBody (writtenName name) = true := by
  rw [writtenName, isAsciiBody_append, isAsciiBody_cons (by decide)]
  refine ⟨isAsciiBody_of_forall fun byte hbyte => ?_, by decide⟩
  obtain ⟨spelled, -, hspelled⟩ := List.mem_flatMap.mp hbyte
  exact spelled.written_ascii byte hspelled

theorem isAsciiBody_escaped (text : List Piece) : isAsciiBody (text.flatMap Piece.escaped) = true := by
  refine isAsciiBody_of_forall fun byte hbyte => ?_
  obtain ⟨piece, -, hpiece⟩ := List.mem_flatMap.mp hbyte
  cases piece with
  | ascii spelled => exact spelled.written_ascii byte hpiece
  | high high _ upper => exact ascii_escapeOf upper high byte hpiece

/-- A string without raw bytes from 0x80 up has none to escape. -/
theorem raw_eq_escaped {text : List Piece} (h : isAsciiBody (text.flatMap Piece.raw) = true) :
    text.flatMap Piece.raw = text.flatMap Piece.escaped := by
  induction text with
  | nil => rfl
  | cons piece text ih =>
      rw [List.flatMap_cons, isAsciiBody_append] at h
      rw [List.flatMap_cons, List.flatMap_cons, ih h.2]
      cases piece with
      | ascii spelled => rfl
      | high byte hbyte upper =>
          have hascii : byte.toNat < 0x80 := by simpa [Piece.raw, isAsciiBody] using h.1
          omega

/-- The marks of a document are ASCII. -/
theorem isAsciiBody_mark {byte : UInt8} (h : byte.toNat < 0x80) : isAsciiBody [byte] = true :=
  isAsciiBody_of_forall (by simpa using h)

mutual

theorem Doc.ascii_escaped (doc : Doc) : isAsciiBody (doc.written Piece.escaped) = true := by
  match doc with
  | .str text =>
      rw [Doc.written, isAsciiBody_append, isAsciiBody_cons (by decide)]
      exact ⟨isAsciiBody_escaped text, isAsciiBody_mark (by decide)⟩
  | .emptyArr gap | .emptyObj gap =>
      rw [Doc.written, isAsciiBody_append, isAsciiBody_cons (by decide)]
      exact ⟨isAsciiBody_blanks gap, isAsciiBody_mark (by decide)⟩
  | .arr items =>
      rw [Doc.written, isAsciiBody_cons (by decide)]
      exact Items.ascii_escaped items
  | .obj members =>
      rw [Doc.written, isAsciiBody_cons (by decide)]
      exact Members.ascii_escaped members

theorem Items.ascii_escaped (items : Items) : isAsciiBody (items.written Piece.escaped) = true := by
  match items with
  | .one before item after =>
      simp only [Items.written, isAsciiBody_append, isAsciiBody_blanks, true_and]
      exact ⟨⟨Doc.ascii_escaped item, trivial⟩, isAsciiBody_mark (by decide)⟩
  | .more before item after later =>
      simp only [Items.written, isAsciiBody_append, isAsciiBody_blanks, true_and]
      exact ⟨⟨Doc.ascii_escaped item, trivial⟩,
        (isAsciiBody_cons (by decide) _).mpr (Items.ascii_escaped later)⟩

theorem Members.ascii_escaped (members : Members) :
    isAsciiBody (members.written Piece.escaped) = true := by
  match members with
  | .one before name colon space value after =>
      simp only [Members.written, isAsciiBody_append, isAsciiBody_blanks, isAsciiBody_writtenName,
        @isAsciiBody_cons 0x3a (by decide), true_and]
      exact ⟨⟨Doc.ascii_escaped value, trivial⟩, isAsciiBody_mark (by decide)⟩
  | .more before name colon space value after later =>
      simp only [Members.written, isAsciiBody_append, isAsciiBody_blanks, isAsciiBody_writtenName,
        @isAsciiBody_cons 0x3a (by decide), true_and]
      exact ⟨⟨Doc.ascii_escaped value, trivial⟩,
        (isAsciiBody_cons (by decide) _).mpr (Members.ascii_escaped later)⟩

end

mutual

theorem Doc.raw_eq_escaped (doc : Doc) (h : isAsciiBody (doc.written Piece.raw) = true) :
    doc.written Piece.raw = doc.written Piece.escaped := by
  match doc with
  | .str text =>
      rw [Doc.written, isAsciiBody_append, isAsciiBody_cons (by decide)] at h
      rw [Doc.written, Rlm.raw_eq_escaped h.1, Doc.written]
  | .emptyArr gap | .emptyObj gap => rfl
  | .arr items =>
      rw [Doc.written, isAsciiBody_cons (by decide)] at h
      rw [Doc.written, Items.raw_eq_escaped items h, Doc.written]
  | .obj members =>
      rw [Doc.written, isAsciiBody_cons (by decide)] at h
      rw [Doc.written, Members.raw_eq_escaped members h, Doc.written]

theorem Items.raw_eq_escaped (items : Items) (h : isAsciiBody (items.written Piece.raw) = true) :
    items.written Piece.raw = items.written Piece.escaped := by
  match items with
  | .one before item after =>
      simp only [Items.written, isAsciiBody_append] at h
      rw [Items.written, Doc.raw_eq_escaped item h.1.1.2, Items.written]
  | .more before item after later =>
      simp only [Items.written, isAsciiBody_append, @isAsciiBody_cons 0x2c (by decide)] at h
      rw [Items.written, Doc.raw_eq_escaped item h.1.1.2, Items.raw_eq_escaped later h.2, Items.written]

theorem Members.raw_eq_escaped (members : Members)
    (h : isAsciiBody (members.written Piece.raw) = true) :
    members.written Piece.raw = members.written Piece.escaped := by
  match members with
  | .one before name colon space value after =>
      simp only [Members.written, isAsciiBody_append, @isAsciiBody_cons 0x3a (by decide)] at h
      rw [Members.written, Doc.raw_eq_escaped value h.1.1.2, Members.written]
  | .more before name colon space value after later =>
      simp only [Members.written, isAsciiBody_append, @isAsciiBody_cons 0x3a (by decide),
        @isAsciiBody_cons 0x2c (by decide)] at h
      rw [Members.written, Doc.raw_eq_escaped value h.1.1.2, Members.raw_eq_escaped later h.2,
        Members.written]

end

theorem loads_eq (body : Bytes) (hne : body ≠ []) :
    loads body = (JsonReader.loads (decodeEscaping body)).map fun data =>
      if isAsciiBody body then fromEscapedBytes data else data := by
  rw [loads, if_neg hne]
  cases JsonReader.loads (decodeEscaping body) <;> rfl

theorem Body.written_ne_nil (write : Piece → Bytes) (body : Body) : body.written write ≠ [] := by
  obtain ⟨byte, tail, hdoc, -⟩ := written_eq_cons write body.doc
  rw [Body.written, hdoc]
  simp

theorem loads_escaped (body : Body) :
    loads (body.written Piece.escaped) = .ok (body.doc.value meanRaw) := by
  have hascii : isAsciiBody (body.written Piece.escaped) = true := by
    rw [Body.written, isAsciiBody_append, isAsciiBody_append]
    exact ⟨⟨isAsciiBody_blanks _, body.doc.ascii_escaped⟩, isAsciiBody_blanks _⟩
  rw [loads_eq _ (body.written_ne_nil _), jsonLoads_written scanString_escaped]
  simp only [Except.map, hascii, if_true, fromEscapedBytes_value]

theorem loads_raw (body : Body) : loads (body.written Piece.raw) = .ok (body.doc.value meanRaw) := by
  by_cases hascii : isAsciiBody (body.written Piece.raw) = true
  · -- then there is nothing to escape
    have hsame : body.written Piece.raw = body.written Piece.escaped := by
      rw [Body.written, isAsciiBody_append, isAsciiBody_append] at hascii
      rw [Body.written, body.doc.raw_eq_escaped hascii.1.2, Body.written]
    rw [hsame, loads_escaped]
  · rw [loads_eq _ (body.written_ne_nil _), jsonLoads_written scanString_raw]
    simp only [Except.map, hascii]
    rfl

end Naco.Rlm
