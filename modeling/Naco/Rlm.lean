import Naco.Lib.Dict
import Naco.Lib.JsonReader

/-!
# Requests of FreeRADIUS

`rlm_rest` posts its attributes as JSON. Bytes from 0x80 up come as they are or as one escape each,
depending on the CPU, and `loads` reads both as the same text; `Attrs.parse` keeps the text attributes.
A float of the request is shown by Python's `repr`, which is a parameter.
-/

namespace Naco.Rlm

open Py

mutual

/-- `_from_escaped_bytes`. -/
def fromEscapedBytes : Value → Value
  | .str text =>
      match encodeLatin1 text with
      | some raw => .str (decodeEscaping raw)
      | none => .str text
  | .arr items => .arr (fromEscapedItems items)
  | .obj members => .obj (fromEscapedMembers members)
  | value => value

def fromEscapedItems : List Value → List Value
  | [] => []
  | item :: items => fromEscapedBytes item :: fromEscapedItems items

def fromEscapedMembers : List (CodePoints × Value) → List (CodePoints × Value)
  | [] => []
  | (key, value) :: members => (key, fromEscapedBytes value) :: fromEscapedMembers members

end

/-- `body.isascii()`. -/
def isAsciiBody (body : Bytes) : Bool :=
  body.all (·.toNat < 0x80)

/-- `loads`. -/
def loads (body : Bytes) : Except Error Value := do
  let data ← JsonReader.loads (decodeEscaping (if body = [] then encode "{}" else body))
  return if isAsciiBody body then fromEscapedBytes data else data

/-! ### Attributes -/

/-- `str(value)` of a value that has a text; a null, a list or an object has none. -/
def str? (floatRepr : CodePoints → String) : Value → Option CodePoints
  | .str text => some text
  | .int value => some (codePoints (toString value))
  | .bool value => some (codePoints (if value then "True" else "False"))
  | .float literal => some (codePoints (floatRepr literal))
  | .null | .arr _ | .obj _ => none

/-- `_text`, of the `str` of a value. -/
def text (text : CodePoints) : Except Error String := do
  let raw ← encodeEscaping text
  return decodeReplace raw

/-- `raw`: what an entry has as its value, or `None`. -/
def rawValue : Value → Option Value
  | .obj fields =>
      match JsonReader.getMember fields (codePoints "type") with
      | some (.str kind) =>
          -- binary protocol attributes: never used, not text
          if kind = codePoints "octets" then none else JsonReader.getMember fields (codePoints "value")
      | _ => JsonReader.getMember fields (codePoints "value")
  | entry => some entry

/-- The values of an attribute, `None` for one that is left out. -/
def rawValues (entry : Value) : Option (List Value) :=
  match rawValue entry with
  | none | some .null => none
  | some (.arr items) => some items
  | some value => some [value]

def texts (floatRepr : CodePoints → String) (values : List Value) : Except Error (List String) :=
  (values.filterMap (str? floatRepr)).mapM text

def isSurrogate (point : Nat) : Bool :=
  0xd800 ≤ point && point ≤ 0xdfff

/-- `name.lower()` after the characters `run`. A surrogate has no case, and no case goes across it. -/
def lowerFrom (run : List Char) : CodePoints → CodePoints
  | [] => codePoints (lower (String.ofList run))
  | point :: name =>
      if isSurrogate point then
        codePoints (lower (String.ofList run)) ++ point :: lowerFrom [] name
      else lowerFrom (run ++ [Char.ofNat point]) name

/-- `name.lower()`. -/
def lowerName (name : CodePoints) : CodePoints :=
  lowerFrom [] name

/-- `Attrs`: the texts of each name, in lower case. -/
structure Attrs where
  values : Dict CodePoints (List String)

/-- `Attrs(values)`. -/
def Attrs.ofValues (values : Dict CodePoints (List String)) : Attrs where
  values := Dict.ofRows (fun item => lowerName item.1) (·.2) values.items

/-- One round of the loop in `Attrs.parse`. -/
def parseEntry (floatRepr : CodePoints → String) (values : Dict CodePoints (List String))
    (member : CodePoints × Value) : Except Error (Dict CodePoints (List String)) :=
  match rawValues member.2 with
  | none => .ok values
  | some items => do
      let texts ← texts floatRepr items
      return values.set member.1 texts

/-- `Attrs.parse`. -/
def Attrs.parse (floatRepr : CodePoints → String) : Value → Except Error Attrs
  | .obj members => do
      let values ← members.foldlM (parseEntry floatRepr) .empty
      return Attrs.ofValues values
  | _ => .error (.valueError "request body must be a JSON object")

/-- `attrs.all(name)`. -/
def Attrs.all (attrs : Attrs) (name : CodePoints) : List String :=
  (attrs.values.get? (lowerName name)).getD []

/-- `attrs.get(name)`. -/
def Attrs.get (attrs : Attrs) (name : CodePoints) : Option String :=
  (attrs.values.get? (lowerName name)).bind List.head?

end Naco.Rlm
