import Naco.Lib.Dict
import Naco.Context
import Mathlib.Data.List.Infix

/-!
# Reply attributes of a policy

Structural checks always; for names typed by an administrator also FreeRADIUS' dictionary, whose
spelling is then the one kept. Stored policies are compiled without the dictionary.
-/

namespace Naco

open Py

def maxAttrs : Nat := 32
def maxValues : Nat := 10
def maxLen : Nat := 253

/-- FreeRADIUS' dictionary: the spelling of a lower-case name, and the closest known name that
`difflib` offers for an unknown one. -/
structure RadiusDictionary where
  spelling : String → Option String
  closest : String → Option String

/-- `dictionary()`, from the names of its file. -/
def RadiusDictionary.ofNames (names : List String) (closest : String → Option String) :
    RadiusDictionary where
  spelling key := (Dict.ofRows lower id (names.filter (· ≠ ""))).get? key
  closest

/-- The errors of `validate_reply_attributes`, each with the attribute name it is about. -/
inductive AttributesError where
  | notAnObject
  | tooMany
  | invalidName (name : String)
  | cannotBeSet (name : String)
  | unknownName (name : String) (hint : Option String)
  | valueCount (name : String)
  | boolean (name : String)
  | integerRange (name : String)
  | textLength (name : String)
  | expansion (name : String)
  | controlCharacter (name : String)
  | valueType (name : String)
  deriving DecidableEq, Repr

def isAsciiLetter (c : Char) : Bool :=
  ('A' ≤ c && c ≤ 'Z') || ('a' ≤ c && c ≤ 'z')

def isNameChar (c : Char) : Bool :=
  isAsciiLetter c || ('0' ≤ c && c ≤ '9') || c = '-'

/-- `_NAME`. The `$` of the expression also stands before a final line feed. -/
def isAttributeName (name : String) : Bool :=
  let cs := if name.toList.getLast? = some '\n' then name.toList.dropLast else name.toList
  match cs with
  | [] => false
  | c :: rest => isAsciiLetter c && rest.all isNameChar && rest.length ≤ 63

/-- `_FORBIDDEN`. -/
def forbiddenNames : List String := [
  "tunnel-type", "tunnel-medium-type", "tunnel-private-group-id",
  "message-authenticator", "eap-message", "state", "proxy-state",
  "user-password", "chap-password", "auth-type"]

/-- `_FORBIDDEN_PREFIXES`. -/
def forbiddenPrefixes : List String :=
  ["ms-mppe-", "freeradius-", "naco-"]

/-- `_check_value`. -/
def checkValue (name : String) : Json → Except AttributesError ReplyValue
  | .bool _ => .error (.boolean name)
  | .int value =>
      if 0 ≤ value ∧ value ≤ 0xFFFFFFFF then .ok (.int value.toNat) else .error (.integerRange name)
  | .str value =>
      if value = "" ∨ maxLen < value.toList.length then .error (.textLength name)
      else if ['%', '{'] <:+: value.toList then .error (.expansion name)
      else if value.toList.any fun c => c.toNat < 0x20 || c.toNat = 0x7F then
        .error (.controlCharacter name)
      else .ok (.text value)
  | _ => .error (.valueType name)

/-- `_known`. -/
def known (dictionary : RadiusDictionary) (name : String) : Except AttributesError String :=
  match dictionary.spelling (lower name) with
  | some spelled => .ok spelled
  | none => .error (.unknownName name (dictionary.closest (lower name)))

/-- One attribute of the mapping, under the name it is kept under. -/
def checkAttribute (dictionary : Option RadiusDictionary) (name : String) (value : Json) :
    Except AttributesError (String × ReplyEntry) := do
  if ¬ isAttributeName name then
    .error (.invalidName name)
  else if lower name ∈ forbiddenNames ∨
      forbiddenPrefixes.any fun start => start.toList.isPrefixOf (lower name).toList then
    .error (.cannotBeSet name)
  else
    let name ← match dictionary with
      | some dictionary => known dictionary name
      | none => .ok name
    match value with
    | .arr values =>
        if 1 ≤ values.length ∧ values.length ≤ maxValues then
          return (name, .many (← values.mapM (checkValue name)))
        else
          .error (.valueCount name)
    | value => return (name, .one (← checkValue name value))

/-- `validate_reply_attributes`; the dictionary is there for `known_names=True`. -/
def validateReplyAttributes (raw : Json) (dictionary : Option RadiusDictionary := none) :
    Except AttributesError ReplyAttributes :=
  if raw.isFalsy then .ok []
  else match raw with
    | .obj members => do
        let entries := Json.entries members
        if maxAttrs < entries.length then
          .error .tooMany
        else
          let checked ← entries.mapM fun entry => checkAttribute dictionary entry.1 entry.2
          -- two names with one spelling share an entry
          return (checked.foldl (fun out entry => out.set entry.1 entry.2) Dict.empty).items
    | _ => .error .notAnObject

end Naco
