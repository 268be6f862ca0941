import Naco.Identity
import Naco.Lib.Fnmatch

/-!
# Device administration

Who may log in, to which level, and which commands they may run. Only members of a group with a
device-admin profile pass. The first rule of a command set that matches decides, then the set's
default; without a command set the privilege level governs.
-/

namespace Naco.Tacacs

open Py

structure Verdict where
  allowed : Bool
  reason : String
  deriving DecidableEq, Repr

/-- `admin_rights`. -/
def adminRights : Option UserInfo → Verdict
  | none => ⟨false, "unknown user"⟩
  | some user =>
      if !user.enabled then ⟨false, "user disabled"⟩
      else if user.deviceAdminPrivilege.isNone then ⟨false, "no device-administration rights"⟩
      else ⟨true, "ok"⟩

/-- `privilege_allowed`. -/
def privilegeAllowed (user : UserInfo) (requested : Nat) : Verdict :=
  let granted := user.deviceAdminPrivilege.getD 0
  if granted < requested then ⟨false, s!"privilege {requested} requested, {granted} granted"⟩
  else ⟨true, "ok"⟩

/-! ### Service attributes -/

/-- A letter, a digit, or one of the listed characters. -/
def isWordChar (others : List Char) (c : Char) : Bool :=
  c.isAlphanum || c ∈ others

/-- The longest run of such characters at the start, if it has between 1 and `most` of them, and what
follows it and white space. A shorter run is never followed by what the pattern needs next. -/
def takeWord (others : List Char) (most : Nat) (cs : List Char) : Option (List Char × List Char) :=
  let word := cs.takeWhile (isWordChar others)
  if word = [] ∨ most < word.length then none
  else some (word, (cs.drop word.length).dropWhile isSpace)

/-- The groups that `_SERVICE_ATTRIBUTE` matches in a line: the service, the attribute, its separator
and the value. -/
def matchServiceAttribute (line : String) : Option (String × String × Char × String) := do
  let (service, rest) ← takeWord ['_', '.', '-'] 32 (line.toList.dropWhile isSpace)
  let (attr, rest) ← match rest with
    | ':' :: rest => takeWord ['_', '.', ':', '-'] 64 (rest.dropWhile isSpace)
    | _ => none
  match rest with
  | [] => none
  | separator :: rest =>
      let value := stripChars rest
      if (separator = '=' ∨ separator = '*') ∧ value.all (fun c => ' ' ≤ c ∧ c ≤ '~') then
        some (String.ofList service, String.ofList attr, separator, String.ofList value)
      else none

/-- `parse_service_attribute`: the service and the pair. -/
def parseServiceAttribute (line : String) : Except Error (String × String) :=
  match matchServiceAttribute line with
  | none =>
      .error (.valueError (reprText (truncate 60 (strip line)) ++ " is not 'service: attribute=value'"))
  | some (service, attr, separator, value) =>
      let pair := attr ++ String.singleton separator ++ value
      if value = "" then .error (.valueError s!"{attr} has no value")
      else if lower service = "shell" ∧ lower attr = "priv-lvl" then
        .error (.valueError "priv-lvl comes from the group's privilege level")
      else if 255 < encodedLength pair then .error (.valueError s!"{attr} is longer than 255 bytes")
      else .ok (service, pair)

/-- `service_attributes`: the pairs that a group's members receive for a service. -/
def serviceAttributes (user : UserInfo) (service : String) : Except Error (List String) := do
  let pairs ← user.deviceAdminAttributes.mapM parseServiceAttribute
  return (pairs.filter fun pair => lower pair.1 = lower service).map (·.2)

/-! ### Commands -/

/-- The index of the separator of a pair: the first `=` or `*` of it that is not at its start. -/
def separatorIndex (pair : List Char) : Option Nat :=
  let found := (['=', '*'].map fun separator => pair.findIdx (· = separator)).filter fun index =>
    0 < index && index < pair.length
  found.min?

/-- The attributes of a request, each with the value given first, and the values of `cmd-arg`. -/
structure ParsedArgs where
  attrs : List (String × String) := []
  cmdArgs : List String := []
  deriving DecidableEq, Repr

def ParsedArgs.get (parsed : ParsedArgs) (name : String) : Option String :=
  parsed.attrs.lookup name

def ParsedArgs.add (parsed : ParsedArgs) (pair : String) : ParsedArgs :=
  match separatorIndex pair.toList with
  | none => parsed
  | some index =>
      let key := lower (strip (truncate index pair))
      let value := String.ofList (pair.toList.drop (index + 1))
      if key = "cmd-arg" then { parsed with cmdArgs := parsed.cmdArgs ++ [value] }
      else if (parsed.get key).isSome then parsed
      else { parsed with attrs := parsed.attrs ++ [(key, value)] }

/-- `parse_args`. -/
def parseArgs (args : List String) : ParsedArgs :=
  args.foldl ParsedArgs.add {}

/-- `command_line`. -/
def commandLine (cmd : String) (cmdArgs : List String) : String :=
  join " " (words (join " " (cmd :: cmdArgs.filter (· ≠ "<cr>"))))

/-- `load_command_set`. -/
def loadCommandSet (t : Tables) (commandSetId : Option Nat) : Option CommandSet :=
  commandSetId.bind fun id => t.commandSets.find? (·.id = id)

/-- The verdict of a rule or a default, lower-case. -/
def CommandAction.lowerValue : CommandAction → String
  | .permit => "permit"
  | .deny => "deny"

/-- `command_allowed`. -/
def commandAllowed (line : String) : Option CommandSet → Verdict
  | none => ⟨true, "no command set: privilege level governs"⟩
  | some set =>
      let matching := set.rules.find? fun rule =>
        Fnmatch.fnmatchcase (casefold line) (casefold (join " " (words rule.2)))
      match matching with
      | some (action, pattern) =>
          let verdict := CommandAction.lowerValue action
          ⟨action = .permit, s!"{verdict} by rule '{pattern}'"⟩
      | none =>
          let verdict := CommandAction.lowerValue set.defaultAction
          ⟨set.defaultAction = .permit, s!"{verdict} by default of {set.name}"⟩

end Naco.Tacacs
