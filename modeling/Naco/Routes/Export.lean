import Naco.Lib.Calendar
import Naco.Lib.CsvWriter
import Naco.Routes.Transfer

/-!
# CSV export

Never secrets. A cell that a spreadsheet would treat as a formula is prefixed with a quote.
-/

namespace Naco

open Py

/-- A value of an exported row; an enumeration is written by its value. -/
inductive CellValue where
  | null
  | text (value : String)
  | flag (value : Bool)
  | number (value : Nat)

/-- `str(value)`. -/
def CellValue.str : CellValue → String
  | .null => ""
  | .text value => value
  | .flag value => if value then "True" else "False"
  | .number value => toString value

/-- `_FORMULA`. -/
def formulaStarts : List Char :=
  ['=', '+', '-', '@', '\t', '\r']

def startsFormula (text : String) : Bool :=
  text.toList.head?.any (· ∈ formulaStarts)

/-- `safe_cell`. -/
def safeCell (value : CellValue) : String :=
  if startsFormula value.str then "'" ++ value.str else value.str

/-- `_csv`. -/
def csvText (headers : List String) (rows : List (List CellValue)) : String :=
  String.ofList (Csv.writeRows (headers :: rows.map (·.map safeCell)))

def UserSource.value : UserSource → String
  | .local => "LOCAL"
  | .ldap => "LDAP"

/-- `ORDER BY` a text column. -/
def orderBy {α : Type} (column : α → String) (rows : List α) : List α :=
  rows.insertionSort fun a b => column a ≤ column b

def userColumns : List String :=
  ["username", "source", "email", "full_name", "group", "enabled"]

def deviceColumns : List String :=
  ["mac_address", "status", "device_type", "vendor", "description", "notes", "last_seen"]

def nasColumns : List String :=
  ["name", "ip_address", "vendor", "coa_port", "require_message_authenticator", "description", "enabled"]

def userCells (t : Tables) (user : User) : List CellValue :=
  [.text user.username, .text user.source.value, .text user.email, .text user.fullName,
    .text (((groupOf t user).map (·.name)).getD ""), .flag user.enabled]

def deviceCells (device : Device) : List CellValue :=
  [.text device.macAddress, .text device.status.value, .text device.deviceType, .text device.vendor,
    .text device.description, .text device.notes, .text (isoformatUtc device.lastSeen)]

def nasCells (nas : NasClient) : List CellValue :=
  [.text nas.name, .text nas.ipAddress, .text nas.vendor, .number nas.coaPort,
    .flag nas.requireMessageAuthenticator, .text nas.description, .flag nas.enabled]

/-- `export`, to its text. -/
def exportTables (kind : ImportKind) (t : Tables) : String :=
  match kind with
  | .users => csvText userColumns ((orderBy (·.username) t.users).map (userCells t))
  | .devices => csvText deviceColumns ((orderBy (·.macAddress) t.devices).map deviceCells)
  | .nas => csvText nasColumns ((orderBy (·.name) t.nasClients).map nasCells)

end Naco
