import Naco.Lib.Csv
import Naco.Lib.Dict
import Naco.Lib.Utf8
import Naco.Routes.Devices
import Naco.Routes.Network
import Naco.Routes.Users

/-!
# CSV import

Create-only: a row that does not validate is reported, a row whose key exists is skipped, and the rest
is added in one transaction. A row is what `_rows` makes of a line of the file, by its column names.
Users are read and written in two transactions, with bcrypt in between.
-/

namespace Naco

open Py

/-- A line of the file with its number. -/
abbrev CsvRow := Nat × Dict String String

/-- `row.get(column, "")`. -/
def cell (row : Dict String String) (column : String) : String :=
  (row.get? column).getD ""

/-- `_bool`. -/
def csvBool (value : String) : Bool :=
  if value = "" then true else lower value ∈ ["1", "true", "yes", "y"]

/-! ### The file -/

inductive ImportKind where
  | users
  | devices
  | nas
  deriving DecidableEq, Repr

namespace ImportKind

def value : ImportKind → String
  | .users => "users"
  | .devices => "devices"
  | .nas => "nas"

/-- `ROW_LIMITS`. -/
def rowLimit : ImportKind → Nat
  | .users => 2000
  | .devices => 10000
  | .nas => 1000

/-- The columns that a file must have, sorted. -/
def required : ImportKind → List String
  | .users => ["password", "username"]
  | .devices => ["mac_address"]
  | .nas => ["ip_address", "name", "secret"]

end ImportKind

/-- `MAX_BYTES`. -/
def maxBytes : Nat :=
  5 * 1024 * 1024

/-- `data.decode("utf-8-sig")`. -/
def decodeUtf8Sig (data : Bytes) : Except Error String :=
  decodeStrict (if data.take 3 = [0xef, 0xbb, 0xbf] then data.drop 3 else data)

/-- A row of `csv.DictReader`: cells past the header are dropped, and missing ones are empty. -/
def dictRow (header record : List String) : Dict String String :=
  let cells := record ++ List.replicate (header.length - record.length) ""
  (header.zip cells).foldl (fun d item => d.set item.1 item.2) .empty

/-- A row with its names and cells stripped, without the cells of empty names. -/
def stripRow (row : Dict String String) : Dict String String :=
  (row.items.filter (·.1 ≠ "")).foldl (fun d item => d.set (strip item.1) (strip item.2)) .empty

/-- The rows of the records after the header, numbered from the second line on; `DictReader` leaves
blank lines out. -/
def numberRows (header : List String) (records : List (List String)) : List CsvRow :=
  (records.filter (· ≠ [])).mapIdx fun i record => (i + 2, stripRow (dictRow header record))

/-- `_rows`. -/
def csvRows (kind : ImportKind) (data : Bytes) : Except RouteError (List CsvRow) :=
  if maxBytes < data.length then apiError 413 "CSV files are limited to 5 MB"
  else match decodeUtf8Sig data with
    | .error _ => apiError 422 "the file is not UTF-8 text"
    | .ok text => do
        let (header, rest) ← (Csv.Reader.next {} (Csv.lines text.toList)).mapError .raised
        let header := header.getD []
        let missing := kind.required.filter (· ∉ header.map strip)
        if missing ≠ [] then
          let names := join ", " missing
          apiError 422 s!"missing columns: {names}"
        else
          let records ← (Csv.Reader.records {} rest).mapError .raised
          let rows := numberRows header records
          if kind.rowLimit < rows.length then
            apiError 413 s!"at most {kind.rowLimit} rows per {kind.value} import"
          else
            return rows

/-! ### The body models, on the cells of a row -/

/-- The first error of a model: its field and its message. -/
structure FieldError where
  field : String
  message : String
  deriving DecidableEq, Repr

/-- Why a row is reported and not imported. -/
inductive RowError where
  | invalid (error : FieldError)
  | unknownGroup (name : String)
  | deviceAdminGroup (name : String)
  | password (message : String)
  | nameTaken (name : String)
  deriving DecidableEq, Repr

def invalid {α : Type} (field message : String) : Except RowError α :=
  .error (.invalid ⟨field, message⟩)

/-- `Field(max_length=…)`. -/
def atMost (field : String) (limit : Nat) (value : String) : Except RowError String :=
  if value.toList.length ≤ limit then .ok value
  else invalid field s!"String should have at most {limit} characters"

/-- `Field(min_length=1, max_length=…)`. -/
def someAtMost (field : String) (limit : Nat) (value : String) : Except RowError String :=
  if value = "" then invalid field "String should have at least 1 character"
  else atMost field limit value

def required (field value : String) : Except RowError String :=
  if value = "" then invalid field "Field required" else .ok value

/-- `UserCreate(...)`. -/
def UserCreate.validate (username password email fullName : String) (groupId : Option Nat)
    (enabled : Bool) : Except RowError UserCreate := do
  let username ← someAtMost "username" 64 username
  let name := canonicalUsername (some username)
  if name = "" ∨ name.toList.any isSpace then
    invalid "username" "Value error, usernames are 1-64 characters without spaces"
  else
    let password ← atMost "password" 72 password
    let email ← atMost "email" 128 email
    let fullName ← atMost "full_name" 128 fullName
    return { username := name, password, email, fullName, groupId, enabled }

def deviceStatuses : List DeviceStatus :=
  [.pending, .approved, .blocked]

/-- `DeviceCreate(...)`; an empty cell is left out. -/
def DeviceCreate.validate (mac status deviceType description notes : String) :
    Except RowError DeviceCreate := do
  let mac ← required "mac_address" mac
  match normalizeMac (some mac) with
  | none => invalid "mac_address" "Value error, not a MAC address"
  | some macAddress =>
      let status ← if status = "" then .ok .approved
        else match deviceStatuses.find? (·.value = upper status) with
          | some status => .ok status
          | none => invalid "status" "Input should be 'PENDING', 'APPROVED' or 'BLOCKED'"
      let deviceType ← atMost "device_type" 64 deviceType
      let description ← atMost "description" 255 description
      let notes ← atMost "notes" 4000 notes
      return { macAddress, status, deviceType, description, notes }

def isNameStart (c : Char) : Bool :=
  ('A' ≤ c && c ≤ 'Z') || ('a' ≤ c && c ≤ 'z') || ('0' ≤ c && c ≤ '9')

/-- `NAME_PATTERN`. -/
def isClientName (name : String) : Bool :=
  match name.toList with
  | [] => false
  | c :: rest => isNameStart c && rest.all fun c => isNameStart c || c ∈ [' ', '.', '_', '-']

/-- `_secret`; the error is its message. -/
def checkSecret (minimum : Nat) (value : String) : Except String String :=
  if value.toList.length < minimum then .error s!"must be at least {minimum} characters"
  else if value.toList.any fun c => c.toNat < 0x21 || 0x7E < c.toNat then
    .error "use printable ASCII without spaces (what switches accept)"
  else .ok value

/-- What `NasIn` takes from elsewhere: the configured length of secrets, and pydantic's reading of a
number. -/
structure NasRules where
  secretMinLength : Nat
  intOfString : String → Option Int

/-- `coa_port` of `NasIn`. -/
def checkPort (rules : NasRules) (port : String) : Except RowError (Option Nat) :=
  if port = "" then .ok none
  else match rules.intOfString port with
    | none => invalid "coa_port"
        "Input should be a valid integer, unable to parse string as an integer"
    | some value =>
        if value < 1 then invalid "coa_port" "Input should be greater than or equal to 1"
        else if 65535 < value then invalid "coa_port" "Input should be less than or equal to 65535"
        else .ok (some value.toNat)

/-- `NasIn(...)`; an empty cell is left out. -/
def NasIn.validate (rules : NasRules) (name ipAddress secret vendor port authenticator description
    enabled : String) : Except RowError NasIn := do
  let name ← atMost "name" 64 (← required "name" name)
  if ¬ isClientName name then
    invalid "name" "String should match pattern '^[A-Za-z0-9][A-Za-z0-9 ._-]*$'"
  else
    let ipAddress ← required "ip_address" ipAddress
    let ipAddress ← (parseClientAddress ipAddress).mapError fun message =>
      .invalid ⟨"ip_address", "Value error, " ++ message⟩
    let secret ← atMost "secret" 128 (← required "secret" secret)
    let secret ← (checkSecret rules.secretMinLength secret).mapError fun message =>
      .invalid ⟨"secret", "Value error, " ++ message⟩
    let vendor := if vendor = "" then defaultVendor else vendor
    if (vendors.lookup vendor).isNone then
      let known := join ", " (vendors.map (·.1))
      invalid "vendor" s!"Value error, unknown vendor; one of {known}"
    else
      let coaPort ← checkPort rules port
      let description ← atMost "description" 255 description
      return {
        name, ipAddress, secret, vendor, coaPort, description
        requireMessageAuthenticator := csvBool authenticator
        enabled := csvBool enabled }

/-! ### The import loop -/

/-- What `_import` returns: the items to add, the number skipped and the errors, each with its
line. -/
structure Imported (α : Type) where
  created : List α := []
  skipped : Nat := 0
  errors : List (Nat × RowError) := []

/-- One round of `_import`. -/
def importRow {α : Type} (build : Dict String String → Except RowError α) (key : α → String)
    (progress : Imported α × List String) (row : CsvRow) : Imported α × List String :=
  let (done, taken) := progress
  match build row.2 with
  | .error error => ({ done with errors := done.errors ++ [(row.1, error)] }, taken)
  | .ok item =>
      if key item ∈ taken then ({ done with skipped := done.skipped + 1 }, taken)
      else ({ done with created := done.created ++ [item] }, taken ++ [key item])

/-- `MAX_ERRORS`. -/
def maxErrors : Nat :=
  100

/-- `_import`; at most a hundred errors are reported. -/
def importRows {α : Type} (build : Dict String String → Except RowError α) (key : α → String)
    (taken : List String) (rows : List CsvRow) : Imported α :=
  let done := (rows.foldl (importRow build key) ({}, taken)).1
  { done with errors := done.errors.take maxErrors }

structure ImportResult where
  created : Nat
  skipped : Nat
  errors : List (Nat × RowError)
  deriving DecidableEq, Repr

def Imported.result {α : Type} (done : Imported α) : ImportResult :=
  { created := done.created.length, skipped := done.skipped, errors := done.errors }

/-- The rows with new ones after them, ids given in order. -/
def addRows {α β : Type} (rows : List β) (key : β → Nat) (make : Nat → Nat → α → β)
    (items : List α) : List β :=
  rows ++ items.mapIdx fun i item => make i (nextId (rows.map key) + i) item

/-! ### The imports, from the rows on -/

/-- `build` of `import_users`. -/
def buildUser (t : Tables) (role : AdminRole) (row : Dict String String) :
    Except RowError UserCreate := do
  let groups := Dict.ofRows (fun group => casefold group.name) id t.groups
  let name := cell row "group"
  let group := if name = "" then none else groups.get? (casefold name)
  if name ≠ "" ∧ group = none then
    .error (.unknownGroup name)
  else if group.any (fun group => group.deviceAdminPrivilege.isSome) ∧ ¬ role.allows .superuser then
    .error (.deviceAdminGroup ((group.map (·.name)).getD ""))
  else
    match validateUserPassword (cell row "password") with
    | .error message => .error (.password message)
    | .ok () =>
        UserCreate.validate (cell row "username") (cell row "password") (cell row "email")
          (cell row "full_name") (group.map (·.id)) (csvBool (cell row "enabled"))

/-- `import_users` up to its first commit. -/
def readUsers (role : AdminRole) (rows : List CsvRow) (db : Database) : Imported UserCreate :=
  importRows (buildUser db.val role) (·.username) (db.val.users.map (·.username)) rows

/-- The second transaction of `import_users`: the digests are those of the items, in order. -/
def writeUsers (digest : Nat → String) (items : List UserCreate) (db : Database) :
    Except RouteError Outcome :=
  let t := db.val
  commitOrConflict "users changed while importing — run the import again"
    { t with users := addRows t.users (·.id) (fun i id body => body.row id (digest i)) items }

/-- `import_users`: read from the first state, and written to the second. -/
def importUsers (digest : Nat → String) (role : AdminRole) (rows : List CsvRow) (readAt db : Database) :
    Except RouteError Outcome := do
  require role .operator
  writeUsers digest (readUsers role rows readAt).created db

/-- `build` of `import_devices`. -/
def buildDevice (row : Dict String String) : Except RowError DeviceCreate :=
  DeviceCreate.validate (cell row "mac_address") (cell row "status") (cell row "device_type")
    (cell row "description") (cell row "notes")

def importDevices (platform : Platform) (now : Int) (role : AdminRole) (rows : List CsvRow)
    (db : Database) : Except RouteError Outcome := do
  require role .operator
  let t := db.val
  let items := (importRows buildDevice (·.macAddress) (t.devices.map (·.macAddress)) rows).created
  commitOrConflict "devices changed while importing — run the import again"
    { t with devices := addRows t.devices (·.id) (fun _ id body => body.row platform id now) items }
    (if items = [] then [] else ["devices imported"])

/-- `build` of `import_nas`. -/
def buildNas (rules : NasRules) (t : Tables) (row : Dict String String) : Except RowError NasIn := do
  let body ← NasIn.validate rules (cell row "name") (cell row "ip_address") (cell row "secret")
    (cell row "vendor") (cell row "coa_port") (cell row "require_message_authenticator")
    (cell row "description") (cell row "enabled")
  if t.nasClients.any (·.name = body.name) then .error (.nameTaken body.name) else return body

/-- The items `import_nas` adds. -/
def nasItems (rules : NasRules) (rows : List CsvRow) (t : Tables) : List NasIn :=
  (importRows (buildNas rules t) (·.ipAddress) (t.nasClients.map (·.ipAddress)) rows).created

def importNas (rules : NasRules) (role : AdminRole) (rows : List CsvRow) (db : Database) :
    Except RouteError Outcome := do
  require role .superuser
  let t := db.val
  commitOrConflict "NAS clients changed while importing — run the import again"
    { t with
      nasClients := addRows t.nasClients (·.id) (fun _ id body => body.row id) (nasItems rules rows t) }

/-! ### The imports of a file -/

/-- `POST /import/users` without a concurrent writer. -/
def importUsersFile (digest : Nat → String) (role : AdminRole) (data : Bytes) (db : Database) :
    Except RouteError (Outcome × ImportResult) := do
  require role .operator
  let rows ← csvRows .users data
  let outcome ← importUsers digest role rows db db
  return (outcome, (readUsers role rows db).result)

/-- `POST /import/devices`. -/
def importDevicesFile (platform : Platform) (now : Int) (role : AdminRole) (data : Bytes)
    (db : Database) : Except RouteError (Outcome × ImportResult) := do
  require role .operator
  let rows ← csvRows .devices data
  let outcome ← importDevices platform now role rows db
  let taken := db.val.devices.map (·.macAddress)
  return (outcome, (importRows buildDevice (·.macAddress) taken rows).result)

/-- `POST /import/nas`. -/
def importNasFile (rules : NasRules) (role : AdminRole) (data : Bytes) (db : Database) :
    Except RouteError (Outcome × ImportResult) := do
  require role .superuser
  let rows ← csvRows .nas data
  let outcome ← importNas rules role rows db
  let taken := db.val.nasClients.map (·.ipAddress)
  return (outcome, (importRows (buildNas rules db.val) (·.ipAddress) taken rows).result)

end Naco
