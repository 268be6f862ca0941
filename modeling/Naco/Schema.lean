import Naco.Lib.Bytes
import Naco.Lib.Python
import Naco.Models
import Mathlib.Logic.Function.Basic

/-!
# The schema, and the database as SQL sees it

What the command line reads and writes without the object mapper: rows of raw values, found by table and
column name. The tables are those of the models; `id` is the primary key of each and not listed.
-/

namespace Naco

open Py

inductive ColumnType where
  | integer
  | bigInteger
  | boolean
  | string (length : Nat)
  | text
  | json
  | utcDateTime
  | enum (name : String)
  | encryptedString (length : Nat) (aad : String)
  deriving DecidableEq, Repr

structure TableDef where
  name : String
  columns : List (String × ColumnType)
  deriving DecidableEq, Repr

def schema : List TableDef := [
  ⟨"admin_users", [("username", .string 64), ("password_hash", .string 128),
    ("role", .enum "admin_role"), ("enabled", .boolean), ("must_change_password", .boolean),
    ("totp_secret", .encryptedString 256 "admin_users.totp_secret"),
    ("totp_pending_secret", .encryptedString 256 "admin_users.totp_pending_secret"),
    ("totp_last_step", .integer), ("recovery_codes", .json), ("created_at", .utcDateTime),
    ("updated_at", .utcDateTime), ("last_login_at", .utcDateTime),
    ("password_changed_at", .utcDateTime)]⟩,
  ⟨"admin_sessions", [("token_hash", .string 64), ("admin_id", .integer), ("csrf_token", .string 64),
    ("created_at", .utcDateTime), ("last_seen_at", .utcDateTime), ("expires_at", .utcDateTime),
    ("ip", .string 45), ("user_agent", .string 256)]⟩,
  ⟨"api_tokens", [("name", .string 64), ("token_hash", .string 64), ("prefix", .string 16),
    ("role", .enum "token_role"), ("created_by", .string 64), ("created_at", .utcDateTime),
    ("expires_at", .utcDateTime), ("last_used_at", .utcDateTime), ("revoked_at", .utcDateTime)]⟩,
  ⟨"audit_logs", [("timestamp", .utcDateTime), ("actor", .string 64), ("actor_type", .enum "actor_type"),
    ("ip", .string 45), ("action", .string 64), ("target_type", .string 32), ("target_id", .string 64),
    ("target_name", .string 128), ("changes", .json)]⟩,
  ⟨"command_sets", [("name", .string 64), ("description", .string 255),
    ("default_action", .enum "command_default_action"), ("created_at", .utcDateTime),
    ("updated_at", .utcDateTime)]⟩,
  ⟨"command_rules", [("command_set_id", .integer), ("position", .integer),
    ("action", .enum "command_rule_action"), ("pattern", .string 256)]⟩,
  ⟨"groups", [("name", .string 64), ("description", .string 255), ("device_admin_privilege", .integer),
    ("command_set_id", .integer), ("device_admin_attributes", .json), ("created_at", .utcDateTime),
    ("updated_at", .utcDateTime)]⟩,
  ⟨"users", [("username", .string 64), ("source", .enum "user_source"), ("password_hash", .string 128),
    ("email", .string 128), ("full_name", .string 128), ("group_id", .integer), ("enabled", .boolean),
    ("created_at", .utcDateTime), ("updated_at", .utcDateTime), ("last_login_at", .utcDateTime)]⟩,
  ⟨"devices", [("mac_address", .string 17), ("status", .enum "device_status"),
    ("device_type", .string 64), ("vendor", .string 128), ("description", .string 255), ("notes", .text),
    ("first_seen", .utcDateTime), ("last_seen", .utcDateTime), ("last_nas_ip", .string 45),
    ("last_username", .string 64)]⟩,
  ⟨"guest_registrations", [("mac_address", .string 17), ("full_name", .string 128),
    ("email", .string 128), ("nas_ip", .string 45), ("client_ip", .string 45), ("created_by", .string 64),
    ("created_at", .utcDateTime), ("expires_at", .utcDateTime), ("revoked_at", .utcDateTime)]⟩,
  ⟨"policies", [("name", .string 128), ("description", .string 512), ("priority", .integer),
    ("enabled", .boolean), ("conditions", .json), ("action", .enum "policy_action"), ("vlan", .integer),
    ("reply_attributes", .json), ("created_at", .utcDateTime), ("updated_at", .utcDateTime)]⟩,
  ⟨"nas_clients", [("name", .string 64), ("ip_address", .string 45),
    ("secret", .encryptedString 512 "nas_clients.secret"), ("coa_port", .integer),
    ("vendor", .string 32), ("require_message_authenticator", .boolean), ("description", .string 255),
    ("enabled", .boolean), ("created_at", .utcDateTime), ("updated_at", .utcDateTime)]⟩,
  ⟨"tacacs_clients", [("name", .string 64), ("ip_address", .string 45),
    ("key", .encryptedString 512 "tacacs_clients.key"), ("description", .string 255),
    ("enabled", .boolean), ("created_at", .utcDateTime), ("updated_at", .utcDateTime)]⟩,
  ⟨"radius_sessions", [("nas_ip", .string 45), ("acct_session_id", .string 64),
    ("username", .string 64), ("acct_username", .string 64), ("calling_station_id", .string 64),
    ("nas_ip_address", .string 45), ("nas_identifier", .string 64), ("audit_session_id", .string 64),
    ("mac_address", .string 17), ("framed_ip", .string 45), ("ssid", .string 64),
    ("auth_method", .string 16), ("policy_name", .string 128), ("vlan", .integer),
    ("decision_digest", .string 64), ("started_at", .utcDateTime), ("updated_at", .utcDateTime),
    ("input_octets", .bigInteger), ("output_octets", .bigInteger), ("session_time", .integer)]⟩,
  ⟨"auth_logs", [("timestamp", .utcDateTime), ("username", .string 64), ("mac_address", .string 17),
    ("nas_ip", .string 45), ("nas_name", .string 64), ("ssid", .string 64), ("auth_method", .string 16),
    ("result", .enum "auth_result"), ("reason", .string 255), ("policy_name", .string 128),
    ("vlan", .integer), ("decision_digest", .string 64)]⟩,
  ⟨"tacacs_logs", [("timestamp", .utcDateTime), ("kind", .enum "tacacs_kind"),
    ("username", .string 64), ("client_ip", .string 45), ("rem_addr", .string 64), ("port", .string 64),
    ("privilege", .integer), ("command", .text), ("result", .string 16), ("reason", .string 255)]⟩]

/-- The columns that hold an `EncryptedString`, with the associated data of each. -/
def encryptedStrings : List (String × String × String) :=
  schema.flatMap fun table => table.columns.filterMap fun
    | (column, .encryptedString _ aad) => some (table.name, column, aad)
    | _ => none

def hasColumn (table column : String) : Bool :=
  schema.any fun defined => defined.name = table && defined.columns.any (·.1 = column)

/-! ### Raw rows -/

inductive SqlValue where
  | null
  | integer (value : Int)
  | text (value : String)
  | blob (raw : Bytes)
  deriving DecidableEq, Repr

structure SqlRow where
  id : Nat
  values : String → SqlValue

namespace SqlRow

def set (row : SqlRow) (column : String) (value : SqlValue) : SqlRow :=
  { row with values := Function.update row.values column value }

@[simp]
theorem id_set (row : SqlRow) (column : String) (value : SqlValue) :
    (row.set column value).id = row.id :=
  rfl

@[simp]
theorem values_set (row : SqlRow) (column : String) (value : SqlValue) :
    (row.set column value).values column = value := by
  simp [set]

theorem values_set_of_ne (row : SqlRow) {column other : String} (h : other ≠ column)
    (value : SqlValue) : (row.set column value).values other = row.values other := by
  simp [set, h]

end SqlRow

/-- The rows of each table, with the primary key. -/
structure SqlDatabase where
  rows : String → List SqlRow
  ids : ∀ table, ((rows table).map (·.id)).Nodup

namespace SqlDatabase

def setRows (db : SqlDatabase) (table : String) (rows : List SqlRow)
    (h : (rows.map (·.id)).Nodup) : SqlDatabase where
  rows := Function.update db.rows table rows
  ids := by
    intro other
    by_cases heq : other = table
    · subst heq
      rwa [Function.update_self]
    · rw [Function.update_of_ne heq]
      exact db.ids other

@[simp]
theorem rows_setRows (db : SqlDatabase) (table : String) (rows : List SqlRow)
    (h : (rows.map (·.id)).Nodup) : (db.setRows table rows h).rows table = rows := by
  simp [setRows]

theorem rows_setRows_of_ne (db : SqlDatabase) {table other : String} (hne : other ≠ table)
    (rows : List SqlRow) (h : (rows.map (·.id)).Nodup) :
    (db.setRows table rows h).rows other = db.rows other := by
  simp [setRows, hne]

def noSuchColumn {α : Type} (table column : String) : Except Error α :=
  .error (.lookupError s!"no such column: {table}.{column}")

/-- The values of a column that are not null, with the ids of their rows. -/
def notNull (db : SqlDatabase) (table column : String) : List (Nat × SqlValue) :=
  (db.rows table).filterMap fun row =>
    if row.values column = .null then none else some (row.id, row.values column)

/-- `SELECT id, column FROM table WHERE column IS NOT NULL`. -/
def select (db : SqlDatabase) (table column : String) : Except Error (List (Nat × SqlValue)) :=
  if hasColumn table column then .ok (db.notNull table column) else noSuchColumn table column

theorem mem_notNull_iff {db : SqlDatabase} {table column : String} {entry : Nat × SqlValue} :
    entry ∈ db.notNull table column ↔
      ∃ row ∈ db.rows table, row.values column ≠ .null ∧ (row.id, row.values column) = entry := by
  simp only [notNull, List.mem_filterMap, Option.ite_none_left_eq_some, Option.some.injEq]

theorem nodup_notNull (db : SqlDatabase) (table column : String) :
    ((db.notNull table column).map (·.1)).Nodup := by
  have hids (rows : List SqlRow) : (rows.filterMap fun row =>
      if row.values column = .null then none else some (row.id, row.values column)).map (·.1) =
      (rows.filter fun row => row.values column ≠ .null).map (·.id) := by
    induction rows with
    | nil => rfl
    | cons row rows ih =>
        by_cases hnull : row.values column = .null
        · simp [hnull, ih]
        · simp [hnull, ih]
  rw [notNull, hids]
  exact (db.ids table).sublist (List.filter_sublist.map _)

theorem nodup_update (db : SqlDatabase) (table column : String) (value : SqlValue) (id : Nat) :
    (((db.rows table).map fun row => if row.id = id then row.set column value else row).map
      (·.id)).Nodup := by
  rw [List.map_map]
  convert db.ids table using 2
  funext row
  by_cases hid : row.id = id
  · simp [hid]
  · simp [hid]

/-- `UPDATE table SET column = value WHERE id = id`. -/
def update (db : SqlDatabase) (table column : String) (value : SqlValue) (id : Nat) :
    Except Error SqlDatabase :=
  if hasColumn table column then
    .ok (db.setRows table _ (db.nodup_update table column value id))
  else noSuchColumn table column

/-- A new row, with the next id. -/
def insert (db : SqlDatabase) (table : String) (values : String → SqlValue) : SqlDatabase :=
  db.setRows table (db.rows table ++ [⟨nextId ((db.rows table).map (·.id)), values⟩]) (by
    rw [List.map_append]
    exact nodup_concat_nextId (db.ids table))

end SqlDatabase

end Naco
