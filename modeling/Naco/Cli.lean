import Naco.Schema
import Naco.Secrets

/-!
# Key rotation

`nacoctl rotate-master-key`: one transaction decrypts every stored secret with the old key and encrypts it
with the new one, column by column and row by row. What raises before the commit leaves the database as
it was.
-/

namespace Naco

open Py

/-- `ENCRYPTED_COLUMNS`: the associated data is `table.column`. -/
def encryptedColumns : List (String × String) := [
  ("admin_users", "totp_secret"), ("admin_users", "totp_pending_secret"),
  ("nas_clients", "secret"), ("tacacs_clients", "key")]

def columnAad (column : String × String) : String :=
  column.1 ++ "." ++ column.2

/-- What the command takes from the process it runs in; `urandom` gives the nonces in turn. -/
structure Shell where
  aead : Aead
  masterKey : Key
  urandom : Nat → Nonce
  user : Option String
  timestamp : String

inductive CliError where
  | configError (message : String)
  /-- `_fail`. -/
  | failed (message : String)
  | secret (fault : SecretFault)
  | raised (error : Error)
  deriving DecidableEq, Repr

/-- `crypto.decrypt` of a value as the database gives it. -/
def decryptValue (aead : Aead) (value : SqlValue) (aad : String) (key : Key) :
    Except SecretFault String :=
  match value with
  | .text token => Secrets.decrypt aead token aad key
  | _ => .error (.raised (.typeError "object has no attribute 'startswith'"))

variable (shell : Shell) (newKey : Key)

/-- A row of the inner loop; the number counts the secrets that were changed. -/
def reencryptRow (column : String × String) (state : SqlDatabase × Nat) (row : Nat × SqlValue) :
    Except CliError (SqlDatabase × Nat) := do
  let plain ← (decryptValue shell.aead row.2 (columnAad column) shell.masterKey).mapError .secret
  let token := Secrets.encrypt shell.aead (shell.urandom state.2) plain (columnAad column) newKey
  let db ← (state.1.update column.1 column.2 (.text token) row.1).mapError .raised
  return (db, state.2 + 1)

/-- A column of the outer loop. -/
def reencryptColumn (state : SqlDatabase × Nat) (column : String × String) :
    Except CliError (SqlDatabase × Nat) := do
  let rows ← (state.1.select column.1 column.2).mapError .raised
  rows.foldlM (reencryptRow shell newKey column) state

/-- The row that `_audit` adds. -/
def rotationAudit (changed : Nat) : String → SqlValue
  | "timestamp" => .text shell.timestamp
  | "actor" => .text (truncate 64 (shell.user.getD "nacoctl"))
  | "actor_type" => .text "CLI"
  | "action" => .text "system.master_key_rotated"
  | "changes" => .text s!"\x7b\"secrets\": {changed}\x7d"
  | _ => .text ""

/-- `rotate_master_key`: the number of secrets, and the database that the command leaves. -/
def rotateMasterKey (material : String) (db : SqlDatabase) : Except CliError Nat × SqlDatabase :=
  match parseMasterKey material with
  | .error message => (.error (.configError message), db)
  | .ok newKey =>
      if newKey = shell.masterKey then (.error (.failed "the new key is the current key"), db)
      else
        match encryptedColumns.foldlM (reencryptColumn shell newKey) (db, 0) with
        | .error error => (.error error, db)
        | .ok (changed, count) => (.ok count, changed.insert "audit_logs" (rotationAudit shell count))

end Naco
