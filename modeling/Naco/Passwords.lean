import Naco.Lib.Text

/-!
# Passwords

bcrypt reads 72 bytes. A longer password is refused when it is set, and it never matches.
-/

namespace Naco

open Py

/-- The `bcrypt` package, and the hash that `_dummy_hash` made. `checkpw` raises `ValueError` on what
is not a hash. -/
structure Bcrypt where
  checkpw : List UInt8 → String → Except String Bool
  dummyHash : String

def maxPasswordBytes : Nat := 72

/-- `verify_password_sync`: unknown users and over-long passwords are checked against the dummy. -/
def verifyPassword (bcrypt : Bcrypt) (password : String) (hashed : Option String) : Bool :=
  let raw := encode password
  let usable := hashed.isSome && decide (raw.length ≤ maxPasswordBytes)
  let target := if usable then orElse (hashed.getD "") bcrypt.dummyHash else bcrypt.dummyHash
  let ok := match bcrypt.checkpw (raw.take maxPasswordBytes) target with
    | .ok ok => ok
    | .error _ => false
  ok && usable

/-- `_validate`; the error is its message. -/
def validatePassword (minimum : Nat) (password : String) : Except String Unit :=
  if password.toList.length < minimum then
    .error s!"password must be at least {minimum} characters"
  else if maxPasswordBytes < encodedLength password then
    .error "password must be at most 72 bytes"
  else .ok ()

def validateAdminPassword : String → Except String Unit :=
  validatePassword 12

def validateUserPassword : String → Except String Unit :=
  validatePassword 8

end Naco
