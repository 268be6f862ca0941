import Naco.Lib.Base64
import Naco.Lib.Utf8

/-!
# Secrets at rest

Shared secrets and TOTP seeds are stored as `enc:v2:` and the base64 of nonce, ciphertext and tag. The
associated data is the column that a value belongs to.
-/

namespace Naco

open Py

/-- A master key. -/
abbrev Key := { raw : Bytes // raw.length = 32 }

/-- `_NONCE_LEN`. -/
def nonceLength : Nat := 12

/-- What `os.urandom(_NONCE_LEN)` gives. -/
abbrev Nonce := { raw : Bytes // raw.length = nonceLength }

/-- `AESGCM(key)`, with the nonce, the data and the associated data. -/
structure Aead where
  encrypt : Key → Bytes → Bytes → Bytes → Bytes
  /-- None stands for `InvalidTag`. -/
  decrypt : Key → Bytes → Bytes → Bytes → Option Bytes

/-- It decrypts what it encrypted, and appends a tag of 16 bytes. -/
structure Aead.Lawful (aead : Aead) : Prop where
  decrypt_encrypt : ∀ key nonce plain aad,
    aead.decrypt key nonce (aead.encrypt key nonce plain aad) aad = some plain
  length_encrypt : ∀ key nonce plain aad,
    (aead.encrypt key nonce plain aad).length = plain.length + 16

inductive SecretFault where
  | secretError (message : String)
  | raised (error : Error)
  deriving DecidableEq, Repr

namespace Secrets

def tokenPrefix : String := "enc:v2:"

def encrypt (aead : Aead) (nonce : Nonce) (plaintext aad : String) (key : Key) : String :=
  tokenPrefix ++ b64encode (nonce.val ++ aead.encrypt key nonce.val (encode plaintext) (encode aad))

def decrypt (aead : Aead) (token aad : String) (key : Key) : Except SecretFault String :=
  if !tokenPrefix.toList.isPrefixOf token.toList then
    .error (.secretError "value is not an encrypted secret")
  else
    match b64decode (String.ofList (token.toList.drop tokenPrefix.toList.length)) true with
    | .error _ => .error (.secretError "encrypted secret is not valid base64")
    | .ok raw =>
        if raw.length < nonceLength + 16 then .error (.secretError "encrypted secret is truncated")
        else
          match aead.decrypt key (raw.take nonceLength) (raw.drop nonceLength) (encode aad) with
          | none => .error (.secretError s!"cannot decrypt {aad} — wrong NACO_MASTER_KEY or tampered value")
          | some plain => (decodeStrict plain).mapError .raised

/-- What was encrypted for a column is decrypted for it. -/
theorem decrypt_encrypt {aead : Aead} (h : aead.Lawful) (nonce : Nonce) (plaintext aad : String)
    (key : Key) :
    decrypt aead (encrypt aead nonce plaintext aad key) aad key = .ok plaintext := by
  set blob := aead.encrypt key nonce.val (encode plaintext) (encode aad) with hblob
  have hlength : nonceLength + 16 ≤ (nonce.val ++ blob).length := by
    rw [List.length_append, nonce.property, hblob, h.length_encrypt]
    omega
  have hprefix : tokenPrefix.toList.isPrefixOf (encrypt aead nonce plaintext aad key).toList = true := by
    rw [encrypt, String.toList_append, List.isPrefixOf_iff_prefix]
    exact List.prefix_append _ _
  have htoken : String.ofList ((encrypt aead nonce plaintext aad key).toList.drop
      tokenPrefix.toList.length) = b64encode (nonce.val ++ blob) := by
    rw [encrypt, String.toList_append, List.drop_left, String.ofList_toList]
  have hnonce : (nonce.val ++ blob).take nonceLength = nonce.val :=
    List.take_left' nonce.property
  have hrest : (nonce.val ++ blob).drop nonceLength = blob :=
    List.drop_left' nonce.property
  rw [decrypt, hprefix, htoken, b64decode_b64encode, if_neg (by decide)]
  dsimp only
  rw [if_neg (by omega), hnonce, hrest, hblob, h.decrypt_encrypt]
  dsimp only
  rw [decodeStrict_encode]
  rfl

end Secrets

/-- `parse_master_key`: base64 or hex of 32 bytes; the message is that of a `ConfigError`. -/
def parseMasterKey (material : String) : Except String Key :=
  let material := strip material
  let candidates :=
    [b64decode material false, urlsafeB64decode material, fromHex material.toList].filterMap
      Except.toOption
  let key := candidates.findSome? fun raw =>
    if h : raw.length = 32 then some (⟨raw, h⟩ : Key) else none
  match key with
  | some key => .ok key
  | none => .error "NACO_MASTER_KEY must be 32 bytes, base64 or hex encoded (openssl rand -base64 32)"

/-- Every key can be given. -/
theorem parseMasterKey_b64encode (key : Key) : parseMasterKey (b64encode key.val) = .ok key := by
  rw [parseMasterKey, strip_b64encode, b64decode_b64encode]
  simp [Except.toOption, key.property]

end Naco
