import Naco.Passwords

/-!
# The hash that stands in

An unknown user costs one bcrypt too, against a hash of a public text. Whether that hash is checked and
whether the answer counts are two conditions, and they disagree on one stored value: the empty one.
-/

namespace Naco

open Py

variable {bcrypt : Bcrypt} {password hash : String} {hashed : Option String}

/-- bcrypt accepts the password, which it reads to the end, against the value that is stored. -/
def Matches (bcrypt : Bcrypt) (password : String) (hashed : Option String) : Prop :=
  ∃ hash, hashed = some hash ∧ (encode password).length ≤ maxPasswordBytes ∧
    bcrypt.checkpw (encode password) hash = .ok true

/-- The answer of bcrypt for a hash, where what is not a hash matches nothing. -/
def accepts (bcrypt : Bcrypt) (raw : List UInt8) (hash : String) : Bool :=
  match bcrypt.checkpw raw hash with
  | .ok ok => ok
  | .error _ => false

theorem accepts_iff (bcrypt : Bcrypt) (raw : List UInt8) (hash : String) :
    accepts bcrypt raw hash = true ↔ bcrypt.checkpw raw hash = .ok true := by
  unfold accepts
  cases bcrypt.checkpw raw hash with
  | ok ok => exact (Except.ok.injEq ok true).symm.to_iff
  | error error => exact iff_of_false nofun nofun

theorem verifyPassword_none (bcrypt : Bcrypt) (password : String) :
    verifyPassword bcrypt password none = false :=
  Bool.and_false _

/-- A password that bcrypt would not read to the end never matches. -/
theorem verifyPassword_long (hlong : maxPasswordBytes < (encode password).length) :
    verifyPassword bcrypt password hashed = false := by
  have husable : (hashed.isSome && decide ((encode password).length ≤ maxPasswordBytes)) = false := by
    rw [decide_eq_false (Nat.not_le.mpr hlong), Bool.and_false]
  unfold verifyPassword
  dsimp only
  rw [husable, Bool.and_false]

/-- A value that is stored is checked itself, and the dummy in place of an empty one. -/
theorem verifyPassword_some (hshort : (encode password).length ≤ maxPasswordBytes) :
    verifyPassword bcrypt password (some hash) =
      accepts bcrypt (encode password) (orElse hash bcrypt.dummyHash) := by
  have husable : ((some hash).isSome && decide ((encode password).length ≤ maxPasswordBytes)) = true := by
    rw [decide_eq_true hshort]
    rfl
  unfold verifyPassword accepts
  dsimp only
  rw [husable, Bool.and_true, List.take_of_length_le hshort]
  rfl

theorem matches_some_iff (hshort : (encode password).length ≤ maxPasswordBytes) :
    Matches bcrypt password (some hash) ↔ bcrypt.checkpw (encode password) hash = .ok true := by
  constructor
  · rintro ⟨stored, hstored, -, hok⟩
    obtain rfl := Option.some_inj.mp hstored
    exact hok
  · exact fun hok => ⟨hash, rfl, hshort, hok⟩

/-- A password passes just when it matches what is stored, but where the empty text is stored and the
password is that of the dummy. -/
theorem verifyPassword_iff_matches (bcrypt : Bcrypt)
    (hempty : ∀ raw, ∃ message, bcrypt.checkpw raw "" = .error message) (password : String)
    (hashed : Option String) :
    (verifyPassword bcrypt password hashed = true ↔ Matches bcrypt password hashed) ↔
      ¬ (hashed = some "" ∧ (encode password).length ≤ maxPasswordBytes ∧
        bcrypt.checkpw (encode password) bcrypt.dummyHash = .ok true) := by
  cases hashed with
  | none =>
      rw [verifyPassword_none]
      refine iff_of_true (iff_of_false nofun ?_) fun h => nomatch h.1
      rintro ⟨hash, hnone, -⟩
      cases hnone
  | some hash =>
      by_cases hshort : (encode password).length ≤ maxPasswordBytes
      · rw [verifyPassword_some hshort, accepts_iff, matches_some_iff hshort, orElse]
        by_cases hhash : hash = ""
        · subst hhash
          obtain ⟨message, hmessage⟩ := hempty (encode password)
          have hrefused : ¬ bcrypt.checkpw (encode password) "" = .ok true := by
            rw [hmessage]
            nofun
          rw [if_pos rfl, iff_false_right hrefused]
          exact not_congr ⟨fun h => ⟨rfl, hshort, h⟩, fun h => h.2.2⟩
        · rw [if_neg hhash]
          exact iff_of_true Iff.rfl fun h => hhash (Option.some_inj.mp h.1)
      · rw [verifyPassword_long (Nat.lt_of_not_le hshort)]
        refine iff_of_true (iff_of_false nofun ?_) fun h => hshort h.2.1
        rintro ⟨-, -, hread, -⟩
        exact hshort hread

/-- A bcrypt that knows the dummy only. -/
def dummyOnly : Bcrypt where
  checkpw raw hash :=
    if hash = "" then .error "Invalid salt"
    else .ok (decide (raw = encode "naco-timing-equaliser" ∧ hash = "$2b$12$equaliser"))
  dummyHash := "$2b$12$equaliser"

theorem verifyPassword_iff_matches_alice :
    verifyPassword dummyOnly "alice-secret" (some "") = true ↔
      Matches dummyOnly "alice-secret" (some "") := by
  refine (verifyPassword_iff_matches dummyOnly (fun raw => ⟨"Invalid salt", rfl⟩) _ _).mpr ?_
  decide

/-- The public text passes where the empty text is stored. -/
theorem equaliser_passes :
    verifyPassword dummyOnly "naco-timing-equaliser" (some "") = true ∧
      ¬ Matches dummyOnly "naco-timing-equaliser" (some "") := by
  have hshort : (encode "naco-timing-equaliser").length ≤ maxPasswordBytes := by decide
  constructor
  · decide
  · rw [matches_some_iff hshort]
    exact nofun

end Naco
