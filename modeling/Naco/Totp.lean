import Naco.Lib.Datetime
import Naco.Lib.Python

/-!
# TOTP and recovery codes

RFC 6238 with replay protection: a code counts for its time step or the ones next to it, and only for a
step that is newer than the last one accepted.
-/

namespace Naco

open Py

/-- `hmac.compare_digest` on strings. -/
def compareDigest (a b : String) : Except Error Bool :=
  if isAsciiText a && isAsciiText b then .ok (a = b)
  else .error (.typeError "comparing strings with non-ASCII characters is not supported")

namespace Totp

/-- The microseconds from the first day of the calendar to 1970. -/
def unixEpoch : Int := 62135596800000000

theorem inRange_unixEpoch :
    microsPerDay ≤ unixEpoch ∧ unixEpoch < (representableDays - 1) * microsPerDay := by
  decide

/-- `current_step`: steps of 30 seconds since 1970. -/
def currentStep (now : ClockReading) : Int :=
  (now.utc - unixEpoch) / 30000000

/-- `code.strip().replace(" ", "")`. -/
def typedCode (code : String) : String :=
  String.ofList ((strip code).toList.filter (· ≠ ' '))

/-- `len(code) == 6 and code.isdigit()`. -/
def isSixDigits (code : String) : Bool :=
  code.toList.length = 6 && code.toList.all isDigit

/-- `pyotp.TOTP(secret).generate_otp(step)`. -/
abbrev GenerateOtp := String → Int → String

/-- The loop of `match`: the first of the candidates that is newer than the last step and has this
code. -/
def firstMatching (otp : GenerateOtp) (secret code : String) (lastStep : Option Int) :
    List Int → Except Error (Option Int)
  | [] => .ok none
  | candidate :: candidates =>
      if lastStep.any (candidate ≤ ·) then firstMatching otp secret code lastStep candidates
      else do
        if ← compareDigest (otp secret candidate) code then return some candidate
        else firstMatching otp secret code lastStep candidates

/-- `match`. -/
def matchCode (otp : GenerateOtp) (secret code : String) (lastStep : Option Int) (now : ClockReading) :
    Except Error (Option Int) :=
  let code := typedCode code
  if !isSixDigits code then .ok none
  else
    let step := currentStep now
    firstMatching otp secret code lastStep [step - 1, step, step + 1]

/-- `looks_like_recovery_code`. -/
def looksLikeRecoveryCode (code : String) : Bool :=
  let code := (lower (strip code)).toList
  code.length = 9 && code[4]? = some '-'

end Totp

end Naco
