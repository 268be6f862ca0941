import Naco.Context
import Naco.Identity

/-!
# Who or what is asking

`subjectContext` turns the rows found for a request into a policy context, or into the decision of a
hard rule that ends it. Live authorization, re-evaluation and the simulator all go through it; they
differ in how they find the rows.
-/

namespace Naco

open Py

def deviceState (device : Option Device) (isGuest : Bool) : Option DeviceState :=
  match device with
  | none => if isGuest then some .guest else none
  | some device =>
      match device.status with
      | .approved => some .approved
      | .pending => if isGuest then some .guest else some .pending
      | .blocked => none

/-- The arguments of `subject_context`. -/
structure Subject where
  method : AuthMethod
  username : String
  user : Option UserInfo
  mac : Option String
  device : Option Device
  isGuest : Bool
  nasName : String
  nasIp : String
  ssid : Option String
  now : Datetime

/-- The context of a subject that no hard rule refuses. -/
def Subject.context (subject : Subject) : AuthContext where
  authMethod := subject.method
  username := if subject.method ≠ .mab then subject.username else ""
  group := subject.user.bind (·.groupName)
  mac := subject.mac
  deviceStatus := deviceState subject.device subject.isGuest
  deviceType := (subject.device.map (·.deviceType)).getD ""
  vendor := (subject.device.map (·.vendor)).getD ""
  nasName := subject.nasName
  nasIp := subject.nasIp
  ssid := subject.ssid
  now := subject.now

/-- Every method but MAB speaks for a known, enabled user. -/
def userRule (subject : Subject) : Option Decision :=
  if subject.method = .mab then none
  else if subject.username = "" then some (deny "no authenticated identity")
  else match subject.user with
    | none => some (deny "unknown user")
    | some user => if user.enabled then none else some (deny "user disabled")

def deviceRule (subject : Subject) : Option Decision :=
  match subject.device with
  | none => none
  | some device => if device.status = .blocked then some (deny "device blocked") else none

/-- `subject_context`; the error is the decision of the first hard rule that applies. -/
def subjectContext (subject : Subject) : Except Decision AuthContext :=
  match userRule subject <|> deviceRule subject with
  | some decision => .error decision
  | none => .ok subject.context

end Naco
