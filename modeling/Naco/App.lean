import Naco.Service

/-!
# The answer of the internal API to an authorize request

FreeRADIUS accepts on an explicit `control:NACo-Decision = accept` only. The VLAN attributes and then
the attributes of the policy are written into the same object.
-/

namespace Naco

open Py

/-- One attribute of an rlm_rest reply. -/
structure RlmAttribute where
  value : ReplyEntry
  doXlat : Bool
  deriving DecidableEq, Repr

/-- `vlan_attributes`: RFC 3580 dynamic VLAN assignment. -/
def vlanAttributes (vlan : Nat) : List (String × ReplyEntry) := [
  ("Tunnel-Type", .one (.text "VLAN")),
  ("Tunnel-Medium-Type", .one (.text "IEEE-802")),
  ("Tunnel-Private-Group-Id", .one (.text (toString vlan)))]

/-- `out.update(attributes)`. -/
def updateWith (out : Dict String ReplyEntry) (attributes : List (String × ReplyEntry)) :
    Dict String ReplyEntry :=
  attributes.foldl (fun out entry => out.set entry.1 entry.2) out

/-- The object that the endpoint fills for a decision. -/
def authorizeOut (decision : Decision) : Dict String ReplyEntry :=
  if !decision.accepted then
    Dict.empty.set "control:NACo-Decision" (.one (.text "reject"))
  else
    let out := Dict.empty.set "control:NACo-Decision" (.one (.text "accept"))
    let out := match decision.vlan with
      | some (vlan + 1) => updateWith out (vlanAttributes (vlan + 1))
      | _ => out
    updateWith out decision.replyAttributes

/-- The body of the `authorize` endpoint's answer, through `reply`. -/
def authorizeReply (decision : Decision) : List (String × RlmAttribute) :=
  (authorizeOut decision).items.map fun entry => (entry.1, ⟨entry.2, false⟩)

end Naco
