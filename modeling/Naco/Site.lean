import Naco.Netutils

/-!
# The default site of FreeRADIUS

How `authorize` tells MAC authentication from a password, up to where the request is sent. The three
expressions for a MAC address as User-Name are those of the site; `$` stands at the end, and with PCRE
also before a final line feed.
-/

namespace Naco.Site

open Py

/-- `[-:. ]`. -/
def isSeparator (c : Char) : Bool :=
  c ∈ ['-', ':', '.', ' ']

/-- What follows `count` times `[-:. ]` and `size` hex digits; the separator may be missing if it is
optional. -/
def dropGroups (optional : Bool) (size : Nat) : Nat → List Char → Option (List Char)
  | 0, cs => some cs
  | count + 1, cs =>
      match cs with
      | c :: rest =>
          if isSeparator c then (dropHex size rest).bind (dropGroups optional size count)
          else if optional then (dropHex size cs).bind (dropGroups optional size count)
          else none
      | [] => none

/-- `$`. -/
def atEnd (pcre : Bool) (cs : List Char) : Bool :=
  cs = [] || (pcre && cs = ['\n'])

/-- `/^[0-9a-f]{size}([-:. ][0-9a-f]{size}){count}$/i`, the separator with a `?` if it is optional. -/
def matchesGroups (pcre optional : Bool) (size count : Nat) (userName : String) : Bool :=
  match (dropHex size userName.toList).bind (dropGroups optional size count) with
  | some rest => atEnd pcre rest
  | none => false

/-- The User-Name is a MAC address. -/
def isMacName (pcre : Bool) (userName : String) : Bool :=
  matchesGroups pcre true 2 5 userName || matchesGroups pcre false 4 2 userName ||
    matchesGroups pcre false 6 1 userName

/-- What `authorize` looks at. -/
structure Request where
  hasEapMessage : Bool := false
  serviceType : Option String := none
  userName : Option String := none
  userPassword : Option String := none

/-- Where a request is sent. -/
inductive Branch where
  | eap
  | mab
  | pap
  | reject
  deriving DecidableEq, Repr

/-- No password, an empty one, or the User-Name again. -/
def isNoSecret (tolower : String → String) (userName : String) : Option String → Bool
  | none => true
  | some password => password = "" || tolower password = tolower userName

/-- `authorize`. -/
def authorize (pcre : Bool) (tolower : String → String) (request : Request) : Branch :=
  if request.hasEapMessage then .eap
  else if request.serviceType = some "Call-Check" then .mab
  else if request.userName.any fun userName =>
      isMacName pcre userName && isNoSecret tolower userName request.userPassword then .mab
  else if request.userPassword.isSome then .pap
  else .reject

end Naco.Site
