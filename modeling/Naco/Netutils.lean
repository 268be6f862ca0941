import Naco.Lib.IpAddress

/-!
# MAC addresses, IP addresses and station ids

A MAC address is twelve hex digits in groups of 2, 4 or 6 with one separator throughout, or in one
piece. `normalizeMac` reads every notation and writes one; everything NACo stores or compares is
that normal form.
-/

namespace Naco

open Py

/-- One notation of a MAC address: the separator and the size of a group, or none of them. -/
inductive MacForm where
  | grouped (separator : Char) (size : Nat)
  | plain
  deriving DecidableEq, Repr

/-- `_MAC`, in the order the alternatives are tried. -/
def macForms : List MacForm :=
  [':', '-', '.', ' '].flatMap (fun separator => [2, 4, 6].map (.grouped separator)) ++ [.plain]

def isHexDigit (c : Char) : Bool :=
  (IpAddress.hexValue c).isSome

/-- What follows `count` hex digits. -/
def dropHex : Nat → List Char → Option (List Char)
  | 0, cs => some cs
  | _ + 1, [] => none
  | count + 1, c :: cs => if isHexDigit c then dropHex count cs else none

/-- What follows `count` groups, each after a separator. -/
def dropGroups (separator : Char) (size : Nat) : Nat → List Char → Option (List Char)
  | 0, cs => some cs
  | _ + 1, [] => none
  | count + 1, c :: cs =>
      if c = separator then (dropHex size cs).bind (dropGroups separator size count) else none

/-- What follows a MAC address of this form at the start of `cs`. -/
def MacForm.drop : MacForm → List Char → Option (List Char)
  | .grouped separator size, cs =>
      (dropHex size cs).bind (dropGroups separator size (12 / size - 1))
  | .plain, cs => dropHex 12 cs

def pairs : List Char → List (List Char)
  | a :: b :: cs => [a, b] :: pairs cs
  | _ => []

/-- The normal form of the hex digits in `cs`. -/
def macOfDigits (cs : List Char) : String :=
  join ":" ((pairs ((cs.filter isHexDigit).map Char.toLower)).map String.ofList)

/-- `normalize_mac`. -/
def normalizeMac (value : Option String) : Option String :=
  let cs := stripChars (value.getD "").toList
  if macForms.any fun form => form.drop cs = some [] then
    some (macOfDigits cs)
  else
    none

/-- `is_randomized_mac`: the locally administered bit is set. -/
def isRandomizedMac (mac : String) : Bool :=
  match normalizeMac (some mac) with
  | none => false
  | some norm => ((norm.toList[1]?.bind IpAddress.hexValue).getD 0) / 2 % 2 = 1

/-- `parse_called_station`: the MAC address and the SSID of "AA-BB-CC-DD-EE-FF:SSID". -/
def parseCalledStation (value : Option String) : Option String × Option String :=
  let cs := stripChars (value.getD "").toList
  let station := macForms.findSome? fun form =>
    match form.drop cs with
    | some [] => some (cs, [])
    | some (':' :: ssid) => some (cs.take (cs.length - ssid.length - 1), ssid)
    | _ => none
  match station with
  | none => (none, none)
  | some (mac, ssid) =>
      (normalizeMac (some (String.ofList mac)),
        (orNone (strip (String.ofList ssid))).map (truncate 64))

/-- `parse_ip`: the address as `ipaddress` writes it. -/
def parseIp (value : Option String) : Option String :=
  (IpAddress.parse (strip (value.getD ""))).map IpAddress.format

theorem ne_empty_of_parseIp {value : Option String} {ip : String} (h : parseIp value = some ip) :
    ip ≠ "" := by
  obtain ⟨address, -, rfl⟩ := Option.map_eq_some_iff.mp h
  exact address.format_ne_empty

/-- `_WIDEST_PREFIX`. -/
def widestPrefix : IpVersion → Nat
  | .v4 => 16
  | .v6 => 48

/-- `parse_client_address`: an address, or a network written with its network address. The error is
the message of the `ValueError`. -/
def parseClientAddress (value : String) : Except String String :=
  let text := strip value
  if '/' ∉ text.toList then
    match parseIp (some text) with
    | some ip => .ok ip
    | none => .error "not an IP address or network"
  else match IpNetwork.parseLoose text with
    | none => .error "not an IP address or network"
    | some (address, prefixlen) =>
        let written := address.format
        let widest := widestPrefix address.version
        if prefixlen = address.version.bits then .ok written
        else if (splitOn '/' text).head?.bind IpAddress.parse ≠ some address then
          .error s!"use the network address: {written}/{prefixlen}"
        else if prefixlen < widest then .error s!"networks wider than /{widest} are refused"
        else .ok s!"{written}/{prefixlen}"

/-- `vendor_for`, by the IEEE registry `oui` of six-digit prefixes. -/
def vendorFor (oui : String → Option String) (mac : String) : String :=
  match normalizeMac (some mac) with
  | none => ""
  | some norm =>
      if isRandomizedMac norm then ""
      else
        let key := String.ofList (((removeChar ':' norm).toList.take 6).map Char.toUpper)
        (oui key).getD ""

end Naco
