import Naco.Lib.Python

/-!
# IP addresses and networks

`ipaddress.ip_address` and `ipaddress.ip_network` of Python 3.12, on text. An address is its integer
value; an IPv6 address may carry a scope. Texts are parsed as the library does it, quirks included,
because the text a lookup compares is the one that `str` prints for a parsed address.
-/

namespace Py

inductive IpVersion where
  | v4
  | v6
  deriving DecidableEq, Repr

/-- `max_prefixlen`. -/
def IpVersion.bits : IpVersion → Nat
  | .v4 => 32
  | .v6 => 128

structure IpAddress where
  version : IpVersion
  value : Nat
  scope : Option String
  deriving DecidableEq, Repr

structure IpNetwork where
  version : IpVersion
  network : Nat
  prefixlen : Nat
  deriving DecidableEq, Repr

namespace IpAddress

def hexValue (c : Char) : Option Nat :=
  if '0' ≤ c ∧ c ≤ '9' then some (c.toNat - '0'.toNat)
  else if 'a' ≤ c ∧ c ≤ 'f' then some (c.toNat - 'a'.toNat + 10)
  else if 'A' ≤ c ∧ c ≤ 'F' then some (c.toNat - 'A'.toNat + 10)
  else none

/-- The value of a non-empty text of ASCII digits. -/
def decimal (cs : List Char) : Option Nat :=
  if cs ≠ [] ∧ cs.all Char.isDigit then
    some (cs.foldl (fun value c => value * 10 + (c.toNat - '0'.toNat)) 0)
  else
    none

/-- `_parse_octet`. -/
def parseOctet (s : String) : Option Nat := do
  let value ← decimal s.toList
  if s.toList.length ≤ 3 ∧ (s = "0" ∨ s.toList.head? ≠ some '0') ∧ value ≤ 255 then
    some value
  else
    none

/-- The integer of a dotted quad. -/
def parseV4 (s : String) : Option Nat :=
  match (splitOn '.' s).mapM parseOctet with
  | some [a, b, c, d] => some (((a * 256 + b) * 256 + c) * 256 + d)
  | _ => none

/-- `_parse_hextet`. -/
def parseHextet (s : String) : Option Nat := do
  let digits ← s.toList.mapM hexValue
  if digits ≠ [] ∧ digits.length ≤ 4 then
    some (digits.foldl (fun value digit => value * 16 + digit) 0)
  else
    none

def hexChar (digit : Nat) : Char :=
  "0123456789abcdef".toList.getD digit '0'

/-- `'%x' % value` for a value below `16 ^ 4`. -/
def formatHextet (value : Nat) : String :=
  let digits := [value / 4096 % 16, value / 256 % 16, value / 16 % 16, value % 16]
  let shown := digits.dropWhile (· = 0)
  String.ofList ((if shown = [] then [0] else shown).map hexChar)

/-- The parts between colons, an IPv4-style suffix turned into two hextets. -/
def v6Parts (s : String) : Option (List String) :=
  let parts := splitOn ':' s
  if parts.length < 3 then none
  else
    let last := parts.getLastD ""
    if '.' ∈ last.toList then
      (parseV4 last).map fun value =>
        parts.dropLast ++ [formatHextet (value / 65536), formatHextet (value % 65536)]
    else
      some parts

/-- The hextets before and after a skipped run of zeros, and how many are skipped. -/
def v6Layout (parts : List String) : Option (List String × Nat × List String) :=
  let inner := (List.range parts.length).filter fun i =>
    decide (1 ≤ i ∧ i + 1 < parts.length ∧ parts.getD i "" = "")
  match inner with
  | [] =>
      if parts.length = 8 then some (parts, 0, []) else none
  | [skip] =>
      let high := if parts.headD "" = "" then skip - 1 else skip
      let low := if parts.getLastD "" = "" then parts.length - skip - 2 else parts.length - skip - 1
      -- a leading or trailing colon has to be part of the `::`
      if parts.headD "" = "" ∧ high ≠ 0 then none
      else if parts.getLastD "" = "" ∧ low ≠ 0 then none
      else if 8 ≤ high + low then none
      else some (parts.take high, 8 - (high + low), parts.drop (parts.length - low))
  | _ => none

/-- The integer of a colon-separated address. -/
def parseV6 (s : String) : Option Nat := do
  let parts ← v6Parts s
  if 9 < parts.length then none
  let (high, skipped, low) ← v6Layout parts
  let high ← high.mapM parseHextet
  let low ← low.mapM parseHextet
  some ((high ++ List.replicate skipped 0 ++ low).foldl (fun value hextet =>
    value * 65536 + hextet) 0)

/-- `ip_address(text)`. -/
def parse (s : String) : Option IpAddress :=
  if '/' ∈ s.toList then none
  else match parseV4 s with
    | some value => some ⟨.v4, value, none⟩
    | none => match partition '%' s with
      | (address, none) => (parseV6 address).map (⟨.v6, ·, none⟩)
      | (address, some scope) =>
          if scope = "" ∨ '%' ∈ scope.toList then none
          else (parseV6 address).map (⟨.v6, ·, some scope⟩)

def hextets (value : Nat) : List Nat :=
  (List.range 8).map fun i => value / 65536 ^ (7 - i) % 65536

/-- The start and the length of the first longest run of zeros. -/
def longestZeros (values : List Nat) : Nat × Nat :=
  (List.range values.length).foldl (fun best i =>
    let run := ((values.drop i).takeWhile (· = 0)).length
    if best.2 < run then (i, run) else best) (0, 0)

/-- `_compress_hextets`, joined. -/
def formatV6 (value : Nat) : String :=
  let values := hextets value
  let (start, length) := longestZeros values
  let shown := values.map formatHextet
  if 1 < length then
    join ":" (shown.take start) ++ "::" ++ join ":" (shown.drop (start + length))
  else
    join ":" shown

/-- `str(address)`. -/
def format (address : IpAddress) : String :=
  match address.version with
  | .v4 => join "." ((List.range 4).map fun i => toString (address.value / 256 ^ (3 - i) % 256))
  | .v6 => match address.scope with
    | none => formatV6 address.value
    | some scope => formatV6 address.value ++ "%" ++ scope

theorem formatV6_ne_empty (value : Nat) : formatV6 value ≠ "" := by
  unfold formatV6
  dsimp only
  split
  · intro hempty
    have hlength := congrArg String.length hempty
    simp at hlength
  · exact join_ne_empty (by decide) (by simp [hextets])

theorem format_ne_empty (address : IpAddress) : address.format ≠ "" := by
  unfold format
  split
  · exact join_ne_empty (by decide) (by simp)
  · split
    · exact formatV6_ne_empty _
    · intro hempty
      have hlength := congrArg String.length hempty
      simp at hlength

end IpAddress

namespace IpNetwork

/-- The mask of a prefix length, as an integer. -/
def netmask (version : IpVersion) (prefixlen : Nat) : Nat :=
  2 ^ version.bits - 2 ^ (version.bits - prefixlen)

/-- A prefix length given as a number. -/
def parsePrefixlen (version : IpVersion) (s : String) : Option Nat := do
  let value ← IpAddress.decimal s.toList
  if value ≤ version.bits then some value else none

/-- A prefix length given as a netmask or a hostmask, for IPv4 only. -/
def parseNetmask (s : String) : Option Nat := do
  let value ← IpAddress.parseV4 s
  let lengths := List.range 33
  match lengths.find? (netmask .v4 · = value) with
  | some length => some length
  | none => lengths.find? (netmask .v4 · = 2 ^ 32 - 1 - value)

/-- The address without its host bits. -/
def mask (version : IpVersion) (prefixlen value : Nat) : Nat :=
  value / 2 ^ (version.bits - prefixlen) * 2 ^ (version.bits - prefixlen)

/-- The address and the prefix length of `text` as a network of one version. -/
def parseParts (version : IpVersion) (address length : String) : Option (Nat × Nat) := do
  let parsed ← IpAddress.parse address
  if parsed.version ≠ version then none
  let prefixlen ← match parsePrefixlen version length with
    | some value => some value
    | none => if version = .v4 then parseNetmask length else none
  some (parsed.value, prefixlen)

/-- `ip_network(text)`: host bits must not be set. -/
def parse (s : String) : Except Error IpNetwork :=
  let refused : Except Error IpNetwork :=
    .error (.valueError s!"{s} does not appear to be an IPv4 or IPv6 network")
  let read (address length : String) : Except Error IpNetwork :=
    match (parseParts .v4 address length).map (IpVersion.v4, ·) <|>
        (parseParts .v6 address length).map (IpVersion.v6, ·) with
    | some (version, value, prefixlen) =>
        if mask version prefixlen value = value then .ok ⟨version, value, prefixlen⟩
        else .error (.valueError s!"{s} has host bits set")
    | none => refused
  match splitOn '/' s with
  | [address] => read address (if (IpAddress.parseV4 address).isSome then "32" else "128")
  | [address, length] => read address length
  | _ => refused

/-- The address part and the prefix length, host bits cleared. The scope of an address goes with its
host bits. -/
def looseParts (version : IpVersion) (address length : String) : Option (IpAddress × Nat) := do
  let (value, prefixlen) ← parseParts version address length
  let parsed ← IpAddress.parse address
  let masked := mask version prefixlen value
  some (if masked = value then parsed else ⟨version, masked, none⟩, prefixlen)

/-- `ip_network(text, strict=False)` on a text with a slash: the network address and the prefix
length. -/
def parseLoose (s : String) : Option (IpAddress × Nat) :=
  match splitOn '/' s with
  | [address, length] => looseParts .v4 address length <|> looseParts .v6 address length
  | _ => none

/-- `address in network`. -/
def contains (network : IpNetwork) (address : IpAddress) : Bool :=
  address.version = network.version &&
    mask network.version network.prefixlen address.value = network.network

end IpNetwork

end Py
