import Mathlib.Data.List.Basic

/-!
# Vendors of NAS equipment

A NAS acts on a Disconnect-Request only if every session attribute in it matches, and vendors differ in
the attributes they accept at all.
-/

namespace Naco

/-- The fields of `SessionIds`. -/
inductive IdField where
  | acctSessionId
  | userName
  | callingStationId
  | nasIpAddress
  | nasIdentifier
  | auditSessionId
  deriving DecidableEq, Repr

/-- What a kind of NAS needs to find a session. -/
structure Vendor where
  label : String
  identify : List IdField :=
    [.acctSessionId, .userName, .callingStationId, .nasIpAddress, .nasIdentifier]
  coaPort : Nat := 3799
  eventTimestamp : Bool := true
  messageAuthenticator : Bool := true
  deriving DecidableEq, Repr

def standardVendor : Vendor where
  label := "Standard (RFC 5176) — Huawei, H3C/Comware, MikroTik, UniFi, Omada, others"

/-- `VENDORS`. -/
def vendors : List (String × Vendor) := [
  ("standard", standardVendor),
  ("cisco",
    { label := "Cisco IOS-XE / Catalyst 9800",
      identify := [.acctSessionId, .callingStationId, .auditSessionId] }),
  ("meraki",
    { label := "Cisco Meraki", identify := [.callingStationId, .nasIpAddress, .auditSessionId],
      coaPort := 1700, eventTimestamp := false }),
  ("aruba",
    { label := "HPE Aruba Networking (AOS-CX, AOS-S, AOS 8/10, Instant)", eventTimestamp := false }),
  ("juniper",
    { label := "Juniper", identify := [.acctSessionId, .userName, .callingStationId, .nasIpAddress],
      eventTimestamp := false }),
  ("fortinet",
    { label := "Fortinet", identify := [.userName, .callingStationId, .nasIpAddress] }),
  ("extreme",
    { label := "Extreme Networks", identify := [.callingStationId, .nasIpAddress],
      eventTimestamp := false }),
  ("ruckus-icx",
    { label := "Ruckus ICX", identify := [.callingStationId, .nasIpAddress], eventTimestamp := false,
      messageAuthenticator := false })]

/-- `vendor(key)`. -/
def vendor (key : String) : Vendor :=
  (vendors.lookup key).getD standardVendor

end Naco
