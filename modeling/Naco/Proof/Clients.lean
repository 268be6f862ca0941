import Naco.Clients
import Naco.Lib.Rows

/-!
# One address, one client

The two ways to a client agree: an address that the full directory resolves is resolved to the same
entry by the lookup of a live request.
-/

namespace Naco

open Py

namespace NasDirectory

theorem ofClients_eq_ok_iff {clients : List NasClient} {directory : NasDirectory} :
    ofClients clients = .ok directory ↔
      ∃ networks, (clients.filter (·.isNetwork)).mapM networkEntry = .ok networks ∧
        directory =
          { exact := clients.filter fun client => !client.isNetwork
            networks := networks.insertionSort fun a b => b.1.prefixlen ≤ a.1.prefixlen } := by
  unfold ofClients
  cases (clients.filter (·.isNetwork)).mapM networkEntry with
  | error error => simp [bind, Except.bind]
  | ok networks => simp [bind, Except.bind, pure, Except.pure, eq_comm]

/-- A text with a slash is no address, and no exact entry holds one. -/
theorem find_eq_none_of_slash {clients : List NasClient} {directory : NasDirectory}
    (h : ofClients clients = .ok directory) {ip : String} (hslash : '/' ∈ ip.toList) :
    directory.find ip = none := by
  obtain ⟨networks, -, rfl⟩ := ofClients_eq_ok_iff.mp h
  have hnone : (clients.filter fun client => !client.isNetwork).reverse.find? (·.ipAddress = ip) =
      none := by
    rw [List.find?_eq_none]
    intro client hclient hip
    rw [List.mem_reverse, List.mem_filter] at hclient
    have hip : client.ipAddress = ip := by simpa using hip
    simp [NasClient.isNetwork, hip, hslash] at hclient
  rw [find, hnone]
  simp [IpAddress.parse, hslash]

end NasDirectory

open NasDirectory in
theorem findNas_of_directory_find {t : Tables} (ht : t.Consistent) {directory : NasDirectory}
    (hdirectory : nasDirectory t = .ok directory) {ip : String} (hip : ip ≠ "") {nas : NasClient}
    (hfind : directory.find ip = some nas) : findNas t ip = .ok (some nas) := by
  have hslash : '/' ∉ ip.toList := fun h => by
    simp [find_eq_none_of_slash hdirectory h] at hfind
  obtain ⟨networks, hnetworks, rfl⟩ := ofClients_eq_ok_iff.mp hdirectory
  have haddresses : ((t.nasClients.filter fun client => !client.isNetwork).reverse.map
      (·.ipAddress)).Nodup := by
    rw [List.map_reverse, List.nodup_reverse]
    exact ht.nasAddresses.sublist (List.filter_sublist.map _)
  unfold findNas
  rw [if_neg hip]
  cases hexact : t.nasClients.find? (·.ipAddress = ip) with
  | some client =>
      obtain ⟨hmem, haddress⟩ := (Rows.find?_eq_some_iff ht.nasAddresses).mp hexact
      have hfound : (t.nasClients.filter fun client => !client.isNetwork).reverse.find?
          (·.ipAddress = ip) = some client := by
        refine (Rows.find?_eq_some_iff haddresses).mpr ⟨?_, haddress⟩
        rw [List.mem_reverse, List.mem_filter]
        exact ⟨hmem, by simp [NasClient.isNetwork, haddress, hslash]⟩
      rw [find, hfound] at hfind
      obtain rfl : client = nas := by simpa using hfind
      rfl
  | none =>
      -- no exact entry: both directories fall through to the same network entries
      have hmissing : (t.nasClients.filter fun client => !client.isNetwork).reverse.find?
          (·.ipAddress = ip) = none := by
        rw [List.find?_eq_none] at hexact ⊢
        intro client hclient
        exact hexact client (List.mem_of_mem_filter (List.mem_reverse.mp hclient))
      have hagain : ofClients (t.nasClients.filter (·.isNetwork)) = .ok
          { exact := []
            networks := networks.insertionSort fun a b => b.1.prefixlen ≤ a.1.prefixlen } := by
        refine ofClients_eq_ok_iff.mpr ⟨networks, ?_, ?_⟩
        · rw [List.filter_filter]
          simpa using hnetworks
        · simp [List.filter_filter]
      rw [find, hmissing] at hfind
      simp only [hagain, bind, Except.bind, pure, Except.pure, find, List.reverse_nil,
        List.find?_nil, hfind]

end Naco
