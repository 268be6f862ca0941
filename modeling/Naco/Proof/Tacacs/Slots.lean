import Mathlib.Algebra.BigOperators.Ring.Finset
import Naco.Tacacs.Slots

/-!
# No connection slot is leaked

The connections between admission and release are those that wait inside the `try` of `_handle`. The two
counts are functions of them, whatever the connections do and however they end: all code that leaves the
counts alone keeps this, and the code up to the `try` and in the `finally` runs without a break.
-/

namespace Naco.Tacacs

open Py

/-- The counts are those of the admitted connections, given by their addresses, within the limits. -/
structure Slots.Counts (cfg : TacacsConfig) (admitted : Multiset String) (slots : Slots) : Prop where
  total : slots.total = admitted.card
  perClient : ∀ ip, slots.perClient.get? ip =
    if admitted.count ip = 0 then none else some (admitted.count ip : Int)
  total_le : slots.total ≤ cfg.maxConnections
  count_le : ∀ ip, (admitted.count ip : Int) ≤ cfg.maxConnectionsPerClient

namespace Slots

variable {cfg : TacacsConfig} {admitted : Multiset String} {slots : Slots}

theorem counts_empty (cfg : TacacsConfig) : Counts cfg 0 {} where
  total := rfl
  perClient ip := by simp
  total_le := Int.zero_le_ofNat 1 |>.trans cfg.one_le_maxConnections
  count_le ip := by
    rw [Multiset.count_zero]
    exact Int.zero_le_ofNat 1 |>.trans cfg.one_le_maxConnectionsPerClient

theorem Counts.count_eq (h : slots.Counts cfg admitted) (ip : String) :
    slots.count ip = admitted.count ip := by
  rw [count, h.perClient]
  by_cases hzero : admitted.count ip = 0
  · rw [if_pos hzero, hzero]
    rfl
  · rw [if_neg hzero]
    rfl

theorem Counts.take (h : slots.Counts cfg admitted) {ip : String} (hfull : slots.full cfg ip = false) :
    (slots.take ip).Counts cfg (ip ::ₘ admitted) := by
  simp only [full, Bool.or_eq_false_iff, decide_eq_false_iff_not, Int.not_le] at hfull
  obtain ⟨htotal, hcount⟩ := hfull
  rw [h.count_eq] at hcount
  refine ⟨?_, fun other => ?_, ?_, fun other => ?_⟩
  · rw [Multiset.card_cons, Int.natCast_succ, ← h.total]
    rfl
  · change (slots.perClient.set ip (slots.count ip + 1)).get? other = _
    rw [Dict.get?_set, h.count_eq]
    by_cases hother : other = ip
    · subst hother
      simp
    · rw [if_neg hother, Multiset.count_cons_of_ne hother, h.perClient]
  · exact htotal
  · by_cases hother : other = ip
    · subst hother
      rw [Multiset.count_cons_self, Int.natCast_succ]
      exact hcount
    · rw [Multiset.count_cons_of_ne hother]
      exact h.count_le other

theorem Counts.leave {ip : String} (h : slots.Counts cfg (ip ::ₘ admitted)) :
    ({ slots with total := slots.total - 1 }.leave ip (admitted.count ip)).Counts cfg admitted := by
  have htotal : slots.total = admitted.card + 1 := by
    rw [h.total, Multiset.card_cons, Int.natCast_succ]
  refine ⟨?_, fun other => ?_, ?_, fun other => ?_⟩
  · change slots.total - 1 = _
    rw [htotal, add_sub_cancel_right]
  · have hget : (slots.perClient.set ip (admitted.count ip : Int)).get? other =
        if other = ip then some (admitted.count ip : Int) else
          if admitted.count other = 0 then none else some (admitted.count other : Int) := by
      rw [Dict.get?_set]
      by_cases hother : other = ip
      · rw [if_pos hother, if_pos hother]
      · rw [if_neg hother, if_neg hother, h.perClient, Multiset.count_cons_of_ne hother]
    dsimp only [Slots.leave]
    by_cases hzero : admitted.count ip = 0
    · rw [if_pos (by rw [hzero]; rfl), Dict.get?_erase, hget]
      by_cases hother : other = ip
      · subst hother
        simp [hzero]
      · simp [hother]
    · rw [if_neg (by exact_mod_cast hzero), hget]
      by_cases hother : other = ip
      · subst hother
        simp [hzero]
      · simp [hother]
  · change slots.total - 1 ≤ _
    have hle := h.total_le
    omega
  · have hle := h.count_le other
    have hcount := Multiset.count_le_count_cons other ip admitted
    omega

/-- The sum of the counts per client. -/
def clientSum (slots : Slots) : Int :=
  (slots.perClient.items.map Prod.snd).sum

theorem Counts.mem_keys_iff (h : slots.Counts cfg admitted) (ip : String) :
    ip ∈ slots.perClient.items.map Prod.fst ↔ ip ∈ admitted := by
  have hkey : ip ∈ slots.perClient.items.map Prod.fst ↔ ∃ n, slots.perClient.get? ip = some n := by
    simp [Dict.get?_eq_some_iff]
  rw [hkey, h.perClient, ← Multiset.one_le_count_iff_mem]
  by_cases hzero : admitted.count ip = 0
  · simp [hzero]
  · simp [hzero, Nat.one_le_iff_ne_zero]

theorem Counts.clientSum_eq (h : slots.Counts cfg admitted) : slots.clientSum = admitted.card := by
  have hitems : slots.perClient.items.map Prod.snd =
      (slots.perClient.items.map Prod.fst).map fun ip => (admitted.count ip : Int) := by
    rw [List.map_map]
    refine List.map_congr_left fun item hitem => ?_
    have hget := Dict.get?_eq_some_iff.mpr hitem
    rw [h.perClient] at hget
    split at hget
    · cases hget
    · exact (Option.some.inj hget).symm
  have hkeys : (slots.perClient.items.map Prod.fst).toFinset = admitted.toFinset := by
    ext ip
    rw [List.mem_toFinset, Multiset.mem_toFinset]
    exact h.mem_keys_iff ip
  calc
    slots.clientSum =
        ((slots.perClient.items.map Prod.fst).map fun ip => (admitted.count ip : Int)).sum := by
      rw [clientSum, hitems]
    _ = ∑ ip ∈ (slots.perClient.items.map Prod.fst).toFinset, (admitted.count ip : Int) :=
      (List.sum_toFinset _ slots.perClient.nodup).symm
    _ = admitted.card := by
      rw [hkeys, ← Nat.cast_sum, Multiset.toFinset_sum_count_eq]

end Slots

/-! ### The handler -/

section

variable {τ ε : Type} (cfg : TacacsConfig) (outside : Outside τ)

/-- Code that has nothing to do with the slots. -/
def SameSlots (server server' : Server τ) : Prop :=
  server'.slots = server.slots

theorem sameSlots_elsewhere {α : Type} (c : Awaitable τ α) : (elsewhere c).Keeps SameSlots := by
  have hset (server : Server τ) (rest : τ) : SameSlots server { server with rest } := rfl
  exact Awaitable.keeps_zoom hset c

/-- The `finally` after `release`. -/
def afterRelease (stream : Stream) : Awaitable (Server τ) Unit := do
  elsewhere (.run (outside.close stream))
  (elsewhere (outside.waitClosed stream)).suppress

theorem sameSlots_afterRelease (stream : Stream) :
    (afterRelease outside stream).Keeps SameSlots :=
  (sameSlots_elsewhere _).bind fun _ => (sameSlots_elsewhere _).suppress

/-- The `finally` of a connection whose client has an entry. -/
theorem proceed_cleanup {server : Server τ} {stream : Stream} {count : Int}
    (hcount : server.slots.perClient.get? (peer stream) = some count) :
    ((handle cfg outside).cleanup stream).proceed server =
      (afterRelease outside stream).proceed
        { server with
          slots := { server.slots with total := server.slots.total - 1 }.leave (peer stream)
            (count - 1) } := by
  change ((release (peer stream)).bind fun _ => afterRelease outside stream).proceed server = _
  rw [release, Awaitable.bind, Awaitable.proceed, hcount]
  rfl

theorem keeps_proceed_cleanup (server : Server τ) (stream : Stream) :
    (((handle cfg outside).cleanup stream).proceed server).1.Keeps SameSlots := by
  cases hcount : server.slots.perClient.get? (peer stream) with
  | none =>
      change (((release (peer stream)).bind fun _ => afterRelease outside stream).proceed server).1.Keeps
        SameSlots
      rw [release, Awaitable.bind, Awaitable.proceed, hcount]
      trivial
  | some count =>
      rw [proceed_cleanup cfg outside hcount]
      exact (sameSlots_afterRelease outside stream).proceed _

/-- The counts of a server are those of the connections inside the `try`. -/
def Counted (held : Multiset Stream) (server : Server τ) : Prop :=
  server.slots.Counts cfg (held.map peer)

theorem counted_enter {stream : Stream} {held : Multiset Stream} {server : Server τ}
    (h : Counted cfg held server) (henter : ((handle cfg outside).enter stream server).1 = true) :
    Counted cfg (stream ::ₘ held) ((handle cfg outside).enter stream server).2 := by
  dsimp only [handle] at henter ⊢
  cases hfull : server.slots.full cfg (peer stream) with
  | true =>
      rw [hfull] at henter
      cases henter
  | false =>
      rw [if_neg Bool.false_ne_true, Counted, Multiset.map_cons]
      exact Slots.Counts.take h hfull

theorem counted_refuse {stream : Stream} {held : Multiset Stream} {server : Server τ}
    (h : Counted cfg held server) (henter : ((handle cfg outside).enter stream server).1 = false) :
    Counted cfg held ((handle cfg outside).enter stream server).2 := by
  dsimp only [handle] at henter ⊢
  cases hfull : server.slots.full cfg (peer stream) with
  | true => exact h
  | false =>
      rw [hfull] at henter
      cases henter

theorem counted_leave {stream : Stream} {held : Multiset Stream} {server : Server τ}
    (h : Counted cfg (stream ::ₘ held) server) :
    Counted cfg held (((handle cfg outside).cleanup stream).proceed server).2 := by
  rw [Counted, Multiset.map_cons] at h
  have hcount : server.slots.perClient.get? (peer stream) =
      some (((held.map peer).count (peer stream) : Int) + 1) := by
    rw [h.perClient, Multiset.count_cons_self, if_neg (Nat.succ_ne_zero _), Int.natCast_succ]
  rw [proceed_cleanup cfg outside hcount]
  refine (sameSlots_afterRelease outside stream).preserves (P := Counted cfg held) ?_ ?_
  · intro server server' hsame hcounted
    rw [Counted, hsame]
    exact hcounted
  · rw [add_sub_cancel_right]
    exact h.leave

theorem rules_handle (react : ε → τ → τ) :
    (handle cfg outside).Rules (elsewhereOnly react) SameSlots (Counted cfg) where
  other change held server h := h
  keeps held server server' hsame h := by
    rw [Counted, hsame]
    exact h
  refuse stream held server henter h := counted_refuse cfg outside h henter
  enter stream held server henter h := counted_enter cfg outside h henter
  body stream := (sameSlots_elsewhere _).bind fun client => by
    cases client with
    | none => trivial
    | some client => exact sameSlots_elsewhere _
  leave stream held server h := counted_leave cfg outside h
  cleanup stream server := keeps_proceed_cleanup cfg outside server stream

/-- What is promised of the slots while the connections `admitted` have been admitted and not yet
released. -/
structure Slots.Accounted (admitted : Multiset Stream) (slots : Slots) : Prop where
  total_eq_sum : slots.total = slots.clientSum
  total_eq_card : slots.total = admitted.card
  total_le : slots.total ≤ cfg.maxConnections
  count_bounds : ∀ ip count, slots.perClient.get? ip = some count →
    1 ≤ count ∧ count ≤ cfg.maxConnectionsPerClient
  count_eq : ∀ ip count, slots.perClient.get? ip = some count →
    count = (admitted.map peer).count ip
  no_entry : ∀ ip, (∀ stream ∈ admitted, peer stream ≠ ip) → slots.perClient.get? ip = none

theorem Slots.Counts.accounted {cfg : TacacsConfig} {admitted : Multiset Stream} {slots : Slots}
    (h : slots.Counts cfg (admitted.map peer)) : slots.Accounted cfg admitted := by
  have hentry (ip : String) (count : Int) (hget : slots.perClient.get? ip = some count) :
      (admitted.map peer).count ip ≠ 0 ∧ ((admitted.map peer).count ip : Int) = count := by
    rw [h.perClient] at hget
    split at hget
    · cases hget
    · next hne => exact ⟨hne, Option.some.inj hget⟩
  refine ⟨h.total.trans h.clientSum_eq.symm, ?_, h.total_le, fun ip count hget => ?_,
    fun ip count hget => (hentry ip count hget).2.symm, fun ip hnone => ?_⟩
  · rw [h.total, Multiset.card_map]
  · obtain ⟨hne, rfl⟩ := hentry ip count hget
    exact ⟨by omega, h.count_le ip⟩
  · have hzero : (admitted.map peer).count ip = 0 := by
      rw [Multiset.count_eq_zero, Multiset.mem_map]
      rintro ⟨stream, hstream, hpeer⟩
      exact hnone stream hstream hpeer
    rw [h.perClient, if_pos hzero]

theorem slots_never_leaked (react : ε → τ → τ) (rest : τ)
    (events : List (Handler.Event Stream ε)) :
    (serveAll cfg outside react rest events).state.slots.Accounted cfg
      (serveAll cfg outside react rest events).held := by
  have hstart : Counted cfg 0 { rest } := Slots.counts_empty cfg
  exact Slots.Counts.accounted ((rules_handle cfg outside react).invariant_run hstart events)

-- One slot for each client: the second connection is refused, and a cancellation gives the slot back.
example :
    let talk : Outside Unit := {
      client := fun _ => .await fun wake => .done (wake.map fun () => some ⟨"core", "key"⟩)
      converse := fun _ _ _ => .await .done
      close := fun _ rest => rest
      waitClosed := fun _ => .await .done }
    let events : List (Handler.Event Stream Unit) :=
      [.create ⟨0, none⟩, .resume 0 (.ok ()), .create ⟨1, none⟩, .resume 1 (.ok ())]
    let total (events : List (Handler.Event Stream Unit)) : Int :=
      (serveAll ⟨2, 1, by decide, by decide⟩ talk (fun () rest => rest) () events).state.slots.total
    total events = 1 ∧ total (events ++ [.resume 0 (.ok ()), .resume 0 (.error .cancelled)]) = 0 := by
  decide

end

end Naco.Tacacs
