import Naco.Lib.Rows
import Naco.Portal
import Naco.Proof.Routes
import Naco.Proof.SlidingWindow

/-!
# What a guest can do at the portal

A registration that gets past the rate limit is an accepted hit of its address, so no address compares
more codes in a window than the limit, whatever else runs. What a registration then writes is decided by
the tables of its transaction: one guest, for the device that the latest live session at the address
belongs to.
-/

namespace Naco

open Py

/-! ### Any window of a key -/

namespace SlidingWindow

variable {throttle : SlidingWindow} {key : String} {calls : List Call}

theorem accepted_reset (throttle : SlidingWindow) (key other : String) (hits : List ℚ) :
    throttle.accepted key [.reset other] hits = if other = key then [] else hits :=
  rfl

/-- In no window that ends anywhere are more hits accepted than the limit. -/
theorem accepted_within (hempty : throttle.hits = Dict.empty)
    (hsorted : (times calls).Pairwise (· ≤ ·)) (hfew : FewBetween throttle.maxKeys key calls) (t : ℚ) :
    ((throttle.accepted key calls []).filter fun time =>
      t - throttle.window < time ∧ time ≤ t).length ≤ throttle.limit := by
  induction calls using List.reverseRecOn generalizing t with
  | nil => exact Nat.zero_le _
  | append_singleton calls c ih =>
      have hearlier : (times calls).Pairwise (· ≤ ·) := by
        rw [times, List.filterMap_append] at hsorted
        exact (List.pairwise_append.mp hsorted).1
      have hkeep := ih hearlier hfew.of_append t
      rw [accepted_append]
      cases c with
      | reset other =>
          rw [accepted_reset]
          split
          · exact Nat.zero_le _
          · exact hkeep
      | hit other now =>
          rw [accepted_hit]
          by_cases hkey : other = key
          swap
          · rw [if_neg hkey]
            exact hkeep
          subst hkey
          rw [if_pos rfl]
          by_cases hok : ((throttle.run calls).hit other now).1 = true
          swap
          · rw [if_neg hok]
            exact hkeep
          rw [if_pos hok, List.filter_append, List.length_append]
          by_cases ht : t - throttle.window < now ∧ now ≤ t
          swap
          · rw [List.filter_singleton, decide_eq_false ht, cond_false, List.length_nil]
            exact hkeep
          -- all that the window at `t` holds was in the window of the new hit
          have hcounts := counts_run hempty hearlier hfew.of_append
          have hnow : ∀ time ∈ times calls, time ≤ now := by
            rw [times_hit] at hsorted
            exact fun time htime => (List.pairwise_append.mp hsorted).2.2 time htime now (by simp)
          obtain ⟨hlimit, hwindow, hkeys⟩ := run_settings throttle calls
          obtain ⟨-, -, -, hrecent⟩ := recent_length hcounts hnow fun hhit => by
            rw [hkeys]
            exact card_othersSince hfew hhit
          rw [(hit_spec _ other now).1, decide_eq_true_eq, hrecent, hlimit, hwindow] at hok
          have hsub : ((throttle.accepted other calls []).filter fun time =>
                t - throttle.window < time ∧ time ≤ t).length ≤
              ((throttle.accepted other calls []).filter (now - throttle.window < ·)).length := by
            refine (List.monotone_filter_right _ fun time hmem => ?_).length_le
            simp only [decide_eq_true_eq] at hmem ⊢
            exact lt_of_le_of_lt (sub_le_sub_right ht.2 _) hmem.1
          have hone := List.length_filter_le (fun time => decide (t - throttle.window < time ∧ time ≤ t))
            [now]
          rw [List.length_singleton] at hone
          omega

end SlidingWindow

/-! ### What a registration writes -/

/-- The latest live session at an address, as long as it is live. -/
structure Behind (config : PortalConfig) (clientIp : String) (now : Int) (t : Tables)
    (session : RadiusSession) : Prop where
  stored : session ∈ t.sessions
  address : session.framedIp = clientIp ∧ clientIp ≠ ""
  device : session.macAddress ≠ ""
  live : now - config.matchWindowMinutes * microsPerMinute ≤ session.updatedAt
  latest : ∀ other ∈ t.sessions, other.framedIp = clientIp → other.macAddress ≠ "" →
    other.updatedAt ≤ session.updatedAt

theorem head?_latest {rows : List RadiusSession} {row : RadiusSession}
    (h : (rows.insertionSort fun a b => b.updatedAt ≤ a.updatedAt).head? = some row) :
    row ∈ rows ∧ ∀ other ∈ rows, other.updatedAt ≤ row.updatedAt := by
  have hsorted : (rows.insertionSort fun a b => b.updatedAt ≤ a.updatedAt).Pairwise
      fun a b => b.updatedAt ≤ a.updatedAt := by
    have htotal : Std.Total fun a b : RadiusSession => b.updatedAt ≤ a.updatedAt :=
      ⟨fun a b => Int.le_total b.updatedAt a.updatedAt⟩
    have htrans : IsTrans RadiusSession fun a b => b.updatedAt ≤ a.updatedAt :=
      ⟨fun a b c hab hbc => Int.le_trans hbc hab⟩
    exact List.pairwise_insertionSort _ _
  have hmem (other : RadiusSession) := @List.mem_insertionSort _
    (fun a b : RadiusSession => b.updatedAt ≤ a.updatedAt) _ rows other
  obtain ⟨others, heq⟩ := List.head?_eq_some_iff.mp h
  rw [heq] at hsorted hmem
  refine ⟨(hmem row).mp List.mem_cons_self, fun other hother => ?_⟩
  rcases List.mem_cons.mp ((hmem other).mpr hother) with rfl | hlater
  · exact Int.le_refl _
  · exact List.rel_of_pairwise_cons hsorted hlater

theorem behind_of_identify {config : PortalConfig} {clientIp : String} {now : Int} {t : Tables}
    {guest : PortalGuest} (h : identify t clientIp config now = some guest) :
    ∃ session, Behind config clientIp now t session ∧ guest.mac = session.macAddress ∧
      guest.nasIp = session.nasIp ∧
      guest.blocked = (t.devices.find? (·.macAddress = guest.mac)).any (·.status = .blocked) := by
  unfold identify at h
  by_cases hip : clientIp = ""
  · rw [if_pos hip] at h
    cases h
  rw [if_neg hip] at h
  obtain ⟨session, hhead, rfl⟩ := Option.map_eq_some_iff.mp h
  obtain ⟨hfound, hlatest⟩ := head?_latest hhead
  simp only [List.mem_filter, Bool.and_eq_true, decide_eq_true_eq] at hfound hlatest
  obtain ⟨hstored, ⟨haddress, hdevice⟩, hlive⟩ := hfound
  refine ⟨session, ⟨hstored, ⟨haddress, hip⟩, hdevice, hlive, ?_⟩, rfl, rfl, rfl⟩
  intro other hother haddress' hdevice'
  by_cases hlate : now - config.matchWindowMinutes * microsPerMinute ≤ other.updatedAt
  · exact hlatest other ⟨hother, ⟨haddress', hdevice'⟩, hlate⟩
  · omega

def portalDevice (platform : Platform) (now : Int) (t : Tables) (session : RadiusSession) : Device where
  id := nextId (t.devices.map (·.id))
  macAddress := session.macAddress
  vendor := vendorFor platform.oui session.macAddress
  lastSeen := now
  lastNasIp := session.nasIp

/-- The registration of the device behind the address of a form, in the tables of its transaction. -/
structure Admits (platform : Platform) (config : PortalConfig) (now : Int) (form : PortalForm)
    (t t' : Tables) : Prop where
  ownPage : form.ownPage = true
  accepted : form.accept = "yes"
  code : config.accessCode = "" ∨ strip form.code = config.accessCode
  device : ∃ session, Behind config form.clientIp now t session ∧
    (∀ device ∈ t.devices, device.macAddress = session.macAddress → device.status ≠ .blocked) ∧
    t' = { t with
      devices := if t.devices.any (·.macAddress = session.macAddress) then t.devices
        else t.devices ++ [portalDevice platform now t session]
      guests := t.guests ++ [guestRow (nextId (t.guests.map (·.id))) session.macAddress now
        config.sessionHours] }

theorem ownPage_eq_true_iff {form : PortalForm} : form.ownPage = true ↔
    ¬ (form.cookie = "" ∨ form.cookie ≠ form.csrf ∨
      form.origin.any (fun origin => decide (origin ≠ form.ownOrigin)) = true) := by
  simp only [PortalForm.ownPage, Bool.and_eq_true, decide_eq_true_eq, Option.all_eq_true, not_or,
    Option.any_eq_true, not_exists, not_and, ne_eq, Decidable.not_not, and_assoc]

/-- A registration writes nothing and schedules nothing, or it admits the device. -/
theorem register_cases {platform : Platform} {config : PortalConfig} {now : Int} {form : PortalForm}
    {withinLimit : Bool} {db : Database} {outcome : Outcome}
    (h : portalRegister platform config now withinLimit form db = .ok outcome) :
    (outcome.db = db ∧ outcome.scheduled = []) ∨
      withinLimit = true ∧ Admits platform config now form db.val outcome.db.val ∧
        ∃ mac : String, outcome.scheduled = [s!"portal registration {mac}"] := by
  unfold portalRegister at h
  split at h
  · cases h
  split at h
  · cases h
  split at h
  · cases h
  next hown =>
  split at h
  · cases h
  next hlimit =>
  dsimp only at h
  split at h
  · cases h
    exact .inl ⟨rfl, rfl⟩
  next guest hguest =>
  obtain ⟨session, hbehind, hmac, hnas, hblocked⟩ := behind_of_identify hguest
  obtain ⟨mac, nasIp, blocked⟩ := guest
  obtain rfl : mac = session.macAddress := hmac
  obtain rfl : nasIp = session.nasIp := hnas
  split at h
  · cases h
  next hfree =>
  split at h
  · cases h
  next haccept =>
  split at h
  · cases h
  next hcode =>
  split at h
  · obtain ⟨hconsistent, rfl⟩ := commitOrRaise_eq_ok_iff.mp h
    refine .inr ⟨by simpa using hlimit, ⟨?_, by simpa using haccept, ?_, session, hbehind, ?_, ?_⟩,
      session.macAddress, rfl⟩
    · exact ownPage_eq_true_iff.mpr hown
    · by_cases hnone : config.accessCode = ""
      · exact .inl hnone
      · exact .inr (by simpa [hnone] using hcode)
    · intro device hdevice hsame hblock
      have hfind := (Rows.find?_eq_some_iff db.property.deviceMacs).mpr ⟨hdevice, hsame⟩
      rw [hblocked, hfind, Option.any_some, hblock] at hfree
      exact hfree (decide_eq_true rfl)
    · rfl
  · cases h

/-! ### Knocks of a schedule -/

section

variable (platform : Platform) (config : PortalConfig)

/-- The hit that a move makes, if it makes one. -/
def knock (loop : PortalLoop) : Move PortalForm PortalEvent → List SlidingWindow.Call
  | .resume index =>
      match loop.calls[index]? with
      | some call =>
          if call.seen.isEmpty && call.request.knocks config then
            [.hit call.request.clientIp loop.state.monotonic]
          else []
      | none => []
  | .outside _ => []
  | .call _ => []

def portalMove (loop : PortalLoop) (m : Move PortalForm PortalEvent) : PortalLoop :=
  loop.move (PortalForm.register platform config) PortalEvent.react m

/-- The hits of a schedule, in order. -/
def knocks (loop : PortalLoop) : List (Move PortalForm PortalEvent) → List SlidingWindow.Call
  | [] => []
  | m :: schedule => knock config loop m ++ knocks (portalMove platform config loop m) schedule

theorem knocks_concat (loop : PortalLoop) (schedule : List (Move PortalForm PortalEvent))
    (m : Move PortalForm PortalEvent) : knocks platform config loop (schedule ++ [m]) =
      knocks platform config loop schedule ++
        knock config (schedule.foldl (portalMove platform config) loop) m := by
  induction schedule generalizing loop with
  | nil => exact List.append_nil _
  | cons first schedule ih =>
      rw [List.cons_append, knocks, ih, knocks, List.append_assoc]
      rfl

end

/-- When a call of this address got past the limit. -/
def enteredAt (ip : String) (request : PortalForm) (seen : List (Moment PortalWorld)) : Option ℚ :=
  if request.clientIp = ip then seen.getLast?.map (·.state.monotonic) else none

/-- When the calls of an address, in progress or returned, got past the limit. -/
def entries (ip : String) (loop : PortalLoop) : List ℚ :=
  loop.calls.filterMap (fun call => enteredAt ip call.request call.seen) ++
    loop.returned.filterMap fun ret => enteredAt ip ret.request ret.seen

variable {platform : Platform} {config : PortalConfig} {loop : PortalLoop}

theorem enteredAt_nil (ip : String) (request : PortalForm) : enteredAt ip request [] = none := by
  rw [enteredAt, List.getLast?_nil, Option.map_none, ite_self]

theorem perm_of_call {index : Nat} {call : Call PortalWorld PortalForm (Except RouteError (List String))}
    (hcall : loop.calls[index]? = some call) :
    loop.calls.Perm (call :: loop.calls.eraseIdx index) := by
  obtain ⟨hlt, rfl⟩ := List.getElem?_eq_some_iff.mp hcall
  exact (List.getElem_cons_eraseIdx_perm hlt).symm

theorem entries_finish (ip : String) {index : Nat}
    {call : Call PortalWorld PortalForm (Except RouteError (List String))}
    (hcall : loop.calls[index]? = some call) (state : PortalWorld)
    (result : Except RouteError (List String)) :
    (entries ip (loop.finish index call state result)).Perm (entries ip loop) := by
  have hcalls := (perm_of_call hcall).filterMap fun call => enteredAt ip call.request call.seen
  refine List.Perm.trans ?_ (hcalls.symm.append_right _)
  simp only [entries, Loop.finish, List.filterMap_cons]
  cases enteredAt ip call.request call.seen with
  | none => exact List.Perm.refl _
  | some time => exact List.perm_middle

theorem entries_pause (ip : String) {index : Nat}
    {call : Call PortalWorld PortalForm (Except RouteError (List String))}
    (hcall : loop.calls[index]? = some call) (hseen : call.seen = []) (state : PortalWorld)
    (rest : Coroutine PortalWorld (Except RouteError (List String))) :
    (entries ip (loop.pause index call state rest)).Perm
      (entries ip loop ++ if call.request.clientIp = ip then [loop.state.monotonic] else []) := by
  have hbefore := (perm_of_call hcall).filterMap fun call => enteredAt ip call.request call.seen
  have hlt : index < loop.calls.length := (List.getElem?_eq_some_iff.mp hcall).1
  have hafter := (@List.set_perm_cons_eraseIdx _ loop.calls index hlt
    { call with seen := loop.now :: call.seen, rest }).filterMap fun call =>
      enteredAt ip call.request call.seen
  have hnew : enteredAt ip call.request (loop.now :: call.seen) =
      if call.request.clientIp = ip then some loop.state.monotonic else none := by
    rw [hseen]
    rfl
  rw [List.filterMap_cons, hnew] at hafter
  rw [List.filterMap_cons, hseen, enteredAt_nil] at hbefore
  by_cases hip : call.request.clientIp = ip
  · rw [if_pos hip] at hafter ⊢
    exact (hafter.append_right _).trans
      (((hbefore.symm.append_right _).cons _).trans (List.perm_append_singleton _ _).symm)
  · rw [if_neg hip] at hafter ⊢
    rw [List.append_nil]
    exact (hafter.append_right _).trans (hbefore.symm.append_right _)

/-- Where a call of the portal is: it has yet to knock, or it got past the limit. -/
inductive PortalStage (platform : Platform) (config : PortalConfig)
    (call : Call PortalWorld PortalForm (Except RouteError (List String))) : Prop
  | fresh (hseen : call.seen = []) (hrest : call.rest = call.request.register platform config)
  | entered (hseen : call.seen ≠ []) (hrest : call.rest = call.request.transaction platform config)

/-- The answers to requests that do not get past the limit. -/
def portalRefusals : List ApiError :=
  [⟨404, "not found"⟩, ⟨422, "String should have at most 128 characters"⟩, ⟨403, "Please try again"⟩,
    ⟨429, "Too many attempts"⟩]

/-- How a call was answered: before the limit, or from the tables of its one transaction. -/
inductive PortalAnswer (platform : Platform) (config : PortalConfig)
    (ret : Return PortalWorld PortalForm (Except RouteError (List String))) : Prop
  | refused (hseen : ret.seen = []) (error : ApiError) (hlisted : error ∈ portalRefusals)
      (hresult : ret.result = .error (.refused error))
  | entered (hseen : ret.seen ≠ []) (hresult : ret.result = (portalRegister platform config
      ret.moment.state.now true ret.request ret.moment.state.db).map (·.scheduled))

/-- What holds between two moves, after these hits. -/
structure PortalInv (platform : Platform) (config : PortalConfig) (loop : PortalLoop)
    (hits : List SlidingWindow.Call) : Prop where
  attempts : loop.state.attempts = portalAttempts.run hits
  sorted : (SlidingWindow.times hits).Pairwise (· ≤ ·)
  past : ∀ time ∈ SlidingWindow.times hits, time ≤ loop.state.monotonic
  entries : ∀ ip, (entries ip loop).Perm (portalAttempts.accepted ip hits [])
  stages : ∀ call ∈ loop.calls, PortalStage platform config call
  answers : ∀ ret ∈ loop.returned, PortalAnswer platform config ret

/-- A hit of the loop's window. -/
theorem PortalInv.knock {hits : List SlidingWindow.Call} (h : PortalInv platform config loop hits)
    (ip : String) :
    let hits' := hits ++ [.hit ip loop.state.monotonic]
    (loop.state.attempts.hit ip loop.state.monotonic).2 = portalAttempts.run hits' ∧
      (SlidingWindow.times hits').Pairwise (· ≤ ·) ∧
      (∀ time ∈ SlidingWindow.times hits', time ≤ loop.state.monotonic) ∧
      ∀ other, portalAttempts.accepted other hits' [] = portalAttempts.accepted other hits [] ++
        if ip = other ∧ (loop.state.attempts.hit ip loop.state.monotonic).1 = true then
          [loop.state.monotonic] else [] := by
  intro hits'
  refine ⟨?_, ?_, ?_, fun other => ?_⟩
  · rw [SlidingWindow.run_append, ← h.attempts]
    rfl
  · rw [SlidingWindow.times_hit, List.pairwise_append]
    refine ⟨h.sorted, List.pairwise_singleton _ _, fun time htime last hlast => ?_⟩
    rw [List.mem_singleton.mp hlast]
    exact h.past time htime
  · intro time htime
    rw [SlidingWindow.times_hit, List.mem_append, List.mem_singleton] at htime
    rcases htime with htime | rfl
    · exact h.past time htime
    · exact le_rfl
  · rw [SlidingWindow.accepted_append, SlidingWindow.accepted_hit, ← h.attempts]
    by_cases hip : ip = other
    · by_cases hok : (loop.state.attempts.hit ip loop.state.monotonic).1 = true
      · rw [if_pos hip, if_pos hok, if_pos ⟨hip, hok⟩]
      · rw [if_pos hip, if_neg hok, if_neg fun h => hok h.2, List.append_nil]
    · rw [if_neg hip, if_neg fun h => hip h.1, List.append_nil]

/-- A transaction leaves the window and the clock alone. -/
theorem state_transaction (platform : Platform) (config : PortalConfig) (form : PortalForm)
    (world : PortalWorld) :
    ((form.transaction platform config).runAlone world).2.attempts = world.attempts ∧
      ((form.transaction platform config).runAlone world).2.monotonic = world.monotonic := by
  rw [PortalForm.transaction, portalTransaction, Coroutine.runAlone_atomic]
  cases portalRegister platform config world.now true form world.db with
  | ok outcome => exact ⟨rfl, rfl⟩
  | error error => exact ⟨rfl, rfl⟩

theorem result_transaction (platform : Platform) (config : PortalConfig) (form : PortalForm)
    (world : PortalWorld) : ((form.transaction platform config).runAlone world).1 =
      (portalRegister platform config world.now true form world.db).map (·.scheduled) := by
  rw [PortalForm.transaction, portalTransaction, Coroutine.runAlone_atomic]
  cases portalRegister platform config world.now true form world.db with
  | ok outcome => rfl
  | error error => rfl

/-- A request that is refused before the limit lets it in. -/
theorem register_refused (platform : Platform) {form : PortalForm} {withinLimit : Bool} (now : Int)
    (db : Database) (h : (form.knocks config && withinLimit) = false) :
    ∃ error ∈ portalRefusals,
      portalRegister platform config now withinLimit form db = .error (.refused error) := by
  unfold portalRegister
  by_cases henabled : config.enabled = true
  swap
  · exact ⟨⟨404, "not found"⟩, by decide, if_pos henabled⟩
  rw [if_neg (not_not.mpr henabled)]
  by_cases hfits : form.fits = true
  swap
  · exact ⟨⟨422, "String should have at most 128 characters"⟩, by decide, if_pos hfits⟩
  rw [if_neg (not_not.mpr hfits)]
  by_cases hown : form.cookie = "" ∨ form.cookie ≠ form.csrf ∨
      form.origin.any (fun origin => decide (origin ≠ form.ownOrigin)) = true
  · exact ⟨⟨403, "Please try again"⟩, by decide, if_pos hown⟩
  rw [if_neg hown]
  by_cases hlimit : withinLimit = true
  swap
  · exact ⟨⟨429, "Too many attempts"⟩, by decide, if_pos hlimit⟩
  have hknocks : form.knocks config = true := by
    rw [PortalForm.knocks, henabled, hfits, ownPage_eq_true_iff.mpr hown]
    rfl
  rw [hknocks, hlimit] at h
  cases h

/-- The record with a call that was refused. -/
theorem PortalInv.answers_refused {hits : List SlidingWindow.Call}
    (h : PortalInv platform config loop hits) {index : Nat} {state : PortalWorld} {withinLimit : Bool}
    {call : Call PortalWorld PortalForm (Except RouteError (List String))} (hseen : call.seen = [])
    (hrefused : (call.request.knocks config && withinLimit) = false) :
    ∀ ret ∈ (loop.finish index call state ((portalRegister platform config loop.state.now withinLimit
      call.request loop.state.db).map (·.scheduled))).returned, PortalAnswer platform config ret := by
  intro ret hret
  rcases List.mem_cons.mp hret with rfl | hold
  · obtain ⟨error, hlisted, hresult⟩ :=
      register_refused platform loop.state.now loop.state.db hrefused
    refine .refused hseen error hlisted ?_
    rw [hresult]
    rfl
  · exact h.answers ret hold

theorem portalInv_knock {hits : List SlidingWindow.Call} (h : PortalInv platform config loop hits)
    {index : Nat} {call : Call PortalWorld PortalForm (Except RouteError (List String))}
    (hcall : loop.calls[index]? = some call) (hseen : call.seen = [])
    (hrest : call.rest = call.request.register platform config) :
    PortalInv platform config (loop.advance index call) (hits ++
      if call.request.knocks config then [.hit call.request.clientIp loop.state.monotonic] else []) := by
  have hmem : call ∈ loop.calls := List.mem_of_getElem? hcall
  by_cases hknocks : call.request.knocks config = true
  swap
  · have hfinish : loop.advance index call = loop.finish index call loop.state
        ((portalRegister platform config loop.state.now
          (loop.state.attempts.hit call.request.clientIp loop.state.monotonic).1 call.request
          loop.state.db).map (·.scheduled)) := by
      rw [Loop.advance, hrest, PortalForm.register]
      simp only [hknocks, Bool.false_eq_true, if_false, Bool.false_and]
    rw [hfinish, if_neg hknocks, List.append_nil]
    exact ⟨h.attempts, h.sorted, h.past, fun ip => (entries_finish ip hcall _ _).trans (h.entries ip),
      fun other hother => h.stages other (List.mem_of_mem_eraseIdx hother),
      h.answers_refused hseen (by rw [Bool.eq_false_iff.mpr hknocks]; rfl)⟩
  obtain ⟨hattempts, hsorted, hpast, haccepted⟩ := h.knock call.request.clientIp
  rw [if_pos hknocks]
  by_cases hok : (loop.state.attempts.hit call.request.clientIp loop.state.monotonic).1 = true
  · have hpause : loop.advance index call = loop.pause index call
        { loop.state with
          attempts := (loop.state.attempts.hit call.request.clientIp loop.state.monotonic).2 }
        (call.request.transaction platform config) := by
      rw [Loop.advance, hrest, PortalForm.register]
      simp only [hknocks, hok, if_true, Bool.and_self]
      rfl
    rw [hpause]
    refine ⟨hattempts, hsorted, hpast, fun ip => ?_, fun other hother => ?_, h.answers⟩
    · rw [haccepted ip]
      simp only [hok, and_true]
      exact (entries_pause ip hcall hseen _ _).trans ((h.entries ip).append_right _)
    · rcases List.mem_or_eq_of_mem_set hother with hold | rfl
      · exact h.stages other hold
      · exact .entered (List.cons_ne_nil _ _) rfl
  · have hfinish : loop.advance index call = loop.finish index call
        { loop.state with
          attempts := (loop.state.attempts.hit call.request.clientIp loop.state.monotonic).2 }
        ((portalRegister platform config loop.state.now
          (loop.state.attempts.hit call.request.clientIp loop.state.monotonic).1 call.request
          loop.state.db).map (·.scheduled)) := by
      rw [Loop.advance, hrest, PortalForm.register]
      simp only [hknocks, hok, if_true, Bool.and_false, Bool.false_eq_true, if_false]
    rw [hfinish]
    refine ⟨hattempts, hsorted, hpast, fun ip => ?_, fun other hother =>
      h.stages other (List.mem_of_mem_eraseIdx hother),
      h.answers_refused hseen (by rw [Bool.eq_false_iff.mpr hok, Bool.and_false])⟩
    rw [haccepted ip, if_neg fun h => hok h.2, List.append_nil]
    exact (entries_finish ip hcall _ _).trans (h.entries ip)

theorem portalInv_move {hits : List SlidingWindow.Call} (h : PortalInv platform config loop hits)
    (m : Move PortalForm PortalEvent) :
    PortalInv platform config (portalMove platform config loop m) (hits ++ knock config loop m) := by
  cases m with
  | outside event =>
      rw [knock, List.append_nil]
      refine ⟨?_, h.sorted, fun time htime => (h.past time htime).trans ?_, h.entries, h.stages, h.answers⟩
      · cases event <;> exact h.attempts
      · cases event with
        | clock now elapsed => exact le_add_of_nonneg_right elapsed.2
        | commit db => exact le_rfl
  | call request =>
      rw [knock, List.append_nil]
      refine ⟨h.attempts, h.sorted, h.past, fun ip => ?_, fun call hcall => ?_, h.answers⟩
      · have hsame : entries ip (portalMove platform config loop (.call request)) = entries ip loop := by
          simp only [entries, portalMove, Loop.move, List.filterMap_append, List.filterMap_cons,
            enteredAt_nil, List.filterMap_nil, List.append_nil]
        rw [hsame]
        exact h.entries ip
      · rcases List.mem_append.mp hcall with hold | hnew
        · exact h.stages call hold
        · rw [List.mem_singleton.mp hnew]
          exact .fresh rfl rfl
  | resume index =>
      cases hcall : loop.calls[index]? with
      | none =>
          have hidle : portalMove platform config loop (.resume index) = loop := by
            simp only [portalMove, Loop.move, Loop.resume, hcall]
          simp only [knock, hcall, List.append_nil, hidle]
          exact h
      | some call =>
          have hadvance : portalMove platform config loop (.resume index) = loop.advance index call := by
            simp only [portalMove, Loop.move, Loop.resume, hcall]
          simp only [knock, hcall, hadvance]
          cases h.stages call (List.mem_of_getElem? hcall) with
          | fresh hseen hrest =>
              simp only [hseen, List.isEmpty_nil, Bool.true_and]
              exact portalInv_knock h hcall hseen hrest
          | entered hseen hrest =>
              have hno : call.seen.isEmpty = false := by simpa using hseen
              simp only [hno, Bool.false_and, Bool.false_eq_true, if_false, List.append_nil]
              rw [Loop.advance_atomic hrest, hrest]
              obtain ⟨hattempts, hmonotonic⟩ :=
                state_transaction platform config call.request loop.state
              refine ⟨hattempts.trans h.attempts, h.sorted, fun time htime => ?_, fun ip =>
                (entries_finish ip hcall _ _).trans (h.entries ip), fun other hother =>
                h.stages other (List.mem_of_mem_eraseIdx hother), fun ret hret => ?_⟩
              swap
              · rcases List.mem_cons.mp hret with rfl | hold
                · exact .entered hseen (result_transaction platform config call.request loop.state)
                · exact h.answers ret hold
              exact (h.past time htime).trans (le_of_eq hmonotonic.symm)

/-! ### Whole runs -/

section

variable (platform : Platform) (config : PortalConfig) (db : Database) (now : Int) (monotonic : ℚ)
  (schedule : List (Move PortalForm PortalEvent))

def portalStart : PortalLoop :=
  { state := { db, now, monotonic, attempts := portalAttempts } }

theorem portalRun_concat (m : Move PortalForm PortalEvent) :
    portalRun platform config db now monotonic (schedule ++ [m]) =
      portalMove platform config (portalRun platform config db now monotonic schedule) m :=
  Loop.run_concat _ _ _ _ _

theorem portalInv_run : PortalInv platform config (portalRun platform config db now monotonic schedule)
    (knocks platform config (portalStart db now monotonic) schedule) := by
  induction schedule using List.reverseRecOn with
  | nil =>
      refine ⟨rfl, List.Pairwise.nil, List.forall_mem_nil _, fun ip => List.Perm.refl _, ?_, ?_⟩
      · exact List.forall_mem_nil _
      · exact List.forall_mem_nil _
  | append_singleton schedule m ih =>
      rw [portalRun_concat, knocks_concat]
      exact portalInv_move ih m

end

/-- In any ten minutes at most ten requests of an address get past the limit, as long as fewer than
50000 other addresses knock between two knocks of its; the others are refused without a look at the
tables. -/
theorem portal_attempts_limited (platform : Platform) (config : PortalConfig) (db : Database) (now : Int)
    (monotonic : ℚ) (schedule : List (Move PortalForm PortalEvent)) (ip : String)
    (hfew : SlidingWindow.FewBetween 50000 ip
      (knocks platform config (portalStart db now monotonic) schedule)) :
    let loop := portalRun platform config db now monotonic schedule
    (∀ t, ((entries ip loop).filter fun time => t - 600 < time ∧ time ≤ t).length ≤ 10) ∧
      ∀ ret ∈ loop.returned, PortalAnswer platform config ret := by
  intro loop
  have hinv := portalInv_run platform config db now monotonic schedule
  refine ⟨fun t => ?_, hinv.answers⟩
  rw [((hinv.entries ip).filter _).length_eq]
  exact @SlidingWindow.accepted_within portalAttempts ip _ rfl hinv.sorted hfew t

def phoneForm : PortalForm where
  clientIp := "10.0.9.7"
  cookie := "token"
  csrf := "token"
  ownOrigin := "http://10.0.0.5"
  accept := "yes"

def portalPlatform : Platform where
  timezone := .utc
  oui := fun _ => none
  sha256 := id

def phoneDb : Database :=
  ⟨{ sessions := [
      { id := 1, nasIp := "10.0.0.1", acctSessionId := "0000002A", macAddress := "aa:bb:cc:00:00:01",
        framedIp := "10.0.9.7", updatedAt := 63850334400000000 }] }, by decide +kernel⟩

/-- A phone sends twelve forms with a wrong code at once, of which ten get past the limit, and one with too
long a name; a tablet without a session sends one. Ten minutes later the phone has the code. -/
def phoneSchedule : List (Move PortalForm PortalEvent) :=
  List.replicate 12 (.call { phoneForm with code := "1234" }) ++ (List.range 10).map .resume ++
    [.resume 10, .resume 10] ++ List.replicate 10 (.resume 0) ++
    [.call { phoneForm with clientIp := "10.0.9.8" }, .resume 0, .resume 0,
      .call { phoneForm with fullName := String.ofList (List.replicate 129 'a') }, .resume 0,
      .outside (.clock 63850335000000000 600),
      .call { phoneForm with code := "4711 " }, .resume 0, .resume 0]

def phoneLoop : PortalLoop :=
  portalRun portalPlatform { enabled := true, accessCode := "4711" } phoneDb 63850334400000000 0
    phoneSchedule

/-- The status of the page that answers, which is 200 where nothing is refused. -/
def portalStatus (ret : Return PortalWorld PortalForm (Except RouteError (List String))) : Option Nat :=
  match ret.result with
  | .ok _ => some 200
  | .error (.refused error) => some error.status
  | .error _ => none

theorem portal_attempts_limited_phone :
    ((∀ t, ((entries "10.0.9.7" phoneLoop).filter fun time => t - 600 < time ∧ time ≤ t).length ≤ 10) ∧
      ∀ ret ∈ phoneLoop.returned,
        PortalAnswer portalPlatform { enabled := true, accessCode := "4711" } ret) ∧
      (entries "10.0.9.7" phoneLoop).length = 11 ∧
      phoneLoop.returned.reverse.map portalStatus =
        List.replicate 2 (some 429) ++ List.replicate 10 (some 422) ++ [some 200, some 422, some 200] ∧
      phoneLoop.state.db.val.guests.map (·.macAddress) = ["aa:bb:cc:00:00:01"] := by
  have hfew : SlidingWindow.FewBetween 50000 "10.0.9.7" (knocks portalPlatform
      { enabled := true, accessCode := "4711" } (portalStart phoneDb 63850334400000000 0) phoneSchedule) :=
    SlidingWindow.fewBetween_of_take (by decide +kernel)
  refine ⟨portal_attempts_limited portalPlatform { enabled := true, accessCode := "4711" } phoneDb
    63850334400000000 0 phoneSchedule "10.0.9.7" hfew, ?_, ?_, ?_⟩
  · decide +kernel
  · decide +kernel
  · decide +kernel

def AdmittedBy (platform : Platform) (config : PortalConfig)
    (ret : Return PortalWorld PortalForm (Except RouteError (List String)))
    (guest : GuestRegistration) : Prop :=
  ret.seen ≠ [] ∧ ∃ t', Admits platform config ret.moment.state.now ret.request
    ret.moment.state.db.val t' ∧ t'.guests = ret.moment.state.db.val.guests ++ [guest]

/-- What a move does to the tables: nothing, or another request commits, or a call that got past the
limit returns and has admitted a device. -/
inductive Written (platform : Platform) (config : PortalConfig) (loop loop' : PortalLoop) :
    Move PortalForm PortalEvent → Prop
  | nothing {m : Move PortalForm PortalEvent} (hdb : loop'.state.db = loop.state.db) :
      Written platform config loop loop' m
  | elsewhere (committed : Database) (hdb : loop'.state.db = committed) :
      Written platform config loop loop' (.outside (.commit committed))
  | admitted {m : Move PortalForm PortalEvent}
      (ret : Return PortalWorld PortalForm (Except RouteError (List String)))
      (hreturned : loop'.returned = ret :: loop.returned) (hmoment : ret.moment = loop.now)
      (hseen : ret.seen ≠ []) (hadmits : Admits platform config loop.state.now ret.request
        loop.state.db.val loop'.state.db.val) :
      Written platform config loop loop' m

theorem db_advance_fresh {call : Call PortalWorld PortalForm (Except RouteError (List String))}
    (hrest : call.rest = call.request.register platform config) (index : Nat) :
    (loop.advance index call).state.db = loop.state.db := by
  rw [Loop.state_advance, hrest, PortalForm.register, Coroutine.advance]
  split <;> rfl

/-- The transaction of a form writes nothing, or it admits the device. -/
theorem db_transaction (platform : Platform) (config : PortalConfig) (form : PortalForm)
    (world : PortalWorld) :
    ((form.transaction platform config).runAlone world).2.db = world.db ∨
      Admits platform config world.now form world.db.val
        ((form.transaction platform config).runAlone world).2.db.val := by
  rw [PortalForm.transaction, portalTransaction, Coroutine.runAlone_atomic]
  cases hregister : portalRegister platform config world.now true form world.db with
  | error error => exact .inl rfl
  | ok outcome =>
      rcases register_cases hregister with ⟨hsame, -⟩ | ⟨-, hadmits, -⟩
      · exact .inl hsame
      · exact .inr hadmits

theorem written_move {hits : List SlidingWindow.Call} (hinv : PortalInv platform config loop hits)
    (m : Move PortalForm PortalEvent) :
    Written platform config loop (portalMove platform config loop m) m := by
  cases m with
  | outside event =>
      cases event with
      | clock now elapsed => exact .nothing rfl
      | commit committed => exact .elsewhere committed rfl
  | call request => exact .nothing rfl
  | resume index =>
      cases hcall : loop.calls[index]? with
      | none =>
          have hidle : portalMove platform config loop (.resume index) = loop := by
            simp only [portalMove, Loop.move, Loop.resume, hcall]
          exact .nothing (by rw [hidle])
      | some call =>
          have hadvance : portalMove platform config loop (.resume index) = loop.advance index call := by
            simp only [portalMove, Loop.move, Loop.resume, hcall]
          rw [hadvance]
          cases hinv.stages call (List.mem_of_getElem? hcall) with
          | fresh hseen hrest => exact .nothing (db_advance_fresh hrest index)
          | entered hseen hrest =>
              rw [Loop.advance_atomic hrest, hrest]
              rcases db_transaction platform config call.request loop.state with hsame | hadmits
              · exact .nothing hsame
              · exact .admitted _ rfl rfl hseen hadmits

def Accounted (platform : Platform) (config : PortalConfig) (db : Database)
    (schedule : List (Move PortalForm PortalEvent)) (loop : PortalLoop) : Prop :=
  ∀ guest ∈ loop.state.db.val.guests, guest ∈ db.val.guests ∨
    (∃ committed, Move.outside (.commit committed) ∈ schedule ∧ guest ∈ committed.val.guests) ∨
      ∃ ret ∈ loop.returned, AdmittedBy platform config ret guest

theorem Accounted.later {db : Database} {schedule : List (Move PortalForm PortalEvent)}
    {loop' : PortalLoop} (h : Accounted platform config db schedule loop)
    (m : Move PortalForm PortalEvent) (hreturned : ∀ ret ∈ loop.returned, ret ∈ loop'.returned)
    {guest : GuestRegistration} (hguest : guest ∈ loop.state.db.val.guests) :
    guest ∈ db.val.guests ∨
      (∃ committed, Move.outside (.commit committed) ∈ schedule ++ [m] ∧
        guest ∈ committed.val.guests) ∨
      ∃ ret ∈ loop'.returned, AdmittedBy platform config ret guest := by
  rcases h guest hguest with hstart | ⟨committed, hmem, hcommitted⟩ | ⟨ret, hret, hadmitted⟩
  · exact .inl hstart
  · exact .inr (.inl ⟨committed, List.mem_append_left _ hmem, hcommitted⟩)
  · exact .inr (.inr ⟨ret, hreturned ret hret, hadmitted⟩)

theorem accounted_move {db : Database} {schedule : List (Move PortalForm PortalEvent)}
    {hits : List SlidingWindow.Call} (hinv : PortalInv platform config loop hits)
    (h : Accounted platform config db schedule loop) (m : Move PortalForm PortalEvent) :
    Accounted platform config db (schedule ++ [m]) (portalMove platform config loop m) := by
  have hreturned : ∀ ret ∈ loop.returned, ret ∈ (portalMove platform config loop m).returned :=
    fun ret hret => Loop.mem_returned_move _ _ hret m
  intro guest hguest
  cases written_move hinv m with
  | nothing hdb =>
      rw [hdb] at hguest
      exact h.later m hreturned hguest
  | elsewhere committed hdb =>
      rw [hdb] at hguest
      exact .inr (.inl ⟨committed, List.mem_append_right _ (List.mem_singleton_self _), hguest⟩)
  | admitted ret hret hmoment hseen hadmits =>
      obtain ⟨session, -, -, hwritten⟩ := hadmits.device
      have hguests : (portalMove platform config loop m).state.db.val.guests =
          loop.state.db.val.guests ++ [guestRow (nextId (loop.state.db.val.guests.map (·.id)))
            session.macAddress loop.state.now config.sessionHours] := by
        rw [hwritten]
      have hstate : ret.moment.state = loop.state := by
        rw [hmoment]
        rfl
      rw [hguests, List.mem_append, List.mem_singleton] at hguest
      rcases hguest with hold | rfl
      · exact h.later m hreturned hold
      · have hmem : ret ∈ (portalMove platform config loop m).returned := by
          rw [hret]
          exact List.mem_cons_self
        refine .inr (.inr ⟨ret, hmem, hseen, (portalMove platform config loop m).state.db.val, ?_, ?_⟩)
        · rw [hstate]
          exact hadmits
        · rw [hstate]
          exact hguests

/-- No move of the portal writes anything but an admission. Every guest in the tables was there at the
start, was written by another request, or was registered here: by a form of the portal's own page that
accepts the terms and has the code, for the device of the latest live session at the address it came
from, which is not blocked. -/
theorem portal_guests_accounted (platform : Platform) (config : PortalConfig) (db : Database) (now : Int)
    (monotonic : ℚ) (schedule : List (Move PortalForm PortalEvent)) :
    (∀ before m after, schedule = before ++ m :: after →
      Written platform config (portalRun platform config db now monotonic before)
        (portalRun platform config db now monotonic (before ++ [m])) m) ∧
      Accounted platform config db schedule (portalRun platform config db now monotonic schedule) := by
  constructor
  · rintro before m after -
    rw [portalRun_concat]
    exact written_move (portalInv_run platform config db now monotonic before) m
  · induction schedule using List.reverseRecOn with
    | nil => exact fun guest hguest => .inl hguest
    | append_singleton schedule m ih =>
        rw [portalRun_concat]
        exact accounted_move (portalInv_run platform config db now monotonic schedule) ih m

end Naco
