import Naco.Proof.Identity
import Naco.Proof.Netutils
import Naco.Proof.Service

/-!
# Password methods need NACo's own check

Over every schedule of `authenticate` and `authorize` calls: a password method is accepted only after
NACo itself accepted the password, for the same user from the same NAS and station, and the latest such
call is at most two minutes old. The invariant is that each remembered verification carries the time of
the latest call with its key; an eviction only forgets.
-/

namespace Naco

open Py

abbrev AaaReturn := Return World AaaRequest AaaAnswer

/-! ### What a request names -/

/-- A station: by its MAC address, or by the first 64 characters of what is none. -/
inductive Station where
  | mac (address : String)
  | named (text : String)
  deriving DecidableEq, Repr

def stationOf (attrs : Attrs) : Station :=
  match requestMac attrs with
  | some mac => .mac mac
  | none => .named (truncate 64 ((attrs.get "Calling-Station-Id").getD ""))

/-- What is no MAC address is none after it is cut to 64 characters: a normal form is shorter. -/
theorem normalizeMac_truncate {text mac : String} (htext : normalizeMac (some text) = none)
    {value : Option String} (hmac : normalizeMac value = some mac) : truncate 64 text ≠ mac := by
  obtain ⟨hself, hlength, -⟩ := normalizeMac_of_eq_some hmac
  intro heq
  have hshort : text.toList.length ≤ 64 := by
    have hcut : (truncate 64 text).toList.length = 17 := by rw [heq, hlength]
    rw [truncate, String.toList_ofList, List.length_take] at hcut
    omega
  have hwhole : truncate 64 text = text := by
    rw [truncate, List.take_of_length_le hshort, String.ofList_toList]
  rw [hwhole] at heq
  rw [heq, hself] at htext
  cases htext

theorem normalizeMac_getD (value : Option String) :
    normalizeMac (some (value.getD "")) = normalizeMac value := by
  cases value <;> rfl

theorem stationOf_eq_iff {a b : Attrs} :
    stationOf a = stationOf b ↔ requestStation a = requestStation b := by
  have hnone : ∀ attrs, requestMac attrs = none →
      normalizeMac (some ((attrs.get "Calling-Station-Id").getD "")) = none := by
    intro attrs h
    rw [normalizeMac_getD]
    exact h
  unfold stationOf requestStation
  cases ha : requestMac a with
  | none =>
      cases hb : requestMac b with
      | none => simp
      | some mac =>
          have hne := normalizeMac_truncate (hnone a ha) (hb : normalizeMac _ = some mac)
          simpa using hne
  | some mac =>
      cases hb : requestMac b with
      | none =>
          have hne := normalizeMac_truncate (hnone b hb) (ha : normalizeMac _ = some mac)
          simpa using hne.symm
      | some mac' => simp

theorem requestNasIp_eq_iff {a b : Attrs} :
    requestNasIp a = requestNasIp b ↔
      parseIp (a.get "NACo-NAS-IP") = parseIp (b.get "NACo-NAS-IP") := by
  unfold requestNasIp
  cases ha : parseIp (a.get "NACo-NAS-IP") with
  | none =>
      cases hb : parseIp (b.get "NACo-NAS-IP") with
      | none => simp
      | some ip => simpa using (ne_empty_of_parseIp hb).symm
  | some ip =>
      cases hb : parseIp (b.get "NACo-NAS-IP") with
      | none => simpa using ne_empty_of_parseIp ha
      | some ip' => simp

/-- The call is an `authenticate` that returned `True`, for a User-Name with this canonical form and
from the NAS and the station of `attrs`. -/
def vouches (name : String) (attrs : Attrs) (call : AaaReturn) : Bool :=
  match call.request with
  | .authenticate _ earlier =>
      call.result.verifies &&
        (canonicalUsername (earlier.get "User-Name") = name &&
          parseIp (earlier.get "NACo-NAS-IP") = parseIp (attrs.get "NACo-NAS-IP") &&
          stationOf earlier = stationOf attrs)
  | .authorize _ => false

/-- The call is an `authenticate` that returned `True` under this key. -/
def verifiesKey (key : VerifiedKey) (call : AaaReturn) : Bool :=
  match call.request with
  | .authenticate _ earlier =>
      call.result.verifies &&
        verifiedKey (canonicalUsername (earlier.get "User-Name")) (requestInfo earlier) = key
  | .authorize _ => false

theorem vouches_eq (name : String) (attrs : Attrs) :
    vouches name attrs = verifiesKey (verifiedKey name (requestInfo attrs)) := by
  funext call
  unfold vouches verifiesKey
  split
  · simp only [verifiedKey_requestInfo, Prod.mk.injEq, requestNasIp_eq_iff, ← stationOf_eq_iff,
      Bool.decide_and, Bool.and_assoc]
  · rfl

/-! ### What a call may do -/

/-- A step that remembers nothing. -/
def KeepsVerified (world world' : World) : Prop :=
  world'.verified = world.verified ∧ world'.monotonic = world.monotonic

/-- How a call may end. Only an `authenticate` that returns `True` remembers; an accepted password
method was verified recently. -/
def Ends (request : AaaRequest) (_ : List World) (world : World) (answer : AaaAnswer)
    (world' : World) : Prop :=
  match request with
  | .authenticate _ attrs =>
      let name := canonicalUsername (attrs.get "User-Name")
      world'.verified =
        if answer.verifies = true ∧ name ≠ "" then
          rememberVerified world.verified (verifiedKey name (requestInfo attrs)) world.monotonic
        else world.verified
  | .authorize attrs =>
      world'.verified = world.verified ∧
        (answer.accepts = true → ∀ method, (requestInfo attrs).method = some method →
          method ∈ passwordMethods →
          recentlyVerified world.verified (verifiedKey (identity attrs method) (requestInfo attrs))
            world.monotonic = true)

theorem ends_of_keepsVerified {request : AaaRequest} {seen : List World} {world world' last : World}
    {answer : AaaAnswer} (hstep : KeepsVerified world world')
    (hend : Ends request (world :: seen) world' answer last) : Ends request seen world answer last := by
  obtain ⟨hverified, hmonotonic⟩ := hstep
  cases request with
  | authenticate directory attrs =>
      simp only [Ends, hverified, hmonotonic] at hend ⊢
      exact hend
  | authorize attrs =>
      simp only [Ends, hverified, hmonotonic] at hend ⊢
      exact hend

theorem within_withGuesses {α : Type} (f : GuessGuard → ℚ → α × GuessGuard) :
    (withGuesses f).Within KeepsVerified fun _ => True :=
  Coroutine.within_atomic (fun _ => ⟨rfl, rfl⟩) fun _ => trivial

theorem within_zoom_db {α : Type} (c : Coroutine Database α) :
    (c.zoom World.db fun world db => { world with db }).Within KeepsVerified fun _ => True :=
  (Coroutine.within_true c).zoom fun _ _ _ => ⟨rfl, rfl⟩

theorem conforms_rejectCredentials {platform : Platform} {req : RequestInfo}
    {method username reason : String} {directory : Directory} {attrs : Attrs} {seen : List World} :
    (rejectCredentials platform req method username reason).Conforms KeepsVerified
      (fun seen world result world' =>
        Ends (.authenticate directory attrs) seen world (.authenticated result) world') seen := by
  refine Coroutine.conforms_atomic fun world => ?_
  cases logRejection platform world.db req method username reason world.now.utc <;> rfl

theorem conforms_settleCredentials {platform : Platform} {directory : Directory} {attrs : Attrs}
    {result : IdentityResult} (seen : List World) :
    (settleCredentials platform (loginInfo attrs) result).Conforms KeepsVerified
      (fun seen world result world' =>
        Ends (.authenticate directory attrs) seen world (.authenticated result) world') seen := by
  unfold settleCredentials
  split
  · refine Coroutine.conforms_atomic fun world => ?_
    have hname : canonicalUsername (some ((attrs.get "User-Name").getD "")) =
        canonicalUsername (attrs.get "User-Name") := by
      cases attrs.get "User-Name" <;> rfl
    simp only [acceptCredentials, loginInfo, hname, Ends, AaaAnswer.verifies, true_and, ite_not]
  · refine Coroutine.Within.bind (within_withGuesses _) ?_ (fun failed _ seen => ?_) seen
    · exact ends_of_keepsVerified
    cases failed with
    | error error => exact Coroutine.conforms_done_iff.mpr fun world => rfl
    | ok _ => exact conforms_rejectCredentials

theorem conforms_authenticate (platform : Platform) (creds : Credentials) (directory : Directory)
    (attrs : Attrs) (seen : List World) :
    (authenticate platform creds directory attrs).Conforms KeepsVerified
      (fun seen world result world' =>
        Ends (.authenticate directory attrs) seen world (.authenticated result) world') seen := by
  unfold authenticate
  refine Coroutine.Within.bind (within_withGuesses _) ?_ (fun wait _ seen => ?_) seen
  · exact ends_of_keepsVerified
  split
  · exact conforms_rejectCredentials
  · refine Coroutine.Within.bind (within_zoom_db _) ?_ (fun result _ seen => ?_) seen
    · exact ends_of_keepsVerified
    · exact conforms_settleCredentials seen

theorem recentlyVerified_of_decideSubject {platform : Platform} {world : World} {req : RequestInfo}
    {username : String} {subject : Subject} {decision : Decision}
    (h : decideSubject platform world req username subject = .ok decision)
    (haccepted : decision.accepted = true) (hmethod : subject.method ∈ passwordMethods) :
    recentlyVerified world.verified (verifiedKey username req) world.monotonic = true := by
  unfold decideSubject at h
  split at h
  · next hrefused =>
      obtain ⟨reason, rfl⟩ := deny_of_subjectContext_eq_error hrefused
      cases h
      cases haccepted
  · split at h
    · cases h
      cases haccepted
    · next hverified => simpa [hmethod] using hverified

/-- Only a method and a NAS that are known get past the gate. -/
theorem decideSubject_of_decideRequest {platform : Platform} {world : World} {attrs : Attrs}
    {nas : Option NasClient} {username : String} {decision : Decision} {t : Tables}
    (h : decideRequest platform world attrs (requestInfo attrs) nas username = .ok (decision, t))
    (haccepted : decision.accepted = true) :
    ∃ subject, (requestInfo attrs).method = some subject.method ∧ subject.username = username ∧
      decideSubject platform world (requestInfo attrs) username subject = .ok decision := by
  unfold decideRequest at h
  split at h
  · next hrefused =>
      obtain ⟨reason, rfl⟩ := deny_of_requestGate_eq_error hrefused
      cases h
      cases haccepted
  · next method nas hgate =>
      let subject := requestSubject world (requestInfo attrs) username method nas
        (seeStation platform world.db.val (requestInfo attrs) username world.now.utc).1
      refine ⟨subject, (requestGate_eq_ok_iff.mp hgate).1, rfl, ?_⟩
      change (decideSubject platform world (requestInfo attrs) username subject).map _ = _ at h
      cases hdecided : decideSubject platform world (requestInfo attrs) username subject with
      | error error =>
          rw [hdecided] at h
          cases h
      | ok decided =>
          rw [hdecided] at h
          cases h
          rfl

theorem authorize_of_eq_ok {platform : Platform} {world world' : World} {attrs : Attrs}
    {decision : Decision} (h : authorize platform world attrs = .ok (decision, world')) :
    world'.verified = world.verified ∧ ∃ nas t,
      decideRequest platform world attrs (requestInfo attrs) nas
        (authorizedName attrs (requestInfo attrs)) = .ok (decision, t) := by
  unfold authorize at h
  obtain ⟨nas, -, h⟩ := bind_eq_ok_iff.mp h
  obtain ⟨⟨decided, t⟩, hdecided, h⟩ := bind_eq_ok_iff.mp h
  obtain ⟨db, -, h⟩ := bind_eq_ok_iff.mp h
  cases h
  exact ⟨rfl, nas, t, hdecided⟩

theorem conforms_authorize (platform : Platform) (attrs : Attrs) (seen : List World) :
    (Coroutine.atomic (authorizeStep platform attrs)).Conforms KeepsVerified
      (fun seen world result world' =>
        Ends (.authorize attrs) seen world (.authorized result) world') seen := by
  refine Coroutine.conforms_atomic fun world => ?_
  unfold authorizeStep
  cases hresult : authorize platform world attrs with
  | error error => exact ⟨rfl, fun h => by cases h⟩
  | ok answer =>
      obtain ⟨decision, world'⟩ := answer
      obtain ⟨hkeeps, nas, t, hdecided⟩ := authorize_of_eq_ok hresult
      refine ⟨hkeeps, fun haccepted method hmethod hpassword => ?_⟩
      obtain ⟨subject, hsubject, -, hdecide⟩ := decideSubject_of_decideRequest hdecided haccepted
      obtain rfl : subject.method = method := Option.some.inj (hsubject.symm.trans hmethod)
      have hmab : subject.method ≠ .mab := by
        intro hmab
        rw [hmab] at hpassword
        exact absurd hpassword (by decide)
      rw [authorizedName_eq hmethod, if_neg hmab] at hdecide
      exact recentlyVerified_of_decideSubject hdecide haccepted hpassword

theorem conforms_body (platform : Platform) (creds : Credentials) (request : AaaRequest) :
    (request.body platform creds).Conforms KeepsVerified (Ends request) [] := by
  cases request with
  | authenticate directory attrs =>
      exact (conforms_authenticate platform creds directory attrs []).map
  | authorize attrs => exact (conforms_authorize platform attrs []).map

/-! ### The invariant -/

theorem get?_of_get?_evict {verified : Dict VerifiedKey ℚ} {key : VerifiedKey} {at_ : ℚ}
    (h : (evict verified).get? key = some at_) : verified.get? key = some at_ := by
  unfold evict at h
  generalize verified.size - maxVerified = count at h
  induction count with
  | zero => exact h
  | succ count ih => exact ih (Dict.get?_of_get?_popFirst h)

theorem get?_rememberVerified {verified : Dict VerifiedKey ℚ} {key other : VerifiedKey}
    {monotonic at_ : ℚ} (h : (rememberVerified verified key monotonic).get? other = some at_) :
    (if other = key then some monotonic else verified.get? other) = some at_ := by
  have hset := get?_of_get?_evict h
  rwa [Dict.get?_moveToEnd, Dict.get?_set] at hset

/-- The remembered verifications carry the times of the latest calls, and the accepted calls were
covered by such a verification. -/
structure Recorded (loop : Loop World AaaRequest AaaAnswer) : Prop where
  latest : ∀ key at_, loop.state.verified.get? key = some at_ → key.1 ≠ "" ∧
    ∃ call, loop.returned.find? (verifiesKey key) = some call ∧
      call.moment.state.monotonic = at_
  covered : ∀ newer call older, loop.returned = newer ++ call :: older →
    ∀ attrs method, call.request = .authorize attrs → call.result.accepts = true →
      (requestInfo attrs).method = some method → method ∈ passwordMethods →
      ∃ last, older.find? (verifiesKey (verifiedKey (identity attrs method) (requestInfo attrs))) =
          some last ∧
        call.moment.state.monotonic - last.moment.state.monotonic ≤ verifiedSeconds

/-- A return that remembers nothing under a key keeps its entry. -/
theorem Recorded.latest_cons {loop : Loop World AaaRequest AaaAnswer} (h : Recorded loop)
    {key : VerifiedKey} {at_ : ℚ} (hget : loop.state.verified.get? key = some at_)
    {call : AaaReturn} (hcall : verifiesKey key call = false) :
    key.1 ≠ "" ∧ ∃ found, (call :: loop.returned).find? (verifiesKey key) = some found ∧
      found.moment.state.monotonic = at_ := by
  obtain ⟨hname, found, hfound, hat⟩ := h.latest key at_ hget
  exact ⟨hname, found, by rw [List.find?_cons_of_neg (by simp [hcall]), hfound], hat⟩

theorem Recorded.latest_finish {loop : Loop World AaaRequest AaaAnswer} (h : Recorded loop)
    {index : Nat} {call : Call World AaaRequest AaaAnswer} {world : World} {answer : AaaAnswer}
    (hend : Ends call.request (call.seen.map (·.state)) loop.state answer world)
    {key : VerifiedKey} {at_ : ℚ} (hget : world.verified.get? key = some at_) :
    key.1 ≠ "" ∧
      ∃ found, (loop.finish index call world answer).returned.find? (verifiesKey key) = some found ∧
        found.moment.state.monotonic = at_ := by
  obtain ⟨request, seen, rest⟩ := call
  cases request with
  | authorize attrs =>
      rw [hend.1] at hget
      exact h.latest_cons hget rfl
  | authenticate directory attrs =>
      simp only [Ends] at hend
      have hcall : ∀ key, verifiesKey key ⟨.authenticate directory attrs, answer, loop.now, seen⟩ =
          (answer.verifies &&
            verifiedKey (canonicalUsername (attrs.get "User-Name")) (requestInfo attrs) = key) :=
        fun _ => rfl
      generalize canonicalUsername (attrs.get "User-Name") = name at hend hcall
      split at hend
      · next hremembers =>
          obtain ⟨hverifies, hname⟩ := hremembers
          rw [hend] at hget
          have hkey := get?_rememberVerified hget
          split at hkey
          · next hsame =>
              subst hsame
              refine ⟨hname, _, List.find?_cons_of_pos ?_, Option.some.inj hkey⟩
              simp [hcall, hverifies]
          · next hother => exact h.latest_cons hkey (by simp [hcall, Ne.symm hother])
      · next hforgets =>
          rw [hend] at hget
          refine h.latest_cons hget ?_
          by_contra hverifies
          rw [hcall, Bool.not_eq_false, Bool.and_eq_true, decide_eq_true_eq] at hverifies
          obtain ⟨hverifies, rfl⟩ := hverifies
          exact hforgets ⟨hverifies, (h.latest _ at_ hget).1⟩

theorem Recorded.covered_finish {loop : Loop World AaaRequest AaaAnswer} (h : Recorded loop)
    {call : Call World AaaRequest AaaAnswer} {world : World} {answer : AaaAnswer}
    (hend : Ends call.request (call.seen.map (·.state)) loop.state answer world) {attrs : Attrs}
    {method : AuthMethod} (hrequest : call.request = .authorize attrs)
    (haccepts : answer.accepts = true) (hmethod : (requestInfo attrs).method = some method)
    (hpassword : method ∈ passwordMethods) :
    ∃ last, loop.returned.find?
        (verifiesKey (verifiedKey (identity attrs method) (requestInfo attrs))) = some last ∧
      loop.state.monotonic - last.moment.state.monotonic ≤ verifiedSeconds := by
  rw [hrequest] at hend
  obtain ⟨at_, hget, hrecent⟩ := recentlyVerified_iff.mp (hend.2 haccepts method hmethod hpassword)
  obtain ⟨-, last, hlast, rfl⟩ := h.latest _ _ hget
  exact ⟨last, hlast, hrecent⟩

theorem recorded_of_progress {platform : Platform} {creds : Credentials}
    {loop loop' : Loop World AaaRequest AaaAnswer} (h : Recorded loop)
    (hprogress : Loop.Progress (AaaRequest.body platform creds) AaaEvent.react
      (fun _ => KeepsVerified) Ends loop loop') : Recorded loop' := by
  cases hprogress with
  | idle => exact h
  | outside event => cases event <;> exact ⟨h.latest, h.covered⟩
  | called request => exact ⟨h.latest, h.covered⟩
  | paused rest hcall hstep =>
      refine ⟨fun key at_ hget => h.latest key at_ ?_, h.covered⟩
      rw [← hstep.1]
      exact hget
  | returned hcall hend =>
      refine ⟨fun key at_ hget => h.latest_finish hend hget, ?_⟩
      intro newer ended older hsplit attrs method hrequest haccepts hmethod hpassword
      cases newer with
      | nil =>
          obtain ⟨rfl, rfl⟩ := List.cons.inj hsplit
          exact h.covered_finish hend hrequest haccepts hmethod hpassword
      | cons first newer =>
          exact h.covered newer ended older (List.cons.inj hsplit).2 attrs method hrequest haccepts
            hmethod hpassword

/-! ### The main result -/

/-- In every run of the service, an accepted PAP, EAP-TTLS or PEAP request comes after an
`authenticate` call that returned `True` for the same user, NAS and station, and the latest such call
is at most 120 s old. `older` are the calls that returned before, the latest first. -/
theorem accepted_recently_verified (platform : Platform) (creds : Credentials) (db : Database)
    (now : ClockReading) (monotonic : ℚ) (schedule : List (Move AaaRequest AaaEvent))
    {newer older : List AaaReturn} {call : AaaReturn}
    (hcall : (Loop.run (AaaRequest.body platform creds) AaaEvent.react
      { state := World.start db now monotonic } schedule).returned = newer ++ call :: older)
    {attrs : Attrs} {method : AuthMethod} (hrequest : call.request = .authorize attrs)
    (haccepts : call.result.accepts = true)
    (hmethod : attrs.get "NACo-Auth-Method" = some method.name)
    (hpassword : method = .pap ∨ method = .eapTtls ∨ method = .peap) :
    ∃ last, older.find? (vouches (identity attrs method) attrs) = some last ∧
      call.moment.state.monotonic - last.moment.state.monotonic ≤ 120 := by
  have hconforming : Loop.Conforming (fun _ => KeepsVerified) Ends
      { state := World.start db now monotonic } := by
    simp [Loop.Conforming]
  have hstart : Recorded { state := World.start db now monotonic } :=
    ⟨by simp [World.start], by simp⟩
  have hrecorded := Loop.run_invariant (conforms_body platform creds)
    (fun _ _ h hprogress => recorded_of_progress h hprogress) hconforming hstart schedule
  rw [vouches_eq]
  refine hrecorded.covered newer call older hcall attrs method hrequest haccepts
    (requestInfo_method_eq_some_iff.mpr hmethod) ?_
  rcases hpassword with rfl | rfl | rfl <;> decide

/-! Alice signs in over EAP-TTLS: her password is checked, and a minute later her tunnel is
authorized. -/

def aliceDb : Database :=
  ⟨{ users := [{ id := 1, username := "alice", passwordHash := some aliceHash }]
     nasClients := [accessSwitch]
     policies := [anyoneToTen] }, by decide +kernel⟩

def alicePassword : Attrs where
  values := [("NACo-Auth-Method", ["EAP-TTLS"]), ("NACo-NAS-IP", ["10.0.0.1"]),
    ("Calling-Station-Id", ["AA-BB-CC-00-00-01"]), ("User-Name", ["CORP\\Alice"]),
    ("User-Password", ["correct horse"])]

def aliceTunnel : Attrs where
  values := [("NACo-Auth-Method", ["EAP-TTLS"]), ("NACo-NAS-IP", ["10.0.0.1"]),
    ("Calling-Station-Id", ["aabb.cc00.0001"]), ("User-Name", ["anonymous"]),
    ("NACo-Inner-Identity", ["alice"])]

def aliceSchedule : List (Move AaaRequest AaaEvent) :=
  [.call (.authenticate (fun _ _ => .ok none) alicePassword), .resume 0, .resume 0, .resume 0,
    .resume 0, .outside (.clock officeWorld.now ⟨60, by decide⟩), .call (.authorize aliceTunnel), .resume 0]

def aliceRun : Loop World AaaRequest AaaAnswer :=
  Loop.run (AaaRequest.body officePlatform aliceCredentials) AaaEvent.react
    { state := World.start aliceDb officeWorld.now 0 } aliceSchedule

def AaaRequest.authorized : AaaRequest → Option Attrs
  | .authorize attrs => some attrs
  | .authenticate _ _ => none

theorem accepted_recently_verified_alice :
    ∃ call older, aliceRun.returned = call :: older ∧ call.request = .authorize aliceTunnel ∧
      call.result.accepts = true ∧
      ∃ last, older.find? (vouches "alice" aliceTunnel) = some last ∧
        call.moment.state.monotonic - last.moment.state.monotonic ≤ 120 := by
  have hreturned : (aliceRun.returned.map fun call =>
      (call.request.authorized, call.result.accepts)) = [(some aliceTunnel, true), (none, false)] := by
    decide +kernel
  obtain ⟨call, older, hcall, hanswer, -⟩ := List.map_eq_cons_iff.mp hreturned
  obtain ⟨hauthorized, haccepts⟩ := Prod.mk.inj hanswer
  have hrequest : call.request = .authorize aliceTunnel := by
    cases hcase : call.request with
    | authorize attrs =>
        rw [hcase] at hauthorized
        cases hauthorized
        rfl
    | authenticate directory attrs =>
        rw [hcase] at hauthorized
        cases hauthorized
  refine ⟨call, older, hcall, hrequest, haccepts, ?_⟩
  have hname : identity aliceTunnel .eapTtls = "alice" := by decide +kernel
  rw [← hname]
  have hsplit : aliceRun.returned = [] ++ call :: older := hcall
  exact accepted_recently_verified officePlatform aliceCredentials aliceDb officeWorld.now 0
    aliceSchedule hsplit hrequest haccepts (by decide +kernel) (by simp)

end Naco
