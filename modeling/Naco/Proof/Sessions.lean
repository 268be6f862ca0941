import Naco.Proof.Unseen
import Naco.Reevaluate

/-!
# What re-evaluation decides on

`reevaluate` loads the users, devices and guests of all its sessions at once. Row by row that is a
lookup in the tables: the subject it makes of a session is `storedSubject`, whatever other sessions
there are. A run over the sessions puts on its list exactly those whose decision has changed.
-/

namespace Naco

open Py

/-- The user that re-evaluation finds for a session of that name. -/
def sessionUser (t : Tables) (name : String) : Option UserInfo :=
  if name = "" then none
  else (loadUser t name).map fun found => { found.1 with deviceAdminAttributes := [] }

/-- The group that re-evaluation finds for a session. -/
def sessionGroup (t : Tables) (name : String) : Option String :=
  (sessionUser t name).bind (·.groupName)

/-- The subject of a session, looked up in the tables. -/
def storedSubject (t : Tables) (session : RadiusSession) (method : AuthMethod) (nas : NasClient)
    (now : ClockReading) : Subject where
  method
  username := session.username
  user := sessionUser t session.username
  mac := orNone session.macAddress
  device := (orNone session.macAddress).bind (knownDevice t)
  isGuest := (orNone session.macAddress).any fun mac => guestActive t mac now.utc
  nasName := nas.name
  nasIp := session.nasIp
  ssid := orNone session.ssid
  now := now.toDatetime

section Load

variable {t : Tables} {sessions : List RadiusSession} {session : RadiusSession}

theorem sessionSubject_of_loadWorld (ht : t.Consistent) (hmem : session ∈ sessions)
    {loaded : LoadedWorld} {now : ClockReading} (hload : loadWorld t sessions now.utc = .ok loaded)
    (method : AuthMethod) (nas : NasClient) :
    sessionSubject loaded session method nas now = storedSubject t session method nas now := by
  unfold loadWorld at hload
  dsimp only at hload
  cases hnas : nasDirectory t with
  | error error =>
      rw [hnas] at hload
      cases hload
  | ok directory =>
      rw [hnas] at hload
      cases hload
      unfold sessionSubject storedSubject
      simp only [Subject.mk.injEq, true_and, and_true]
      refine ⟨?_, ?_, ?_⟩
      · by_cases hname : session.username = ""
        · rw [Dict.get?_ofRows_filter_of_not_mem ht.usernames (by simp [hname]), sessionUser, if_pos hname]
        · rw [Dict.get?_ofRows_filter ht.usernames, sessionUser, if_neg hname, loadUser, Option.map_map]
          · rfl
          · simpa [hname] using ⟨session, hmem, rfl⟩
      · by_cases hmac : session.macAddress = ""
        · simp [orNone, hmac]
        · simp only [orNone, hmac, if_false, Option.bind_some]
          rw [Dict.get?_ofRows_filter ht.deviceMacs, knownDevice, Option.map_id_fun, id_eq]
          simpa [hmac] using ⟨session, hmem, rfl⟩
      · by_cases hmac : session.macAddress = ""
        · simp [orNone, hmac]
        · have hasked : session.macAddress ∈ (sessions.map (·.macAddress)).filter (· ≠ "") := by
            simpa [hmac] using ⟨session, hmem, rfl⟩
          simp only [orNone, hmac, if_false, Option.any_some, guestActive]
          rw [Bool.eq_iff_iff]
          simp only [decide_eq_true_eq, List.mem_map, List.mem_filter, List.any_eq_true,
            Bool.and_eq_true]
          constructor
          · rintro ⟨guest, ⟨hguest, ⟨-, hrevoked⟩, hexpires⟩, hsame⟩
            exact ⟨guest, hguest, ⟨hsame, hrevoked⟩, hexpires⟩
          · rintro ⟨guest, hguest, ⟨hsame, hrevoked⟩, hexpires⟩
            refine ⟨guest, ⟨hguest, ⟨?_, hrevoked⟩, hexpires⟩, hsame⟩
            rw [hsame]
            simpa using hasked

theorem loadWorld_nas {loaded : LoadedWorld} {now : Int}
    (hload : loadWorld t sessions now = .ok loaded) : nasDirectory t = .ok loaded.nas := by
  unfold loadWorld at hload
  dsimp only at hload
  cases hnas : nasDirectory t with
  | error error =>
      rw [hnas] at hload
      cases hload
  | ok directory =>
      rw [hnas] at hload
      cases hload
      rfl

theorem returns_loadWorld {directory : NasDirectory} (hnas : nasDirectory t = .ok directory)
    (sessions : List RadiusSession) (now : Int) : Returns (loadWorld t sessions now) := by
  unfold loadWorld
  rw [hnas]
  exact ⟨_, rfl⟩

end Load

/-! ### A run over the sessions -/

section Run

variable {platform : Platform} {policies : List CompiledPolicy} {loaded : LoadedWorld}
  {now : ClockReading}

end Run

/-! ### The decision for a session -/

/-- The answer that `reevaluate` computes for a session. -/
def reevaluatedAnswer (platform : Platform) (t : Tables) (now : ClockReading)
    (session : RadiusSession) : Except Error (Option Answer) :=
  match loadPolicies t with
  | .error _ => .ok none
  | .ok policies => do
      let loaded ← loadWorld t (digestSessions t) now.utc
      let found ← sessionDecision platform policies loaded now session
      return found.map fun found => found.1.answer

/-- What re-evaluation decides for a session, read off the tables. -/
def storedDecision (platform : Platform) (t : Tables) (policies : List CompiledPolicy)
    (now : ClockReading) (session : RadiusSession) (method : AuthMethod) (nas : NasClient) :
    Except Error Decision :=
  match subjectContext (storedSubject t session method nas now) with
  | .error decision => .ok decision
  | .ok ctx => Naco.decide policies ctx platform.timezone

section

variable {platform : Platform} {t : Tables} {policies : List CompiledPolicy} {now : ClockReading}
  {session : RadiusSession} {method : AuthMethod} {nas : NasClient} {loaded : LoadedWorld}

theorem sessionDecision_eq (ht : t.Consistent) {sessions : List RadiusSession}
    (hmem : session ∈ sessions) (hload : loadWorld t sessions now.utc = .ok loaded)
    (hmethod : session.authMethod = method.name) (hnas : loaded.nas.find session.nasIp = some nas) :
    sessionDecision platform policies loaded now session =
      (storedDecision platform t policies now session method nas).map fun decision =>
        some (decision, nas) := by
  unfold sessionDecision storedDecision
  rw [AuthMethod.ofName_eq_some.mpr hmethod.symm, hnas]
  dsimp only
  rw [sessionSubject_of_loadWorld ht hmem hload]
  cases subjectContext (storedSubject t session method nas now) with
  | error decision => rfl
  | ok ctx =>
      dsimp only
      cases Naco.decide policies ctx platform.timezone <;> rfl

theorem reevaluatedAnswer_eq (ht : t.Consistent) (hmem : session ∈ digestSessions t)
    (hpolicies : loadPolicies t = .ok policies) {directory : NasDirectory}
    (hdirectory : nasDirectory t = .ok directory) (hmethod : session.authMethod = method.name)
    (hnas : directory.find session.nasIp = some nas) :
    reevaluatedAnswer platform t now session =
      (storedDecision platform t policies now session method nas).map
        (fun decision => some decision.answer) := by
  obtain ⟨loaded, hload⟩ := returns_loadWorld hdirectory (digestSessions t) now.utc
  have hfound : loaded.nas.find session.nasIp = some nas := by
    cases hdirectory.symm.trans (loadWorld_nas hload)
    exact hnas
  unfold reevaluatedAnswer
  rw [hpolicies]
  dsimp only
  rw [hload]
  simp only [bind, Except.bind]
  rw [sessionDecision_eq ht hmem hload hmethod hfound]
  cases storedDecision platform t policies now session method nas <;> rfl

end

end Naco
