import Naco.Proof.Accounting
import Naco.Proof.Verified
import Mathlib.Logic.Relation

/-!
# Where the context of a session comes from

Re-evaluation compares the digest of a session with a decision for the subject that the session stores,
so the two must belong together. They do: the method, the policy, the VLAN and the digest are always
written together, from one ACCEPT of the log, and the name with them unless the log row has none. Only
MAB is logged without a name, since every other method speaks for a known user.
-/

namespace Naco

open Py

/-- The log row is about the NAS of the session: its address, or the network client that the address
belongs to. -/
def FromNas (t : Tables) (session : RadiusSession) (row : AuthLog) : Prop :=
  row.nasIp = session.nasIp ∨
    ∃ nas, findNas t session.nasIp = .ok (some nas) ∧ nas.isNetwork = true ∧ row.nasName = nas.name

/-- The context of the session is copied from this row. -/
structure CopiedFrom (t : Tables) (session : RadiusSession) (row : AuthLog) : Prop where
  logged : row ∈ t.authLogs
  accepted : row.result = .accept
  fromNas : FromNas t session row
  method : session.authMethod = row.authMethod
  policy : session.policyName = row.policyName
  vlan : session.vlan = row.vlan
  digest : session.decisionDigest = row.decisionDigest
  name : row.authMethod ≠ "MAB" → session.username = row.username

/-- Every session with a decision has its context from one row, and only MAB is accepted without a
name. -/
structure Traced (t : Tables) : Prop where
  sessions : ∀ session ∈ t.sessions, session.decisionDigest ≠ "" → ∃ row, CopiedFrom t session row
  names : ∀ row ∈ t.authLogs, row.result = .accept → row.authMethod ≠ "MAB" → row.username ≠ ""

/-- What can happen: a request is authorized, a packet is accounted for, or something else that leaves
the sessions and the clients alone and logs no ACCEPT. Time passes there, and credentials are checked. -/
inductive ServiceStep (platform : Platform) : World → World → Prop where
  | authorize {world world' : World} {attrs : Attrs} {decision : Decision}
      (h : Naco.authorize platform world attrs = .ok (decision, world')) :
      ServiceStep platform world world'
  | accounting {world : World} {packet : AcctPacket} {db : Database}
      (h : AcctPacket.run world.db packet = .ok db) : ServiceStep platform world { world with db }
  | elsewhere {world world' : World} {rejects : List AuthLog}
      (hsessions : world'.db.val.sessions = world.db.val.sessions)
      (hclients : world'.db.val.nasClients = world.db.val.nasClients)
      (hlogs : world'.db.val.authLogs = world.db.val.authLogs ++ rejects)
      (hrejects : ∀ row ∈ rejects, row.result = .reject) : ServiceStep platform world world'

/-! ### The log grows -/

theorem findNas_congr {t t' : Tables} (h : t'.nasClients = t.nasClients) (ip : String) :
    findNas t' ip = findNas t ip := by
  unfold findNas
  rw [h]

theorem CopiedFrom.mono {t t' : Tables} {session : RadiusSession} {row : AuthLog}
    (h : CopiedFrom t session row) (hclients : t'.nasClients = t.nasClients)
    (hlogs : ∀ row ∈ t.authLogs, row ∈ t'.authLogs) : CopiedFrom t' session row where
  logged := hlogs row h.logged
  accepted := h.accepted
  fromNas := by
    unfold FromNas
    rw [findNas_congr hclients]
    exact h.fromNas
  method := h.method
  policy := h.policy
  vlan := h.vlan
  digest := h.digest
  name := h.name

/-- Rows that are appended to the log change no session. -/
theorem Traced.append {t t' : Tables} (h : Traced t) {rows : List AuthLog}
    (hsessions : t'.sessions = t.sessions) (hclients : t'.nasClients = t.nasClients)
    (hlogs : t'.authLogs = t.authLogs ++ rows)
    (hrows : ∀ row ∈ rows, row.result = .accept → row.authMethod ≠ "MAB" → row.username ≠ "") :
    Traced t' where
  sessions session hsession hdigest := by
    rw [hsessions] at hsession
    obtain ⟨row, hrow⟩ := h.sessions session hsession hdigest
    refine ⟨row, hrow.mono hclients fun row hrow => ?_⟩
    rw [hlogs]
    exact List.mem_append_left _ hrow
  names row hrow := by
    rw [hlogs] at hrow
    rcases List.mem_append.mp hrow with hrow | hrow
    · exact h.names row hrow
    · exact hrows row hrow

theorem Traced.delete {t : Tables} (h : Traced t) (keep : RadiusSession → Bool) :
    Traced { t with sessions := t.sessions.filter keep } where
  sessions session hsession hdigest := by
    obtain ⟨row, hrow⟩ := h.sessions session (List.mem_of_mem_filter hsession) hdigest
    exact ⟨row, hrow.mono rfl fun _ hlogged => hlogged⟩
  names := h.names

/-! ### Authorization -/

theorem tables_seeStation (platform : Platform) (t : Tables) (req : RequestInfo) (username : String)
    (now : Int) :
    (seeStation platform t req username now).2 =
      { t with devices := (seeStation platform t req username now).2.devices } := by
  unfold seeStation
  split
  · rfl
  · simp only [seeDevice]
    split <;> rfl

theorem tables_decideRequest {platform : Platform} {world : World} {attrs : Attrs} {req : RequestInfo}
    {nas : Option NasClient} {username : String} {decision : Decision} {t : Tables}
    (h : decideRequest platform world attrs req nas username = .ok (decision, t)) :
    t = { world.db.val with devices := t.devices } := by
  unfold decideRequest at h
  split at h
  · cases h
    rfl
  · next method nas hgate =>
      dsimp only at h
      cases hdecided : decideSubject platform world req username
          (requestSubject world req username method nas
            (seeStation platform world.db.val req username world.now.utc).1) with
      | error error =>
          rw [hdecided] at h
          cases h
      | ok decided =>
          rw [hdecided] at h
          cases h
          exact tables_seeStation platform world.db.val req username world.now.utc

/-- Every accepted method but MAB speaks for somebody. -/
theorem username_of_decideSubject {platform : Platform} {world : World} {req : RequestInfo}
    {username : String} {subject : Subject} {decision : Decision}
    (h : decideSubject platform world req username subject = .ok decision)
    (haccepted : decision.accepted = true) (hmethod : subject.method ≠ .mab) :
    subject.username ≠ "" := by
  unfold decideSubject at h
  split at h
  · next hrefused =>
      obtain ⟨reason, rfl⟩ := deny_of_subjectContext_eq_error hrefused
      cases h
      cases haccepted
  · next ctx hctx =>
      exact (userRule_eq_none_iff.mp (subjectContext_eq_ok_iff.mp hctx).1 hmethod).1

/-- A call of `authorize` appends one row to the log; an ACCEPT of any method but MAB names a user. -/
theorem authorize_log {platform : Platform} {world world' : World} {attrs : Attrs} {decision : Decision}
    (h : authorize platform world attrs = .ok (decision, world')) :
    ∃ row, world'.db.val.sessions = world.db.val.sessions ∧
      world'.db.val.nasClients = world.db.val.nasClients ∧
      world'.db.val.authLogs = world.db.val.authLogs ++ [row] ∧
      (row.result = .accept → row.authMethod ≠ "MAB" → row.username ≠ "") := by
  unfold authorize at h
  obtain ⟨nas, -, h⟩ := bind_eq_ok_iff.mp h
  obtain ⟨⟨decided, t⟩, hdecided, h⟩ := bind_eq_ok_iff.mp h
  obtain ⟨db, hcommit, h⟩ := bind_eq_ok_iff.mp h
  cases h
  have htables := tables_decideRequest hdecided
  have hdb := commit_eq_ok hcommit
  rw [hdb, logDecision, htables]
  refine ⟨_, rfl, rfl, rfl, ?_⟩
  dsimp only
  intro haccept hmethod
  have haccepted : decision.accepted = true := by
    by_contra hnot
    rw [if_neg hnot] at haccept
    cases haccept
  obtain ⟨subject, hsubject, hname, hdecide⟩ := decideSubject_of_decideRequest hdecided haccepted
  have hmab : subject.method ≠ .mab := by
    intro hmab
    rw [hsubject, hmab] at hmethod
    exact hmethod (by decide)
  have hne := username_of_decideSubject hdecide haccepted hmab
  rw [hname] at hne
  intro hempty
  have hnil := String.toList_eq_nil_iff.mpr hempty
  rw [truncate, String.toList_ofList, List.take_eq_nil_iff] at hnil
  rcases hnil with hzero | hnil
  · cases hzero
  · exact hne (String.toList_eq_nil_iff.mp hnil)

/-! ### Accounting -/

/-- What the lookup finds is an ACCEPT of the session's NAS. -/
theorem latestAccept_eq_some {t : Tables} {nasIp username : String} {mac : Option String}
    {now : ClockReading} {row : AuthLog} (h : latestAccept t nasIp mac username now = .ok (some row)) :
    row ∈ t.authLogs ∧ row.result = .accept ∧
      (row.nasIp = nasIp ∨
        ∃ nas, findNas t nasIp = .ok (some nas) ∧ nas.isNetwork = true ∧ row.nasName = nas.name) := by
  simp only [latestAccept, bind_eq_ok_iff] at h
  obtain ⟨nas, hnas, h⟩ := h
  have hmem := List.argmax_mem (Except.ok.inj h)
  obtain ⟨hrow, hchecks⟩ := List.mem_filter.mp hmem
  rw [Bool.and_eq_true, Bool.and_eq_true] at hchecks
  obtain ⟨⟨hsame, hrecent⟩, -⟩ := hchecks
  have haccept : row.result = .accept := by
    rw [recentAccept, Bool.and_eq_true] at hrecent
    simpa using hrecent.1
  refine ⟨hrow, haccept, ?_⟩
  rw [sameNas, Bool.or_eq_true] at hsame
  rcases hsame with hip | hname
  · exact .inl (by simpa using hip)
  · cases nas with
    | none => cases hname
    | some nas =>
        have hparts : nas.isNetwork = true ∧ row.nasName = nas.name := by simpa using hname
        exact .inr ⟨nas, hnas, hparts⟩

/-- What a report leaves alone. -/
theorem reportSession_context (attrs : Attrs) (session : RadiusSession) :
    (reportSession attrs session).nasIp = session.nasIp ∧
      (reportSession attrs session).username = session.username ∧
      (reportSession attrs session).authMethod = session.authMethod ∧
      (reportSession attrs session).policyName = session.policyName ∧
      (reportSession attrs session).vlan = session.vlan ∧
      (reportSession attrs session).decisionDigest = session.decisionDigest := by
  simp only [reportSession, and_self]

/-- The context is that of the row that was found. -/
theorem copied_of_some {t : Tables} {attrs : Attrs} {now : ClockReading} {session : RadiusSession}
    {row : AuthLog} (hlogged : row ∈ t.authLogs) (haccepted : row.result = .accept)
    (hnas : FromNas t session row) (hname : row.authMethod ≠ "MAB" → row.username ≠ "") :
    CopiedFrom t (countSession attrs now (contextSession attrs (some row) session)) row where
  logged := hlogged
  accepted := haccepted
  fromNas := hnas
  method := rfl
  policy := rfl
  vlan := rfl
  digest := rfl
  name hmethod := if_neg (hname hmethod)

/-- Without a row the old context stays, and the name with it. -/
theorem copied_of_none {t : Tables} {attrs : Attrs} {now : ClockReading} {session : RadiusSession}
    {row : AuthLog} (h : CopiedFrom t session row) (hname : row.authMethod ≠ "MAB" → row.username ≠ "") :
    CopiedFrom t (countSession attrs now (contextSession attrs none session)) row where
  logged := h.logged
  accepted := h.accepted
  fromNas := h.fromNas
  method := h.method
  policy := h.policy
  vlan := h.vlan
  digest := h.digest
  name hmethod := by
    have hsame := h.name hmethod
    have hne : session.username ≠ "" := by
      rw [hsame]
      exact hname hmethod
    exact (if_neg hne).trans hsame

theorem CopiedFrom.report {t : Tables} {session : RadiusSession} {row : AuthLog}
    (h : CopiedFrom t session row) (attrs : Attrs) : CopiedFrom t (reportSession attrs session) row := by
  obtain ⟨hnasIp, hname, hmethod, hpolicy, hvlan, hdigest⟩ := reportSession_context attrs session
  exact {
    logged := h.logged
    accepted := h.accepted
    fromNas := by
      unfold FromNas
      rw [hnasIp]
      exact h.fromNas
    method := hmethod.trans h.method
    policy := hpolicy.trans h.policy
    vlan := hvlan.trans h.vlan
    digest := hdigest.trans h.digest
    name := fun hother => hname.trans (h.name hother) }

/-- An updated session has its context from one row if the session had. -/
theorem copied_updateSession {t : Tables} (ht : Traced t) {attrs : Attrs} {now later : ClockReading}
    {session updated : RadiusSession} (h : updateSession t attrs now later session = .ok updated)
    (hsession : session.decisionDigest ≠ "" → ∃ row, CopiedFrom t session row)
    (hdigest : updated.decisionDigest ≠ "") : ∃ row, CopiedFrom t updated row := by
  obtain ⟨context, hcontext, rfl⟩ := updateSession_eq_ok h
  obtain ⟨hnasIp, -, -, -, -, hsame⟩ := reportSession_context attrs session
  cases context with
  | some row =>
      obtain ⟨hrow, haccept, hnas⟩ := latestAccept_eq_some hcontext
      have hfrom : FromNas t (reportSession attrs session) row := by
        unfold FromNas
        rw [hnasIp]
        exact hnas
      exact ⟨row, copied_of_some hrow haccept hfrom (ht.names row hrow haccept)⟩
  | none =>
      have hkept : (reportSession attrs session).decisionDigest ≠ "" := hdigest
      rw [hsame] at hkept
      obtain ⟨row, hrow⟩ := hsession hkept
      exact ⟨row, copied_of_none (hrow.report attrs) (ht.names row hrow.logged hrow.accepted)⟩

theorem traced_saveSession {db db' : Database} (ht : Traced db.val) {attrs : Attrs}
    {now later : ClockReading} (h : saveSession db attrs now later = .ok db') : Traced db'.val := by
  obtain ⟨session, updated, hupdated, -, hcases⟩ := saveSession_eq_ok h
  have hold : session.decisionDigest ≠ "" → ∃ row, CopiedFrom db.val session row := by
    rcases hcases with ⟨hmem, -⟩ | ⟨-, hnew, -⟩
    · exact ht.sessions session hmem
    · intro hdigest
      simp only [newSession, bind_eq_ok_iff] at hnew
      obtain ⟨started, -, hnew⟩ := hnew
      rw [← Except.ok.inj hnew] at hdigest
      exact absurd rfl hdigest
  have hupdate := copied_updateSession ht hupdated hold
  have htables : db'.val.nasClients = db.val.nasClients ∧ db'.val.authLogs = db.val.authLogs := by
    rcases hcases with ⟨-, htables⟩ | ⟨-, -, htables⟩ <;> rw [htables] <;> exact ⟨rfl, rfl⟩
  have hrows : ∀ row ∈ db'.val.sessions, row = updated ∨ row ∈ db.val.sessions := by
    intro row hrow
    rcases hcases with ⟨-, htables⟩ | ⟨-, -, htables⟩
    · rw [htables] at hrow
      obtain ⟨found, hfound, rfl⟩ := List.mem_map.mp hrow
      split
      · exact .inl rfl
      · exact .inr hfound
    · rw [htables] at hrow
      rcases List.mem_append.mp hrow with hrow | hrow
      · exact .inr hrow
      · exact .inl (List.mem_singleton.mp hrow)
  refine ⟨fun row hrow hdigest => ?_, fun row hrow => ht.names row (htables.2 ▸ hrow)⟩
  have hcopied : ∃ source, CopiedFrom db.val row source := by
    rcases hrows row hrow with rfl | hrow
    · exact hupdate hdigest
    · exact ht.sessions row hrow hdigest
  obtain ⟨source, hsource⟩ := hcopied
  exact ⟨source, hsource.mono htables.1 fun row hrow => by rw [htables.2]; exact hrow⟩

/-- One step keeps every context traced. -/
theorem traced_step {platform : Platform} {world world' : World} (h : ServiceStep platform world world')
    (ht : Traced world.db.val) : Traced world'.db.val := by
  cases h with
  | authorize h =>
      obtain ⟨row, hsessions, hclients, hlogs, hname⟩ := authorize_log h
      refine ht.append hsessions hclients hlogs ?_
      simpa using hname
  | @accounting packet db h =>
      change Traced db.val
      rcases accounting_cases h with ⟨rfl, -⟩ | ⟨-, -, htables⟩ | ⟨-, -, -, htables⟩ |
        ⟨-, -, -, hsave⟩
      · exact ht
      · rw [htables]
        exact ht.delete _
      · rw [htables]
        exact ht.delete _
      · exact traced_saveSession ht hsave
  | elsewhere hsessions hclients hlogs hrejects =>
      refine ht.append hsessions hclients hlogs fun row hrow haccept => ?_
      cases (hrejects row hrow).symm.trans haccept

/-- In every run from an empty table and an empty log, the context of a session is copied from one
ACCEPT of its NAS. -/
theorem session_context_from_one_accept (platform : Platform) (start world : World)
    (hsessions : start.db.val.sessions = []) (hlogs : start.db.val.authLogs = [])
    (hrun : Relation.ReflTransGen (ServiceStep platform) start world) :
    ∀ session ∈ world.db.val.sessions, session.decisionDigest ≠ "" →
      ∃ row ∈ world.db.val.authLogs, row.result = .accept ∧ FromNas world.db.val session row ∧
        session.authMethod = row.authMethod ∧ session.policyName = row.policyName ∧
        session.vlan = row.vlan ∧ session.decisionDigest = row.decisionDigest ∧
        (row.authMethod ≠ "MAB" → session.username = row.username) := by
  have htraced : Traced world.db.val := by
    induction hrun with
    | refl => exact ⟨by simp [hsessions], by simp [hlogs]⟩
    | tail _ hstep ih => exact traced_step hstep ih
  intro session hsession hdigest
  obtain ⟨row, hrow⟩ := htraced.sessions session hsession hdigest
  exact ⟨row, hrow.logged, hrow.accepted, hrow.fromNas, hrow.method, hrow.policy, hrow.vlan,
    hrow.digest, hrow.name⟩

theorem session_context_from_one_accept_phone :
    ∃ world, Relation.ReflTransGen (ServiceStep officePlatform) officeWorld world ∧
      ∃ session ∈ world.db.val.sessions, session.decisionDigest ≠ "" ∧
        ∃ row ∈ world.db.val.authLogs, row.result = .accept ∧ session.vlan = row.vlan := by
  have hrun : (do
      let answer ← authorize officePlatform officeWorld phoneRequest
      let db ← AcctPacket.run answer.2.db (macStart 63850334400000000 (by decide))
      return db.val.sessions.map RadiusSession.decisionDigest) =
        .ok ["164bd608f184f6322d5e5f5cf2ec838b27c6e1f6109b4aafad3373ef1b821e6d"] := by
    decide +kernel
  simp only [bind_eq_ok_iff] at hrun
  obtain ⟨⟨decision, world⟩, hauthorize, db, hstart, hdigests⟩ := hrun
  have hsteps : Relation.ReflTransGen (ServiceStep officePlatform) officeWorld { world with db } :=
    .tail (.single (.authorize hauthorize)) (.accounting hstart)
  have hmem : "164bd608f184f6322d5e5f5cf2ec838b27c6e1f6109b4aafad3373ef1b821e6d" ∈
      db.val.sessions.map RadiusSession.decisionDigest := by
    rw [Except.ok.inj hdigests]
    exact List.mem_singleton_self _
  obtain ⟨session, hsession, hdigest⟩ := List.mem_map.mp hmem
  have hne : session.decisionDigest ≠ "" := by
    rw [hdigest]
    decide
  obtain ⟨row, hrow, haccept, -, -, -, hvlan, -⟩ := session_context_from_one_accept officePlatform
    officeWorld { world with db } rfl rfl hsteps session hsession hne
  exact ⟨_, hsteps, session, hsession, hne, row, hrow, haccept, hvlan⟩

end Naco
