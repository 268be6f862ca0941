import Naco.Accounting
import Naco.Lib.Rows

/-!
# The session table

The table refines a set of pairs, the address of a NAS and the name of a session: a Start or an
Interim-Update puts its pair in, a Stop takes it out, and Accounting-On or -Off takes out all pairs of
the address. Each row is a function of what the NAS reported and of the log row it is joined with, and
writing it again from the same two changes nothing but the time.
-/

namespace Naco

open Py

/-- An accounting request, with the two readings of the clock it makes. -/
structure AcctPacket where
  attrs : Attrs
  now : ClockReading
  later : ClockReading

def AcctPacket.nasIp (packet : AcctPacket) : String :=
  (requestInfo packet.attrs).nasIp

def AcctPacket.sid (packet : AcctPacket) : String :=
  sessionId packet.attrs

/-- The packet comes from the address of the pair and is about its session. -/
def AcctPacket.IsAbout (packet : AcctPacket) (nasIp sid : String) : Prop :=
  packet.nasIp = nasIp ∧ packet.sid = sid ∧ nasIp ≠ "" ∧ sid ≠ ""

/-- A Start or an Interim-Update of the session. -/
def AcctPacket.Opens (packet : AcctPacket) (nasIp sid : String) : Prop :=
  (acctStatus packet.attrs = some .start ∨ acctStatus packet.attrs = some .interimUpdate) ∧
    packet.IsAbout nasIp sid

/-- A Stop of the session, or an Accounting-On or -Off of its NAS. -/
def AcctPacket.Closes (packet : AcctPacket) (nasIp sid : String) : Prop :=
  (acctStatus packet.attrs = some .stop ∧ packet.IsAbout nasIp sid) ∨
    (acctStatus packet.attrs = some .accountingOn ∨ acctStatus packet.attrs = some .accountingOff) ∧
      packet.nasIp = nasIp ∧ nasIp ≠ ""

/-- The pair has received a Start or an Interim-Update, and nothing has closed it since. -/
def Live (packets : List AcctPacket) (nasIp sid : String) : Prop :=
  ∃ before packet after, packets = before ++ packet :: after ∧ packet.Opens nasIp sid ∧
    ∀ next ∈ after, ¬ next.Closes nasIp sid

def AcctPacket.run (db : Database) (packet : AcctPacket) : Except Error Database :=
  accounting db packet.attrs packet.now packet.later

/-- Requests one after the other, each accepted by the database. -/
def runAccounting (db : Database) (packets : List AcctPacket) : Except Error Database :=
  packets.foldlM AcctPacket.run db

/-! ### Live pairs -/

theorem not_live_nil {nasIp sid : String} : ¬ Live [] nasIp sid := by
  rintro ⟨before, packet, after, hsplit, -⟩
  simp at hsplit

theorem live_concat_iff {packets : List AcctPacket} {packet : AcctPacket} {nasIp sid : String} :
    Live (packets ++ [packet]) nasIp sid ↔
      packet.Opens nasIp sid ∨ Live packets nasIp sid ∧ ¬ packet.Closes nasIp sid := by
  constructor
  · rintro ⟨before, found, after, hsplit, hopens, hafter⟩
    rcases List.eq_nil_or_concat after with rfl | ⟨rest, last, rfl⟩
    · obtain ⟨-, hlast⟩ := List.append_inj' hsplit rfl
      cases hlast
      exact .inl hopens
    · rw [List.concat_eq_append] at hsplit hafter
      have hassoc : before ++ found :: (rest ++ [last]) = (before ++ found :: rest) ++ [last] := by simp
      rw [hassoc] at hsplit
      obtain ⟨hpackets, hlast⟩ := List.append_inj' hsplit rfl
      cases hlast
      refine .inr ⟨⟨before, found, rest, hpackets, hopens, ?_⟩, hafter _ (by simp)⟩
      exact fun next hnext => hafter next (List.mem_append_left _ hnext)
  · rintro (hopens | ⟨⟨before, found, after, rfl, hopens, hafter⟩, hopen⟩)
    · exact ⟨packets, packet, [], rfl, hopens, by simp⟩
    · refine ⟨before, found, after ++ [packet], by simp, hopens, ?_⟩
      intro next hnext
      rcases List.mem_append.mp hnext with hnext | hnext
      · exact hafter next hnext
      · rw [List.mem_singleton.mp hnext]
        exact hopen

/-! ### One packet -/

/-- The table has a row of the session. -/
def Tables.HasSession (t : Tables) (nasIp sid : String) : Prop :=
  ∃ row ∈ t.sessions, row.nasIp = nasIp ∧ row.acctSessionId = sid

theorem isOf_iff {row : RadiusSession} {nasIp sid : String} :
    row.isOf nasIp sid = true ↔ row.nasIp = nasIp ∧ row.acctSessionId = sid := by
  simp [RadiusSession.isOf]

/-- An update keeps the key of its row. -/
theorem updateSession_eq_ok {t : Tables} {attrs : Attrs} {now later : ClockReading}
    {session updated : RadiusSession} (h : updateSession t attrs now later session = .ok updated) :
    ∃ context, latestAccept t session.nasIp (orNone (reportSession attrs session).macAddress)
        (canonicalUsername (some (acctUser attrs))) later = .ok context ∧
      updated = countSession attrs now (contextSession attrs context (reportSession attrs session)) := by
  simp only [updateSession, bind_eq_ok_iff] at h
  obtain ⟨context, hcontext, h⟩ := h
  split at h
  · cases h
    exact ⟨context, hcontext, rfl⟩
  · cases h

theorem key_updateSession {t : Tables} {attrs : Attrs} {now later : ClockReading}
    {session updated : RadiusSession} (h : updateSession t attrs now later session = .ok updated) :
    updated.id = session.id ∧ updated.nasIp = session.nasIp ∧
      updated.acctSessionId = session.acctSessionId := by
  obtain ⟨context, -, rfl⟩ := updateSession_eq_ok h
  cases context <;> simp only [countSession, contextSession, reportSession, and_self]

/-- What a Start or an Interim-Update leaves: a row of its session, brought up to date, in the place of
the old one or at the end of the table. -/
theorem saveSession_eq_ok {db db' : Database} {attrs : Attrs} {now later : ClockReading}
    (h : saveSession db attrs now later = .ok db') :
    ∃ session updated, updateSession db.val attrs now later session = .ok updated ∧
      session.isOf (requestInfo attrs).nasIp (sessionId attrs) = true ∧
      ((session ∈ db.val.sessions ∧
          db'.val = { db.val with
            sessions := db.val.sessions.map fun row => if row.id = session.id then updated else row }) ∨
        (∀ row ∈ db.val.sessions, row.isOf (requestInfo attrs).nasIp (sessionId attrs) = false) ∧
          newSession db.val attrs now = .ok session ∧
          db'.val = { db.val with sessions := db.val.sessions ++ [updated] }) := by
  unfold saveSession at h
  dsimp only at h
  split at h
  · next found hfound =>
      obtain ⟨updated, hupdated, h⟩ := bind_eq_ok_iff.mp h
      have hkey := List.find?_some hfound
      exact ⟨found, updated, hupdated, hkey,
        .inl ⟨List.mem_of_find?_eq_some hfound, commit_eq_ok h⟩⟩
  · next hnone =>
      obtain ⟨new, hnew, h⟩ := bind_eq_ok_iff.mp h
      obtain ⟨updated, hupdated, h⟩ := bind_eq_ok_iff.mp h
      have hkey : new.isOf (requestInfo attrs).nasIp (sessionId attrs) = true := by
        simp only [newSession, bind_eq_ok_iff] at hnew
        obtain ⟨started, -, hnew⟩ := hnew
        rw [← Except.ok.inj hnew]
        simp only [RadiusSession.isOf, decide_true, Bool.and_self]
      refine ⟨new, updated, hupdated, hkey, .inr ⟨fun row hrow => ?_, hnew, commit_eq_ok h⟩⟩
      exact Bool.eq_false_iff.mpr (List.find?_eq_none.mp hnone row hrow)

/-- Everything a packet can do. -/
theorem accounting_cases {db db' : Database} {attrs : Attrs} {now later : ClockReading}
    (h : accounting db attrs now later = .ok db') :
    (db' = db ∧ (acctStatus attrs = none ∨ (requestInfo attrs).nasIp = "" ∨
        sessionId attrs = "" ∧ acctStatus attrs ≠ some .accountingOn ∧
          acctStatus attrs ≠ some .accountingOff)) ∨
      ((acctStatus attrs = some .accountingOn ∨ acctStatus attrs = some .accountingOff) ∧
        (requestInfo attrs).nasIp ≠ "" ∧
        db'.val = { db.val with
          sessions := db.val.sessions.filter fun row => row.nasIp ≠ (requestInfo attrs).nasIp }) ∨
      (acctStatus attrs = some .stop ∧ (requestInfo attrs).nasIp ≠ "" ∧ sessionId attrs ≠ "" ∧
        db'.val = { db.val with
          sessions := db.val.sessions.filter fun row =>
            !row.isOf (requestInfo attrs).nasIp (sessionId attrs) }) ∨
      ((acctStatus attrs = some .start ∨ acctStatus attrs = some .interimUpdate) ∧
        (requestInfo attrs).nasIp ≠ "" ∧ sessionId attrs ≠ "" ∧
        saveSession db attrs now later = .ok db') := by
  unfold accounting at h
  dsimp only at h
  split at h
  · next hstatus =>
      cases h
      exact .inl ⟨rfl, .inl hstatus⟩
  · next status hstatus =>
      split at h
      · next hnas =>
          cases h
          exact .inl ⟨rfl, .inr (.inl hnas)⟩
      · next hnas =>
          split at h
          · next hall =>
              refine .inr (.inl ⟨?_, hnas, commit_eq_ok h⟩)
              rw [hstatus]
              simpa using hall
          · next hone =>
              obtain ⟨hon, hoff⟩ := not_or.mp hone
              split at h
              · next hsid =>
                  cases h
                  refine .inl ⟨rfl, .inr (.inr ⟨hsid, ?_, ?_⟩)⟩ <;> rw [hstatus] <;> simpa
              · next hsid =>
                  split at h
                  · next hstop =>
                      exact .inr (.inr (.inl ⟨by rw [hstatus, hstop], hnas, hsid, commit_eq_ok h⟩))
                  · next hopen =>
                      refine .inr (.inr (.inr ⟨?_, hnas, hsid, h⟩))
                      rw [hstatus]
                      cases status <;> simp_all

theorem hasSession_saveSession_iff {db db' : Database} {attrs : Attrs} {now later : ClockReading}
    (h : saveSession db attrs now later = .ok db') {nasIp sid : String} :
    db'.val.HasSession nasIp sid ↔
      ((requestInfo attrs).nasIp = nasIp ∧ sessionId attrs = sid) ∨ db.val.HasSession nasIp sid := by
  obtain ⟨session, updated, hupdated, hkey, hcases⟩ := saveSession_eq_ok h
  obtain ⟨hid, hnasIp, hsid⟩ := key_updateSession hupdated
  obtain ⟨hsessionNas, hsessionSid⟩ := isOf_iff.mp hkey
  rw [hsessionNas] at hnasIp
  rw [hsessionSid] at hsid
  rcases hcases with ⟨hmem, htables⟩ | ⟨-, -, htables⟩
  · rw [htables]
    constructor
    · rintro ⟨row, hrow, hrowNas, hrowSid⟩
      obtain ⟨old, hold, hsame⟩ := List.mem_map.mp hrow
      split at hsame
      · subst hsame
        exact .inl ⟨hnasIp.symm.trans hrowNas, hsid.symm.trans hrowSid⟩
      · subst hsame
        exact .inr ⟨old, hold, hrowNas, hrowSid⟩
    · rintro (⟨rfl, rfl⟩ | ⟨row, hrow, hrowNas, hrowSid⟩)
      · exact ⟨updated, List.mem_map.mpr ⟨session, hmem, if_pos rfl⟩, hnasIp, hsid⟩
      · by_cases hsame : row.id = session.id
        · have hrow : row = session := Rows.eq_of_key db.property.sessionIds hrow hmem hsame
          subst hrow
          refine ⟨updated, List.mem_map.mpr ⟨row, hmem, if_pos rfl⟩, ?_, ?_⟩
          · rw [hnasIp, ← hsessionNas, hrowNas]
          · rw [hsid, ← hsessionSid, hrowSid]
        · exact ⟨row, List.mem_map.mpr ⟨row, hrow, if_neg hsame⟩, hrowNas, hrowSid⟩
  · rw [htables]
    constructor
    · rintro ⟨row, hrow, hrowNas, hrowSid⟩
      rcases List.mem_append.mp hrow with hrow | hrow
      · exact .inr ⟨row, hrow, hrowNas, hrowSid⟩
      · rw [List.mem_singleton.mp hrow] at hrowNas hrowSid
        exact .inl ⟨hnasIp.symm.trans hrowNas, hsid.symm.trans hrowSid⟩
    · rintro (⟨rfl, rfl⟩ | ⟨row, hrow, hrowNas, hrowSid⟩)
      · exact ⟨updated, List.mem_append_right _ (List.mem_singleton_self _), hnasIp, hsid⟩
      · exact ⟨row, List.mem_append_left _ hrow, hrowNas, hrowSid⟩

/-- One packet on the set of pairs. -/
theorem hasSession_run_iff {db db' : Database} {packet : AcctPacket}
    (h : AcctPacket.run db packet = .ok db') {nasIp sid : String} :
    db'.val.HasSession nasIp sid ↔
      packet.Opens nasIp sid ∨ db.val.HasSession nasIp sid ∧ ¬ packet.Closes nasIp sid := by
  unfold AcctPacket.Opens AcctPacket.Closes AcctPacket.IsAbout AcctPacket.nasIp AcctPacket.sid
  rcases accounting_cases h with ⟨rfl, hignored⟩ | ⟨hstatus, hnas, htables⟩ |
    ⟨hstatus, hnas, hsid, htables⟩ | ⟨hstatus, hnas, hsid, hsave⟩
  · -- nothing is opened or closed by a packet that is ignored
    have hopens : ¬ ((acctStatus packet.attrs = some .start ∨
        acctStatus packet.attrs = some .interimUpdate) ∧
          (requestInfo packet.attrs).nasIp = nasIp ∧ sessionId packet.attrs = sid ∧
            nasIp ≠ "" ∧ sid ≠ "") := by
      rintro ⟨hstart, rfl, rfl, hnas, hsid⟩
      rcases hignored with hnone | hempty | ⟨hempty, -⟩
      · simp [hnone] at hstart
      · exact hnas hempty
      · exact hsid hempty
    have hcloses : ¬ ((acctStatus packet.attrs = some .stop ∧
        (requestInfo packet.attrs).nasIp = nasIp ∧ sessionId packet.attrs = sid ∧
          nasIp ≠ "" ∧ sid ≠ "") ∨
        (acctStatus packet.attrs = some .accountingOn ∨
          acctStatus packet.attrs = some .accountingOff) ∧
            (requestInfo packet.attrs).nasIp = nasIp ∧ nasIp ≠ "") := by
      rintro (⟨hstop, rfl, rfl, hnas, hsid⟩ | ⟨hall, rfl, hnas⟩)
      · rcases hignored with hnone | hempty | ⟨hempty, -⟩
        · simp [hnone] at hstop
        · exact hnas hempty
        · exact hsid hempty
      · rcases hignored with hnone | hempty | ⟨-, hon, hoff⟩
        · simp [hnone] at hall
        · exact hnas hempty
        · exact hall.elim hon hoff
    simp only [hopens, hcloses, false_or, not_false_eq_true, and_true]
  · rw [htables]
    have hstart : ¬ (acctStatus packet.attrs = some .start ∨
        acctStatus packet.attrs = some .interimUpdate) := by
      rcases hstatus with hstatus | hstatus <;> simp [hstatus]
    have hstop : acctStatus packet.attrs ≠ some .stop := by
      rcases hstatus with hstatus | hstatus <;> simp [hstatus]
    simp only [Tables.HasSession, List.mem_filter, decide_eq_true_eq, hstart, hstop, hstatus,
      false_and, false_or, true_and]
    constructor
    · rintro ⟨row, ⟨hrow, hother⟩, rfl, rfl⟩
      exact ⟨⟨row, hrow, rfl, rfl⟩, fun hsame => hother hsame.1.symm⟩
    · rintro ⟨⟨row, hrow, rfl, rfl⟩, hother⟩
      refine ⟨row, ⟨hrow, fun hsame => hother ⟨hsame.symm, ?_⟩⟩, rfl, rfl⟩
      rw [hsame]
      exact hnas
  · rw [htables]
    simp only [Tables.HasSession, List.mem_filter, Bool.not_eq_true', Bool.eq_false_iff, ne_eq,
      isOf_iff, hstatus, Option.some.injEq, reduceCtorEq, or_self, false_and, false_or, true_and,
      or_false]
    constructor
    · rintro ⟨row, ⟨hrow, hother⟩, rfl, rfl⟩
      exact ⟨⟨row, hrow, rfl, rfl⟩, fun hsame => hother ⟨hsame.1.symm, hsame.2.1.symm⟩⟩
    · rintro ⟨⟨row, hrow, rfl, rfl⟩, hother⟩
      refine ⟨row, ⟨hrow, fun hsame => hother ⟨hsame.1.symm, hsame.2.symm, ?_, ?_⟩⟩, rfl, rfl⟩
      · rw [hsame.1]
        exact hnas
      · rw [hsame.2]
        exact hsid
  · rw [hasSession_saveSession_iff hsave]
    have hclosed : ¬ ((acctStatus packet.attrs = some .stop ∧
        (requestInfo packet.attrs).nasIp = nasIp ∧ sessionId packet.attrs = sid ∧
          nasIp ≠ "" ∧ sid ≠ "") ∨
        (acctStatus packet.attrs = some .accountingOn ∨
          acctStatus packet.attrs = some .accountingOff) ∧
            (requestInfo packet.attrs).nasIp = nasIp ∧ nasIp ≠ "") := by
      rcases hstatus with hstatus | hstatus <;> simp [hstatus]
    simp only [hclosed, not_false_eq_true, and_true, hstatus, true_and]
    constructor
    · rintro (⟨rfl, rfl⟩ | hold)
      · exact .inl ⟨rfl, rfl, hnas, hsid⟩
      · exact .inr hold
    · rintro (⟨hsameNas, hsameSid, -⟩ | hold)
      · exact .inl ⟨hsameNas, hsameSid⟩
      · exact .inr hold

/-- The rows after a run are those of the live pairs. -/
theorem hasSession_runAccounting_iff {db db' : Database} {packets : List AcctPacket}
    (hempty : db.val.sessions = []) (h : runAccounting db packets = .ok db') (nasIp sid : String) :
    db'.val.HasSession nasIp sid ↔ Live packets nasIp sid := by
  induction packets using List.reverseRecOn generalizing db' with
  | nil =>
      cases h
      refine iff_of_false ?_ not_live_nil
      rintro ⟨row, hrow, -⟩
      rw [hempty] at hrow
      cases hrow
  | append_singleton packets packet ih =>
      rw [runAccounting, List.foldlM_append, bind_eq_ok_iff] at h
      obtain ⟨middle, hmiddle, hlast⟩ := h
      have hrun : AcctPacket.run middle packet = .ok db' := by simpa using hlast
      rw [hasSession_run_iff hrun, ih hmiddle, live_concat_iff]

/-! ### The same packet again -/

@[simp]
theorem orElse_orElse_left (a b : String) : orElse a (orElse a b) = orElse a b := by
  unfold orElse
  split <;> rfl

@[simp]
theorem orElse_orElse_right (a b : String) : orElse (orElse a b) b = orElse a b := by
  unfold orElse
  split <;> simp_all

/-- The row but for the time it was written at. -/
def RadiusSession.untimed (session : RadiusSession) : RadiusSession :=
  { session with updatedAt := 0 }

/-- Reporting the same again changes nothing, whatever context was joined in between. -/
theorem reportSession_again (attrs : Attrs) (context : Option AuthLog) (now : ClockReading)
    (session : RadiusSession) :
    reportSession attrs (countSession attrs now
        (contextSession attrs context (reportSession attrs session))) =
      countSession attrs now (contextSession attrs context (reportSession attrs session)) := by
  cases context with
  | none => simp only [reportSession, countSession, contextSession, orElse_orElse_left]
  | some context =>
      have hssid : ∀ a b c : String, orElse a (orElse (orElse a b) c) = orElse (orElse a b) c := by
        intro a b c
        by_cases ha : a = ""
        · simp [orElse, ha]
        · simp [orElse, ha]
      simp only [reportSession, countSession, contextSession, orElse_orElse_left, hssid]

theorem contextSession_again (attrs : Attrs) (context : Option AuthLog) (now now' : ClockReading)
    (session : RadiusSession) :
    (countSession attrs now' (contextSession attrs context
        (countSession attrs now (contextSession attrs context session)))).untimed =
      (countSession attrs now (contextSession attrs context session)).untimed := by
  have hcount : ∀ (value : Option Int) (old : Int), value.getD (value.getD old) = value.getD old := by
    intro value old
    cases value <;> rfl
  cases context with
  | none => simp only [countSession, contextSession, RadiusSession.untimed, orElse_orElse_right, hcount]
  | some context =>
      simp only [countSession, contextSession, RadiusSession.untimed, orElse_orElse_left,
        orElse_orElse_right, hcount]

theorem macAddress_countSession (attrs : Attrs) (context : Option AuthLog) (now : ClockReading)
    (session : RadiusSession) :
    (countSession attrs now (contextSession attrs context session)).macAddress = session.macAddress := by
  cases context <;> rfl

/-- The lookup depends on the clients, on the log and on what of it is recent. -/
theorem latestAccept_congr {t t' : Tables} {now now' : ClockReading}
    (hclients : t'.nasClients = t.nasClients) (hlogs : t'.authLogs = t.authLogs)
    (hwindow : ∀ row ∈ t.authLogs, recentAccept now' row = recentAccept now row)
    (nasIp : String) (mac : Option String) (username : String) :
    latestAccept t' nasIp mac username now' = latestAccept t nasIp mac username now := by
  have hfind : findNas t' nasIp = findNas t nasIp := by
    unfold findNas
    rw [hclients]
  have hfilter : ∀ nas, (t'.authLogs.filter fun row =>
      sameNas nasIp nas row && recentAccept now' row && sameSubject mac username row) =
      t.authLogs.filter fun row =>
        sameNas nasIp nas row && recentAccept now row && sameSubject mac username row := by
    intro nas
    rw [hlogs]
    exact List.filter_congr fun row hrow => by rw [hwindow row hrow]
  simp only [latestAccept, hfind, hfilter]

theorem updateSession_again {t t' : Tables} {attrs : Attrs} {now later now' later' : ClockReading}
    {session once twice : RadiusSession} (hclients : t'.nasClients = t.nasClients)
    (hlogs : t'.authLogs = t.authLogs)
    (hwindow : ∀ row ∈ t.authLogs, recentAccept later' row = recentAccept later row)
    (honce : updateSession t attrs now later session = .ok once)
    (htwice : updateSession t' attrs now' later' once = .ok twice) : twice.untimed = once.untimed := by
  have hkey := (key_updateSession honce).2.1
  obtain ⟨context, hcontext, rfl⟩ := updateSession_eq_ok honce
  obtain ⟨context', hcontext', rfl⟩ := updateSession_eq_ok htwice
  rw [reportSession_again] at hcontext' ⊢
  rw [macAddress_countSession, hkey, latestAccept_congr hclients hlogs hwindow] at hcontext'
  cases hcontext.symm.trans hcontext'
  exact contextSession_again attrs context now now' _

/-- Only the times at which rows were written differ. -/
def SameButTime (t t' : Tables) : Prop :=
  t'.sessions.map RadiusSession.untimed = t.sessions.map RadiusSession.untimed ∧
    t' = { t with sessions := t'.sessions }

theorem saveSession_again {db once twice : Database} {attrs : Attrs}
    {now later now' later' : ClockReading}
    (hwindow : ∀ row ∈ db.val.authLogs, recentAccept later' row = recentAccept later row)
    (honce : saveSession db attrs now later = .ok once)
    (htwice : saveSession once attrs now' later' = .ok twice) : SameButTime once.val twice.val := by
  obtain ⟨session, updated, hupdated, hkey, hcases⟩ := saveSession_eq_ok honce
  obtain ⟨session', updated', hupdated', hkey', hcases'⟩ := saveSession_eq_ok htwice
  obtain ⟨hid, hnasIp, hsid⟩ := key_updateSession hupdated
  obtain ⟨hsessionNas, hsessionSid⟩ := isOf_iff.mp hkey
  have hmem : updated ∈ once.val.sessions := by
    rcases hcases with ⟨hold, htables⟩ | ⟨-, -, htables⟩
    · rw [htables]
      exact List.mem_map.mpr ⟨session, hold, if_pos rfl⟩
    · rw [htables]
      exact List.mem_append_right _ (List.mem_singleton_self _)
  have htables : once.val.nasClients = db.val.nasClients ∧ once.val.authLogs = db.val.authLogs := by
    rcases hcases with ⟨-, htables⟩ | ⟨-, -, htables⟩ <;> rw [htables] <;> exact ⟨rfl, rfl⟩
  have hkeyUpdated : updated.isOf (requestInfo attrs).nasIp (sessionId attrs) = true :=
    isOf_iff.mpr ⟨hnasIp.trans hsessionNas, hsid.trans hsessionSid⟩
  rcases hcases' with ⟨hold', htables'⟩ | ⟨hnone, -⟩
  · -- the row that is found again is the one just written
    have hsame : session' = updated := by
      refine Rows.eq_of_key once.property.sessionKeys hold' hmem ?_
      obtain ⟨hnas, hname⟩ := isOf_iff.mp hkey'
      obtain ⟨hnas', hname'⟩ := isOf_iff.mp hkeyUpdated
      rw [Prod.mk.injEq]
      exact ⟨hnas.trans hnas'.symm, hname.trans hname'.symm⟩
    subst hsame
    have hagain := updateSession_again htables.1 htables.2 hwindow hupdated hupdated'
    constructor
    · rw [htables', List.map_map]
      refine List.map_congr_left fun row hrow => ?_
      rw [Function.comp_apply]
      split
      · next hrowId => rw [hagain, Rows.eq_of_key once.property.sessionIds hrow hmem hrowId]
      · rfl
    · rw [htables']
  · rw [hnone updated hmem] at hkeyUpdated
    cases hkeyUpdated

/-- A Start or an Interim-Update of a session writes its row. -/
theorem run_of_opens {packet : AcctPacket} {nasIp sid : String} (hopens : packet.Opens nasIp sid)
    (db : Database) :
    AcctPacket.run db packet = saveSession db packet.attrs packet.now packet.later := by
  unfold AcctPacket.Opens AcctPacket.IsAbout AcctPacket.nasIp AcctPacket.sid at hopens
  obtain ⟨hstatus, rfl, rfl, hnas, hsid⟩ := hopens
  unfold AcctPacket.run accounting
  rcases hstatus with hstatus | hstatus <;> simp [hstatus, hnas, hsid]

theorem saveSession_of_opens {packet : AcctPacket} {nasIp sid : String} (hopens : packet.Opens nasIp sid)
    {db db' : Database} (h : AcctPacket.run db packet = .ok db') :
    saveSession db packet.attrs packet.now packet.later = .ok db' := by
  rw [← run_of_opens hopens]
  exact h

/-! ### Runs -/

/-- The packet has no valid source address, no session id where one is needed, or an unknown status. -/
def AcctPacket.Ignored (packet : AcctPacket) : Prop :=
  packet.nasIp = "" ∨ acctStatus packet.attrs = none ∨
    packet.sid = "" ∧ acctStatus packet.attrs ≠ some .accountingOn ∧
      acctStatus packet.attrs ≠ some .accountingOff

theorem run_of_ignored {packet : AcctPacket} (h : packet.Ignored) (db : Database) :
    AcctPacket.run db packet = .ok db := by
  unfold AcctPacket.run accounting
  dsimp only
  split
  · rfl
  · next status hstatus =>
      rcases h with hnas | hnone | ⟨hsid, hon, hoff⟩
      · exact if_pos hnas
      · cases hstatus.symm.trans hnone
      · have hone : ¬ (status = .accountingOn ∨ status = .accountingOff) := by
          rintro (rfl | rfl)
          · exact hon hstatus
          · exact hoff hstatus
        by_cases hnas : (requestInfo packet.attrs).nasIp = ""
        · exact if_pos hnas
        · rw [if_neg hnas, if_neg hone]
          exact if_pos hsid

/-- The table refines the set of live pairs, and a Start or an Interim-Update that is sent again, while
the log rows of the last 24 hours are the same, changes nothing but the time of its row. -/
theorem session_table_refines (start : Database) (hempty : start.val.sessions = [])
    (packets : List AcctPacket) (db : Database) (h : runAccounting start packets = .ok db) :
    (∀ nasIp sid, Live packets nasIp sid →
      ∃! row, row ∈ db.val.sessions ∧ row.nasIp = nasIp ∧ row.acctSessionId = sid) ∧
    (∀ row ∈ db.val.sessions, Live packets row.nasIp row.acctSessionId) ∧
    (∀ packet : AcctPacket, packet.Ignored → AcctPacket.run db packet = .ok db) ∧
    ∀ (packet again : AcctPacket) (once twice : Database), again.attrs = packet.attrs →
      packet.Opens packet.nasIp packet.sid →
      (∀ row ∈ db.val.authLogs, recentAccept again.later row = recentAccept packet.later row) →
      AcctPacket.run db packet = .ok once → AcctPacket.run once again = .ok twice →
        SameButTime once.val twice.val := by
  refine ⟨?_, ?_, fun packet hignored => run_of_ignored hignored db, ?_⟩
  · intro nasIp sid hlive
    obtain ⟨row, hrow, hnas, hsid⟩ := (hasSession_runAccounting_iff hempty h nasIp sid).mpr hlive
    refine ⟨row, ⟨hrow, hnas, hsid⟩, ?_⟩
    rintro other ⟨hother, rfl, rfl⟩
    refine Rows.eq_of_key db.property.sessionKeys hother hrow ?_
    rw [Prod.mk.injEq]
    exact ⟨hnas.symm, hsid.symm⟩
  · intro row hrow
    exact (hasSession_runAccounting_iff hempty h _ _).mp ⟨row, hrow, rfl, rfl⟩
  · intro packet again once twice hattrs hopens hwindow honce htwice
    have hopensAgain : again.Opens packet.nasIp packet.sid := by
      unfold AcctPacket.Opens AcctPacket.IsAbout AcctPacket.nasIp AcctPacket.sid at hopens ⊢
      rw [hattrs]
      exact hopens
    have hsaved := saveSession_of_opens hopensAgain htwice
    rw [hattrs] at hsaved
    exact saveSession_again hwindow (saveSession_of_opens hopens honce) hsaved

/-- The first packet of a station that was let in by its MAC address, and its name for the switch. -/
def macStart (utc : Int) (h : microsPerDay ≤ utc ∧ utc < (representableDays - 1) * microsPerDay) :
    AcctPacket where
  attrs := ⟨[("Acct-Status-Type", ["Start"]), ("NACo-NAS-IP", ["10.0.0.1"]),
    ("Acct-Session-Id", ["0000002A"]), ("User-Name", ["aabbcc000001"]),
    ("Calling-Station-Id", ["AA-BB-CC-00-00-01"])]⟩
  now := ⟨utc, h⟩
  later := ⟨utc, h⟩

/-- The log of the decision. -/
def macAccept : AuthLog where
  id := 1
  timestamp := 63850334400000000
  username := ""
  macAddress := "aa:bb:cc:00:00:01"
  nasIp := "10.0.0.1"
  nasName := "sw1"
  ssid := ""
  authMethod := "MAB"
  result := .accept
  reason := "permitted by policy lan"
  policyName := "lan"
  vlan := some 10
  decisionDigest := "164bd608f184f6322d5e5f5cf2ec838b27c6e1f6109b4aafad3373ef1b821e6d"

def loggedAccept : Database :=
  ⟨{ authLogs := [macAccept] }, by decide⟩

/-- A packet of the switch about a session of the station, so long after the decision. -/
def macPacket (status sid : String) (micros : Nat) (h : micros < 1000000000) : AcctPacket :=
  have hinRange : microsPerDay ≤ 63850334400000000 + (micros : Int) ∧
      63850334400000000 + (micros : Int) < (representableDays - 1) * microsPerDay := by
    unfold representableDays microsPerDay Py.microsPerMinute
    omega
  { attrs := ⟨[("Acct-Status-Type", [status]), ("NACo-NAS-IP", ["10.0.0.1"]), ("Acct-Session-Id", [sid]),
      ("User-Name", ["aabbcc000001"]), ("Calling-Station-Id", ["AA-BB-CC-00-00-01"])]⟩
    now := ⟨63850334400000000 + micros, hinRange⟩
    later := ⟨63850334400000000 + micros, hinRange⟩ }

/-- The Start is sent twice, the switch restarts, and of two further sessions one ends. -/
def restartedSwitch : List AcctPacket :=
  [macPacket "Start" "0000002A" 0 (by decide), macPacket "Start" "0000002A" 5000000 (by decide),
    macPacket "Accounting-On" "" 20000000 (by decide), macPacket "Start" "0000002B" 30000000 (by decide),
    macPacket "Start" "0000002C" 31000000 (by decide),
    macPacket "Interim-Update" "0000002B" 90000000 (by decide),
    macPacket "Stop" "0000002C" 91000000 (by decide)]

instance (packet : AcctPacket) (nasIp sid : String) : Decidable (packet.IsAbout nasIp sid) :=
  inferInstanceAs (Decidable (_ ∧ _))

instance (packet : AcctPacket) (nasIp sid : String) : Decidable (packet.Closes nasIp sid) :=
  inferInstanceAs (Decidable (_ ∨ _))

instance (packet : AcctPacket) (nasIp sid : String) : Decidable (packet.Opens nasIp sid) :=
  inferInstanceAs (Decidable (_ ∧ _))

/-- One session is left, and its Interim-Update changes nothing when it is sent again. -/
theorem session_table_refines_macStart :
    let update := macPacket "Interim-Update" "0000002B" 150000000 (by decide)
    let again := macPacket "Interim-Update" "0000002B" 155000000 (by decide)
    ∃ db once twice, runAccounting loggedAccept restartedSwitch = .ok db ∧
      (∃! row, row ∈ db.val.sessions ∧ row.nasIp = "10.0.0.1" ∧ row.acctSessionId = "0000002B") ∧
      (∀ row ∈ db.val.sessions, Live restartedSwitch row.nasIp row.acctSessionId) ∧
      db.val.sessions.length = 1 ∧
      AcctPacket.run db update = .ok once ∧ AcctPacket.run once again = .ok twice ∧
      SameButTime once.val twice.val := by
  intro update again
  have hruns : (do
      let db ← runAccounting loggedAccept restartedSwitch
      let once ← AcctPacket.run db update
      let twice ← AcctPacket.run once again
      return (db.val.sessions.length, db.val.authLogs)) = .ok (1, [macAccept]) := by
    decide +kernel
  simp only [bind_eq_ok_iff] at hruns
  obtain ⟨db, hdb, once, honce, twice, htwice, hsizes⟩ := hruns
  have hsizes := Except.ok.inj hsizes
  simp only [Prod.mk.injEq] at hsizes
  obtain ⟨hlength, hlogs⟩ := hsizes
  obtain ⟨hone, hlive, -, hagain⟩ := session_table_refines loggedAccept rfl restartedSwitch db hdb
  have hopens : update.Opens update.nasIp update.sid := by decide +kernel
  refine ⟨db, once, twice, hdb, hone _ _ ?_, hlive, hlength, honce, htwice,
    hagain update again once twice rfl hopens ?_ honce htwice⟩
  · exact ⟨restartedSwitch.take 3, macPacket "Start" "0000002B" 30000000 (by decide),
      restartedSwitch.drop 4, rfl, by decide +kernel, by decide +kernel⟩
  · rw [hlogs]
    decide +kernel

/-- The same packet a day after the decision: the log row is out of the window, and the empty name is
replaced by the one the switch reports. -/
theorem start_again_renames :
    ¬ ∀ (start : Database), start.val.sessions = [] → ∀ (packet again : AcctPacket)
        (once twice : Database), again.attrs = packet.attrs → packet.Opens packet.nasIp packet.sid →
      AcctPacket.run start packet = .ok once → AcctPacket.run once again = .ok twice →
        SameButTime once.val twice.val := by
  intro hall
  have hruns : (do
      let once ← AcctPacket.run loggedAccept (macStart 63850334400000000 (by decide))
      let twice ← AcctPacket.run once (macStart 63850420800000000 (by decide))
      return (once.val.sessions.map RadiusSession.username,
        twice.val.sessions.map RadiusSession.username)) = .ok ([""], ["aabbcc000001"]) := by
    decide +kernel
  simp only [bind_eq_ok_iff] at hruns
  obtain ⟨once, honce, twice, htwice, hnames⟩ := hruns
  have hopens : (macStart 63850334400000000 (by decide)).Opens
      (macStart 63850334400000000 (by decide)).nasIp (macStart 63850334400000000 (by decide)).sid :=
    ⟨.inl (by decide +kernel), rfl, rfl, by decide +kernel, by decide +kernel⟩
  have hsame := hall loggedAccept rfl (macStart 63850334400000000 (by decide))
    (macStart 63850420800000000 (by decide)) once twice rfl hopens honce htwice
  have husernames := congrArg (List.map RadiusSession.username) hsame.1
  rw [List.map_map, List.map_map] at husernames
  have hnames' := Except.ok.inj hnames
  rw [Prod.mk.injEq] at hnames'
  rw [show RadiusSession.username ∘ RadiusSession.untimed = RadiusSession.username from rfl,
    hnames'.1, hnames'.2] at husernames
  exact absurd husernames (by decide)

end Naco
