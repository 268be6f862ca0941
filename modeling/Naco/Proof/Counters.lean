import Naco.Proof.Accounting

/-!
# Counters

A NAS reports the octets of a session as a 64-bit count in two halves, and the column holds signed
integers of 64 bits. A count that has its highest bit is refused when the row is written, and nothing
of the packet is stored.
-/

namespace Naco

open Py

instance (packet : AcctPacket) (nasIp sid : String) : Decidable (packet.Opens nasIp sid) :=
  inferInstanceAs (Decidable ((_ ∨ _) ∧ _ ∧ _ ∧ _ ∧ _))

/-- The counters of the packet are unsigned integers of 32 bits. -/
def AcctPacket.CountersInRange (packet : AcctPacket) : Prop :=
  ∀ name ∈ ["Acct-Input-Octets", "Acct-Output-Octets", "Acct-Input-Gigawords",
      "Acct-Output-Gigawords", "Acct-Session-Time"],
    ∀ value ∈ packet.attrs.int name, 0 ≤ value ∧ value < 2 ^ 32

instance (packet : AcctPacket) : Decidable packet.CountersInRange :=
  inferInstanceAs (Decidable (∀ name ∈ _, _))

/-- The counters of the row are integers that SQLite holds. -/
def RadiusSession.Storable (session : RadiusSession) : Prop :=
  isStorable session.inputOctets ∧ isStorable session.outputOctets ∧ isStorable session.sessionTime

/-- The packet is stored with its counters as they are. -/
def AcctPacket.Stored (db : Database) (packet : AcctPacket) : Prop :=
  ∃ db', AcctPacket.run db packet = .ok db' ∧
    ∃ row ∈ db'.val.sessions, row.isOf packet.nasIp packet.sid ∧ row.Storable ∧
      (∀ low, packet.attrs.int "Acct-Input-Octets" = some low →
        row.inputOctets = (packet.attrs.int "Acct-Input-Gigawords").getD 0 * 2 ^ 32 + low) ∧
      (∀ low, packet.attrs.int "Acct-Output-Octets" = some low →
        row.outputOctets = (packet.attrs.int "Acct-Output-Gigawords").getD 0 * 2 ^ 32 + low) ∧
      ∀ time, packet.attrs.int "Acct-Session-Time" = some time → row.sessionTime = time

/-- The highest bit of the gigawords is clear, where octets are reported with them. -/
def Fits (attrs : Attrs) (base giga : String) : Prop :=
  (attrs.int base).isSome → (attrs.int giga).getD 0 < 2 ^ 31

/-! ### One counter -/

theorem octets_eq_some {attrs : Attrs} {base giga : String} {low : Int} (h : attrs.int base = some low) :
    octets attrs base giga = some ((attrs.int giga).getD 0 * 2 ^ 32 + low) := by
  rw [octets, h, Option.map_some]

theorem isStorable_iff {value : Int} : isStorable value ↔ -2 ^ 63 ≤ value ∧ value < 2 ^ 63 := by
  simp [isStorable]

/-- A count of two halves fits when its upper half has no highest bit. -/
theorem isStorable_octets_iff {attrs : Attrs} {base giga : String} {old : Int}
    (hold : isStorable old)
    (hbase : ∀ value ∈ attrs.int base, 0 ≤ value ∧ value < 2 ^ 32)
    (hgiga : ∀ value ∈ attrs.int giga, 0 ≤ value ∧ value < 2 ^ 32) :
    isStorable ((octets attrs base giga).getD old) ↔ Fits attrs base giga := by
  unfold Fits
  cases hlow : attrs.int base with
  | none => simpa [octets, hlow] using hold
  | some low =>
      obtain ⟨hlow0, hlow32⟩ := hbase low hlow
      have hhigh : 0 ≤ (attrs.int giga).getD 0 := by
        cases hvalue : attrs.int giga with
        | none => exact le_refl _
        | some value => exact (hgiga value hvalue).1
      rw [octets_eq_some hlow, Option.getD_some, isStorable_iff, Option.isSome_some]
      constructor
      · rintro ⟨-, hlt⟩ -
        omega
      · intro hlt
        have := hlt rfl
        omega

theorem isStorable_sessionTime {attrs : Attrs} {old : Int} (hold : isStorable old)
    (htime : ∀ value ∈ attrs.int "Acct-Session-Time", 0 ≤ value ∧ value < 2 ^ 32) :
    isStorable ((attrs.int "Acct-Session-Time").getD old) := by
  cases hvalue : attrs.int "Acct-Session-Time" with
  | none => exact hold
  | some value =>
      obtain ⟨hnonneg, hlt⟩ := htime value hvalue
      rw [Option.getD_some, isStorable_iff]
      omega

/-! ### One row -/

theorem returns_latestAccept_iff {t : Tables} {nasIp : String} {mac : Option String}
    {username : String} {now : ClockReading} :
    Returns (latestAccept t nasIp mac username now) ↔ Returns (findNas t nasIp) := by
  unfold latestAccept
  cases findNas t nasIp <;> simp [Returns, bind, Except.bind, pure, Except.pure]

/-- Only the packet's own counters replace those of the row. -/
theorem counters_updated (attrs : Attrs) (now : ClockReading) (context : Option AuthLog)
    (session : RadiusSession) {updated : RadiusSession}
    (h : updated = countSession attrs now (contextSession attrs context (reportSession attrs session))) :
    updated.inputOctets =
        (octets attrs "Acct-Input-Octets" "Acct-Input-Gigawords").getD session.inputOctets ∧
      updated.outputOctets =
        (octets attrs "Acct-Output-Octets" "Acct-Output-Gigawords").getD session.outputOctets ∧
      updated.sessionTime = (attrs.int "Acct-Session-Time").getD session.sessionTime := by
  subst h
  cases context <;> simp only [countSession, contextSession, reportSession, and_self]

/-- An update is refused for a network entry that is none, or for a counter that does not fit. -/
theorem returns_updateSession_iff {t : Tables} {attrs : Attrs} {now later : ClockReading}
    {session : RadiusSession} :
    Returns (updateSession t attrs now later session) ↔
      Returns (findNas t session.nasIp) ∧
        isStorable ((octets attrs "Acct-Input-Octets" "Acct-Input-Gigawords").getD
          session.inputOctets) ∧
        isStorable ((octets attrs "Acct-Output-Octets" "Acct-Output-Gigawords").getD
          session.outputOctets) ∧
        isStorable ((attrs.int "Acct-Session-Time").getD session.sessionTime) := by
  have hnas : (reportSession attrs session).nasIp = session.nasIp := by simp only [reportSession]
  have hlatest := @returns_latestAccept_iff t session.nasIp
    (orNone (reportSession attrs session).macAddress) (canonicalUsername (some (acctUser attrs))) later
  rw [← hlatest]
  simp only [updateSession, hnas]
  cases latestAccept t session.nasIp (orNone (reportSession attrs session).macAddress)
      (canonicalUsername (some (acctUser attrs))) later with
  | error error => simp [Returns, bind, Except.bind]
  | ok context =>
      obtain ⟨hinput, houtput, htime⟩ := counters_updated attrs now context session rfl
      simp only [bind, Except.bind, hinput, houtput, htime]
      split <;> simp_all [Returns, pure, Except.pure]

/-- The row of the update has the counters of the packet, exactly. -/
theorem storable_updateSession {t : Tables} {attrs : Attrs} {now later : ClockReading}
    {session updated : RadiusSession} (h : updateSession t attrs now later session = .ok updated) :
    updated.Storable := by
  obtain ⟨context, -, hupdated⟩ := updateSession_eq_ok h
  obtain ⟨hinput, houtput, htime⟩ := counters_updated attrs now context session hupdated
  obtain ⟨-, hstorable⟩ := returns_updateSession_iff.mp ⟨updated, h⟩
  rw [RadiusSession.Storable, hinput, houtput, htime]
  exact hstorable

/-! ### The table -/

theorem consistent_replace {t : Tables} (ht : t.Consistent) {found session : RadiusSession}
    (hfound : found ∈ t.sessions) (hid : session.id = found.id) (hnas : session.nasIp = found.nasIp)
    (hsid : session.acctSessionId = found.acctSessionId) :
    ({ t with sessions := t.sessions.map fun row => if row.id = found.id then session else row } :
      Tables).Consistent := by
  have hsame : ∀ row ∈ t.sessions, row.id = found.id → row = found :=
    fun row hrow hrowId => Rows.eq_of_key ht.sessionIds hrow hfound hrowId
  refine { ht with sessionIds := ?_, sessionKeys := ?_ }
  · rw [Rows.map_replace]
    · exact ht.sessionIds
    · intro row hrow
      split
      · next hrowId => rw [hid, hrowId]
      · rfl
  · rw [Rows.map_replace]
    · exact ht.sessionKeys
    · intro row hrow
      split
      · next hrowId => rw [hnas, hsid, hsame row hrow hrowId]
      · rfl

theorem consistent_append {t : Tables} (ht : t.Consistent) {session : RadiusSession}
    (hid : session.id = nextId (t.sessions.map (·.id)))
    (hnew : ∀ row ∈ t.sessions, row.isOf session.nasIp session.acctSessionId = false) :
    ({ t with sessions := t.sessions ++ [session] } : Tables).Consistent := by
  refine { ht with sessionIds := ?_, sessionKeys := ?_ }
  · rw [List.map_append, List.map_singleton, hid]
    exact nodup_concat_nextId ht.sessionIds
  · refine Rows.nodup_concat ht.sessionKeys ?_
    intro row hrow hkey
    rw [Prod.mk.injEq] at hkey
    exact absurd (isOf_iff.mpr hkey) (Bool.eq_false_iff.mp (hnew row hrow))

/-- The row of a known session is brought up to date. -/
theorem returns_saveSession_of_found {db : Database} {attrs : Attrs} {now later : ClockReading}
    {found : RadiusSession}
    (hfind : db.val.sessions.find? (fun row => row.isOf (requestInfo attrs).nasIp (sessionId attrs)) =
      some found) :
    Returns (saveSession db attrs now later) ↔ Returns (updateSession db.val attrs now later found) := by
  unfold saveSession
  dsimp only
  rw [hfind]
  constructor
  · rintro ⟨db', h⟩
    obtain ⟨updated, hupdated, -⟩ := bind_eq_ok_iff.mp h
    exact ⟨updated, hupdated⟩
  · rintro ⟨updated, hupdated⟩
    obtain ⟨hid, hnas, hsid⟩ := key_updateSession hupdated
    have hconsistent := consistent_replace db.property (List.mem_of_find?_eq_some hfind) hid hnas hsid
    exact ⟨_, bind_eq_ok_iff.mpr ⟨updated, hupdated, commit_of_consistent hconsistent⟩⟩

/-- A new row has the key of its session, and counts nothing yet. -/
theorem newSession_spec {t : Tables} {attrs : Attrs} {now : ClockReading} {new : RadiusSession}
    (h : newSession t attrs now = .ok new) :
    new.id = nextId (t.sessions.map (·.id)) ∧ new.nasIp = (requestInfo attrs).nasIp ∧
      new.acctSessionId = sessionId attrs ∧ new.Storable := by
  simp only [newSession, bind_eq_ok_iff] at h
  obtain ⟨started, -, hnew⟩ := h
  have hzero : isStorable 0 := by decide
  rw [← Except.ok.inj hnew]
  simp only [RadiusSession.Storable, hzero, and_self]

theorem secondsDelta_eq_ok_iff {seconds delta : Int} :
    secondsDelta seconds = .ok delta ↔
      (-999999999 ≤ seconds / 86400 ∧ seconds / 86400 ≤ 999999999) ∧ seconds * 1000000 = delta := by
  unfold secondsDelta
  dsimp only
  by_cases hint : seconds / 86400 < -2 ^ 31 ∨ 2 ^ 31 ≤ seconds / 86400
  · rw [if_pos hint]
    exact iff_of_false nofun fun h => by omega
  · rw [if_neg hint]
    by_cases hdays : seconds / 86400 < -999999999 ∨ 999999999 < seconds / 86400
    · rw [if_pos hdays]
      exact iff_of_false nofun fun h => by omega
    · rw [if_neg hdays, Except.ok.injEq]
      exact (and_iff_right ⟨by omega, by omega⟩).symm

/-- A new session needs a time it started at. -/
theorem returns_newSession_iff {t : Tables} {attrs : Attrs} {now : ClockReading} :
    Returns (newSession t attrs now) ↔
      Representable (now.utc - (attrs.int "Acct-Session-Time").getD 0 * 1000000) := by
  have hnow := now.inRange
  unfold representableDays microsPerDay Py.microsPerMinute at hnow
  constructor
  · rintro ⟨new, hnew⟩
    simp only [newSession, startedAt, bind_eq_ok_iff, secondsDelta_eq_ok_iff] at hnew
    obtain ⟨started, ⟨delta, ⟨-, rfl⟩, hstarted⟩, -⟩ := hnew
    by_contra hnot
    rw [if_neg hnot] at hstarted
    cases hstarted
  · intro hstarted
    -- a delta that raises would lead out of the calendar
    have hdays : -999999999 ≤ (attrs.int "Acct-Session-Time").getD 0 / 86400 ∧
        (attrs.int "Acct-Session-Time").getD 0 / 86400 ≤ 999999999 := by
      unfold Representable representableDays microsPerDay Py.microsPerMinute at hstarted
      omega
    have hok : startedAt attrs now =
        .ok (now.utc - (attrs.int "Acct-Session-Time").getD 0 * 1000000) :=
      bind_eq_ok_iff.mpr ⟨_, secondsDelta_eq_ok_iff.mpr ⟨hdays, rfl⟩, if_pos hstarted⟩
    exact ⟨_, bind_eq_ok_iff.mpr ⟨_, hok, rfl⟩⟩

theorem returns_saveSession_of_new {db : Database} {attrs : Attrs} {now later : ClockReading}
    (hfind : db.val.sessions.find? (fun row => row.isOf (requestInfo attrs).nasIp (sessionId attrs)) =
      none) :
    Returns (saveSession db attrs now later) ↔
      ∃ new, newSession db.val attrs now = .ok new ∧
        Returns (updateSession db.val attrs now later new) := by
  unfold saveSession
  dsimp only
  rw [hfind]
  constructor
  · rintro ⟨db', h⟩
    obtain ⟨new, hnew, h⟩ := bind_eq_ok_iff.mp h
    obtain ⟨updated, hupdated, -⟩ := bind_eq_ok_iff.mp h
    exact ⟨new, hnew, updated, hupdated⟩
  · rintro ⟨new, hnew, updated, hupdated⟩
    obtain ⟨hid, hnas, hsid⟩ := key_updateSession hupdated
    obtain ⟨hnewId, hnewNas, hnewSid, -⟩ := newSession_spec hnew
    have hrows : ∀ row ∈ db.val.sessions, row.isOf updated.nasIp updated.acctSessionId = false := by
      intro row hrow
      rw [hnas, hsid, hnewNas, hnewSid]
      exact Bool.eq_false_iff.mpr (List.find?_eq_none.mp hfind row hrow)
    have hconsistent := consistent_append db.property (hid.trans hnewId) hrows
    exact ⟨_, bind_eq_ok_iff.mpr ⟨new, hnew,
      bind_eq_ok_iff.mpr ⟨updated, hupdated, commit_of_consistent hconsistent⟩⟩⟩

theorem hasSession_iff_find? {t : Tables} {nasIp sid : String} :
    t.HasSession nasIp sid ↔ t.sessions.find? (fun row => row.isOf nasIp sid) ≠ none := by
  simp [Tables.HasSession, RadiusSession.isOf]

/-- When a Start or an Interim-Update is written. -/
theorem returns_saveSession_iff {db : Database} (hrows : ∀ row ∈ db.val.sessions, row.Storable)
    {packet : AcctPacket} (hcounters : packet.CountersInRange) :
    Returns (saveSession db packet.attrs packet.now packet.later) ↔
      Returns (findNas db.val packet.nasIp) ∧
        (db.val.HasSession packet.nasIp packet.sid ∨
          Representable (packet.now.utc -
            (packet.attrs.int "Acct-Session-Time").getD 0 * 1000000)) ∧
        Fits packet.attrs "Acct-Input-Octets" "Acct-Input-Gigawords" ∧
        Fits packet.attrs "Acct-Output-Octets" "Acct-Output-Gigawords" := by
  have hupdate : ∀ session : RadiusSession, session.Storable → session.nasIp = packet.nasIp →
      (Returns (updateSession db.val packet.attrs packet.now packet.later session) ↔
        Returns (findNas db.val packet.nasIp) ∧
          Fits packet.attrs "Acct-Input-Octets" "Acct-Input-Gigawords" ∧
          Fits packet.attrs "Acct-Output-Octets" "Acct-Output-Gigawords") := by
    rintro session ⟨hinput, houtput, htime⟩ hnas
    rw [returns_updateSession_iff, hnas,
      isStorable_octets_iff hinput (hcounters _ (by decide)) (hcounters _ (by decide)),
      isStorable_octets_iff houtput (hcounters _ (by decide)) (hcounters _ (by decide)),
      iff_true_intro (isStorable_sessionTime htime (hcounters _ (by decide))), and_true]
  rw [hasSession_iff_find?]
  cases hfind : db.val.sessions.find? fun row => row.isOf packet.nasIp packet.sid with
  | some found =>
      have hkey : found.isOf packet.nasIp packet.sid := by
        have := List.find?_some hfind
        exact this
      rw [returns_saveSession_of_found hfind, hupdate found
        (hrows found (List.mem_of_find?_eq_some hfind)) (isOf_iff.mp hkey).1]
      simp
  | none =>
      rw [returns_saveSession_of_new hfind, ← returns_newSession_iff]
      constructor
      · rintro ⟨new, hnew, hreturns⟩
        obtain ⟨-, hnas, -, hstorable⟩ := newSession_spec hnew
        obtain ⟨hclient, hfits⟩ := (hupdate new hstorable hnas).mp hreturns
        exact ⟨hclient, .inr ⟨new, hnew⟩, hfits⟩
      · rintro ⟨hclient, habsurd | ⟨new, hnew⟩, hfits⟩
        · exact absurd rfl habsurd
        · obtain ⟨-, hnas, -, hstorable⟩ := newSession_spec hnew
          exact ⟨new, hnew, (hupdate new hstorable hnas).mpr ⟨hclient, hfits⟩⟩

theorem storable_saveSession {db db' : Database} {attrs : Attrs} {now later : ClockReading}
    (hrows : ∀ row ∈ db.val.sessions, row.Storable) (h : saveSession db attrs now later = .ok db') :
    ∀ row ∈ db'.val.sessions, row.Storable := by
  obtain ⟨session, updated, hupdated, -, hcases⟩ := saveSession_eq_ok h
  have hstorable := storable_updateSession hupdated
  intro row hrow
  rcases hcases with ⟨-, htables⟩ | ⟨-, -, htables⟩
  · rw [htables] at hrow
    obtain ⟨old, hold, rfl⟩ := List.mem_map.mp hrow
    split
    · exact hstorable
    · exact hrows old hold
  · rw [htables] at hrow
    rcases List.mem_append.mp hrow with hold | hnew
    · exact hrows row hold
    · rw [List.mem_singleton.mp hnew]
      exact hstorable

/-- No packet leaves a counter that SQLite does not hold. -/
theorem storable_run {db db' : Database} {packet : AcctPacket}
    (hrows : ∀ row ∈ db.val.sessions, row.Storable) (h : AcctPacket.run db packet = .ok db') :
    ∀ row ∈ db'.val.sessions, row.Storable := by
  rcases accounting_cases h with ⟨rfl, -⟩ | ⟨-, -, htables⟩ | ⟨-, -, -, htables⟩ | ⟨-, -, -, hsave⟩
  · exact hrows
  · rw [htables]
    exact fun row hrow => hrows row (List.mem_of_mem_filter hrow)
  · rw [htables]
    exact fun row hrow => hrows row (List.mem_of_mem_filter hrow)
  · exact storable_saveSession hrows hsave

theorem storable_runAccounting {db db' : Database} {packets : List AcctPacket}
    (hrows : ∀ row ∈ db.val.sessions, row.Storable) (h : runAccounting db packets = .ok db') :
    ∀ row ∈ db'.val.sessions, row.Storable := by
  induction packets generalizing db with
  | nil =>
      cases h
      exact hrows
  | cons packet packets ih =>
      obtain ⟨middle, hmiddle, hrest⟩ := bind_eq_ok_iff.mp h
      exact ih (storable_run hrows hmiddle) hrest

/-- What is written has the counters of the packet as they are. -/
theorem stored_iff_returns {db : Database} {packet : AcctPacket}
    (hopens : packet.Opens packet.nasIp packet.sid) :
    packet.Stored db ↔ Returns (saveSession db packet.attrs packet.now packet.later) := by
  rw [AcctPacket.Stored, run_of_opens hopens]
  constructor
  · rintro ⟨db', hsave, -⟩
    exact ⟨db', hsave⟩
  · rintro ⟨db', hsave⟩
    obtain ⟨session, updated, hupdated, hkey, hcases⟩ := saveSession_eq_ok hsave
    obtain ⟨-, hnas, hsid⟩ := key_updateSession hupdated
    obtain ⟨context, -, hfields⟩ := updateSession_eq_ok hupdated
    obtain ⟨hinput, houtput, htime⟩ := counters_updated packet.attrs packet.now context session hfields
    have hmem : updated ∈ db'.val.sessions := by
      rcases hcases with ⟨hold, htables⟩ | ⟨-, -, htables⟩
      · rw [htables]
        exact List.mem_map.mpr ⟨session, hold, if_pos rfl⟩
      · rw [htables]
        exact List.mem_append_right _ (List.mem_singleton_self _)
    refine ⟨db', hsave, updated, hmem, ?_, storable_updateSession hupdated, ?_, ?_, ?_⟩
    · obtain ⟨hnas', hsid'⟩ := isOf_iff.mp hkey
      exact isOf_iff.mpr ⟨hnas.trans hnas', hsid.trans hsid'⟩
    · intro low hlow
      rw [hinput, octets_eq_some hlow, Option.getD_some]
    · intro low hlow
      rw [houtput, octets_eq_some hlow, Option.getD_some]
    · intro time hvalue
      rw [htime, hvalue, Option.getD_some]

/-- After any packets a Start or an Interim-Update with counters of 32 bits is stored and acknowledged
exactly when no count has its highest bit, the network entries are networks, and a new session began
within the calendar. -/
theorem counters_stored_iff (db reached : Database) (packets : List AcctPacket) (packet : AcctPacket)
    (hrows : ∀ row ∈ db.val.sessions, row.Storable) (hrun : runAccounting db packets = .ok reached)
    (hopens : packet.Opens packet.nasIp packet.sid) (hcounters : packet.CountersInRange) :
    packet.Stored reached ↔
      Returns (findNas reached.val packet.nasIp) ∧
        (reached.val.HasSession packet.nasIp packet.sid ∨
          Representable (packet.now.utc -
            (packet.attrs.int "Acct-Session-Time").getD 0 * 1000000)) ∧
        Fits packet.attrs "Acct-Input-Octets" "Acct-Input-Gigawords" ∧
        Fits packet.attrs "Acct-Output-Octets" "Acct-Output-Gigawords" := by
  rw [stored_iff_returns hopens]
  exact returns_saveSession_iff (storable_runAccounting hrows hrun) hcounters

/-- An Interim-Update of a session that has received this many times 4 GiB. -/
def gigawordsUpdate (gigawords : String) : AcctPacket where
  attrs := ⟨[("Acct-Status-Type", ["Interim-Update"]), ("NACo-NAS-IP", ["10.0.0.1"]),
    ("Acct-Session-Id", ["0000002A"]), ("Acct-Input-Octets", ["10"]),
    ("Acct-Input-Gigawords", [gigawords]), ("Acct-Output-Octets", ["4294967295"]),
    ("Acct-Output-Gigawords", ["2147483647"]), ("Acct-Session-Time", ["4294967295"])]⟩
  now := ⟨63850334400000000, ClockReading.inRange_may2024⟩
  later := ⟨63850334400000000, ClockReading.inRange_may2024⟩

theorem counters_stored_gigawords :
    (gigawordsUpdate "1").Stored ⟨{}, by decide⟩ ∧
      ∃ reached, runAccounting ⟨{}, by decide⟩ [gigawordsUpdate "1"] = .ok reached ∧
        ¬ (gigawordsUpdate "2147483648").Stored reached := by
  have hstored : (gigawordsUpdate "1").Stored ⟨{}, by decide⟩ :=
    (counters_stored_iff ⟨{}, by decide⟩ ⟨{}, by decide⟩ [] (gigawordsUpdate "1") (by simp) rfl
      (by decide +kernel) (by decide +kernel)).mpr ⟨⟨none, by decide +kernel⟩, .inr (by decide +kernel),
        fun _ => by decide +kernel, fun _ => by decide +kernel⟩
  refine ⟨hstored, ?_⟩
  obtain ⟨reached, hrun, -⟩ := hstored
  have hreached : runAccounting ⟨{}, by decide⟩ [gigawordsUpdate "1"] = .ok reached := by
    rw [runAccounting, List.foldlM_cons, hrun]
    rfl
  refine ⟨reached, hreached, fun habsurd => ?_⟩
  have hfits := ((counters_stored_iff ⟨{}, by decide⟩ reached [gigawordsUpdate "1"]
    (gigawordsUpdate "2147483648") (by simp) hreached (by decide +kernel) (by decide +kernel)).mp
      habsurd).2.2.1
  exact absurd (hfits (by decide +kernel)) (by decide +kernel)

/-- Half of the 64-bit counts are an overflow. -/
theorem highest_bit_overflows :
    ¬ ∀ (db : Database) (packet : AcctPacket), packet.Opens packet.nasIp packet.sid →
      packet.CountersInRange → (∀ row ∈ db.val.sessions, row.Storable) → packet.Stored db := by
  intro hall
  obtain ⟨db', hrun, -⟩ := hall ⟨{}, by decide⟩ (gigawordsUpdate "2147483648")
    (by decide +kernel) (by decide +kernel) (by simp)
  have hraises : ¬ Returns (AcctPacket.run ⟨{}, by decide⟩ (gigawordsUpdate "2147483648")) := by
    decide +kernel
  exact hraises ⟨db', hrun⟩

end Naco
