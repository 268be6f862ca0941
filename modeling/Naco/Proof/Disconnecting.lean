import Naco.Proof.Coa
import Naco.Proof.CoaExchange
import Naco.Proof.Reevaluate

/-!
# Disconnecting many sessions

Re-evaluation and the administrators' request both run the exchanges of their sessions behind a
semaphore, in whatever order the answers come. Each session has one exchange of its own, and what is
counted as disconnected is what the NAS of that session acknowledged.
-/

namespace Naco

open Py

/-! ### The exchanges of a list of targets -/

section

variable (digests : Md5) (stamps : Nat → Nat × Nat) (retries concurrency : Nat)
  (targets : List (RadiusSession × NasClient)) (moves : List (PoolMove ExchangeMove))

/-- The request that is sent for a target. -/
def requestAt (index : Nat) (target : RadiusSession × NasClient) : CoaRequest :=
  disconnectRequestOf digests (stamps index).1 (stamps index).2 target

/-- The NAS of a target answered the request for it, and this is what the answer comes to. -/
def NasSaid (index : Nat) (target : RadiusSession × NasClient) (result : CoaResult) : Prop :=
  ∃ data, .datagram data (Exchange.peerOf (requestAt digests stamps index target)) ∈
      Pool.addressed index moves ∧
    Exchange.Genuine digests (requestAt digests stamps index target) data ∧
    Exchange.resultOf (.ok data) = some result

/-- An answer that acknowledges says no more. -/
theorem eq_ack_of_resultOf {data : Bytes} {result : CoaResult}
    (h : Exchange.resultOf (.ok data) = some result) (hack : result.outcome = .ack) :
    result = ⟨.ack, ""⟩ := by
  rw [Exchange.resultOf] at h
  split at h
  · exact (Option.some.inj h).symm
  · rw [← Option.some.inj h] at hack
    cases hack

theorem sound_disconnectPool :
    Pool.Sound concurrency (disconnectPool digests stamps retries concurrency targets moves) :=
  Pool.sound_run (Pool.sound_init _ _) moves

theorem length_jobs_disconnectPool :
    (disconnectPool digests stamps retries concurrency targets moves).jobs.length = targets.length := by
  have hrequests := (Pool.traced_run (disconnectWork digests retries) concurrency
    (disconnectRequests digests stamps targets) moves).1
  rw [disconnectPool, ← List.length_map (·.request), hrequests, disconnectRequests, List.length_mapIdx]

variable {digests stamps retries concurrency targets moves}

/-- What is acknowledged or refused was said by the NAS of that very session. -/
theorem nasSaid_of_returned {index : Nat} {result : CoaResult}
    (h : (index, result) ∈ (disconnectPool digests stamps retries concurrency targets moves).returned)
    (hheard : result.outcome = .ack ∨ result.outcome = .nak) :
    ∃ target, targets[index]? = some target ∧ NasSaid digests stamps moves index target result := by
  obtain ⟨request, hrequest, seen, hseen, hresult⟩ := Pool.returned_run _ h
  rw [disconnectRequests, List.getElem?_mapIdx, Option.map_eq_some_iff] at hrequest
  obtain ⟨target, htarget, rfl⟩ := hrequest
  refine ⟨target, htarget, ?_⟩
  have hphase : (Exchange.run digests retries
      (Exchange.start (requestAt digests stamps index target)) seen).phase = .returned result := by
    change Exchange.result _ = some result at hresult
    unfold Exchange.result at hresult
    split at hresult
    · next found hfound =>
        obtain rfl := Option.some.inj hresult
        exact hfound
    · cases hresult
  obtain ⟨data, ⟨before, after, hsplit, hgenuine, -⟩, hsaid⟩ :=
    Exchange.firstAnswer_of_returned hphase hheard
  refine ⟨data, hseen.subset ?_, hgenuine, hsaid⟩
  rw [hsplit]
  exact List.mem_append_right _ List.mem_cons_self

/-- `summary.disconnected` and `summary.failed` are the results that came in. -/
theorem disconnectCounts_eq (pool : DisconnectPool) :
    disconnectCounts pool = (pool.returned.countP (·.2.outcome = .ack),
      pool.returned.countP fun returned => ¬ returned.2.outcome = .ack) := by
  have hfold (returned : List (Nat × CoaResult)) (counts : Nat × Nat) :
      returned.foldl (fun counts returned =>
          if returned.2.outcome = .ack then (counts.1 + 1, counts.2) else (counts.1, counts.2 + 1))
        counts =
        (counts.1 + returned.countP (·.2.outcome = .ack),
          counts.2 + returned.countP fun returned => ¬ returned.2.outcome = .ack) := by
    induction returned generalizing counts with
    | nil => rfl
    | cons head returned ih =>
        rw [List.foldl_cons, ih, List.countP_cons, List.countP_cons]
        by_cases hack : head.2.outcome = .ack
        · simp [hack, Nat.add_assoc, Nat.add_comm 1]
        · simp [hack, Nat.add_assoc, Nat.add_comm 1]
  rw [disconnectCounts, hfold]
  simp

/-- Those that came in with an acknowledgement are different targets, and the NAS of each said so. -/
theorem acknowledged_disconnectPool :
    ∃ acked : List Nat, acked.Nodup ∧
      acked.length = (disconnectCounts
        (disconnectPool digests stamps retries concurrency targets moves)).1 ∧
      ∀ index ∈ acked, ∃ target, targets[index]? = some target ∧
        NasSaid digests stamps moves index target ⟨.ack, ""⟩ := by
  have hsound := sound_disconnectPool digests stamps retries concurrency targets moves
  have hnas (index : Nat) (result : CoaResult) :=
    @nasSaid_of_returned digests stamps retries concurrency targets moves index result
  generalize disconnectPool digests stamps retries concurrency targets moves = pool at hsound hnas
  refine ⟨(pool.returned.filter (·.2.outcome = .ack)).map Prod.fst, ?_, ?_, fun index hindex => ?_⟩
  · exact hsound.once.sublist (List.filter_sublist.map Prod.fst)
  · rw [List.length_map, disconnectCounts_eq, List.countP_eq_length_filter]
  · obtain ⟨⟨other, result⟩, hreturned, rfl⟩ := List.mem_map.mp hindex
    obtain ⟨hreturned, hack⟩ := List.mem_filter.mp hreturned
    have hack : result.outcome = .ack := of_decide_eq_true hack
    obtain ⟨target, htarget, data, hdata, hgenuine, hsaid⟩ := hnas _ _ hreturned (.inl hack)
    refine ⟨target, htarget, data, hdata, hgenuine, ?_⟩
    rw [hsaid, eq_ack_of_resultOf hsaid hack]

end

/-! ### Re-evaluation -/

section

variable {platform : Platform} {policies : List CompiledPolicy} {loaded : LoadedWorld}
  {now : ClockReading}

/-- What one round adds. -/
theorem reevaluateSession_eq {summary summary' : ReevalSummary} {session : RadiusSession}
    (h : reevaluateSession platform policies loaded now summary session = .ok summary') :
    ∃ more : List (RadiusSession × NasClient), (more.map Prod.fst).Sublist [session] ∧
      summary'.targets = summary.targets ++ more ∧ summary'.changed = summary.changed + more.length ∧
      ∃ checked, more.length ≤ checked ∧ checked ≤ 1 ∧ summary'.checked = summary.checked + checked := by
  unfold reevaluateSession at h
  cases hdecision : sessionDecision platform policies loaded now session with
  | error error =>
      rw [hdecision] at h
      cases h
  | ok found =>
      rw [hdecision] at h
      cases found with
      | none =>
          cases h
          exact ⟨[], List.nil_sublist _, (List.append_nil _).symm, rfl, 0, le_rfl, zero_le_one, rfl⟩
      | some found =>
          simp only [bind, Except.bind] at h
          split at h
          · cases h
            exact ⟨[(session, found.2)], List.Sublist.refl _, rfl, rfl, 1, le_rfl, le_rfl, rfl⟩
          · cases h
            exact ⟨[], List.nil_sublist _, (List.append_nil _).symm, rfl, 1, zero_le_one, le_rfl, rfl⟩

/-- The targets are sessions that were read, in their order and each once. -/
theorem targets_foldlM {sessions : List RadiusSession} {summary summary' : ReevalSummary}
    (h : sessions.foldlM (reevaluateSession platform policies loaded now) summary = .ok summary') :
    ∃ more : List (RadiusSession × NasClient), (more.map Prod.fst).Sublist sessions ∧
      summary'.targets = summary.targets ++ more ∧ summary'.changed = summary.changed + more.length ∧
      ∃ checked, more.length ≤ checked ∧ checked ≤ sessions.length ∧
        summary'.checked = summary.checked + checked := by
  induction sessions generalizing summary with
  | nil =>
      cases h
      exact ⟨[], List.nil_sublist _, (List.append_nil _).symm, rfl, 0, le_rfl, le_rfl, rfl⟩
  | cons session sessions ih =>
      rw [List.foldlM_cons] at h
      cases hstep : reevaluateSession platform policies loaded now summary session with
      | error error =>
          rw [hstep] at h
          cases h
      | ok next =>
          rw [hstep] at h
          obtain ⟨one, hone, htargets, hchanged, checked, hle, hone', hchecked⟩ :=
            reevaluateSession_eq hstep
          obtain ⟨more, hmore, htargets', hchanged', checked', hle', hmore', hchecked'⟩ := ih h
          refine ⟨one ++ more, ?_, ?_, ?_, checked + checked', ?_, ?_, ?_⟩
          · rw [List.map_append]
            exact hone.append hmore
          · rw [htargets', htargets, List.append_assoc]
          · rw [hchanged', hchanged, List.length_append, Nat.add_assoc]
          · rw [List.length_append]
            omega
          · rw [List.length_cons]
            omega
          · rw [hchecked', hchecked, Nat.add_assoc]

/-- The summary of a run. -/
theorem reevaluate_summary {t t' : Tables} {loadedAt : ClockReading} {summary : ReevalSummary}
    (h : reevaluate platform t t' loadedAt now = .ok summary) :
    (summary.targets.map Prod.fst).Sublist (digestSessions t) ∧
      summary.changed = summary.targets.length ∧ summary.changed ≤ summary.checked ∧
      summary.checked ≤ (digestSessions t).length := by
  have hnone : (({} : ReevalSummary).targets.map Prod.fst).Sublist (digestSessions t) ∧
      ({} : ReevalSummary).changed = ({} : ReevalSummary).targets.length ∧
      ({} : ReevalSummary).changed ≤ ({} : ReevalSummary).checked ∧
      ({} : ReevalSummary).checked ≤ (digestSessions t).length :=
    ⟨List.nil_sublist _, rfl, le_rfl, Nat.zero_le _⟩
  unfold reevaluate at h
  split at h
  · cases h
    exact hnone
  · dsimp only at h
    split at h
    · cases h
      exact hnone
    · cases hload : loadWorld t' (digestSessions t) loadedAt.utc with
      | error error =>
          rw [hload] at h
          cases h
      | ok loaded =>
          rw [hload] at h
          obtain ⟨more, hmore, htargets, hchanged, checked, hle, hmost, hchecked⟩ := targets_foldlM h
          rw [htargets, hchanged, hchecked]
          simp only [List.nil_append, Nat.zero_add, true_and]
          exact ⟨hmore, hle, hmost⟩

end

/-- What a run of the re-evaluation disconnects, at any moment of its exchanges: it tells each session
that changed once, runs so many exchanges at a time and not more, and counts as disconnected what the
NAS of the session acknowledged. While a session is open, something can go on. -/
theorem reevaluation_disconnects {platform : Platform} {t t' : Tables} {loadedAt now : ClockReading}
    {summary : ReevalSummary} (h : reevaluate platform t t' loadedAt now = .ok summary)
    (digests : Md5) (stamps : Nat → Nat × Nat) (retries concurrency : Nat)
    (moves : List (PoolMove ExchangeMove)) :
    let pool := disconnectPool digests stamps retries concurrency summary.targets moves
    let counts := disconnectCounts pool
    (summary.targets.map Prod.fst).Sublist (digestSessions t) ∧
      counts.1 + counts.2 + pool.unended = summary.changed ∧
      summary.changed ≤ summary.checked ∧ summary.checked ≤ (digestSessions t).length ∧
      pool.inside ≤ concurrency ∧
      (∃ acked : List Nat, acked.Nodup ∧ acked.length = counts.1 ∧
        ∀ index ∈ acked, ∃ target, summary.targets[index]? = some target ∧
          NasSaid digests stamps moves index target ⟨.ack, ""⟩) ∧
      (0 < concurrency → pool.unended ≠ 0 → pool.Runnable) := by
  intro pool counts
  obtain ⟨hsessions, hchanged, hle, hmost⟩ := reevaluate_summary h
  have hsound : pool.Sound concurrency := sound_disconnectPool _ _ _ _ _ _
  have hlength : pool.jobs.length = summary.targets.length := length_jobs_disconnectPool _ _ _ _ _ _
  have hcounts : counts.1 + counts.2 = pool.returned.length := by
    change (disconnectCounts pool).1 + (disconnectCounts pool).2 = _
    rw [disconnectCounts_eq,
      List.length_eq_countP_add_countP fun returned : Nat × CoaResult => returned.2.outcome = .ack]
    simp
  refine ⟨hsessions, ?_, hle, hmost, hsound.inside_le, acknowledged_disconnectPool, hsound.runnable⟩
  rw [hcounts, hsound.length_returned, hlength, hchanged]

/-- The phone has a session on another port too. -/
def secondSession : RadiusSession :=
  { phoneSession with id := 2, acctSessionId := "0002" }

/-- The phone's sessions, when no policy permits it any more. -/
def changedTables : Tables where
  devices := [phoneDevice]
  nasClients := [sessionSwitch true]
  sessions := [phoneSession, secondSession]

def phoneTargets : List (RadiusSession × NasClient) :=
  [(phoneSession, sessionSwitch true), (secondSession, sessionSwitch true)]

/-- The requests for the phone are numbered from 0. -/
def phoneStamps (index : Nat) : Nat × Nat :=
  (index, 1700000000)

/-- MD5 and HMAC-MD5 on what these two requests and their acknowledgements hash: it begins with a code and
an identifier. -/
def phoneDigests : Md5 where
  md5
    | 40 :: 0 :: _ => [239, 149, 170, 186, 119, 209, 209, 161, 179, 214, 114, 57, 82, 144, 213, 148]
    | 40 :: 1 :: _ => [9, 175, 196, 238, 192, 87, 142, 83, 128, 7, 24, 224, 102, 60, 36, 123]
    | 41 :: 0 :: _ => [238, 219, 162, 83, 174, 193, 37, 167, 206, 17, 178, 106, 236, 75, 212, 106]
    | 41 :: 1 :: _ => [58, 249, 96, 170, 212, 177, 111, 189, 166, 211, 128, 78, 162, 44, 183, 231]
    | _ => List.replicate 16 0
  hmac _
    | 40 :: 0 :: _ => [121, 141, 70, 71, 156, 218, 120, 146, 155, 188, 230, 148, 179, 240, 183, 214]
    | 40 :: 1 :: _ => [17, 158, 123, 180, 18, 58, 35, 182, 172, 0, 44, 167, 19, 145, 132, 120]
    | 41 :: 0 :: _ => [27, 140, 29, 128, 39, 137, 117, 87, 24, 82, 20, 203, 225, 1, 156, 30]
    | 41 :: 1 :: _ => [194, 104, 227, 33, 227, 120, 180, 18, 166, 70, 182, 166, 43, 81, 12, 235]
    | _ => List.replicate 16 0
  md5_length data := by split <;> rfl
  hmac_length _ data := by split <;> rfl

def phoneRequestAt (index : Nat) : CoaRequest :=
  requestAt phoneDigests phoneStamps index (phoneTargets.getD index (phoneSession, sessionSwitch true))

/-- The switch acknowledges a request. -/
def phoneAck (index : Nat) : ExchangeMove :=
  .datagram (signedAnswer phoneDigests (phoneRequestAt index).packet
    (encode (phoneRequestAt index).target.secret) 41 [] []) (Exchange.peerOf (phoneRequestAt index))

/-- The second exchange waits in line until the switch has acknowledged the first request. -/
def oneByOne : List (PoolMove ExchangeMove) :=
  [⟨0, .start⟩, ⟨1, .start⟩, ⟨0, .work (.opened none none)⟩, ⟨0, .work (phoneAck 0)⟩,
    ⟨0, .work .answered⟩, ⟨1, .wake⟩, ⟨1, .work (.opened none none)⟩]

theorem reevaluation_disconnects_phone :
    ∃ summary, reevaluate officePlatform changedTables changedTables (sessionWorld true).now
        (sessionWorld true).now = .ok summary ∧ summary.targets = phoneTargets ∧
      let pool := disconnectPool phoneDigests phoneStamps 3 1 phoneTargets oneByOne
      disconnectCounts pool = (1, 0) ∧ pool.inside = 1 ∧
        (disconnectCounts pool).1 + (disconnectCounts pool).2 + pool.unended = 2 ∧ pool.inside ≤ 1 ∧
        pool.Runnable ∧
        ∃ acked : List Nat, acked.Nodup ∧ acked.length = 1 ∧
          ∀ index ∈ acked, ∃ target, phoneTargets[index]? = some target ∧
            NasSaid phoneDigests phoneStamps oneByOne index target ⟨.ack, ""⟩ := by
  refine ⟨⟨2, 2, phoneTargets⟩, rfl, rfl, ?_⟩
  intro pool
  have hcounts : disconnectCounts pool = (1, 0) := by decide +kernel
  obtain ⟨-, hsum, -, -, hinside, hacked, hgoes⟩ :=
    @reevaluation_disconnects officePlatform changedTables changedTables (sessionWorld true).now
      (sessionWorld true).now ⟨2, 2, phoneTargets⟩ rfl phoneDigests phoneStamps 3 1 oneByOne
  refine ⟨hcounts, by decide +kernel, hsum, hinside, hgoes (by decide) (by decide +kernel), ?_⟩
  obtain ⟨acked, hnodup, hlength, hsaid⟩ := hacked
  exact ⟨acked, hnodup, hlength.trans (congrArg Prod.fst hcounts), hsaid⟩

/-! ### The request to disconnect -/

/-- A session that meets all the filters that are given. -/
def BulkDisconnect.Selects (body : BulkDisconnect) (session : RadiusSession) : Prop :=
  (∀ username, given body.username = some username → session.username = lower username) ∧
    (∀ mac, given body.mac = some mac → normalizeMac (some mac) = some session.macAddress) ∧
    ∀ ip, given body.nasIp = some ip → session.nasIp = (parseIp (some ip)).getD ip

theorem mem_narrow {filter : Option String} {meets : RadiusSession → String → Bool}
    {sessions : List RadiusSession} {session : RadiusSession} :
    session ∈ narrow filter meets sessions ↔
      session ∈ sessions ∧ ∀ value, filter = some value → meets session value = true := by
  unfold narrow
  cases filter with
  | none => simp
  | some value => simp

theorem narrow_sublist (filter : Option String) (meets : RadiusSession → String → Bool)
    (sessions : List RadiusSession) : (narrow filter meets sessions).Sublist sessions := by
  unfold narrow
  cases filter with
  | none => exact List.Sublist.refl _
  | some value => exact List.filter_sublist

theorem bulkMac_eq_some {body : BulkDisconnect} {mac : Option String} (h : bulkMac body = .ok mac) :
    mac = (given body.mac).bind (normalizeMac ∘ some) ∧
      ∀ text, given body.mac = some text → mac ≠ none := by
  unfold bulkMac at h
  cases htext : given body.mac with
  | none =>
      rw [htext] at h
      exact ⟨(Except.ok.inj h).symm, fun _ hsome => by cases hsome⟩
  | some text =>
      rw [htext] at h
      dsimp only at h
      cases hmac : normalizeMac (some text) with
      | none =>
          rw [hmac] at h
          cases h
      | some own =>
          rw [hmac] at h
          obtain rfl := Except.ok.inj h
          exact ⟨hmac.symm, fun _ _ => Option.some_ne_none own⟩

/-- The sessions that are read are those the filters select. -/
theorem mem_bulkSessions {body : BulkDisconnect} {t : Tables} {sessions : List RadiusSession}
    (h : bulkSessions body t = .ok sessions) :
    sessions.Sublist t.sessions ∧
      ∀ session, session ∈ sessions ↔ session ∈ t.sessions ∧ body.Selects session := by
  unfold bulkSessions at h
  cases hmac : bulkMac body with
  | error error =>
      rw [hmac] at h
      cases h
  | ok mac =>
      rw [hmac] at h
      obtain rfl := Except.ok.inj h
      obtain ⟨rfl, hparsed⟩ := bulkMac_eq_some hmac
      refine ⟨(narrow_sublist _ _ _).trans ((narrow_sublist _ _ _).trans (narrow_sublist _ _ _)),
        fun session => ?_⟩
      simp only [mem_narrow, decide_eq_true_eq, BulkDisconnect.Selects, and_assoc]
      refine and_congr_right' (and_congr_right' (and_congr_left' ?_))
      cases htext : given body.mac with
      | none => simp
      | some text =>
          obtain ⟨own, hown⟩ := Option.ne_none_iff_exists'.mp (hparsed text htext)
          rw [htext] at hown
          simp only [Option.bind_some, Function.comp_apply] at hown
          simp [hown, eq_comm]

/-- The targets are the sessions whose NAS is known; the others are counted. -/
theorem disconnectTargets_spec (directory : NasDirectory) (sessions : List RadiusSession) :
    (disconnectTargets directory sessions).1 =
        sessions.filterMap (fun session => (directory.find session.nasIp).map (session, ·)) ∧
      (disconnectTargets directory sessions).1.length + (disconnectTargets directory sessions).2 =
        sessions.length := by
  have hfold (done : List (RadiusSession × NasClient) × Nat) :
      sessions.foldl (disconnectTarget directory) done =
        (done.1 ++ sessions.filterMap (fun session => (directory.find session.nasIp).map (session, ·)),
          done.2 + sessions.countP fun session => (directory.find session.nasIp).isNone) := by
    induction sessions generalizing done with
    | nil => simp
    | cons session sessions ih =>
        rw [List.foldl_cons, ih, List.filterMap_cons, List.countP_cons, disconnectTarget]
        cases directory.find session.nasIp with
        | none => simp [Nat.add_assoc, Nat.add_comm 1]
        | some nas => simp
  rw [disconnectTargets, hfold]
  refine ⟨List.nil_append _, ?_⟩
  rw [List.nil_append, Nat.zero_add, List.length_filterMap_eq_countP,
    List.length_eq_countP_add_countP fun session : RadiusSession =>
      (directory.find session.nasIp).isSome]
  refine congrArg₂ _ ?_ (List.countP_congr fun session _ => ?_)
  · refine List.countP_congr fun session _ => ?_
    cases directory.find session.nasIp <;> simp
  · cases directory.find session.nasIp <;> simp

/-- What a request to disconnect does: it reaches the sessions that meet every filter that was given and
no other, each once and not more than twenty at a time. When all of them have their answers the numbers
add up, and those counted as acknowledged were acknowledged by the NAS of the session. -/
theorem bulk_disconnect {body : BulkDisconnect} {t : Tables} {sessions : List RadiusSession}
    (h : bulkSessions body t = .ok sessions) (directory : NasDirectory) (digests : Md5)
    (stamps : Nat → Nat × Nat) (retries : Nat) (moves : List (PoolMove ExchangeMove)) :
    let targets := (disconnectTargets directory sessions).1
    let pool := disconnectPool digests stamps retries 20 targets moves
    let result := disconnectResult sessions (disconnectTargets directory sessions).2 pool.outcomes
    sessions.Sublist t.sessions ∧
      (∀ session, session ∈ sessions ↔ session ∈ t.sessions ∧ body.Selects session) ∧
      targets = sessions.filterMap (fun session => (directory.find session.nasIp).map (session, ·)) ∧
      pool.inside ≤ 20 ∧ (pool.unended ≠ 0 → pool.Runnable) ∧
      (pool.unended = 0 → result.acked + result.failed + result.skipped = result.requested) ∧
      ∃ acked : List Nat, acked.Nodup ∧ acked.length = result.acked ∧
        ∀ index ∈ acked, ∃ target, targets[index]? = some target ∧
          NasSaid digests stamps moves index target ⟨.ack, ""⟩ := by
  intro targets pool result
  obtain ⟨hsub, hmem⟩ := mem_bulkSessions h
  obtain ⟨htargets, hskipped⟩ := disconnectTargets_spec directory sessions
  have hsound : pool.Sound 20 := sound_disconnectPool _ _ _ _ _ _
  have hlength : pool.jobs.length = targets.length := length_jobs_disconnectPool _ _ _ _ _ _
  have houtcomes : pool.outcomes.length = pool.returned.length := by
    rw [← hsound.outcomes.length_eq, List.length_map]
  have hacked : result.acked = (disconnectCounts pool).1 := by
    rw [disconnectCounts_eq]
    change pool.outcomes.countP (fun outcome => decide (outcome.outcome = .ack)) = _
    rw [← hsound.outcomes.countP_eq, List.countP_map]
    rfl
  refine ⟨hsub, hmem, htargets, hsound.inside_le, hsound.runnable (by decide), fun hended => ?_, ?_⟩
  · have hreturned := hsound.length_returned
    have hle : pool.outcomes.countP (fun outcome => decide (outcome.outcome = .ack)) ≤
        pool.outcomes.length := List.countP_le_length
    change pool.outcomes.countP (fun outcome => decide (outcome.outcome = .ack)) +
      (pool.outcomes.length - pool.outcomes.countP fun outcome => decide (outcome.outcome = .ack)) +
        (disconnectTargets directory sessions).2 = sessions.length
    have hsum : targets.length + (disconnectTargets directory sessions).2 = sessions.length := hskipped
    omega
  · rw [hacked]
    exact acknowledged_disconnectPool

/-- Both exchanges are open; the switch acknowledges the second request, and the first cannot be sent. -/
def sideBySide : List (PoolMove ExchangeMove) :=
  [⟨0, .start⟩, ⟨1, .start⟩, ⟨1, .work (.opened none none)⟩, ⟨0, .work (.opened (some "no route") none)⟩,
    ⟨1, .work (phoneAck 1)⟩, ⟨1, .work .answered⟩]

theorem bulk_disconnect_phone :
    bulkSessions { mac := some "AABB.CC00.0001" } changedTables = .ok [phoneSession, secondSession] ∧
      let pool := disconnectPool phoneDigests phoneStamps 3 20 phoneTargets sideBySide
      let result := disconnectResult [phoneSession, secondSession] 0 pool.outcomes
      result = ⟨2, 1, 1, 0⟩ ∧ result.acked + result.failed + result.skipped = result.requested ∧
        ∃ acked : List Nat, acked.Nodup ∧ acked.length = 1 ∧
          ∀ index ∈ acked, ∃ target, phoneTargets[index]? = some target ∧
            NasSaid phoneDigests phoneStamps sideBySide index target ⟨.ack, ""⟩ := by
  have hread : bulkSessions { mac := some "AABB.CC00.0001" } changedTables =
      .ok [phoneSession, secondSession] := by
    rfl
  obtain ⟨-, -, -, -, -, hresult, acked, hnodup, hlength, hsaid⟩ :=
    bulk_disconnect hread ⟨[sessionSwitch true], []⟩ phoneDigests phoneStamps 3 sideBySide
  refine ⟨hread, by decide +kernel, hresult (by decide +kernel), acked, hnodup, hlength.trans ?_, hsaid⟩
  decide +kernel

end Naco
