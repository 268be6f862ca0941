import Naco.Proof.Identity
import Naco.Tacacs.Server

/-!
# TACACS+ logins

One connection serves any packets in any order. A PASS is the answer to a PAP login, or the end of an
ASCII login whose packets all came in one session, in order and without another authentication packet
of that session in between. The invariant says of every login that is kept which of the packets so far
it stands for.
-/

namespace Naco.Tacacs

open Py Coroutine

variable {other : World → World → Prop} {world last : World} {trace : List (Departure World)}

/-! ### Credentials -/

/-- A part of the run is the call of `authenticate_user` with this name and this password, and its
result. -/
def Checked (other : World → World → Prop) (creds : Credentials) (trace : List (Departure World))
    (username password : String) (result : IdentityResult) : Prop :=
  ∃ checking start stop, checking <:+: trace ∧
    Run other (checkCredentials creds username password) start checking result stop

/-- The user of a login: accepted by `authenticate_user`, enabled and with a device-admin privilege as
its transactions read the row and its group, and with the level that `enable` asks for. -/
structure Granted (other : World → World → Prop) (creds : Credentials) (trace : List (Departure World))
    (start : AuthenStart) (username password : String) (result : IdentityResult) (user : UserInfo)
    (level : Nat) : Prop where
  checked : Checked other creds trace username password result
  accepted : result.ok = true
  resolved : result.user = some user
  enabled : user.enabled = true
  privilege : user.deviceAdminPrivilege = some level
  enable : start.authenService = serviceEnable → start.privLvl ≤ level
  loaded : Loaded (trace.map (Departure.map World.db)) (canonicalUsername (some username)) user

theorem Checked.mono {creds : Credentials} {trace trace' : List (Departure World)}
    {username password : String} {result : IdentityResult}
    (h : Checked other creds trace username password result) (hpart : trace <:+: trace') :
    Checked other creds trace' username password result := by
  obtain ⟨checking, start, stop, hchecking, hrun⟩ := h
  exact ⟨checking, start, stop, hchecking.trans hpart, hrun⟩

theorem Granted.mono {creds : Credentials} {trace trace' : List (Departure World)} {start : AuthenStart}
    {username password : String} {result : IdentityResult} {user : UserInfo} {level : Nat}
    (h : Granted other creds trace start username password result user level) (hpart : trace <:+: trace') :
    Granted other creds trace' start username password result user level :=
  { h with
    checked := h.checked.mono hpart
    loaded := h.loaded.mono (List.map_subset _ hpart.subset) }

theorem loginVerdict_allowed {start : AuthenStart} {user : UserInfo}
    (h : (loginVerdict start (some user)).allowed = true) :
    user.enabled = true ∧ ∃ level, user.deviceAdminPrivilege = some level ∧
      (start.authenService = serviceEnable → start.privLvl ≤ level) := by
  unfold loginVerdict at h
  cases henabled : user.enabled with
  | false => simp [adminRights, henabled] at h
  | true =>
      cases hlevel : user.deviceAdminPrivilege with
      | none => simp [adminRights, henabled, hlevel] at h
      | some level =>
          refine ⟨rfl, level, rfl, fun henable => ?_⟩
          by_contra hlow
          simp [adminRights, henabled, hlevel, henable, privilegeAllowed, Nat.lt_of_not_le hlow] at h

/-- A call of `authenticate_user` that accepts. -/
theorem loaded_of_checkCredentials {creds : Credentials} {username password : String}
    {result : IdentityResult} {user : UserInfo}
    (h : Run other (checkCredentials creds username password) world trace result last)
    (hok : result.ok = true) (huser : result.user = some user) :
    Loaded (trace.map (Departure.map World.db)) (canonicalUsername (some username)) user := by
  obtain ⟨directory, middle, before, after, rfl, -, hcheck⟩ := Run.of_bind h
  have hzoom := Run.of_zoom (fun _ _ => rfl) hcheck
  obtain ⟨user', huser', -, hloaded⟩ := accepted_of_authenticateUser hzoom hok
  obtain rfl : user = user' := Option.some.inj (huser.symm.trans huser')
  exact hloaded.mono (List.map_subset _ (List.subset_append_right before after))

/-- The status of an authentication reply. -/
def Answer.status (answer : Answer) : Option AuthenStatus :=
  match answer.reply with
  | .authen status _ _ => some status
  | _ => none

theorem status_of_authenFail {checked : Option Check} {answer : Answer}
    (h : Run other (authenFail checked) world trace (.ok answer) last) :
    answer.status = some .fail := by
  obtain ⟨_, _, _, _, _, _, hrest⟩ := Run.of_bind h
  cases Run.of_done hrest
  rfl

/-- `verify` answers FAIL, or PASS to credentials that grant the login. -/
theorem answer_of_verify {conn : Connection} {start : AuthenStart} {username password : String}
    {answer : Answer} (h : Run other (verify conn start username password) world trace (.ok answer) last) :
    answer.status = some .fail ∨ answer.status = some .pass ∧ ∃ result user level,
      answer.checked = some ⟨username, password, result⟩ ∧
        Granted other conn.creds trace start username password result user level := by
  obtain ⟨wait, _, before, after, rfl, -, hrest⟩ := Run.of_bind h
  split at hrest
  · exact .inl (status_of_authenFail hrest)
  · obtain ⟨result, _, checking, settling, rfl, hcheck, hsettle⟩ := Run.of_bind hrest
    have hpart : checking <:+: before ++ (checking ++ settling) :=
      ⟨before, settling, List.append_assoc _ _ _⟩
    unfold settleLogin at hsettle
    split at hsettle
    · obtain ⟨failed, _, _, _, rfl, -, hfail⟩ := Run.of_bind hsettle
      cases failed with
      | error error => cases Run.of_done hfail
      | ok _ => exact .inl (status_of_authenFail hfail)
    · next hok =>
        have hok : result.ok = true := by simpa using hok
        obtain ⟨_, _, _, _, rfl, -, hverdict⟩ := Run.of_bind hsettle
        split at hverdict
        · next hallowed =>
            obtain ⟨_, _, _, _, _, _, hdone⟩ := Run.of_bind hverdict
            cases Run.of_done hdone
            refine .inr ⟨rfl, ?_⟩
            cases huser : result.user with
            | none =>
                rw [huser] at hallowed
                cases hallowed
            | some user =>
                rw [huser] at hallowed
                obtain ⟨henabled, level, hlevel, henable⟩ := loginVerdict_allowed hallowed
                have hloaded := loaded_of_checkCredentials hcheck hok huser
                exact ⟨result, user, level, rfl, ⟨checking, _, _, hpart, hcheck⟩, hok, huser, henabled,
                  hlevel, henable, hloaded.mono (List.map_subset _ hpart.subset)⟩
        · exact .inl (status_of_authenFail hverdict)

/-! ### Handlers -/

theorem Run.of_withLogins {logins logins' : Logins} {handler : Coroutine World (Except Error Answer)}
    {answer : Answer}
    (h : Run other (withLogins logins handler) world trace (.ok (answer, logins')) last) :
    logins' = logins ∧ ∃ middle before after, trace = before ++ after ∧
      Run other handler world before (.ok answer) middle := by
  obtain ⟨result, middle, before, after, rfl, hhandler, hrest⟩ := Run.of_bind h
  cases result with
  | error error => cases Run.of_done hrest
  | ok value =>
      cases Run.of_done hrest
      exact ⟨rfl, middle, before, after, rfl, hhandler⟩

/-- What the answer to a START may be. -/
inductive StartAnswer (other : World → World → Prop) (creds : Credentials)
    (trace : List (Departure World)) (logins : Logins) (header : Header) (start : AuthenStart)
    (answer : Answer) : Logins → Prop
  | fail (hstatus : answer.status = some .fail) :
      StartAnswer other creds trace logins header start answer (logins.erase header.sessionId)
  | pap (hstatus : answer.status = some .pass) (haction : start.action = actionLogin)
      (htype : start.authenType = typePap) {result : IdentityResult} {user : UserInfo} {level : Nat}
      (hchecked : answer.checked = some ⟨start.user, decodeReplace start.data, result⟩)
      (hgranted : Granted other creds trace start start.user (decodeReplace start.data) result user level) :
      StartAnswer other creds trace logins header start answer (logins.erase header.sessionId)
  | getPass (hstatus : answer.status = some .getPass) (haction : start.action = actionLogin)
      (htype : start.authenType = typeAscii) (huser : start.user ≠ "") :
      StartAnswer other creds trace logins header start answer ((logins.erase header.sessionId).set
        header.sessionId ⟨start, start.user, .pass, header.seqNo + 2⟩)
  | getUser (hstatus : answer.status = some .getUser) (haction : start.action = actionLogin)
      (htype : start.authenType = typeAscii) (huser : start.user = "") :
      StartAnswer other creds trace logins header start answer ((logins.erase header.sessionId).set
        header.sessionId ⟨start, "", .user, header.seqNo + 2⟩)

theorem StartAnswer.mono {creds : Credentials} {trace trace' : List (Departure World)}
    {logins logins' : Logins} {header : Header} {start : AuthenStart} {answer : Answer}
    (h : StartAnswer other creds trace logins header start answer logins') (hpart : trace <:+: trace') :
    StartAnswer other creds trace' logins header start answer logins' := by
  cases h with
  | fail hstatus => exact .fail hstatus
  | pap hstatus haction htype hchecked hgranted =>
      exact .pap hstatus haction htype hchecked (hgranted.mono hpart)
  | getPass hstatus haction htype huser => exact .getPass hstatus haction htype huser
  | getUser hstatus haction htype huser => exact .getUser hstatus haction htype huser

theorem startAnswer_of_authenStart {conn : Connection} {logins logins' : Logins} {header : Header}
    {start : AuthenStart} {answer : Answer}
    (h : Run other (authenStart conn logins header start) world trace (.ok (answer, logins')) last) :
    StartAnswer other conn.creds trace logins header start answer logins' := by
  unfold authenStart at h
  dsimp only at h
  split at h
  · obtain ⟨rfl, _, _, _, rfl, hfail⟩ := Run.of_withLogins h
    exact .fail (status_of_authenFail hfail)
  · next haction =>
      rw [not_not] at haction
      split at h
      · next htype =>
          obtain ⟨rfl, _, before, after, rfl, hverify⟩ := Run.of_withLogins h
          rcases answer_of_verify hverify with hfail | ⟨hpass, result, user, level, hchecked, hgranted⟩
          · exact .fail hfail
          · exact .pap hpass haction htype hchecked (hgranted.mono (List.prefix_append _ _).isInfix)
      · split at h
        · obtain ⟨rfl, _, _, _, rfl, hfail⟩ := Run.of_withLogins h
          exact .fail (status_of_authenFail hfail)
        · next htype =>
            rw [not_not] at htype
            split at h
            · next huser =>
                cases Run.of_done h
                exact .getPass rfl haction htype huser
            · next huser =>
                rw [not_not] at huser
                cases Run.of_done h
                exact .getUser rfl haction htype huser

/-- What the answer to a CONTINUE may be. -/
inductive ContinueAnswer (other : World → World → Prop) (creds : Credentials)
    (trace : List (Departure World)) (logins : Logins) (header : Header) (cont : AuthenContinue)
    (answer : Answer) : Logins → Prop
  | ended (hstatus : answer.status = some .fail ∨ answer.status = some .error) :
      ContinueAnswer other creds trace logins header cont answer (logins.erase header.sessionId)
  | getPass {login : Login} (hstatus : answer.status = some .getPass)
      (hlogin : logins.get? header.sessionId = some login) (hseq : login.nextSeq = header.seqNo)
      (hawaiting : login.awaiting = .user) (habort : cont.abort = false) :
      ContinueAnswer other creds trace logins header cont answer
        (logins.set header.sessionId ⟨login.start, cont.answer, .pass, header.seqNo + 2⟩)
  | pass {login : Login} {result : IdentityResult} {user : UserInfo} {level : Nat}
      (hstatus : answer.status = some .pass)
      (hlogin : logins.get? header.sessionId = some login) (hseq : login.nextSeq = header.seqNo)
      (hawaiting : login.awaiting = .pass) (habort : cont.abort = false)
      (hchecked : answer.checked = some ⟨login.user, cont.answer, result⟩)
      (hgranted : Granted other creds trace login.start login.user cont.answer result user level) :
      ContinueAnswer other creds trace logins header cont answer (logins.erase header.sessionId)

theorem ContinueAnswer.mono {creds : Credentials} {trace trace' : List (Departure World)}
    {logins logins' : Logins} {header : Header} {cont : AuthenContinue} {answer : Answer}
    (h : ContinueAnswer other creds trace logins header cont answer logins') (hpart : trace <:+: trace') :
    ContinueAnswer other creds trace' logins header cont answer logins' := by
  cases h with
  | ended hstatus => exact .ended hstatus
  | getPass hstatus hlogin hseq hawaiting habort =>
      exact .getPass hstatus hlogin hseq hawaiting habort
  | pass hstatus hlogin hseq hawaiting habort hchecked hgranted =>
      exact .pass hstatus hlogin hseq hawaiting habort hchecked (hgranted.mono hpart)

theorem continueAnswer_of_authenContinue {conn : Connection} {logins logins' : Logins}
    {header : Header} {cont : AuthenContinue} {answer : Answer}
    (h : Run other (authenContinue conn logins header cont) world trace (.ok (answer, logins')) last) :
    ContinueAnswer other conn.creds trace logins header cont answer logins' := by
  unfold authenContinue at h
  split at h
  · cases Run.of_done h
    exact .ended (.inr rfl)
  · next login hfilter =>
      obtain ⟨hlogin, hseq⟩ := Option.filter_eq_some_iff.mp hfilter
      have hseq : login.nextSeq = header.seqNo := by simpa using hseq
      unfold continueLogin at h
      split at h
      · cases Run.of_done h
        exact .ended (.inl rfl)
      · next habort =>
          have habort : cont.abort = false := by simpa using habort
          split at h
          · next hawaiting =>
              cases Run.of_done h
              exact .getPass rfl hlogin hseq hawaiting habort
          · next hawaiting =>
              obtain ⟨rfl, _, before, after, rfl, hverify⟩ := Run.of_withLogins h
              rcases answer_of_verify hverify with
                hfail | ⟨hpass, result, user, level, hchecked, hgranted⟩
              · exact .ended (.inl hfail)
              · exact .pass hpass hlogin hseq hawaiting habort hchecked
                  (hgranted.mono (List.prefix_append _ _).isInfix)

theorem Run.of_decoded {α β : Type} {body : Except Fault α}
    {handler : α → Coroutine World (Except Error β)} {answer : β}
    (h : Run other (decoded body handler) world trace (.ok answer) last) :
    ∃ value middle before after, body = .ok value ∧ trace = before ++ after ∧
      Run other (handler value) world before (.ok answer) middle := by
  unfold decoded at h
  split at h
  · cases Run.of_done h
  · next value =>
      obtain ⟨result, middle, before, after, rfl, hhandler, hrest⟩ := Run.of_bind h
      cases result with
      | error error => cases Run.of_done hrest
      | ok found =>
          cases Run.of_done hrest
          exact ⟨value, middle, before, after, rfl, rfl, hhandler⟩

/-- A result that is no authentication reply. -/
def NotAuthen (result : Except Error Reply) : Prop :=
  ∀ status msg noecho, result ≠ .ok (.authen status msg noecho)

theorem notAuthen_record {result : Except Error Reply} (h : NotAuthen result) :
    (record >>= fun _ => pure result).Within (fun _ _ => True) NotAuthen :=
  (within_true record).seq fun _ _ => within_done_iff.mpr h

theorem notAuthen_authorizeUser (args : ParsedArgs) (user : Option UserInfo) :
    (authorizeUser args user).Within (fun _ _ => True) NotAuthen := by
  have hfail : authorFail.Within (fun _ _ => True) NotAuthen :=
    notAuthen_record fun _ _ _ h => by cases h
  unfold authorizeUser
  split
  · exact hfail
  · next user _ =>
      dsimp only
      split
      · unfold authorizeService
        split
        · exact within_done_iff.mpr fun _ _ _ h => by cases h
        · exact hfail
        · exact notAuthen_record fun _ _ _ h => by cases h
      · split
        · refine (within_true record).seq fun _ _ => ?_
          split
          · exact within_done_iff.mpr fun _ _ _ h => by cases h
          · exact within_done_iff.mpr fun _ _ _ h => by cases h
        · refine (within_true (Coroutine.read _)).seq fun _ _ => ?_
          split
          · exact notAuthen_record fun _ _ _ h => by cases h
          · exact hfail

theorem notAuthen_authorize (req : Request) :
    (authorize req).Within (fun _ _ => True) NotAuthen :=
  (within_true _).seq fun user _ => notAuthen_authorizeUser _ user

theorem notAuthen_account (req : Request) : (account req).Within (fun _ _ => True) NotAuthen :=
  notAuthen_record fun _ _ _ h => by cases h

theorem answer_of_plainAnswer {logins logins' : Logins}
    {handler : Coroutine World (Except Error Reply)} {answer : Answer}
    (hhandler : handler.Within (fun _ _ => True) NotAuthen)
    (h : Run other (plainAnswer logins handler) world trace (.ok (answer, logins')) last) :
    logins' = logins ∧ answer.status = none := by
  obtain ⟨rfl, _, _, _, rfl, hrun⟩ := Run.of_withLogins h
  refine ⟨rfl, ?_⟩
  obtain ⟨result, _, _, _, _, hresult, hrest⟩ := Run.of_bind hrun
  have hreply := hhandler.result hresult
  cases result with
  | error error => cases Run.of_done hrest
  | ok reply =>
      cases Run.of_done hrest
      cases reply with
      | authen status msg noecho => exact absurd rfl (hreply status msg noecho)
      | author status args => rfl
      | acctSuccess => rfl

/-- What the answer to a packet may be. -/
inductive DispatchAnswer (other : World → World → Prop) (creds : Credentials)
    (trace : List (Departure World)) (logins : Logins) (header : Header) (body : Bytes) (answer : Answer)
    (logins' : Logins) : Prop
  | start {start : AuthenStart} (htype : header.type = .authen) (hseq : header.seqNo = 1)
      (hdecode : AuthenStart.decode body = .ok start)
      (hanswer : StartAnswer other creds trace logins header start answer logins')
  | cont {cont : AuthenContinue} (htype : header.type = .authen)
      (hdecode : AuthenContinue.decode body = .ok cont)
      (hanswer : ContinueAnswer other creds trace logins header cont answer logins')
  | plain (htype : header.type ≠ .authen) (hlogins : logins' = logins)
      (hstatus : answer.status = none)

theorem dispatchAnswer_of_dispatch {conn : Connection} {logins logins' : Logins} {header : Header}
    {body : Bytes} {answer : Answer}
    (h : Run other (dispatch conn logins header body) world trace (.ok (answer, logins')) last) :
    DispatchAnswer other conn.creds trace logins header body answer logins' := by
  unfold dispatch at h
  split at h
  · next htype =>
      split at h
      · next hseq =>
          obtain ⟨start, _, before, after, hdecode, rfl, hstart⟩ := Run.of_decoded h
          exact .start htype hseq hdecode
            ((startAnswer_of_authenStart hstart).mono (List.prefix_append _ _).isInfix)
      · obtain ⟨cont, _, before, after, hdecode, rfl, hcont⟩ := Run.of_decoded h
        exact .cont htype hdecode
          ((continueAnswer_of_authenContinue hcont).mono (List.prefix_append _ _).isInfix)
  · next htype =>
      have htype : header.type ≠ .authen := fun hauthen => htype hauthen
      split at h
      · cases Run.of_done h
      · split at h
        · obtain ⟨req, _, _, _, _, rfl, hplain⟩ := Run.of_decoded h
          obtain ⟨hlogins, hstatus⟩ := answer_of_plainAnswer (notAuthen_authorize req) hplain
          exact .plain htype hlogins hstatus
        · obtain ⟨req, _, _, _, _, rfl, hplain⟩ := Run.of_decoded h
          obtain ⟨hlogins, hstatus⟩ := answer_of_plainAnswer (notAuthen_account req) hplain
          exact .plain htype hlogins hstatus

/-! ### The packets of a login -/

namespace Exchange

/-- An authentication packet of the session. -/
def inSession (session : Nat) (exchange : Exchange) : Bool :=
  exchange.header.type = .authen && exchange.header.sessionId = session

/-- The START of an ASCII login. -/
structure IsStart (exchange : Exchange) (session : Nat) (start : AuthenStart) : Prop where
  session : exchange.inSession session = true
  seq : exchange.header.seqNo = 1
  decoded : AuthenStart.decode exchange.body = .ok start
  action : start.action = actionLogin
  ascii : start.authenType = typeAscii

/-- A CONTINUE of the session that does not abort it. -/
structure IsContinue (exchange : Exchange) (session seq : Nat) (cont : AuthenContinue) : Prop where
  session : exchange.inSession session = true
  seq : exchange.header.seqNo = seq
  decoded : AuthenContinue.decode exchange.body = .ok cont
  abort : cont.abort = false

end Exchange

/-- No authentication packet of the session. -/
def Quiet (session : Nat) (exchanges : List Exchange) : Prop :=
  ∀ exchange ∈ exchanges, exchange.inSession session = false

theorem Quiet.concat {session : Nat} {exchanges : List Exchange} (h : Quiet session exchanges)
    {exchange : Exchange} (hexchange : exchange.inSession session = false) :
    Quiet session (exchanges ++ [exchange]) := by
  intro found hfound
  rcases List.mem_append.mp hfound with hmem | hnew
  · exact h found hmem
  · exact List.mem_singleton.mp hnew ▸ hexchange

/-- The login that a session has after some packets: after a START with a name, after one without, and
after the answer to the latter. -/
inductive LoginHistory (session : Nat) : List Exchange → Login → Prop
  | named {before after : List Exchange} {first : Exchange} {start : AuthenStart}
      (hstart : first.IsStart session start) (huser : start.user ≠ "")
      (hstatus : first.answer.status = some .getPass) (hafter : Quiet session after) :
      LoginHistory session (before ++ first :: after) ⟨start, start.user, .pass, 3⟩
  | unnamed {before after : List Exchange} {first : Exchange} {start : AuthenStart}
      (hstart : first.IsStart session start) (huser : start.user = "")
      (hstatus : first.answer.status = some .getUser) (hafter : Quiet session after) :
      LoginHistory session (before ++ first :: after) ⟨start, "", .user, 3⟩
  | answered {before middle after : List Exchange} {first second : Exchange} {start : AuthenStart}
      {cont : AuthenContinue} (hstart : first.IsStart session start) (huser : start.user = "")
      (hmiddle : Quiet session middle) (hcont : second.IsContinue session 3 cont)
      (hstatus : second.answer.status = some .getPass) (hafter : Quiet session after) :
      LoginHistory session (before ++ first :: (middle ++ second :: after))
        ⟨start, cont.answer, .pass, 5⟩

theorem LoginHistory.concat {session : Nat} {past : List Exchange} {login : Login}
    (h : LoginHistory session past login) {exchange : Exchange}
    (hexchange : exchange.inSession session = false) :
    LoginHistory session (past ++ [exchange]) login := by
  cases h with
  | named hstart huser hstatus hafter =>
      rw [List.append_assoc, List.cons_append]
      exact .named hstart huser hstatus (hafter.concat hexchange)
  | unnamed hstart huser hstatus hafter =>
      rw [List.append_assoc, List.cons_append]
      exact .unnamed hstart huser hstatus (hafter.concat hexchange)
  | answered hstart huser hmiddle hcont hstatus hafter =>
      rw [List.append_assoc, List.cons_append, List.append_assoc, List.cons_append]
      exact .answered hstart huser hmiddle hcont hstatus (hafter.concat hexchange)

/-- The status of the last authentication reply of a session. -/
def lastStatus (session : Nat) (exchanges : List Exchange) : Option AuthenStatus :=
  (exchanges.filter (·.inSession session)).getLast?.bind (·.answer.status)

theorem lastStatus_eq {session : Nat} {before after : List Exchange} {exchange : Exchange}
    (hexchange : exchange.inSession session = true) (hafter : Quiet session after) :
    lastStatus session (before ++ exchange :: after) = exchange.answer.status := by
  have hnone : after.filter (·.inSession session) = [] := by
    rw [List.filter_eq_nil_iff]
    intro found hfound
    simp [hafter found hfound]
  simp [lastStatus, List.filter_append, hexchange, hnone]

theorem LoginHistory.lastStatus {session : Nat} {past : List Exchange} {login : Login}
    (h : LoginHistory session past login) :
    Tacacs.lastStatus session past = some .getUser ∨ Tacacs.lastStatus session past = some .getPass := by
  cases h with
  | named hstart huser hstatus hafter =>
      exact .inr (by rw [lastStatus_eq hstart.session hafter, hstatus])
  | unnamed hstart huser hstatus hafter =>
      exact .inl (by rw [lastStatus_eq hstart.session hafter, hstatus])
  | @answered before middle after first second start cont hstart huser hmiddle hcont hstatus hafter =>
      have hsplit : before ++ first :: (middle ++ second :: after) =
          (before ++ first :: middle) ++ second :: after := by
        simp
      exact .inr (by rw [hsplit, lastStatus_eq hcont.session hafter, hstatus])

/-- Where a PASS comes from, with the name and the password that the packets carry: a PAP login, an
ASCII login with the name in the START, or one with the name in a packet of its own. -/
inductive PassOrigin (past : List Exchange) (exchange : Exchange) (start : AuthenStart) :
    String → String → Prop
  | pap (htype : exchange.header.type = .authen) (hseq : exchange.header.seqNo = 1)
      (hdecode : AuthenStart.decode exchange.body = .ok start) (haction : start.action = actionLogin)
      (hpap : start.authenType = typePap) :
      PassOrigin past exchange start start.user (decodeReplace start.data)
  | named {before after : List Exchange} {first : Exchange} {cont : AuthenContinue}
      (hpast : past = before ++ first :: after)
      (hstart : first.IsStart exchange.header.sessionId start) (huser : start.user ≠ "")
      (hafter : Quiet exchange.header.sessionId after)
      (hcont : exchange.IsContinue exchange.header.sessionId 3 cont) :
      PassOrigin past exchange start start.user cont.answer
  | unnamed {before middle after : List Exchange} {first second : Exchange}
      {name cont : AuthenContinue} (hpast : past = before ++ first :: (middle ++ second :: after))
      (hstart : first.IsStart exchange.header.sessionId start) (huser : start.user = "")
      (hmiddle : Quiet exchange.header.sessionId middle)
      (hname : second.IsContinue exchange.header.sessionId 3 name)
      (hafter : Quiet exchange.header.sessionId after)
      (hcont : exchange.IsContinue exchange.header.sessionId 5 cont) :
      PassOrigin past exchange start name.answer cont.answer

/-- A PASS is the answer to credentials that the packets carry and that grant the login. -/
def Justified (other : World → World → Prop) (creds : Credentials) (trace : List (Departure World))
    (past : List Exchange) (exchange : Exchange) : Prop :=
  exchange.answer.status = some .pass → ∃ start username password result user level,
    PassOrigin past exchange start username password ∧
      exchange.answer.checked = some ⟨username, password, result⟩ ∧
      Granted other creds trace start username password result user level

theorem Justified.mono {creds : Credentials} {trace trace' : List (Departure World)}
    {past : List Exchange} {exchange : Exchange} (h : Justified other creds trace past exchange)
    (hpart : trace <:+: trace') : Justified other creds trace' past exchange := by
  intro hpass
  obtain ⟨start, username, password, result, user, level, horigin, hchecked, hgranted⟩ := h hpass
  exact ⟨start, username, password, result, user, level, horigin, hchecked, hgranted.mono hpart⟩

/-- Every login that is kept has a history. -/
def Explained (past : List Exchange) (logins : Logins) : Prop :=
  ∀ session login, logins.get? session = some login → LoginHistory session past login

theorem Explained.concat {past : List Exchange} {logins : Logins} (h : Explained past logins)
    {exchange : Exchange} {session : Nat} {login : Login}
    (hget : logins.get? session = some login) (hother : session ≠ exchange.header.sessionId) :
    LoginHistory session (past ++ [exchange]) login :=
  (h session login hget).concat (by simp [Exchange.inSession, Ne.symm hother])

theorem Explained.erase {past : List Exchange} {logins : Logins} (h : Explained past logins)
    (exchange : Exchange) :
    Explained (past ++ [exchange]) (logins.erase exchange.header.sessionId) := by
  intro session login hget
  rw [Dict.get?_erase] at hget
  split at hget
  · cases hget
  · next hother => exact h.concat hget hother

theorem Explained.set {past : List Exchange} {logins : Logins} (h : Explained past logins)
    {exchange : Exchange} {login : Login}
    (hlogin : LoginHistory exchange.header.sessionId (past ++ [exchange]) login) :
    Explained (past ++ [exchange]) (logins.set exchange.header.sessionId login) := by
  intro session found hget
  rw [Dict.get?_set] at hget
  split at hget
  · next hsame =>
      subst hsame
      cases hget
      exact hlogin
  · next hother => exact h.concat hget hother

/-- The two ways a login can wait for what it waits for. -/
theorem LoginHistory.awaiting_user {session : Nat} {past : List Exchange} {login : Login}
    (h : LoginHistory session past login) (hawaiting : login.awaiting = .user) :
    ∃ before after first, past = before ++ first :: after ∧ first.IsStart session login.start ∧
      login.start.user = "" ∧ Quiet session after ∧ login.nextSeq = 3 := by
  cases h with
  | named => cases hawaiting
  | unnamed hstart huser hstatus hafter => exact ⟨_, _, _, rfl, hstart, huser, hafter, rfl⟩
  | answered => cases hawaiting

/-- The last packet of a login that waits for the password. -/
theorem LoginHistory.passOrigin {session : Nat} {past : List Exchange} {login : Login}
    (h : LoginHistory session past login) (hawaiting : login.awaiting = .pass) {exchange : Exchange}
    {cont : AuthenContinue} (hsession : exchange.header.sessionId = session)
    (hcont : exchange.IsContinue session login.nextSeq cont) :
    PassOrigin past exchange login.start login.user cont.answer := by
  subst hsession
  cases h with
  | named hstart huser hstatus hafter => exact .named rfl hstart huser hafter hcont
  | unnamed => cases hawaiting
  | answered hstart huser hmiddle hname hstatus hafter =>
      exact .unnamed rfl hstart huser hmiddle hname hafter hcont

theorem explained_of_startAnswer {creds : Credentials} {trace : List (Departure World)} {past : List Exchange}
    {logins logins' : Logins} {exchange : Exchange} {start : AuthenStart} (h : Explained past logins)
    (htype : exchange.header.type = .authen) (hseq : exchange.header.seqNo = 1)
    (hdecode : AuthenStart.decode exchange.body = .ok start)
    (hanswer : StartAnswer other creds trace logins exchange.header start exchange.answer logins') :
    Explained (past ++ [exchange]) logins' ∧ Justified other creds trace past exchange := by
  have hsession : exchange.inSession exchange.header.sessionId = true := by
    simp [Exchange.inSession, htype]
  have herase : Explained past (logins.erase exchange.header.sessionId) := by
    intro session login hget
    rw [Dict.get?_erase] at hget
    split at hget
    · cases hget
    · exact h session login hget
  cases hanswer with
  | fail hstatus =>
      refine ⟨h.erase exchange, fun hpass => ?_⟩
      rw [hstatus] at hpass
      cases hpass
  | pap hstatus haction hpap hchecked hgranted =>
      exact ⟨h.erase exchange, fun _ => ⟨start, _, _, _, _, _,
        .pap htype hseq hdecode haction hpap, hchecked, hgranted⟩⟩
  | getPass hstatus haction hascii huser =>
      refine ⟨herase.set ?_, fun hpass => ?_⟩
      · rw [hseq]
        exact .named ⟨hsession, hseq, hdecode, haction, hascii⟩ huser hstatus (by simp [Quiet])
      · rw [hstatus] at hpass
        cases hpass
  | getUser hstatus haction hascii huser =>
      refine ⟨herase.set ?_, fun hpass => ?_⟩
      · rw [hseq]
        exact .unnamed ⟨hsession, hseq, hdecode, haction, hascii⟩ huser hstatus (by simp [Quiet])
      · rw [hstatus] at hpass
        cases hpass

theorem explained_of_continueAnswer {creds : Credentials} {trace : List (Departure World)}
    {past : List Exchange}
    {logins logins' : Logins} {exchange : Exchange} {cont : AuthenContinue}
    (h : Explained past logins) (htype : exchange.header.type = .authen)
    (hdecode : AuthenContinue.decode exchange.body = .ok cont)
    (hanswer : ContinueAnswer other creds trace logins exchange.header cont exchange.answer logins') :
    Explained (past ++ [exchange]) logins' ∧ Justified other creds trace past exchange := by
  have hsession : exchange.inSession exchange.header.sessionId = true := by
    simp [Exchange.inSession, htype]
  cases hanswer with
  | ended hstatus =>
      refine ⟨h.erase exchange, fun hpass => ?_⟩
      rcases hstatus with hstatus | hstatus <;> rw [hstatus] at hpass <;> cases hpass
  | getPass hstatus hlogin hseq hawaiting habort =>
      refine ⟨h.set ?_, fun hpass => ?_⟩
      · obtain ⟨before, after, first, rfl, hstart, huser, hafter, hnext⟩ :=
          (h _ _ hlogin).awaiting_user hawaiting
        have hthree : exchange.header.seqNo = 3 := hseq.symm.trans hnext
        rw [hthree, List.append_assoc, List.cons_append]
        exact .answered hstart huser hafter ⟨hsession, hthree, hdecode, habort⟩ hstatus
          (by simp [Quiet])
      · rw [hstatus] at hpass
        cases hpass
  | pass hstatus hlogin hseq hawaiting habort hchecked hgranted =>
      refine ⟨h.erase exchange, fun _ => ⟨_, _, _, _, _, _, ?_, hchecked, hgranted⟩⟩
      exact (h _ _ hlogin).passOrigin hawaiting rfl ⟨hsession, hseq.symm, hdecode, habort⟩

/-- One packet. -/
theorem explained_of_dispatchAnswer {creds : Credentials} {trace : List (Departure World)}
    {past : List Exchange} {logins logins' : Logins} {exchange : Exchange} (h : Explained past logins)
    (hanswer : DispatchAnswer other creds trace logins exchange.header exchange.body exchange.answer
      logins') :
    Explained (past ++ [exchange]) logins' ∧ Justified other creds trace past exchange := by
  cases hanswer with
  | start htype hseq hdecode hstart => exact explained_of_startAnswer h htype hseq hdecode hstart
  | cont htype hdecode hcont => exact explained_of_continueAnswer h htype hdecode hcont
  | plain htype hlogins hstatus =>
      refine ⟨fun session login hget => ?_, fun hpass => ?_⟩
      · exact (h session login (hlogins ▸ hget)).concat (by simp [Exchange.inSession, htype])
      · rw [hstatus] at hpass
        cases hpass

/-- All packets of a connection, after some. -/
theorem explained_of_serve {conn : Connection} {packets : List Packet} {past : List Exchange}
    {logins : Logins} {answered : List Exchange × Logins} (hpast : Explained past logins)
    (h : Run other (serve conn logins packets) world trace answered last) :
    Explained (past ++ answered.1) answered.2 ∧
      ∀ before exchange after, answered.1 = before ++ exchange :: after →
        Justified other conn.creds trace (past ++ before) exchange := by
  induction packets generalizing past logins world last trace answered with
  | nil =>
      cases Run.of_done h
      exact ⟨by simpa using hpast, by simp⟩
  | cons sent packets ih =>
      unfold serve at h
      split at h
      · cases Run.of_done h
        exact ⟨by simpa using hpast, by simp⟩
      · next header body _ =>
          obtain ⟨result, _, handling, rest, rfl, hdispatch, hrest⟩ := Run.of_bind h
          cases result with
          | error fault =>
              cases Run.of_done hrest
              exact ⟨by simpa using hpast, by simp⟩
          | ok result =>
              obtain ⟨answer, logins'⟩ := result
              obtain ⟨tail, _, serving, _, rfl, hserve, hdone⟩ := Run.of_bind hrest
              cases Run.of_done hdone
              obtain ⟨hnext, hjustified⟩ := @explained_of_dispatchAnswer _ _ handling past logins logins'
                ⟨header, body, answer⟩ hpast (dispatchAnswer_of_dispatch hdispatch)
              obtain ⟨hall, htail⟩ := ih hnext hserve
              refine ⟨by simpa using hall, ?_⟩
              intro before exchange after hsplit
              cases before with
              | nil =>
                  obtain ⟨rfl, rfl⟩ := List.cons.inj hsplit
                  simpa using hjustified.mono (List.prefix_append _ _).isInfix
              | cons first before =>
                  obtain ⟨rfl, htailSplit⟩ := List.cons.inj hsplit
                  simpa using (htail before exchange after htailSplit).mono
                    ((List.prefix_append _ _).isInfix.trans (List.suffix_append _ _).isInfix)

/-! ### The main result -/

/-- In every run of a connection, whatever is sent and whatever else happens meanwhile: every PASS is
the answer to a PAP login or the end of an uninterrupted ASCII login whose name and password were
accepted, for a user with the rights; and a login is kept only while the last authentication reply of
its session asked for the name or the password. -/
theorem pass_only_after_login {conn : Connection} {packets : List Packet}
    {exchanges : List Exchange} {logins : Logins}
    (hrun : Run other (serve conn Dict.empty packets) world trace (exchanges, logins) last) :
    (∀ past exchange later, exchanges = past ++ exchange :: later →
      exchange.answer.status = some .pass → ∃ start username password result user level,
        PassOrigin past exchange start username password ∧
          exchange.answer.checked = some ⟨username, password, result⟩ ∧
          Granted other conn.creds trace start username password result user level) ∧
      ∀ session login, logins.get? session = some login →
        lastStatus session exchanges = some .getUser ∨ lastStatus session exchanges = some .getPass := by
  have hempty : Explained [] Dict.empty := fun session login hget => by simp at hget
  obtain ⟨hlogins, hpass⟩ := explained_of_serve hempty hrun
  exact ⟨fun past exchange later hsplit => hpass past exchange later hsplit,
    fun session login hget => (hlogins session login hget).lastStatus⟩

/-! Alice logs in on a switch to enable mode, by an ASCII login in session 7. -/

/-- MD5 on what the switch hashes: its session, its key, and the sequence numbers 1 and 3. -/
def switchDigest (raw : Bytes) : Bytes :=
  let seed : Bytes := [0, 0, 0, 7] ++ encode "switch-key" ++ [0xc0]
  let third : Bytes := [156, 237, 255, 10, 34, 227, 26, 245, 26, 214, 177, 158, 220, 108, 109, 129]
  if raw = seed ++ [1] then [123, 237, 21, 210, 152, 44, 228, 56, 26, 52, 185, 35, 69, 175, 255, 43]
  else if raw = seed ++ [3] then third
  else if raw = seed ++ [3] ++ third then
    [142, 223, 160, 161, 30, 115, 23, 191, 35, 212, 183, 28, 99, 117, 228, 170]
  else List.replicate 16 0

def switchConnection : Connection where
  creds := aliceCredentials
  md5 :=
    { digest := switchDigest
      length_digest := fun raw => by
        unfold switchDigest
        dsimp only
        repeat (split; rfl)
        rfl }
  ip := "10.0.0.1"
  key := encode "switch-key"

def switchWorld : World where
  db := ⟨{ groups := [{ id := 1, name := "network", deviceAdminPrivilege := some 15 }]
           users := [{ id := 1, username := "alice", groupId := some 1,
                       passwordHash := some aliceHash }] }, by decide +kernel⟩
  directory _ _ := .ok none
  monotonic := 0
  failures := .new

/-- A packet of session 7 whose header declares the length of its body. -/
def sessionPacket (type seqNo : UInt8) (body : Bytes)
    (h : body.length = bigEndian [0, 0, 0, UInt8.ofNat body.length]) : Packet where
  header := [0xc0, type, seqNo, 0, 0, 0, 0, 7, 0, 0, 0, UInt8.ofNat body.length]
  body
  framed := by
    intro header hdecode
    simp only [Header.decode, Header.ofFields] at hdecode
    split at hdecode
    · cases hdecode
    · split at hdecode
      · cases hdecode
      · split at hdecode
        · cases hdecode
        · split at hdecode
          · cases hdecode
          · cases hdecode
            exact h

/-- START: enable, ASCII, "alice". -/
def aliceStart : Packet :=
  sessionPacket 1 1 [122, 226, 20, 208, 157, 44, 228, 56, 123, 88, 208, 64, 32] rfl

/-- CONTINUE: "correct horse". -/
def aliceContinue : Packet :=
  sessionPacket 1 3
    [156, 224, 255, 10, 34, 128, 117, 135, 104, 179, 210, 234, 252, 4, 2, 243, 253, 186] rfl

/-- A request for authorization of "alice", without arguments. -/
def aliceAuthor : Packet :=
  sessionPacket 2 1 [125, 236, 20, 211, 157, 44, 228, 56, 123, 88, 208, 64, 32] rfl

/-- What the connection leaves when nothing else happens. -/
def servedAlone (packets : List Packet) : List Exchange × Logins :=
  ((serve switchConnection Dict.empty packets).runAlone switchWorld).1

theorem pass_only_after_login_alice :
    ∃ trace last exchanges logins,
      Run (fun _ _ => False) (serve switchConnection Dict.empty [aliceStart, aliceContinue])
        switchWorld trace (exchanges, logins) last ∧
      ∃ first second, exchanges = [first, second] ∧ second.answer.status = some .pass ∧
        ∃ start username password result user level,
          PassOrigin [first] second start username password ∧
            second.answer.checked = some ⟨username, password, result⟩ ∧
            Granted (fun _ _ => False) aliceCredentials trace start username password result user
              level := by
  obtain ⟨trace, hrun⟩ := Run.alone (fun _ _ => False)
    (serve switchConnection Dict.empty [aliceStart, aliceContinue]) switchWorld
  have hstatus : (servedAlone [aliceStart, aliceContinue]).1.map (·.answer.status) =
      [some .getPass, some .pass] := by
    decide +kernel
  obtain ⟨first, rest, hexchanges, -, hrest⟩ := List.map_eq_cons_iff.mp hstatus
  obtain ⟨second, tail, rfl, hpass, htail⟩ := List.map_eq_cons_iff.mp hrest
  obtain rfl := List.map_eq_nil_iff.mp htail
  refine ⟨trace, _, _, _, hrun, first, second, hexchanges, hpass, ?_⟩
  exact (pass_only_after_login hrun).1 [first] second [] hexchanges hpass

/-- The last reply with a session id, of any type. -/
def lastReply (session : Nat) (exchanges : List Exchange) : Option Reply :=
  (exchanges.filter (·.header.sessionId = session)).getLast?.map (·.answer.reply)

/-- A request for authorization with the session id of a login that is under way is answered without
ending it. -/
theorem login_kept_after_author_reply :
    ∃ trace last exchanges logins,
      Run (fun _ _ => False) (serve switchConnection Dict.empty [aliceStart, aliceAuthor])
        switchWorld trace (exchanges, logins) last ∧
      (∃ login, logins.get? 7 = some login) ∧
      ∀ reply, lastReply 7 exchanges = some reply →
        ∀ msg noecho, reply ≠ .authen .getUser msg noecho ∧ reply ≠ .authen .getPass msg noecho := by
  obtain ⟨trace, hrun⟩ := Run.alone (fun _ _ => False)
    (serve switchConnection Dict.empty [aliceStart, aliceAuthor]) switchWorld
  refine ⟨trace, _, _, _, hrun, ?_, ?_⟩
  · have hkept : ((servedAlone [aliceStart, aliceAuthor]).2.get? 7).isSome = true := by
      decide +kernel
    exact Option.isSome_iff_exists.mp hkept
  · intro reply hreply
    have hlast : lastReply 7 (servedAlone [aliceStart, aliceAuthor]).1 = some (.author .fail []) := by
      decide +kernel
    obtain rfl : reply = .author .fail [] := Option.some.inj (hreply.symm.trans hlast)
    exact fun msg noecho => ⟨by simp, by simp⟩

end Naco.Tacacs
