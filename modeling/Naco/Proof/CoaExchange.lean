import Naco.CoaExchange
import Naco.Proof.Disconnect

/-!
# What an exchange believes, and what a pass over many of them counts

Anyone on the network can send datagrams to the socket. What an exchange returns as acknowledged or
refused is the first datagram from the address of the NAS that the rules accept as an answer to its very
packet; the others change nothing. It sends one packet, at most as often as it may, and when the waits
run out it returns.

A pass runs the exchanges of all targets behind a semaphore, in any order. Its counts are those of the
exchanges, each of which ran once.
-/

namespace Naco

open Py

namespace Exchange

variable {digests : Md5} {retries : Nat} {request : CoaRequest} {exchange : Exchange}
  {moves seen : List ExchangeMove}

/-- The NAS of a request answers with these bytes. -/
def Genuine (digests : Md5) (request : CoaRequest) (data : Bytes) : Prop :=
  Answers digests request.packet data (encode request.target.secret)

/-- The address that an answer must come from. -/
def peerOf (request : CoaRequest) : String × Nat :=
  (start request).peer

/-- The first datagram that the NAS answers with. -/
def FirstAnswer (digests : Md5) (request : CoaRequest) (moves : List ExchangeMove) (data : Bytes) :
    Prop :=
  ∃ before after, moves = before ++ .datagram data (peerOf request) :: after ∧
    Genuine digests request data ∧
    ∀ other, .datagram other (peerOf request) ∈ before → ¬ Genuine digests request other

theorem FirstAnswer.append {data : Bytes} (h : FirstAnswer digests request seen data)
    (moves : List ExchangeMove) : FirstAnswer digests request (seen ++ moves) data := by
  obtain ⟨before, after, rfl, hgenuine, hfirst⟩ := h
  exact ⟨before, after ++ moves, by rw [List.append_assoc, List.cons_append], hgenuine, hfirst⟩

/-- What holds of an exchange whatever it awaits. -/
structure Honest (digests : Md5) (request : CoaRequest) (seen : List ExchangeMove)
    (exchange : Exchange) : Prop where
  target : exchange.target = request.target
  packet : exchange.packet = request.packet
  peer : exchange.peer = peerOf request
  sent : exchange.sent = List.replicate exchange.sent.length request.packet
  first : ∀ data, exchange.answer = some (.ok data) → FirstAnswer digests request seen data

/-- No genuine answer was missed so far. -/
def Unanswered (digests : Md5) (request : CoaRequest) (seen : List ExchangeMove)
    (exchange : Exchange) : Prop :=
  exchange.answer = none →
    ∀ data, .datagram data (peerOf request) ∈ seen → ¬ Genuine digests request data

/-- The attempts that were made and are left. -/
def Budget (digests : Md5) (request : CoaRequest) (retries : Nat) (seen : List ExchangeMove)
    (exchange : Exchange) : Prop :=
  match exchange.phase with
  | .opening => exchange.sent = [] ∧ Unanswered digests request seen exchange
  | .waiting left =>
      exchange.sent.length + left = retries ∧ Unanswered digests request seen exchange
  | .returned result =>
      exchange.sent.length ≤ retries ∧
        (result.outcome = .timeout → exchange.sent.length = retries) ∧
        (result.outcome = .ack ∨ result.outcome = .nak →
          ∃ data, exchange.answer = some (.ok data) ∧ resultOf (.ok data) = some result)

theorem resultOf_error {failure : SocketError} {result : CoaResult}
    (h : resultOf (.error failure) = some result) : result.outcome = .error := by
  rw [resultOf] at h
  split at h
  · cases h
  · rw [← Option.some.inj h]

theorem resultOf_ok (data : Bytes) : ∃ result, resultOf (.ok data) = some result ∧
    (result.outcome = .ack ∨ result.outcome = .nak) := by
  by_cases hcode : (data.headD 0).toNat = disconnectAck
  · exact ⟨⟨.ack, ""⟩, congrArg some (if_pos hcode), .inl rfl⟩
  · exact ⟨⟨.nak, _⟩, congrArg some (if_neg hcode), .inr rfl⟩

theorem Honest.withPhase (h : Honest digests request seen exchange) (phase : ExchangePhase) :
    Honest digests request seen { exchange with phase } :=
  ⟨h.target, h.packet, h.peer, h.sent, h.first⟩

theorem budget_returned {answer : Except SocketError Bytes} {result : CoaResult}
    (hanswer : exchange.answer = some answer) (hresult : resultOf answer = some result)
    (hsent : exchange.sent.length ≤ retries) :
    Budget digests request retries seen { exchange with phase := .returned result } := by
  refine ⟨hsent, fun htimeout => ?_, fun hheard => ?_⟩
  · cases answer with
    | error failure =>
        rw [resultOf_error hresult] at htimeout
        cases htimeout
    | ok data =>
        obtain ⟨found, hfound, hheard⟩ := resultOf_ok data
        obtain rfl := Option.some.inj (hresult.symm.trans hfound)
        rw [htimeout] at hheard
        rcases hheard with hheard | hheard <;> cases hheard
  · cases answer with
    | error failure =>
        rw [resultOf_error hresult] at hheard
        rcases hheard with hheard | hheard <;> cases hheard
    | ok data => exact ⟨data, hanswer, hresult⟩

theorem honest_errorReceived (h : Honest digests request seen exchange) (failure : SocketError) :
    Honest digests request seen (exchange.errorReceived failure) ∧
      (exchange.errorReceived failure).answer ≠ none := by
  unfold errorReceived
  split
  · next hsome => exact ⟨h, Option.isSome_iff_ne_none.mp hsome⟩
  · exact ⟨⟨h.target, h.packet, h.peer, h.sent, fun data hdata => by cases hdata⟩,
      Option.some_ne_none _⟩

theorem sent_errorReceived (exchange : Exchange) (failure : SocketError) :
    (exchange.errorReceived failure).sent = exchange.sent ∧
      (exchange.errorReceived failure).phase = exchange.phase := by
  unfold errorReceived
  split <;> exact ⟨rfl, rfl⟩

theorem honest_send (h : Honest digests request seen exchange) (sendError : Option SocketError) :
    Honest digests request seen (exchange.send sendError) ∧
      (exchange.send sendError).sent.length = exchange.sent.length + 1 ∧
      ((exchange.send sendError).answer = none → exchange.answer = none) := by
  have hsent : Honest digests request seen { exchange with sent := exchange.sent ++ [exchange.packet] } := by
    refine ⟨h.target, h.packet, h.peer, ?_, h.first⟩
    dsimp only
    rw [List.length_append, List.length_singleton, List.replicate_succ', ← h.sent, h.packet]
  unfold send
  cases sendError with
  | none => exact ⟨hsent, List.length_append, id⟩
  | some failure =>
      obtain ⟨hhonest, hanswer⟩ := honest_errorReceived hsent failure
      refine ⟨hhonest, ?_, fun hnone => absurd hnone hanswer⟩
      rw [(sent_errorReceived _ failure).1]
      exact List.length_append

/-- The loop over the attempts, by induction on those left. -/
theorem honest_attempt {left : Nat} (h : Honest digests request seen exchange)
    (hbudget : exchange.sent.length + left = retries)
    (hunanswered : Unanswered digests request seen exchange) (sendError : Option SocketError) :
    Honest digests request seen (exchange.attempt sendError left) ∧
      Budget digests request retries seen (exchange.attempt sendError left) := by
  induction left generalizing exchange sendError with
  | zero =>
      refine ⟨⟨h.target, h.packet, h.peer, h.sent, h.first⟩, hbudget.le, fun _ => hbudget, ?_⟩
      rintro (hheard | hheard) <;> cases hheard
  | succ left ih =>
      obtain ⟨hsend, hlength, hnone⟩ := honest_send h sendError
      rw [attempt]
      split
      · next hanswer =>
          refine ⟨hsend.withPhase _, ?_, fun _ => hunanswered (hnone hanswer)⟩
          dsimp only
          omega
      · next answer hanswer =>
          split
          · next result hresult =>
              exact ⟨hsend.withPhase _, budget_returned hanswer hresult (by omega)⟩
          · refine ih hsend (by omega) (fun hnone => ?_) none
            rw [hanswer] at hnone
            cases hnone

/-- A datagram is the answer when it is the first genuine one; everything else is passed over. -/
theorem honest_datagramReceived (h : Honest digests request seen exchange)
    (hunanswered : Unanswered digests request seen exchange) (data : Bytes) (sender : String × Nat) :
    Honest digests request (seen ++ [.datagram data sender])
        (exchange.datagramReceived digests data sender) ∧
      Unanswered digests request (seen ++ [.datagram data sender])
        (exchange.datagramReceived digests data sender) := by
  have hkept : Honest digests request (seen ++ [.datagram data sender]) exchange :=
    ⟨h.target, h.packet, h.peer, h.sent, fun found hfound => (h.first found hfound).append _⟩
  obtain ⟨answer, hverify, hiff⟩ := verifyResponse_spec digests exchange.packet data
    (encode exchange.target.secret)
  have hgenuine : answer = true ↔ Genuine digests request data := by
    rw [hiff, h.packet, h.target]
    rfl
  have hmissed (hnot : sender = exchange.peer → ¬ Genuine digests request data) :
      Unanswered digests request (seen ++ [.datagram data sender]) exchange := by
    intro hnone other hother
    rcases List.mem_append.mp hother with hother | hother
    · exact hunanswered hnone other hother
    · obtain ⟨rfl, hsender⟩ := ExchangeMove.datagram.inj (List.mem_singleton.mp hother)
      exact hnot (hsender.symm.trans h.peer.symm)
  unfold datagramReceived
  rw [hverify]
  split
  · next hpassed =>
      refine ⟨hkept, fun hnone => hmissed (fun hpeer => ?_) hnone⟩
      rcases hpassed with hother | hsome
      · exact absurd hpeer hother
      · rw [hnone] at hsome
        cases hsome
  · next htaken =>
      rw [not_or, not_not, Option.not_isSome_iff_eq_none] at htaken
      obtain ⟨hpeer, hnone⟩ := htaken
      cases answer with
      | false => exact ⟨hkept, hmissed fun _ hdata => Bool.false_ne_true (hgenuine.mpr hdata)⟩
      | true =>
          refine ⟨⟨h.target, h.packet, h.peer, h.sent, fun found hfound => ?_⟩,
            fun hnone => absurd hnone (Option.some_ne_none _)⟩
          obtain rfl : data = found := Except.ok.inj (Option.some.inj hfound)
          rw [hpeer, h.peer]
          exact ⟨seen, [], rfl, hgenuine.mp rfl, hunanswered hnone⟩

theorem phase_datagramReceived (digests : Md5) (exchange : Exchange) (data : Bytes)
    (sender : String × Nat) :
    (exchange.datagramReceived digests data sender).sent = exchange.sent ∧
      (exchange.datagramReceived digests data sender).phase = exchange.phase := by
  unfold datagramReceived
  split
  · exact ⟨rfl, rfl⟩
  · split <;> exact ⟨rfl, rfl⟩

/-- The invariant of an exchange. -/
def Valid (digests : Md5) (request : CoaRequest) (retries : Nat) (seen : List ExchangeMove)
    (exchange : Exchange) : Prop :=
  Honest digests request seen exchange ∧ Budget digests request retries seen exchange

theorem valid_start (digests : Md5) (request : CoaRequest) (retries : Nat) :
    Valid digests request retries [] (start request) := by
  have hnone : (start request).answer = none ∧ (start request).sent = [] ∧
      (start request).target = request.target ∧ (start request).packet = request.packet := by
    unfold start
    dsimp only
    split <;> exact ⟨rfl, rfl, rfl, rfl⟩
  obtain ⟨hanswer, hsent, htarget, hpacket⟩ := hnone
  refine ⟨⟨htarget, hpacket, rfl, by rw [hsent]; rfl, fun data hdata => ?_⟩, ?_⟩
  · rw [hanswer] at hdata
    cases hdata
  · unfold start
    dsimp only
    split
    · refine ⟨Nat.zero_le _, ?_, ?_⟩
      · intro htimeout
        cases htimeout
      · rintro (hheard | hheard) <;> cases hheard
    · exact ⟨rfl, fun _ data hdata => absurd hdata List.not_mem_nil⟩

/-- What is not a datagram leaves no answer out. -/
theorem Unanswered.concat {m : ExchangeMove} (h : Unanswered digests request seen exchange)
    (hm : ∀ data sender, m ≠ .datagram data sender) :
    Unanswered digests request (seen ++ [m]) exchange := by
  intro hnone data hdata
  rcases List.mem_append.mp hdata with hdata | hdata
  · exact h hnone data hdata
  · exact absurd (List.mem_singleton.mp hdata).symm (hm data _)

theorem Honest.concat (h : Honest digests request seen exchange) (m : ExchangeMove) :
    Honest digests request (seen ++ [m]) exchange :=
  ⟨h.target, h.packet, h.peer, h.sent, fun data hdata => (h.first data hdata).append _⟩

/-- While an exchange is open its phase tells how many attempts were made, and it missed nothing. -/
theorem budget_iff_of_open (hopen : ∀ result, exchange.phase ≠ .returned result) :
    Budget digests request retries seen exchange ↔
      (exchange.phase = .opening ∧ exchange.sent = [] ∨
        ∃ left, exchange.phase = .waiting left ∧ exchange.sent.length + left = retries) ∧
      Unanswered digests request seen exchange := by
  unfold Budget
  cases hphase : exchange.phase with
  | opening => simp
  | waiting left => simp
  | returned result => exact absurd hphase (hopen result)

theorem valid_move (h : Valid digests request retries seen exchange) (m : ExchangeMove) :
    Valid digests request retries (seen ++ [m]) (exchange.move digests retries m) := by
  obtain ⟨hhonest, hbudget⟩ := h
  have hkept := hhonest.concat m
  by_cases hreturned : ∃ result, exchange.phase = .returned result
  · obtain ⟨result, hphase⟩ := hreturned
    have hsame : exchange.move digests retries m = exchange := by
      unfold move
      rw [hphase]
    rw [hsame]
    refine ⟨hkept, ?_⟩
    rw [Budget, hphase] at hbudget ⊢
    exact hbudget
  · have hopen : ∀ result, exchange.phase ≠ .returned result := not_exists.mp hreturned
    obtain ⟨hphase, hunanswered⟩ := (budget_iff_of_open hopen).mp hbudget
    have hstays (hm : ∀ data sender, m ≠ .datagram data sender) :
        Valid digests request retries (seen ++ [m]) exchange :=
      ⟨hkept, (budget_iff_of_open hopen).mpr ⟨hphase, hunanswered.concat hm⟩⟩
    cases m with
    | datagram data sender =>
        have hmove : exchange.move digests retries (.datagram data sender) =
            exchange.datagramReceived digests data sender := by
          unfold move
          rcases hphase with ⟨hphase, -⟩ | ⟨left, hphase, -⟩ <;> rw [hphase]
        obtain ⟨hnew, hmissed⟩ := honest_datagramReceived hhonest hunanswered data sender
        obtain ⟨hsent, hsame⟩ := phase_datagramReceived digests exchange data sender
        rw [hmove]
        refine ⟨hnew, (budget_iff_of_open (by rwa [hsame])).mpr ⟨?_, hmissed⟩⟩
        rwa [hsame, hsent]
    | error failure =>
        have hmove : exchange.move digests retries (.error failure) = exchange.errorReceived failure := by
          unfold move
          rcases hphase with ⟨hphase, -⟩ | ⟨left, hphase, -⟩ <;> rw [hphase]
        obtain ⟨hnew, hanswer⟩ := honest_errorReceived hkept failure
        obtain ⟨hsent, hsame⟩ := sent_errorReceived exchange failure
        rw [hmove]
        refine ⟨hnew, (budget_iff_of_open (by rwa [hsame])).mpr ⟨?_, fun hnone => absurd hnone hanswer⟩⟩
        rwa [hsame, hsent]
    | opened failure sendError =>
        have hmissed := @Unanswered.concat _ _ _ _ (.opened failure sendError) hunanswered
          fun _ _ h => by cases h
        rcases hphase with ⟨hphase, hsent⟩ | ⟨left, hphase, -⟩
        · cases failure with
          | some message =>
              have hmove : exchange.move digests retries (.opened (some message) sendError) =
                  { exchange with phase := .returned ⟨.error, message⟩ } := by
                unfold move
                rw [hphase]
              rw [hmove]
              refine ⟨hkept.withPhase _, ?_, ?_, ?_⟩
              · dsimp only
                rw [hsent]
                exact Nat.zero_le _
              · intro htimeout
                cases htimeout
              · rintro (hheard | hheard) <;> cases hheard
          | none =>
              have hmove : exchange.move digests retries (.opened none sendError) =
                  exchange.attempt sendError retries := by
                unfold move
                rw [hphase]
              rw [hmove]
              exact honest_attempt hkept (by rw [hsent]; simp) hmissed sendError
        · have hmove : exchange.move digests retries (.opened failure sendError) = exchange := by
            unfold move
            rw [hphase]
          rw [hmove]
          exact hstays fun _ _ h => by cases h
    | answered =>
        have hmissed := @Unanswered.concat _ _ _ _ .answered hunanswered fun _ _ h => by cases h
        rcases hphase with ⟨hphase, -⟩ | ⟨left, hphase, hleft⟩
        · have hmove : exchange.move digests retries .answered = exchange := by
            unfold move
            rw [hphase]
          rw [hmove]
          exact hstays fun _ _ h => by cases h
        · have hmove : exchange.move digests retries .answered = exchange.wake left := by
            unfold move
            rw [hphase]
          rw [hmove]
          unfold wake
          split
          · exact hstays fun _ _ h => by cases h
          · next answer hanswer =>
              split
              · next result hresult =>
                  exact ⟨hkept.withPhase _, budget_returned hanswer hresult (by omega)⟩
              · exact honest_attempt hkept hleft hmissed none
    | deadline sendError =>
        have hmissed := @Unanswered.concat _ _ _ _ (.deadline sendError) hunanswered
          fun _ _ h => by cases h
        rcases hphase with ⟨hphase, -⟩ | ⟨left, hphase, hleft⟩
        · have hmove : exchange.move digests retries (.deadline sendError) = exchange := by
            unfold move
            rw [hphase]
          rw [hmove]
          exact hstays fun _ _ h => by cases h
        · have hmove : exchange.move digests retries (.deadline sendError) =
              exchange.attempt sendError left := by
            unfold move
            rw [hphase]
          rw [hmove]
          exact honest_attempt hkept hleft hmissed sendError

theorem valid_run (digests : Md5) (retries : Nat) (request : CoaRequest) (moves : List ExchangeMove) :
    Valid digests request retries moves (run digests retries (start request) moves) := by
  induction moves using List.reverseRecOn with
  | nil => exact valid_start digests request retries
  | append_singleton moves m ih =>
      rw [run, List.foldl_append]
      exact valid_move ih m

/-- What is acknowledged or refused is what the first genuine answer says. -/
theorem firstAnswer_of_returned {result : CoaResult}
    (hphase : (run digests retries (start request) moves).phase = .returned result)
    (hresult : result.outcome = .ack ∨ result.outcome = .nak) :
    ∃ data, FirstAnswer digests request moves data ∧ resultOf (.ok data) = some result := by
  obtain ⟨hhonest, hbudget⟩ := valid_run digests retries request moves
  rw [Budget, hphase] at hbudget
  obtain ⟨-, -, hheard⟩ := hbudget
  obtain ⟨data, hanswer, hsame⟩ := hheard hresult
  exact ⟨data, hhonest.first data hanswer, hsame⟩

/-- A datagram from elsewhere, or one that the NAS did not sign for this packet. -/
theorem move_forged {data : Bytes} {sender : String × Nat} (h : Honest digests request seen exchange)
    (hforged : sender = peerOf request → ¬ Genuine digests request data) :
    exchange.move digests retries (.datagram data sender) = exchange := by
  have hreceived : exchange.datagramReceived digests data sender = exchange := by
    obtain ⟨answer, hverify, hiff⟩ := verifyResponse_spec digests exchange.packet data
      (encode exchange.target.secret)
    rw [h.packet, h.target] at hiff
    unfold datagramReceived
    split
    · rfl
    · next htaken =>
        rw [not_or, not_not] at htaken
        have hfalse : answer = false := by
          refine Bool.eq_false_iff.mpr fun htrue => hforged (htaken.1.trans h.peer) (hiff.mp htrue)
        rw [hverify, hfalse]
  unfold move
  cases hphase : exchange.phase with
  | opening => exact hreceived
  | waiting left => exact hreceived
  | returned result => rfl

theorem run_forged {before after : List ExchangeMove} {data : Bytes} {sender : String × Nat}
    (hforged : sender = peerOf request → ¬ Genuine digests request data) :
    run digests retries (start request) (before ++ .datagram data sender :: after) =
      run digests retries (start request) (before ++ after) := by
  have hbefore := (valid_run digests retries request before).1
  have hsame := @move_forged digests retries request _ before data sender hbefore hforged
  unfold run at hsame ⊢
  rw [List.foldl_append, List.foldl_append, List.foldl_cons, hsame]

/-! ### The waits run out -/

theorem run_returned {result : CoaResult} (hphase : exchange.phase = .returned result) :
    run digests retries exchange moves = exchange := by
  induction moves with
  | nil => rfl
  | cons m moves ih =>
      have hsame : exchange.move digests retries m = exchange := by
        unfold move
        rw [hphase]
      rw [run, List.foldl_cons, hsame]
      exact ih

/-- An exchange that has returned, or waits with so many attempts left. -/
def LeftAtMost (exchange : Exchange) (left : Nat) : Prop :=
  (∃ result, exchange.phase = .returned result) ∨ ∃ fewer ≤ left, exchange.phase = .waiting fewer

theorem leftAtMost_attempt (exchange : Exchange) (sendError : Option SocketError) (left : Nat) :
    (∃ result, (exchange.attempt sendError left).phase = .returned result) ∨
      ∃ fewer < left, (exchange.attempt sendError left).phase = .waiting fewer := by
  induction left generalizing exchange sendError with
  | zero => exact .inl ⟨_, rfl⟩
  | succ left ih =>
      rw [attempt]
      split
      · exact .inr ⟨left, Nat.lt_succ_self left, rfl⟩
      · split
        · exact .inl ⟨_, rfl⟩
        · exact (ih (exchange.send sendError) none).imp_right fun ⟨fewer, hfewer, hphase⟩ =>
            ⟨fewer, hfewer.trans (Nat.lt_succ_self left), hphase⟩

def isDeadline : ExchangeMove → Bool
  | .deadline _ => true
  | _ => false

theorem leftAtMost_move {left : Nat} (h : exchange.LeftAtMost left) (m : ExchangeMove) :
    (exchange.move digests retries m).LeftAtMost (left - if isDeadline m then 1 else 0) ∧
      (left = 0 → isDeadline m = true → ∃ result,
        (exchange.move digests retries m).phase = .returned result) := by
  rcases h with ⟨result, hphase⟩ | ⟨fewer, hfewer, hphase⟩
  · have hsame : exchange.move digests retries m = exchange := by
      unfold move
      rw [hphase]
    rw [hsame]
    exact ⟨.inl ⟨result, hphase⟩, fun _ _ => ⟨result, hphase⟩⟩
  · unfold move
    rw [hphase]
    cases m with
    | opened failure sendError => exact ⟨.inr ⟨fewer, hfewer, hphase⟩, fun _ h => by cases h⟩
    | datagram data sender =>
        refine ⟨.inr ⟨fewer, hfewer, ?_⟩, fun _ h => by cases h⟩
        exact (phase_datagramReceived digests exchange data sender).2.trans hphase
    | error failure =>
        refine ⟨.inr ⟨fewer, hfewer, ?_⟩, fun _ h => by cases h⟩
        exact (sent_errorReceived exchange failure).2.trans hphase
    | answered =>
        refine ⟨?_, fun _ h => by cases h⟩
        dsimp only
        unfold wake
        split
        · exact .inr ⟨fewer, hfewer, hphase⟩
        · split
          · exact .inl ⟨_, rfl⟩
          · exact (leftAtMost_attempt exchange none fewer).imp_right fun ⟨left', hleft, hphase⟩ =>
              ⟨left', hleft.le.trans hfewer, hphase⟩
    | deadline sendError =>
        have hattempt := leftAtMost_attempt exchange sendError fewer
        constructor
        · exact hattempt.imp_right fun ⟨left', hleft, hphase⟩ =>
            ⟨left', Nat.le_sub_one_of_lt (Nat.lt_of_lt_of_le hleft hfewer), hphase⟩
        · rintro rfl -
          refine hattempt.resolve_right ?_
          rintro ⟨left', hleft, -⟩
          omega

theorem returned_of_deadlines {left : Nat} (h : exchange.LeftAtMost left)
    (hmoves : left < moves.countP isDeadline) :
    ∃ result, (run digests retries exchange moves).phase = .returned result := by
  induction moves generalizing exchange left with
  | nil => exact absurd hmoves (Nat.not_lt_zero left)
  | cons m moves ih =>
      obtain ⟨hnext, hlast⟩ := @leftAtMost_move digests retries exchange left h m
      rw [List.countP_cons] at hmoves
      rw [run, List.foldl_cons]
      by_cases hend : left = 0 ∧ isDeadline m = true
      · obtain ⟨result, hphase⟩ := hlast hend.1 hend.2
        exact ⟨result, by rw [← run, run_returned hphase, hphase]⟩
      · refine ih hnext ?_
        cases hdeadline : isDeadline m with
        | true =>
            rw [hdeadline, if_pos rfl] at hmoves
            have hleft : left ≠ 0 := fun hzero => hend ⟨hzero, hdeadline⟩
            rw [if_pos rfl]
            omega
        | false =>
            rw [hdeadline, if_neg Bool.false_ne_true] at hmoves
            rwa [if_neg Bool.false_ne_true, Nat.sub_zero]

/-! ### An answer in time -/

/-- An answer of the NAS waits to be taken up, or what it says was returned. -/
def Heard (data : Bytes) (exchange : Exchange) : Prop :=
  exchange.answer = some (.ok data) ∧ (∃ left, exchange.phase = .waiting left) ∨
    ∃ result, exchange.phase = .returned result ∧ resultOf (.ok data) = some result

theorem heard_datagramReceived {data : Bytes} {left : Nat} (h : Honest digests request seen exchange)
    (hphase : exchange.phase = .waiting left) (hanswer : exchange.answer = none)
    (hgenuine : Genuine digests request data) :
    Heard data (exchange.move digests retries (.datagram data (peerOf request))) := by
  obtain ⟨accepted, hverify, hiff⟩ := verifyResponse_spec digests exchange.packet data
    (encode exchange.target.secret)
  rw [h.packet, h.target] at hiff
  have htrue : accepted = true := hiff.mpr hgenuine
  have hfree : ¬ (peerOf request ≠ exchange.peer ∨ exchange.answer.isSome = true) := by
    rw [h.peer, hanswer]
    simp
  unfold move
  rw [hphase]
  dsimp only
  rw [datagramReceived, if_neg hfree, hverify, htrue]
  exact .inl ⟨rfl, left, hphase⟩

/-- The NAS stays heard until the wait runs out. -/
theorem heard_move {data : Bytes} (h : Heard data exchange) {m : ExchangeMove}
    (hm : isDeadline m = false) : Heard data (exchange.move digests retries m) := by
  rcases h with ⟨hanswer, left, hphase⟩ | ⟨result, hphase, hresult⟩
  · have hsome : exchange.answer.isSome = true := by
      rw [hanswer]
      rfl
    unfold move
    rw [hphase]
    cases m with
    | opened failure sendError => exact .inl ⟨hanswer, left, hphase⟩
    | datagram other sender =>
        dsimp only
        rw [datagramReceived, if_pos (.inr hsome)]
        exact .inl ⟨hanswer, left, hphase⟩
    | error failure =>
        dsimp only
        rw [errorReceived, if_pos hsome]
        exact .inl ⟨hanswer, left, hphase⟩
    | answered =>
        obtain ⟨result, hresult, -⟩ := resultOf_ok data
        refine .inr ⟨result, ?_, hresult⟩
        simp only [wake, hanswer, hresult]
    | deadline sendError => cases hm
  · unfold move
    rw [hphase]
    exact .inr ⟨result, hphase, hresult⟩

theorem heard_run {data : Bytes} (h : Heard data exchange)
    (hmoves : ∀ m ∈ moves, isDeadline m = false) : Heard data (run digests retries exchange moves) := by
  induction moves generalizing exchange with
  | nil => exact h
  | cons m moves ih =>
      rw [List.forall_mem_cons] at hmoves
      exact ih (heard_move h hmoves.1) hmoves.2

/-- Once it goes on, the call returns what the NAS answered. -/
theorem returned_of_heard {data : Bytes} (h : Heard data exchange) :
    ∃ result, (exchange.move digests retries .answered).phase = .returned result ∧
      resultOf (.ok data) = some result := by
  rcases h with ⟨hanswer, left, hphase⟩ | ⟨result, hphase, hresult⟩
  · obtain ⟨result, hresult, -⟩ := resultOf_ok data
    refine ⟨result, ?_, hresult⟩
    unfold move
    rw [hphase]
    simp only [wake, hanswer, hresult]
  · refine ⟨result, ?_, hresult⟩
    unfold move
    rw [hphase]
    exact hphase

theorem returned_of_genuine {before meanwhile after : List ExchangeMove} {data : Bytes} {left : Nat}
    (hphase : (run digests retries (start request) before).phase = .waiting left)
    (hanswer : (run digests retries (start request) before).answer = none)
    (hgenuine : Genuine digests request data) (htime : ∀ m ∈ meanwhile, isDeadline m = false) :
    ∃ result, (run digests retries (start request)
        (before ++ .datagram data (peerOf request) :: (meanwhile ++ .answered :: after))).phase =
          .returned result ∧ resultOf (.ok data) = some result := by
  have hhonest := (valid_run digests retries request before).1
  rw [run, List.foldl_append, List.foldl_cons, List.foldl_append, List.foldl_cons]
  rw [← run, ← run, ← run]
  have hreceived : Heard data ((run digests retries (start request) before).move digests retries
      (.datagram data (peerOf request))) := heard_datagramReceived hhonest hphase hanswer hgenuine
  have hheard := @heard_run digests retries _ meanwhile data hreceived htime
  obtain ⟨result, hreturned, hresult⟩ := @returned_of_heard digests retries _ data hheard
  exact ⟨result, by rw [run_returned hreturned, hreturned], hresult⟩

/-- What one exchange does, whatever comes in: it sends its packet at most as often as it may, returns
what the first genuine answer says or that none came in time, does not see forged datagrams, and ends
when as many waits as attempts have run out. A genuine answer that comes while it waits is returned when
the call goes on before the wait runs out. -/
theorem disconnect_trusts_nas (digests : Md5) (retries : Nat) (request : CoaRequest)
    (moves : List ExchangeMove) :
    (∃ n ≤ retries, (run digests retries (start request) moves).sent = List.replicate n request.packet) ∧
      (∀ result, (run digests retries (start request) moves).phase = .returned result →
        (result.outcome = .ack ∨ result.outcome = .nak →
          ∃ data, FirstAnswer digests request moves data ∧ resultOf (.ok data) = some result) ∧
        (result.outcome = .timeout →
          (run digests retries (start request) moves).sent.length = retries)) ∧
      (∀ before data sender after, moves = before ++ .datagram data sender :: after →
        (sender = peerOf request → ¬ Genuine digests request data) →
          run digests retries (start request) moves =
            run digests retries (start request) (before ++ after)) ∧
      (∀ before failure sendError after, moves = before ++ .opened failure sendError :: after →
        (run digests retries (start request) before).phase = .opening → 0 < retries →
          retries ≤ after.countP isDeadline →
            ∃ result, (run digests retries (start request) moves).phase = .returned result) ∧
      ∀ before data meanwhile after left,
        moves = before ++ .datagram data (peerOf request) :: (meanwhile ++ .answered :: after) →
        (run digests retries (start request) before).phase = .waiting left →
        (run digests retries (start request) before).answer = none → Genuine digests request data →
          (∀ m ∈ meanwhile, isDeadline m = false) →
            ∃ result, (run digests retries (start request) moves).phase = .returned result ∧
              resultOf (.ok data) = some result := by
  obtain ⟨hhonest, hbudget⟩ := valid_run digests retries request moves
  refine ⟨⟨_, ?_, hhonest.sent⟩, fun result hphase => ?_, ?_, ?_, ?_⟩
  · unfold Budget at hbudget
    split at hbudget
    · rw [hbudget.1]
      exact Nat.zero_le _
    · exact Nat.le.intro hbudget.1
    · exact hbudget.1
  · rw [Budget, hphase] at hbudget
    obtain ⟨-, htimeout, -⟩ := hbudget
    exact ⟨firstAnswer_of_returned hphase, htimeout⟩
  · rintro before data sender after rfl hforged
    exact run_forged hforged
  · rintro before failure sendError after rfl hopening hretries hdeadlines
    rw [run, List.foldl_append, List.foldl_cons]
    rw [← run, ← run]
    generalize run digests retries (start request) before = exchange at hopening
    refine @returned_of_deadlines digests retries _ after (retries - 1) ?_ (by omega)
    unfold move
    rw [hopening]
    cases failure with
    | some message => exact .inl ⟨_, rfl⟩
    | none =>
        exact (leftAtMost_attempt _ sendError retries).imp_right fun ⟨left, hleft, hphase⟩ =>
          ⟨left, Nat.le_sub_one_of_lt hleft, hphase⟩
  · rintro before data meanwhile after left rfl hphase hanswer hgenuine htime
    exact returned_of_genuine hphase hanswer hgenuine htime

end Exchange

end Naco
