import Naco.Events
import Naco.Lib.EventSource
import Naco.Lib.IpText

/-!
# What a dashboard sees of the events

A stream is its own affair: what the others do never shows in it. Its queue passes on what is published
while it is open, in order and each event once, and loses only what the queue has no room for. The text
it sends is read as exactly the events it took and may show. When its principal loses access, it has at
most one more chunk to send after the minute is over.
-/

namespace Naco

open Py

/-! ### One stream among the others -/

/-- What a stream and its queue depend on. -/
structure Reader where
  tables : AdminTables
  queueSize : Nat
  queue : Option (Queue Event)
  stream : EventStream

inductive ReaderMove where
  | publish (event : Event)
  | commit (tables : AdminTables)
  | own (move : StreamMove)

namespace Reader

def move (reader : Reader) : ReaderMove → Reader
  | .publish event => { reader with queue := reader.queue.map (·.offer event) }
  | .commit tables => { reader with tables }
  | .own m =>
      let next := reader.stream.step reader.tables reader.queueSize reader.queue m
      { reader with stream := next.1, queue := next.2 }

def run (reader : Reader) (moves : List ReaderMove) : Reader :=
  moves.foldl move reader

/-- The events that wait in the queue. -/
def held (reader : Reader) : List Event :=
  reader.queue.elim [] (·.items)

end Reader

def EventServer.reader? (server : EventServer) (index : Nat) : Option Reader :=
  server.streams[index]?.map fun stream =>
    ⟨server.tables, server.bus.queueSize, server.bus.subscribers.get? index, stream⟩

/-- What a move is to the stream at a place, if it is anything to it. -/
def ServerMove.heardBy (index : Nat) : ServerMove → Option ReaderMove
  | .publish event => some (.publish event)
  | .commit tables => some (.commit tables)
  | .connect _ => none
  | .stream other m => if other = index then some (.own m) else none

@[simp]
theorem queueSize_place (bus : EventBus) (index : Nat) (queue : Option (Queue Event)) :
    (bus.place index queue).queueSize = bus.queueSize := by
  cases queue <;> rfl

theorem get?_place (bus : EventBus) (index other : Nat) (queue : Option (Queue Event)) :
    (bus.place index queue).subscribers.get? other =
      if other = index then queue else bus.subscribers.get? other := by
  cases queue with
  | none => exact Dict.get?_erase bus.subscribers index other
  | some queue => exact Dict.get?_set bus.subscribers index other queue

theorem reader?_move {server : EventServer} {index : Nat} {reader : Reader}
    (h : server.reader? index = some reader) (m : ServerMove) :
    (server.move m).reader? index = some ((m.heardBy index).elim reader reader.move) := by
  unfold EventServer.reader? at h ⊢
  obtain ⟨stream, hstream, rfl⟩ := Option.map_eq_some_iff.mp h
  cases m with
  | publish event =>
      rw [EventServer.move, EventBus.publish, hstream, Option.map_some, Dict.get?_mapValues]
      rfl
  | commit tables =>
      rw [EventServer.move, hstream]
      rfl
  | connect principal =>
      obtain ⟨hlt, -⟩ := List.getElem?_eq_some_iff.mp hstream
      rw [EventServer.move, List.getElem?_append_left hlt, hstream]
      rfl
  | stream other m =>
      rw [EventServer.move, ServerMove.heardBy]
      by_cases hsame : other = index
      · subst hsame
        obtain ⟨hlt, -⟩ := List.getElem?_eq_some_iff.mp hstream
        rw [hstream, if_pos rfl]
        dsimp only
        rw [List.getElem?_set_self hlt, Option.map_some, queueSize_place, get?_place, if_pos rfl]
        rfl
      · rw [if_neg hsame]
        cases hother : server.streams[other]? with
        | none =>
            dsimp only
            rw [hstream]
            rfl
        | some stream' =>
            dsimp only
            rw [List.getElem?_set_ne hsame, hstream, Option.map_some, queueSize_place, get?_place,
              if_neg (Ne.symm hsame)]
            rfl

/-- The others make no difference. -/
theorem reader?_run {server : EventServer} {index : Nat} {reader : Reader}
    (h : server.reader? index = some reader) (moves : List ServerMove) :
    (server.run moves).reader? index = some (reader.run (moves.filterMap (·.heardBy index))) := by
  induction moves generalizing server reader with
  | nil => exact h
  | cons m moves ih =>
      rw [EventServer.run, List.foldl_cons, ← EventServer.run, ih (reader?_move h m),
        List.filterMap_cons]
      cases m.heardBy index <;> rfl

/-! ### Its text -/

/-- A chunk that is read as this message, or as none, whatever follows. -/
def Block (chunk : String) (message : Option EventSource.Message) : Prop :=
  ∀ rest, EventSource.read (chunk.toList ++ rest) = message.toList ++ EventSource.read rest

/-- The message of an event. -/
def Event.message (event : Event) : EventSource.Message :=
  ⟨event.type.value, event.payload⟩

theorem read_blocks {chunks : List String} {messages : List (Option EventSource.Message)}
    (h : List.Forall₂ Block chunks messages) :
    EventSource.read (chunks.flatMap String.toList) = messages.filterMap id := by
  induction h with
  | nil => rfl
  | @cons chunk message chunks messages hblock _ ih =>
      rw [List.flatMap_cons, hblock, ih]
      cases message <;> rfl

theorem oneLine_dumpChar (c : Char) : EventSource.OneLine (dumpChar c) := by
  have hhex (unit : Nat) : EventSource.OneLine (escapeUnit unit) := by
    have hdigit : ∀ digit < 16, ("0123456789abcdef".toList.getD digit '0') ≠ '\n' ∧
        ("0123456789abcdef".toList.getD digit '0') ≠ '\r' := by decide
    intro d hd
    simp only [escapeUnit, hex4, List.map_cons, List.map_nil, List.mem_cons, List.not_mem_nil,
      or_false] at hd
    rcases hd with rfl | rfl | rfl | rfl | rfl | rfl
    · decide
    · decide
    all_goals exact hdigit _ (Nat.mod_lt _ (by decide))
  unfold dumpChar
  split
  · next hquoted =>
      rcases hquoted with rfl | rfl <;> decide
  · split
    · next hplain =>
        intro d hd
        obtain rfl := List.mem_singleton.mp hd
        refine ⟨?_, ?_⟩ <;> rintro rfl <;> exact absurd hplain (by decide)
    · split_ifs with hn hr ht hf hb hunit
      all_goals first
        | exact hhex _
        | decide
        | skip
      intro d hd
      exact (List.mem_append.mp hd).elim (hhex _ d) (hhex _ d)

theorem oneLine_append {text text' : List Char} (h : EventSource.OneLine text)
    (h' : EventSource.OneLine text') : EventSource.OneLine (text ++ text') :=
  fun c hc => (List.mem_append.mp hc).elim (h c) (h' c)

theorem oneLine_dumpString (s : String) : EventSource.OneLine (dumpString s).toList := by
  rw [dumpString, String.toList_ofList]
  refine oneLine_append ?_ (by decide)
  intro c hc
  rcases List.mem_cons.mp hc with rfl | hc
  · decide
  · obtain ⟨d, -, hd⟩ := List.mem_flatMap.mp hc
    exact oneLine_dumpChar d c hd

theorem oneLine_toString (value : Int) : EventSource.OneLine (toString value : String).toList := by
  have hnat (n : Nat) : EventSource.OneLine (toString n : String).toList := by
    intro c hc
    rw [Nat.toString_eq_ofList_toDigits, String.toList_ofList] at hc
    have hdigit : c.isDigit = true := Nat.isDigit_of_mem_toDigits (by decide) (by decide) hc
    refine ⟨?_, ?_⟩ <;> rintro rfl <;> exact absurd hdigit (by decide)
  cases value with
  | ofNat n => exact hnat n
  | negSucc n =>
      change EventSource.OneLine ("-" ++ toString (n + 1) : String).toList
      rw [String.toList_append]
      exact oneLine_append (by decide) (hnat _)

theorem oneLine_join {sep : String} {parts : List String} (hsep : EventSource.OneLine sep.toList)
    (hparts : ∀ part ∈ parts, EventSource.OneLine part.toList) :
    EventSource.OneLine (join sep parts).toList := by
  induction parts with
  | nil =>
      rw [join, String.toList_ofList]
      exact fun c hc => absurd hc (by simp)
  | cons part parts ih =>
      have hfirst := hparts part List.mem_cons_self
      have hrest := ih fun other hother => hparts other (List.mem_cons_of_mem _ hother)
      by_cases hnone : parts = []
      · subst hnone
        rw [join, String.toList_ofList]
        simpa using hfirst
      · rw [join_cons hnone, String.toList_append, String.toList_append]
        exact oneLine_append (oneLine_append hfirst hsep) hrest

theorem oneLine_payload (event : Event) : EventSource.OneLine event.payload.toList := by
  have hvalue (value : EventValue) : EventSource.OneLine value.dumps.toList := by
    cases value with
    | none => decide
    | bool value => cases value <;> decide
    | int value => exact oneLine_toString value
    | text value => exact oneLine_dumpString value
  rw [Event.payload, String.toList_append, String.toList_append]
  refine oneLine_append (oneLine_append (by decide) ?_)
    (by decide)
  refine oneLine_join (by decide) fun part hpart => ?_
  obtain ⟨member, -, rfl⟩ := List.mem_map.mp hpart
  rw [String.toList_append, String.toList_append]
  exact oneLine_append (oneLine_append (oneLine_dumpString _) (by decide))
    (hvalue _)

theorem block_retry : Block EventStream.retryChunk none := by
  intro rest
  exact @EventSource.read_ignored "retry".toList "5000".toList
    (by decide) (by decide) (by decide)
    (by decide) rest

theorem block_keepAlive : Block EventStream.keepAliveChunk none := by
  intro rest
  exact @EventSource.read_ignored [] "keep-alive".toList (by decide)
    (by decide) (by decide) (by decide) rest

theorem block_event (event : Event) : Block (EventStream.eventChunk event) (some event.message) := by
  intro rest
  have htype : event.type.value.toList ≠ [] ∧ EventSource.OneLine event.type.value.toList := by
    cases event.type <;> decide
  have hread := EventSource.read_message htype.1 htype.2 (oneLine_payload event) rest
  rw [String.ofList_toList, String.ofList_toList] at hread
  rw [Option.toList_some, List.singleton_append, Event.message, ← hread]
  refine congrArg EventSource.read ?_
  simp [EventStream.eventChunk, EventSource.field]

/-! ### Its steps -/

/-- What a move does to a stream that was started, and to its queue. -/
inductive Advance (t : AdminTables) (stream : EventStream) (queue : Option (Queue Event)) :
    StreamMove → EventStream → Option (Queue Event) → Prop where
  | stay (m : StreamMove) : Advance t stream queue m stream queue
  | greeted (now : Int) : stream.stage = .greeting →
      Advance t stream queue (.sent now) { stream with stage := .polling now } queue
  | sent (now checked : Int) : stream.stage = .sending checked →
      Advance t stream queue (.sent now) { stream with stage := .polling checked } queue
  | due (disconnected : Bool) (now checked : Int) : stream.stage = .polling checked →
      Advance t stream queue (.polled disconnected now) { stream with stage := .checking } queue
  | fresh (disconnected : Bool) (now checked : Int) : stream.stage = .polling checked →
      now - checked ≤ 60000000 →
      Advance t stream queue (.polled disconnected now) { stream with stage := .waiting checked } queue
  | renewed (readAt now : Int) : stream.stage = .checking →
      stillValid t readAt stream.principal = true →
      Advance t stream queue (.validated readAt now) { stream with stage := .waiting now } queue
  | received (checked : Int) (event : Event) (found rest : Queue Event) :
      stream.stage = .waiting checked → queue = some found → found.take = some (event, rest) →
      Advance t stream queue .received (stream.receive event checked) (some rest)
  | timedOut (checked : Int) : stream.stage = .waiting checked →
      Advance t stream queue .timedOut (stream.send EventStream.keepAliveChunk checked) queue
  | ended (m : StreamMove) : Advance t stream queue m { stream with stage := .ended } none

theorem advance_step (t : AdminTables) (queueSize : Nat) {stream : EventStream}
    (queue : Option (Queue Event)) (hstarted : stream.stage ≠ .unstarted) (m : StreamMove) :
    Advance t stream queue m (stream.step t queueSize queue m).1 (stream.step t queueSize queue m).2 := by
  unfold EventStream.step
  cases m with
  | start =>
      rw [if_neg hstarted]
      exact .stay _
  | sent now =>
      dsimp only
      split
      · next hstage => exact .greeted now hstage
      · next checked hstage => exact .sent now checked hstage
      · exact .stay _
  | polled disconnected now =>
      dsimp only
      split
      · next checked hstage =>
          split
          · exact .ended _
          · split
            · exact .due disconnected now checked hstage
            · next hlate => exact .fresh disconnected now checked hstage (Int.not_lt.mp hlate)
      · exact .stay _
  | validated readAt now =>
      dsimp only
      split
      · next hstage =>
          split
          · next hvalid => exact .renewed readAt now hstage hvalid
          · exact .ended _
      · exact .stay _
  | received =>
      dsimp only
      split
      · next checked event rest hstage htake =>
          obtain ⟨found, hfound, htake⟩ := Option.bind_eq_some_iff.mp htake
          exact .received checked event found rest hstage hfound htake
      · exact .stay _
  | timedOut =>
      dsimp only
      split
      · next checked hstage => exact .timedOut checked hstage
      · exact .stay _
  | cancelled => exact .ended _

/-! ### What it passes on -/

def ReaderMove.event? : ReaderMove → Option Event
  | .publish event => some event
  | _ => none

/-- A stream that was started: what was published since then, what it took, and what it sent. -/
structure Follows (principal : Principal) (published : List Event) (reader : Reader) : Prop where
  same : reader.stream.principal = principal
  started : reader.stream.stage ≠ .unstarted
  subscribed : reader.queue = none ↔ reader.stream.stage = .ended
  size : ∀ queue, reader.queue = some queue → queue.maxsize = reader.queueSize
  relays : (⟨reader.queueSize, reader.held⟩ : Queue Event).Relays published reader.stream.taken
  text : ∃ messages, List.Forall₂ Block reader.stream.chunks messages ∧
    messages.filterMap id = (reader.stream.taken.filter reader.stream.shows).map Event.message

section

variable {principal : Principal} {published : List Event} {reader : Reader}

theorem Follows.withStage (h : Follows principal published reader) {stage : StreamStage}
    (hopen : reader.stream.stage ≠ .ended) (hstage : stage ≠ .unstarted ∧ stage ≠ .ended) :
    Follows principal published { reader with stream := { reader.stream with stage } } where
  same := h.same
  started := hstage.1
  subscribed := iff_of_false (fun hnone => hopen (h.subscribed.mp hnone)) hstage.2
  size := h.size
  relays := h.relays
  text := h.text

theorem Follows.stop (h : Follows principal published reader) :
    Follows principal published
      { reader with stream := { reader.stream with stage := .ended }, queue := none } where
  same := h.same
  started := by rintro ⟨⟩
  subscribed := iff_of_true rfl rfl
  size := fun _ hqueue => by cases hqueue
  relays := {
    inOrder := (List.append_nil reader.stream.taken).symm ▸
      (List.sublist_append_left _ _).trans h.relays.inOrder
    latest := List.nil_suffix
    bounded := .inr (Nat.zero_le _) }
  text := h.text

theorem Follows.send (h : Follows principal published reader) {chunk : String} (hchunk : Block chunk none)
    (hopen : reader.stream.stage ≠ .ended) (checked : Int) :
    Follows principal published { reader with stream := reader.stream.send chunk checked } where
  same := h.same
  started := by rintro ⟨⟩
  subscribed := iff_of_false (fun hnone => hopen (h.subscribed.mp hnone)) (by rintro ⟨⟩)
  size := h.size
  relays := h.relays
  text := by
    obtain ⟨messages, hblocks, hmessages⟩ := h.text
    refine ⟨messages ++ [none], List.rel_append hblocks (.cons hchunk .nil), ?_⟩
    rw [List.filterMap_append, hmessages]
    exact List.append_nil _

theorem Follows.receive (h : Follows principal published reader) {event : Event}
    {queue queue' : Queue Event} (hqueue : reader.queue = some queue)
    (htake : queue.take = some (event, queue')) (checked : Int) :
    Follows principal published
      { reader with stream := reader.stream.receive event checked, queue := some queue' } := by
  obtain ⟨hitems, hmax⟩ := Queue.take_eq_some_iff.mp htake
  have hheld : reader.held = event :: queue'.items := by
    rw [Reader.held, hqueue]
    exact hitems
  have hrelays : (⟨reader.queueSize, queue'.items⟩ : Queue Event).Relays published
      (reader.stream.taken ++ [event]) :=
    h.relays.take (Queue.take_eq_some_iff.mpr ⟨hheld, rfl⟩)
  have hsize : ∀ found, some queue' = some found → found.maxsize = reader.queueSize := by
    rintro found ⟨⟩
    rw [hmax, h.size queue hqueue]
  obtain ⟨messages, hblocks, hmessages⟩ := h.text
  unfold EventStream.receive
  dsimp only
  split
  · next hshows =>
      have hshows : reader.stream.shows event = true := hshows
      refine ⟨h.same, by rintro ⟨⟩, iff_of_false (by simp) (by rintro ⟨⟩), hsize, hrelays,
        messages ++ [some event.message], List.rel_append hblocks (.cons (block_event event) .nil), ?_⟩
      rw [List.filterMap_append, hmessages]
      change _ = ((reader.stream.taken ++ [event]).filter reader.stream.shows).map Event.message
      rw [List.filter_append, List.filter_cons_of_pos hshows, List.map_append]
      rfl
  · next hhidden =>
      have hhidden : ¬ reader.stream.shows event = true := hhidden
      refine ⟨h.same, by rintro ⟨⟩, iff_of_false (by simp) (by rintro ⟨⟩), hsize, hrelays,
        messages, hblocks, ?_⟩
      rw [hmessages]
      change _ = ((reader.stream.taken ++ [event]).filter reader.stream.shows).map Event.message
      rw [List.filter_append, List.filter_cons_of_neg hhidden, List.filter_nil, List.append_nil]

theorem Follows.publish (h : Follows principal published reader) (event : Event) :
    Follows principal (published ++ [event]) (reader.move (.publish event)) where
  same := h.same
  started := h.started
  subscribed := by
    rw [Reader.move, Option.map_eq_none_iff]
    exact h.subscribed
  size := by
    intro queue hqueue
    obtain ⟨before, hbefore, rfl⟩ := Option.map_eq_some_iff.mp hqueue
    exact h.size before hbefore
  relays := by
    cases hqueue : reader.queue with
    | none =>
        have hheld : reader.held = [] := by
          rw [Reader.held, hqueue]
          rfl
        have hheld' : (reader.move (.publish event)).held = [] := by
          rw [Reader.held, Reader.move, hqueue]
          rfl
        rw [hheld']
        have hrelays := h.relays
        rw [hheld] at hrelays
        exact ⟨hrelays.inOrder.trans (List.sublist_append_left _ _), List.nil_suffix,
          .inr (Nat.zero_le _)⟩
    | some queue =>
        have hqueue' : (⟨reader.queueSize, reader.held⟩ : Queue Event) = queue := by
          rw [Reader.held, hqueue, ← h.size queue hqueue]
          rfl
        have hheld' : (reader.move (.publish event)).held = (queue.offer event).items := by
          rw [Reader.held, Reader.move, hqueue]
          rfl
        rw [hheld']
        have hrelays := h.relays.offer event
        rw [hqueue'] at hrelays
        have hsame : (⟨reader.queueSize, (queue.offer event).items⟩ : Queue Event) = queue.offer event := by
          rw [← h.size queue hqueue]
          rfl
        rw [← hsame] at hrelays
        exact hrelays
  text := h.text

theorem follows_move (h : Follows principal published reader) (m : ReaderMove) :
    Follows principal (published ++ m.event?.toList) (reader.move m) := by
  cases m with
  | publish event => exact h.publish event
  | commit tables =>
      change Follows principal (published ++ []) _
      rw [List.append_nil]
      exact ⟨h.same, h.started, h.subscribed, h.size, h.relays, h.text⟩
  | own m =>
      change Follows principal (published ++ []) _
      rw [List.append_nil]
      have hadvance := advance_step reader.tables reader.queueSize reader.queue h.started m
      unfold Reader.move
      dsimp only
      generalize reader.stream.step reader.tables reader.queueSize reader.queue m = next at hadvance
      obtain ⟨stream, queue⟩ := next
      have hopen {stage : StreamStage} (hstage : reader.stream.stage = stage) (hne : stage ≠ .ended) :
          reader.stream.stage ≠ .ended := hstage ▸ hne
      cases hadvance with
      | stay => exact h
      | greeted now hstage =>
          exact h.withStage (hopen hstage (by rintro ⟨⟩)) ⟨by rintro ⟨⟩, by rintro ⟨⟩⟩
      | sent now checked hstage =>
          exact h.withStage (hopen hstage (by rintro ⟨⟩)) ⟨by rintro ⟨⟩, by rintro ⟨⟩⟩
      | due disconnected now checked hstage =>
          exact h.withStage (hopen hstage (by rintro ⟨⟩)) ⟨by rintro ⟨⟩, by rintro ⟨⟩⟩
      | fresh disconnected now checked hstage =>
          exact h.withStage (hopen hstage (by rintro ⟨⟩)) ⟨by rintro ⟨⟩, by rintro ⟨⟩⟩
      | renewed readAt now hstage =>
          exact h.withStage (hopen hstage (by rintro ⟨⟩)) ⟨by rintro ⟨⟩, by rintro ⟨⟩⟩
      | received checked event found rest _ hqueue htake => exact h.receive hqueue htake checked
      | timedOut checked hstage =>
          exact h.send block_keepAlive (hopen hstage (by rintro ⟨⟩)) checked
      | ended => exact h.stop

theorem follows_run (h : Follows principal published reader) (moves : List ReaderMove) :
    Follows principal (published ++ moves.filterMap ReaderMove.event?) (reader.run moves) := by
  induction moves generalizing published reader with
  | nil =>
      rw [List.filterMap_nil, List.append_nil]
      exact h
  | cons m moves ih =>
      have hnext := ih (follows_move h m)
      rw [List.append_assoc] at hnext
      rw [List.filterMap_cons]
      cases hevent : m.event? with
      | none =>
          rw [hevent, Option.toList_none, List.nil_append] at hnext
          exact hnext
      | some event =>
          rw [hevent] at hnext
          exact hnext

/-- What ended stays so. -/
theorem ended_run (hended : reader.stream.stage = .ended) (moves : List ReaderMove) :
    (reader.run moves).stream.stage = .ended := by
  induction moves generalizing reader with
  | nil => exact hended
  | cons m moves ih =>
      refine @ih (reader.move m) ?_
      cases m with
      | publish event => exact hended
      | commit tables => exact hended
      | own m =>
          unfold Reader.move EventStream.step
          rw [hended]
          cases m <;> simp [hended]

/-- As long as there is room, a move loses nothing. -/
theorem whole_move (h : Follows principal published reader) (m : ReaderMove)
    (hopen : (reader.move m).stream.stage ≠ .ended)
    (hroom : reader.queueSize = 0 ∨ reader.held.length + m.event?.toList.length ≤ reader.queueSize) :
    (reader.move m).stream.taken ++ (reader.move m).held =
        reader.stream.taken ++ reader.held ++ m.event?.toList ∧
      (reader.move m).held.length ≤ reader.held.length + m.event?.toList.length ∧
      (reader.move m).queueSize = reader.queueSize := by
  have hsame : (reader.stream.taken ++ reader.held ++ [] = reader.stream.taken ++ reader.held) :=
    List.append_nil _
  cases m with
  | commit tables => exact ⟨hsame.symm, Nat.le_add_right _ _, rfl⟩
  | publish event =>
      have hqueue : reader.queue ≠ none := fun hnone => hopen (h.subscribed.mp hnone)
      obtain ⟨queue, hqueue⟩ := Option.ne_none_iff_exists'.mp hqueue
      have hheld : reader.held = queue.items := by
        rw [Reader.held, hqueue]
        rfl
      have hheld' : (reader.move (.publish event)).held = queue.items ++ [event] := by
        rw [Reader.held, Reader.move, hqueue]
        refine Queue.items_offer ?_ event
        rw [h.size queue hqueue, ← hheld]
        exact hroom.imp_right fun hle => hle
      rw [hheld', hheld]
      refine ⟨(List.append_assoc _ _ _).symm, ?_, rfl⟩
      rw [List.length_append]
      rfl
  | own m =>
      change _ = reader.stream.taken ++ reader.held ++ [] ∧ _
      rw [hsame]
      have hadvance := advance_step reader.tables reader.queueSize reader.queue h.started m
      unfold Reader.move at hopen ⊢
      dsimp only at hopen ⊢
      generalize reader.stream.step reader.tables reader.queueSize reader.queue m = next at hadvance hopen
      obtain ⟨stream, queue⟩ := next
      cases hadvance with
      | received checked event found rest _ hqueue htake =>
          have hitems := (Queue.take_eq_some_iff.mp htake).1
          have hheld : reader.held = event :: rest.items := by
            rw [Reader.held, hqueue]
            exact hitems
          have htaken : (reader.stream.receive event checked).taken = reader.stream.taken ++ [event] := by
            unfold EventStream.receive
            dsimp only
            split <;> rfl
          change (reader.stream.receive event checked).taken ++ rest.items = _ ∧ rest.items.length ≤ _ ∧ _
          rw [htaken, hheld]
          refine ⟨List.append_assoc _ _ _, ?_, rfl⟩
          exact (Nat.le_succ rest.items.length).trans (Nat.le_add_right _ _)
      | ended => exact absurd rfl hopen
      | stay => exact ⟨rfl, Nat.le_add_right _ _, rfl⟩
      | greeted => exact ⟨rfl, Nat.le_add_right _ _, rfl⟩
      | sent => exact ⟨rfl, Nat.le_add_right _ _, rfl⟩
      | due => exact ⟨rfl, Nat.le_add_right _ _, rfl⟩
      | fresh => exact ⟨rfl, Nat.le_add_right _ _, rfl⟩
      | renewed => exact ⟨rfl, Nat.le_add_right _ _, rfl⟩
      | timedOut => exact ⟨rfl, Nat.le_add_right _ _, rfl⟩

/-- A stream that has room for all that is published misses nothing of it. -/
theorem whole_run (h : Follows principal published reader) (moves : List ReaderMove)
    (hopen : (reader.run moves).stream.stage ≠ .ended)
    (hroom : reader.queueSize = 0 ∨
      reader.held.length + (moves.filterMap ReaderMove.event?).length ≤ reader.queueSize) :
    (reader.run moves).stream.taken ++ (reader.run moves).held =
      reader.stream.taken ++ reader.held ++ moves.filterMap ReaderMove.event? := by
  induction moves generalizing published reader with
  | nil => exact (List.append_nil _).symm
  | cons m moves ih =>
      have hnext : (reader.move m).stream.stage ≠ .ended := fun hended => hopen (ended_run hended moves)
      have hevents : (m :: moves).filterMap ReaderMove.event? =
          m.event?.toList ++ moves.filterMap ReaderMove.event? := by
        rw [List.filterMap_cons]
        cases m.event? <;> rfl
      rw [hevents, List.length_append] at hroom
      obtain ⟨hwhole, hheld, hsize⟩ := whole_move h m hnext (hroom.imp_right fun hle => by omega)
      have hrest := ih (follows_move h m) hopen (by
        rw [hsize]
        exact hroom.imp_right fun hle => by omega)
      rw [hevents, ← List.append_assoc, ← hwhole]
      exact hrest

end

def ServerMove.event? : ServerMove → Option Event
  | .publish event => some event
  | _ => none

/-- The events that were published, in their order. -/
def published (moves : List ServerMove) : List Event :=
  moves.filterMap ServerMove.event?

theorem filterMap_heardBy (index : Nat) (moves : List ServerMove) :
    (moves.filterMap (·.heardBy index)).filterMap ReaderMove.event? = published moves := by
  rw [List.filterMap_filterMap, published]
  refine List.filterMap_congr fun m _ => ?_
  cases m with
  | publish event => rfl
  | commit tables => rfl
  | connect principal => rfl
  | stream other m =>
      rw [ServerMove.heardBy]
      split <;> rfl

theorem queueSize_run (reader : Reader) (moves : List ReaderMove) :
    (reader.run moves).queueSize = reader.queueSize := by
  induction moves generalizing reader with
  | nil => rfl
  | cons m moves ih =>
      refine (ih (reader.move m)).trans ?_
      cases m <;> rfl

theorem shows_of_principal {stream stream' : EventStream} (h : stream.principal = stream'.principal) :
    stream.shows = stream'.shows := by
  funext event
  unfold EventStream.shows EventStream.seesAudit
  rw [h]

theorem follows_start (t : AdminTables) (queueSize : Nat) (queue : Option (Queue Event))
    {stream : EventStream} (hnew : stream.stage = .unstarted) :
    Follows stream.principal [] (Reader.move ⟨t, queueSize, queue, stream⟩ (.own .start)) := by
  have hmove : Reader.move ⟨t, queueSize, queue, stream⟩ (.own .start) =
      ⟨t, queueSize, some ⟨queueSize, []⟩,
        { principal := stream.principal, stage := .greeting, chunks := [EventStream.retryChunk] }⟩ := by
    unfold Reader.move EventStream.step
    dsimp only
    rw [if_pos hnew]
  rw [hmove]
  refine ⟨rfl, by rintro ⟨⟩, iff_of_false (by simp) (by rintro ⟨⟩), ?_, Queue.relays_new queueSize,
    [none], .cons block_retry .nil, rfl⟩
  rintro found ⟨⟩
  rfl

/-- What a stream has been sent, whatever is published, whatever others do and however slowly its client
reads: its text is read as the events that it took and may show, which with those in its queue came in
order. The queue holds the latest of them and is no longer than it may be, and from any moment on
nothing is lost as long as it has room. What the others do makes no difference. -/
theorem events_relayed (server : EventServer) (index : Nat) (stream : EventStream)
    (hstream : server.streams[index]? = some stream) (hnew : stream.stage = .unstarted)
    (moves : List ServerMove) :
    ∃ reader, ((server.move (.stream index .start)).run moves).reader? index = some reader ∧
      EventSource.read (reader.stream.chunks.flatMap String.toList) =
        (reader.stream.taken.filter stream.shows).map Event.message ∧
      (reader.stream.taken ++ reader.held).Sublist (published moves) ∧
      reader.held <:+ published moves ∧
      (server.bus.queueSize = 0 ∨ reader.held.length ≤ server.bus.queueSize) ∧
      (reader.queue = none ↔ reader.stream.stage = .ended) ∧
      (∀ more, (server.bus.queueSize = 0 ∨
          reader.held.length + (published more).length ≤ server.bus.queueSize) →
        ∃ later, ((server.move (.stream index .start)).run (moves ++ more)).reader? index = some later ∧
          (later.stream.stage ≠ .ended →
            later.stream.taken ++ later.held = reader.stream.taken ++ reader.held ++ published more)) ∧
      ∀ others, others.filterMap (·.heardBy index) = moves.filterMap (·.heardBy index) →
        ((server.move (.stream index .start)).run others).reader? index = some reader := by
  have hreader : server.reader? index =
      some ⟨server.tables, server.bus.queueSize, server.bus.subscribers.get? index, stream⟩ := by
    rw [EventServer.reader?, hstream]
    rfl
  have hstarted := reader?_move hreader (.stream index .start)
  rw [ServerMove.heardBy, if_pos rfl, Option.elim_some] at hstarted
  have hfollows := follows_start server.tables server.bus.queueSize (server.bus.subscribers.get? index) hnew
  have hsize : (Reader.move ⟨server.tables, server.bus.queueSize, server.bus.subscribers.get? index, stream⟩
      (.own .start)).queueSize = server.bus.queueSize := rfl
  generalize Reader.move ⟨server.tables, server.bus.queueSize, server.bus.subscribers.get? index, stream⟩
    (.own .start) = start at hstarted hfollows hsize
  have hrun := follows_run hfollows (moves.filterMap (·.heardBy index))
  rw [filterMap_heardBy, List.nil_append] at hrun
  refine ⟨_, reader?_run hstarted moves, ?_, hrun.relays.inOrder, hrun.relays.latest, ?_, hrun.subscribed,
    fun more hroom => ⟨_, reader?_run hstarted _, fun hopen => ?_⟩, fun others hsame => ?_⟩
  · obtain ⟨messages, hblocks, hmessages⟩ := hrun.text
    rw [read_blocks hblocks, hmessages, shows_of_principal hrun.same]
  · rw [← hsize, ← queueSize_run start (moves.filterMap (·.heardBy index))]
    exact hrun.relays.bounded
  · rw [List.filterMap_append, Reader.run, List.foldl_append, ← Reader.run, ← Reader.run] at hopen ⊢
    rw [whole_run hrun _ hopen ?_, filterMap_heardBy]
    rw [filterMap_heardBy, queueSize_run, hsize]
    exact hroom
  · rw [reader?_run hstarted others, hsame]

def vera : Principal where
  kind := .session
  username := "vera"
  role := .viewer
  sessionId := some 3

/-- The stream of a viewer, and no other. -/
def viewerDashboard (stage : StreamStage) : EventServer where
  streams := [{ principal := vera, stage }]

/-- An audit record and a new station. -/
def auditThenStation : List Event := [
  { type := .audit, data := Dict.single "action" (.text "user.create"), ts := 63850334400000000 },
  { type := .device, data := Dict.single "mac" (.text "aa:bb:cc:00:00:01"), ts := 63850334400000000 }]

theorem events_relayed_viewer :
    ∃ reader, (((viewerDashboard .unstarted).move (.stream 0 .start)).run
        (auditThenStation.map .publish ++ [.stream 0 (.sent 0), .stream 0 (.polled false 0),
          .stream 0 .received, .stream 0 (.polled false 0), .stream 0 .received])).reader? 0 = some reader ∧
      EventSource.read (reader.stream.chunks.flatMap String.toList) =
        (reader.stream.taken.filter (·.type ≠ .audit)).map Event.message := by
  obtain ⟨reader, hreader, htext, -⟩ := events_relayed (viewerDashboard .unstarted) 0
    { principal := vera } rfl rfl
    (auditThenStation.map .publish ++ [.stream 0 (.sent 0), .stream 0 (.polled false 0),
      .stream 0 .received, .stream 0 (.polled false 0), .stream 0 .received])
  refine ⟨reader, hreader, htext.trans ?_⟩
  refine congrArg (List.map Event.message) (List.filter_congr fun event _ => ?_)
  exact Bool.or_false _

/-! ### The end of its access -/

/-- The principal has a session that runs, of an administrator who may sign in, or a token that is
good. -/
def Entitled (t : AdminTables) (now : Int) (principal : Principal) : Prop :=
  match principal.sessionId, principal.tokenId with
  | some id, _ => ∃ session ∈ t.sessions, session.id = id ∧ now < session.expiresAt ∧
      ∃ admin ∈ t.admins, admin.id = session.adminId ∧ admin.enabled = true
  | none, some id => ∃ token, t.tokens.find? (·.id = id) = some token ∧ token.revokedAt = none ∧
      ∀ expiry, token.expiresAt = some expiry → now < expiry
  | none, none => False

theorem stillValid_iff {t : AdminTables} {now : Int} {principal : Principal} :
    stillValid t now principal = true ↔ Entitled t now principal := by
  unfold stillValid Entitled
  cases principal.sessionId with
  | some id => simp [and_assoc]
  | none =>
      cases principal.tokenId with
      | none => simp
      | some id => simp [Option.any_eq_true, Option.all_eq_true]

/-- The stream was greeted, and its last check was not later than that. -/
def StreamStage.CheckedBy (latest : Int) : StreamStage → Prop
  | .unstarted | .greeting => False
  | .polling checked | .waiting checked | .sending checked => checked ≤ latest
  | .checking | .ended => True

/-- The chunks a stream may still send without another look at the clock. -/
def StreamStage.credit : StreamStage → Nat
  | .waiting _ => 1
  | _ => 0

section

variable {t : AdminTables} {stream next : EventStream} {queue queue' : Option (Queue Event)} {latest : Int}
  {m : StreamMove}

/-- A stream that polls when the minute is over checks, and the check ends it. -/
theorem spent_advance (h : Advance t stream queue m next queue')
    (hchecked : stream.stage.CheckedBy latest)
    (hlate : ∀ disconnected now, m = .polled disconnected now → latest + 60000000 < now)
    (hgone : ∀ readAt now, m = .validated readAt now → ¬ Entitled t readAt stream.principal) :
    next.principal = stream.principal ∧ next.stage.CheckedBy latest ∧
      next.chunks.length + next.stage.credit ≤ stream.chunks.length + stream.stage.credit := by
  cases h with
  | stay => exact ⟨rfl, hchecked, le_rfl⟩
  | greeted now hstage =>
      rw [hstage] at hchecked
      exact hchecked.elim
  | sent now checked hstage =>
      rw [hstage] at hchecked ⊢
      exact ⟨rfl, hchecked, le_rfl⟩
  | due disconnected now checked hstage =>
      rw [hstage]
      exact ⟨rfl, trivial, le_rfl⟩
  | fresh disconnected now checked hstage hfresh =>
      rw [hstage] at hchecked
      have hnow := hlate disconnected now rfl
      have hchecked : checked ≤ latest := hchecked
      omega
  | renewed readAt now hstage hvalid =>
      exact absurd (stillValid_iff.mp hvalid) (hgone readAt now rfl)
  | received checked event found rest hstage =>
      rw [hstage] at hchecked ⊢
      unfold EventStream.receive
      dsimp only
      split
      · refine ⟨rfl, hchecked, ?_⟩
        change (stream.chunks ++ [_]).length + 0 ≤ _
        rw [List.length_append]
        exact le_rfl
      · exact ⟨rfl, hchecked, Nat.le_succ _⟩
  | timedOut checked hstage =>
      rw [hstage] at hchecked ⊢
      refine ⟨rfl, hchecked, ?_⟩
      change (stream.chunks ++ [_]).length + 0 ≤ _
      rw [List.length_append]
      exact le_rfl
  | ended => exact ⟨rfl, trivial, Nat.add_le_add_left (Nat.zero_le _) _⟩

/-- After such a poll nothing but the check is left. -/
theorem closing_advance (h : Advance t stream queue m next queue')
    (hclosing : stream.stage = .checking ∨ stream.stage = .ended)
    (hgone : ∀ readAt now, m = .validated readAt now → ¬ Entitled t readAt stream.principal) :
    next.stage = .checking ∨ next.stage = .ended := by
  have hno {stage : StreamStage} (hstage : stream.stage = stage) (hne : stage ≠ .checking)
      (hne' : stage ≠ .ended) : False := by
    rw [hstage] at hclosing
    exact hclosing.elim hne hne'
  cases h with
  | stay => exact hclosing
  | greeted now hstage => exact (hno hstage (by rintro ⟨⟩) (by rintro ⟨⟩)).elim
  | sent now checked hstage => exact (hno hstage (by rintro ⟨⟩) (by rintro ⟨⟩)).elim
  | due => exact .inl rfl
  | fresh disconnected now checked hstage => exact (hno hstage (by rintro ⟨⟩) (by rintro ⟨⟩)).elim
  | renewed readAt now hstage hvalid => exact absurd (stillValid_iff.mp hvalid) (hgone readAt now rfl)
  | received checked event found rest hstage => exact (hno hstage (by rintro ⟨⟩) (by rintro ⟨⟩)).elim
  | timedOut checked hstage => exact (hno hstage (by rintro ⟨⟩) (by rintro ⟨⟩)).elim
  | ended => exact .inr rfl

end

/-- From here on the polls come after the minute, and the checks do not find the principal entitled. -/
structure Revoked (latest : Int) (reader : Reader) (moves : List ReaderMove) : Prop where
  late : ∀ disconnected now, .own (.polled disconnected now) ∈ moves → latest + 60000000 < now
  gone : ∀ t, t = reader.tables ∨ .commit t ∈ moves →
    ∀ readAt now, .own (.validated readAt now) ∈ moves → ¬ Entitled t readAt reader.stream.principal

section

variable {latest : Int} {reader : Reader} {m : ReaderMove} {moves : List ReaderMove}

/-- The next move is spent, and leaves the same for the others. -/
theorem Revoked.move (h : Revoked latest reader (m :: moves))
    (hchecked : reader.stream.stage.CheckedBy latest) :
    Revoked latest (reader.move m) moves ∧ (reader.move m).stream.principal = reader.stream.principal ∧
      (reader.move m).stream.stage.CheckedBy latest ∧
      (reader.move m).stream.chunks.length + (reader.move m).stream.stage.credit ≤
        reader.stream.chunks.length + reader.stream.stage.credit ∧
      (reader.stream.stage = .checking ∨ reader.stream.stage = .ended →
        (reader.move m).stream.stage = .checking ∨ (reader.move m).stream.stage = .ended) := by
  have hlate : ∀ disconnected now, .own (.polled disconnected now) ∈ moves → latest + 60000000 < now :=
    fun disconnected now hmem => h.late disconnected now (List.mem_cons_of_mem _ hmem)
  have hgone : ∀ t, t = reader.tables ∨ .commit t ∈ moves → ∀ readAt now,
      .own (.validated readAt now) ∈ moves → ¬ Entitled t readAt reader.stream.principal :=
    fun t ht readAt now hmem => h.gone t (ht.imp_right (List.mem_cons_of_mem _)) readAt now
      (List.mem_cons_of_mem _ hmem)
  cases m with
  | publish event => exact ⟨⟨hlate, hgone⟩, rfl, hchecked, le_rfl, id⟩
  | commit tables =>
      refine ⟨⟨hlate, fun t ht readAt now hmem => ?_⟩, rfl, hchecked, le_rfl, id⟩
      refine h.gone t (.inr ?_) readAt now (List.mem_cons_of_mem _ hmem)
      rcases ht with rfl | ht
      · exact List.mem_cons_self
      · exact List.mem_cons_of_mem _ ht
  | own m =>
      have hstarted : reader.stream.stage ≠ .unstarted := by
        intro hstage
        rw [hstage] at hchecked
        exact hchecked
      have hadvance := advance_step reader.tables reader.queueSize reader.queue hstarted m
      have hgone' : ∀ readAt now, m = .validated readAt now →
          ¬ Entitled reader.tables readAt reader.stream.principal := by
        rintro readAt now rfl
        exact h.gone _ (.inl rfl) readAt now List.mem_cons_self
      obtain ⟨hsame, hchecked', hcredit⟩ := spent_advance hadvance hchecked (by
        rintro disconnected now rfl
        exact h.late disconnected now List.mem_cons_self) hgone'
      refine ⟨⟨hlate, ?_⟩, hsame, hchecked', hcredit, fun hclosing => closing_advance hadvance hclosing hgone'⟩
      rw [Reader.move, hsame]
      exact hgone

theorem spent_run {after : List ReaderMove} (h : Revoked latest reader (moves ++ after))
    (hchecked : reader.stream.stage.CheckedBy latest) :
    Revoked latest (reader.run moves) after ∧ (reader.run moves).stream.stage.CheckedBy latest ∧
      (reader.run moves).stream.chunks.length + (reader.run moves).stream.stage.credit ≤
        reader.stream.chunks.length + reader.stream.stage.credit ∧
      (reader.stream.stage = .checking ∨ reader.stream.stage = .ended →
        (reader.run moves).stream.stage = .checking ∨ (reader.run moves).stream.stage = .ended) := by
  induction moves generalizing reader with
  | nil => exact ⟨h, hchecked, le_rfl, id⟩
  | cons m moves ih =>
      obtain ⟨hrest, -, hchecked', hcredit, hclosing⟩ := h.move hchecked
      obtain ⟨hafter, hlast, hcredit', hclosing'⟩ := ih hrest hchecked'
      exact ⟨hafter, hlast, hcredit'.trans hcredit, fun hstage => hclosing' (hclosing hstage)⟩

/-- A poll after the minute. -/
theorem closing_of_polled {checked now : Int} {disconnected : Bool}
    (hstage : reader.stream.stage = .polling checked) (hchecked : reader.stream.stage.CheckedBy latest)
    (hnow : latest + 60000000 < now) :
    (reader.move (.own (.polled disconnected now))).stream.stage = .checking ∨
      (reader.move (.own (.polled disconnected now))).stream.stage = .ended := by
  rw [hstage] at hchecked
  have hchecked : checked ≤ latest := hchecked
  unfold Reader.move EventStream.step
  simp only [hstage]
  split
  · exact .inr rfl
  · rw [if_pos (by omega)]
    exact .inl rfl

/-- The check that follows. -/
theorem ended_of_validated {readAt now : Int}
    (hclosing : reader.stream.stage = .checking ∨ reader.stream.stage = .ended)
    (hgone : ¬ Entitled reader.tables readAt reader.stream.principal) :
    (reader.move (.own (.validated readAt now))).stream.stage = .ended := by
  unfold Reader.move EventStream.step
  dsimp only
  rcases hclosing with hstage | hstage
  · rw [if_pos hstage, if_neg fun hvalid => hgone (stillValid_iff.mp hvalid)]
  · rw [if_neg (by rw [hstage]; rintro ⟨⟩)]
    exact hstage

end

theorem mem_of_own {index : Nat} {moves : List ServerMove} {m : StreamMove}
    (h : .own m ∈ moves.filterMap (·.heardBy index)) : .stream index m ∈ moves := by
  obtain ⟨heard, hmem, hheard⟩ := List.mem_filterMap.mp h
  cases heard with
  | publish event => cases hheard
  | commit tables => cases hheard
  | connect principal => cases hheard
  | stream other own =>
      rw [ServerMove.heardBy] at hheard
      split at hheard
      · next hsame =>
          cases hheard
          exact hsame ▸ hmem
      · cases hheard

theorem mem_of_commit {index : Nat} {moves : List ServerMove} {t : AdminTables}
    (h : .commit t ∈ moves.filterMap (·.heardBy index)) : .commit t ∈ moves := by
  obtain ⟨heard, hmem, hheard⟩ := List.mem_filterMap.mp h
  cases heard with
  | publish event => cases hheard
  | commit tables =>
      cases hheard
      exact hmem
  | connect principal => cases hheard
  | stream other own =>
      rw [ServerMove.heardBy] at hheard
      split at hheard <;> cases hheard

/-- When a principal loses its access, its dashboard sees at most one more chunk after the minute: the
one its stream was about to send. The first check after that ends the stream. -/
theorem stream_ends_with_access (server : EventServer) (index : Nat) (stream : EventStream)
    (hstream : server.streams[index]? = some stream) (latest : Int)
    (hchecked : stream.stage.CheckedBy latest) (moves : List ServerMove)
    (hlate : ∀ disconnected now, .stream index (.polled disconnected now) ∈ moves →
      latest + 60000000 < now)
    (hgone : ∀ t, t = server.tables ∨ .commit t ∈ moves → ∀ readAt now,
      .stream index (.validated readAt now) ∈ moves → ¬ Entitled t readAt stream.principal) :
    ∃ reader, (server.run moves).reader? index = some reader ∧
      reader.stream.chunks.length ≤ stream.chunks.length + stream.stage.credit ∧
      ∀ first second third disconnected now readAt now',
        moves = first ++ .stream index (.polled disconnected now) ::
          (second ++ .stream index (.validated readAt now') :: third) →
        (∃ polled checked, (server.run first).reader? index = some polled ∧
          polled.stream.stage = .polling checked) → reader.stream.stage = .ended := by
  have hreader : server.reader? index =
      some ⟨server.tables, server.bus.queueSize, server.bus.subscribers.get? index, stream⟩ := by
    rw [EventServer.reader?, hstream]
    rfl
  have hrevoked : Revoked latest
      ⟨server.tables, server.bus.queueSize, server.bus.subscribers.get? index, stream⟩
      (moves.filterMap (·.heardBy index)) := by
    exact ⟨fun disconnected now hmem => hlate disconnected now (mem_of_own hmem),
      fun t ht readAt now hmem => hgone t (ht.imp_right mem_of_commit) readAt now (mem_of_own hmem)⟩
  have hsame : (Reader.mk server.tables server.bus.queueSize (server.bus.subscribers.get? index)
      stream).stream = stream := rfl
  generalize (⟨server.tables, server.bus.queueSize, server.bus.subscribers.get? index, stream⟩ : Reader) =
    reader at hreader hrevoked hsame
  subst hsame
  refine ⟨_, reader?_run hreader moves, ?_, ?_⟩
  · rw [← List.append_nil (moves.filterMap _)] at hrevoked
    obtain ⟨-, -, hcredit, -⟩ := spent_run hrevoked hchecked
    exact (Nat.le_add_right _ _).trans hcredit
  · rintro first second third disconnected now readAt now' rfl ⟨polled, checked, hpolled, hstage⟩
    obtain rfl := Option.some.inj ((reader?_run hreader first).symm.trans hpolled)
    have hown (m : StreamMove) : ServerMove.heardBy index (.stream index m) = some (.own m) := if_pos rfl
    rw [List.filterMap_append, List.filterMap_cons_some (hown _), List.filterMap_append,
      List.filterMap_cons_some (hown _)] at hrevoked ⊢
    generalize first.filterMap (·.heardBy index) = first at hrevoked hstage ⊢
    generalize second.filterMap (·.heardBy index) = second at hrevoked ⊢
    generalize third.filterMap (·.heardBy index) = third at hrevoked ⊢
    obtain ⟨hfirst, hchecked', -, -⟩ := spent_run hrevoked hchecked
    have hclosing := @closing_of_polled latest _ checked now disconnected hstage hchecked'
      (hfirst.late disconnected now List.mem_cons_self)
    obtain ⟨hrest, -, hchecked'', -, -⟩ := hfirst.move hchecked'
    obtain ⟨hlast, -, -, hstays⟩ := spent_run hrest hchecked''
    rw [Reader.run, List.foldl_append, List.foldl_cons, List.foldl_append, List.foldl_cons]
    exact ended_run (ended_of_validated (hstays hclosing)
      (hlast.gone _ (.inl rfl) readAt now' List.mem_cons_self)) third

/-- The viewer's session is deleted while its stream waits for an event. -/
theorem stream_ends_with_access_viewer :
    ∃ reader, ((viewerDashboard (.waiting 0)).run [.stream 0 .timedOut, .stream 0 (.sent 61000000),
        .stream 0 (.polled false 61000000), .stream 0 (.validated 61000000 61000000)]).reader? 0 =
          some reader ∧
      reader.stream.chunks.length ≤ 1 ∧ reader.stream.stage = .ended := by
  have hlate : ∀ disconnected now, .stream 0 (.polled disconnected now) ∈
      ([.stream 0 .timedOut, .stream 0 (.sent 61000000), .stream 0 (.polled false 61000000),
        .stream 0 (.validated 61000000 61000000)] : List ServerMove) → (0 : Int) + 60000000 < now := by
    intro disconnected now hmem
    simp only [List.mem_cons, ServerMove.stream.injEq, StreamMove.polled.injEq, reduceCtorEq, and_false,
      List.not_mem_nil, or_false, false_or, true_and] at hmem
    omega
  obtain ⟨reader, hreader, hchunks, hended⟩ := stream_ends_with_access (viewerDashboard (.waiting 0)) 0
    { principal := vera, stage := .waiting 0 } rfl 0 (le_refl (0 : Int))
    [.stream 0 .timedOut, .stream 0 (.sent 61000000), .stream 0 (.polled false 61000000),
      .stream 0 (.validated 61000000 61000000)] hlate (by
      rintro t ht readAt now - ⟨session, hsession, -⟩
      have hnone : t = {} := by simpa [viewerDashboard] using ht
      subst hnone
      cases hsession)
  refine ⟨reader, hreader, hchunks, hended [.stream 0 .timedOut, .stream 0 (.sent 61000000)] [] [] _ _ _ _
    rfl ⟨_, 0, rfl, rfl⟩⟩

end Naco
