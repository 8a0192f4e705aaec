/-
**Nothing waits for ever.**

Wherever the two programs are, one write and one read on each side deliver everything (`Wire.drain`): the
server handles every frame that the client has sent, and the client routes every message that was appended for
it, unless it leaves its loop at a reply after which it disconnects, or at a message that is too long
(`four_calls_deliver`). The client writes only if it has something to write, and reads only if something has
arrived.

* `flush_all` — a write that takes everything leaves nothing in the output;
* `eq_nil_of_waits` — a buffer without a complete line holds no whole frame.
-/

import MyTeams.Guarantees.WireRefinement

namespace MyTeams

open Transition Words

/-! ### One call each -/

theorem TcpClient.flush_all (client : TcpClient) :
    (client.flushPendingWrites [.ok client.offered.length]).1 = .drained ∧
      (client.flushPendingWrites [.ok client.offered.length]).2.offered = [] := by
  unfold flushPendingWrites
  by_cases pending : client.hasPendingWrites = true
  · have all : client.offered.take client.offered.length = client.offered := List.take_length
    have some : ¬ client.offered.length = 0 := fun none =>
      hasPendingWrites_iff.mp pending (List.length_eq_zero_iff.mp none)
    have drained : ¬ (client.write client.offered.length).hasPendingWrites = true := by
      rw [hasPendingWrites_iff, not_not]
      show client.pendingWrites.drop (client.pendingOffset + (client.offered.take _).length) = []
      rw [all, ← List.drop_drop]
      exact List.drop_length
    rw [if_pos pending]
    simp only [all, if_neg some, flushPendingWrites, if_neg drained, true_and]
    rfl
  · rw [if_neg pending]
    exact ⟨rfl, rfl⟩

namespace ClientLoop

variable {loop : ClientLoop}

/-- The client writes all that it has. -/
theorem handleEvent_flush (ready : loop.Ready) (running : loop.phase = .running)
    {answers : ClientAnswers} (writes : answers.writes = [.ok loop.client.offered.length]) :
    let after := loop.handleEvent ({ fd := loop.socketFd, pollOut := loop.client.hasPendingWrites }, answers)
    after.phase = .running ∧ after.client.offered = [] := by
  intro after
  have other : loop.socketFd ≠ stdinFileno := ready.socket
  have handled : after = ((if loop.client.hasPendingWrites then loop.flush answers.writes else loop).andThen
      fun loop => loop).andThen updateServerWatchedEvents := by
    show loop.handleEvent _ = _
    unfold handleEvent
    rw [andThen_of_running running]
    simp only [if_neg other, if_true]
    rfl
  have written : (if loop.client.hasPendingWrites then loop.flush answers.writes else loop).phase = .running ∧
      (if loop.client.hasPendingWrites then loop.flush answers.writes else loop).client.offered = [] := by
    split_ifs with pending
    · obtain ⟨drained, empty⟩ := loop.client.flush_all
      unfold flush
      rw [writes]
      generalize loop.client.flushPendingWrites [.ok loop.client.offered.length] = flushed at drained empty
      obtain ⟨outcome, client⟩ := flushed
      simp only at drained empty
      subst drained
      exact ⟨running, empty⟩
    · rw [TcpClient.hasPendingWrites_iff, not_not] at pending
      exact ⟨running, pending⟩
  rw [andThen_of_running written.1] at handled
  obtain ⟨client, -, phase⟩ := andThen_update_same
    (if loop.client.hasPendingWrites then loop.flush answers.writes else loop)
  rw [handled, client, phase]
  exact written

end ClientLoop

/-- A buffer without a complete line holds no whole frame. -/
theorem eq_nil_of_waits {α : Type} (text : α → Bytes) {items : List α} {buffer : Bytes}
    (waits : tail (· = newline) buffer = buffer)
    (whole : buffer = items.flatMap fun item => text item ++ [carriageReturn, newline]) : items = [] := by
  cases items with
  | nil => rfl
  | cons item rest =>
    have inside : newline ∈ buffer := by
      rw [whole]
      simp
    have clean := tail_clean buffer newline (waits.symm ▸ inside)
    exact absurd clean (by decide)

/-! ### Why a client stops reading -/

namespace ServerReader

theorem consume_disconnected {texts : List Bytes} {router : ServerMessageRouter}
    (ended : (consume texts router).1 = .disconnected) :
    (consume texts router).2.2.shouldDisconnect = true := by
  induction texts generalizing router with
  | nil => cases ended
  | cons line rest ih =>
    rw [consume] at ended ⊢
    by_cases long : maxServerFrameSize < line.length
    · rw [if_pos long] at ended
      cases ended
    rw [if_neg long] at ended ⊢
    by_cases asks : (router.routeFrame (StdinLoop.popReturn line)).shouldDisconnect = true
    · simp only [if_pos asks]
      exact asks
    · simp only [if_neg asks] at ended ⊢
      exact ih ended

theorem consume_oversized {texts : List Bytes} {router : ServerMessageRouter}
    (ended : (consume texts router).1 = .oversized) : ∃ line ∈ texts, maxServerFrameSize < line.length := by
  induction texts generalizing router with
  | nil => cases ended
  | cons line rest ih =>
    rw [consume] at ended
    by_cases long : maxServerFrameSize < line.length
    · exact ⟨line, List.mem_cons_self, long⟩
    rw [if_neg long] at ended
    by_cases asks : (router.routeFrame (StdinLoop.popReturn line)).shouldDisconnect = true
    · simp only [if_pos asks] at ended
      cases ended
    · simp only [if_neg asks] at ended
      obtain ⟨later, member, long⟩ := ih ended
      exact ⟨later, List.mem_cons_of_mem _ member, long⟩

end ServerReader

namespace Wire

/-! ### Four calls -/

/-- The client writes, if it has something to write. -/
def flushAll (wire : Wire) : WireEvent :=
  .client { fd := wire.loop.socketFd, pollOut := wire.loop.client.hasPendingWrites } none [] 0
    [.ok wire.loop.client.offered.length]

/-- The client reads, if something has arrived. -/
def readAll (wire : Wire) : WireEvent :=
  .client { fd := wire.loop.socketFd, pollIn := !wire.downstream.isEmpty } none [] wire.downstream.length []

/-- **One write and one read on each side**, of everything that is there. -/
def drain (env : Env) (fd : Int) (wire : Wire) : List WireEvent :=
  let sent := wire.step env fd wire.flushAll
  let handled := sent.step env fd (.read sent.upstream.length)
  let written := handled.step env fd (.write (handled.server.writeBuffer fd).length)
  [wire.flushAll, .read sent.upstream.length, .write (handled.server.writeBuffer fd).length, written.readAll]

section Drain

variable {env : Env} {fd : Int} {wire : Wire} {link : Link}

/-- Behind a read of everything, no frame is left. -/
theorem requests_of_read (related : Related fd wire link) (empty : wire.loop.client.offered = [])
    (arrived : wire.upstream = []) : link.requests = [] := by
  have stream := related.upstream
  rw [empty, arrived, List.append_nil, List.append_nil] at stream
  exact eq_nil_of_waits id related.waits stream

/-- Nothing is on its way to the server. -/
structure Gathered (wire : Wire) : Prop where
  running : wire.loop.phase = .running
  offered : wire.loop.client.offered = []
  upstream : wire.upstream = []

/-- **The client writes, the server reads.** -/
theorem gathered_drain (related : Related fd wire link) (running : wire.loop.phase = .running) :
    let sent := wire.step env fd wire.flushAll
    Gathered (sent.step env fd (.read sent.upstream.length)) := by
  intro sent
  obtain ⟨goesOn, empty⟩ := ClientLoop.handleEvent_flush related.ready running
    (show (wire.answers none [] 0 [.ok wire.loop.client.offered.length]).writes = _ from rfl)
  have loop : (sent.step env fd (.read sent.upstream.length)).loop = sent.loop := by
    simp only [step]
    split_ifs <;> rfl
  refine ⟨loop ▸ goesOn, loop ▸ empty, ?_⟩
  simp only [step]
  split_ifs with none
  · exact none
  · exact List.drop_eq_nil_of_le (Nat.le_succ _)

/-- Until the client reads: nothing is on its way to the server, and everything is on its way to the client. -/
structure Written (fd : Int) (wire : Wire) (link : Link) : Prop extends Related fd wire link where
  running : wire.loop.phase = .running
  none : link.requests = []
  taken : wire.server.writeBuffer fd = []

/-- **The server writes.** -/
theorem written_drain (related : Related fd wire link) (gathered : Gathered wire) :
    ∃ link, Written fd (wire.step env fd (.write (wire.server.writeBuffer fd).length)) link := by
  have next := @related_step env fd wire link related (.write (wire.server.writeBuffer fd).length)
  refine ⟨_, next, gathered.running, requests_of_read next gathered.offered gathered.upstream, ?_⟩
  show (wire.server.consumeFromWriteBuffer fd _).writeBuffer fd = []
  unfold Server.writeBuffer Server.observed Server.consumeFromWriteBuffer Server.modifyClient
  rw [SortedMap.find?_modify_self]
  cases wire.server.clients.find? fd with
  | none => rfl
  | some client => exact List.drop_length

/-- How the four calls can end. -/
inductive Delivered (fd : Int) (wire : Wire) : Prop
  /-- Everything is delivered. -/
  | all : wire.loop.phase = .running →
      (wire.server.appendedTo fd).map Frame.line = wire.loop.reader.routed →
      wire.loop.reader.serverReadBuffer = [] → wire.downstream = [] → Delivered fd wire
  /-- The client has routed a reply after which it disconnects. -/
  | disconnected : wire.loop.phase = .left → wire.loop.reader.router.shouldDisconnect = true →
      Delivered fd wire
  /-- A message is longer than the client allows. -/
  | oversized {frame : Frame} : wire.loop.phase = .thrown → frame ∈ wire.server.appendedTo fd →
      ServerReader.maxServerFrameSize < frame.line.length + 1 → Delivered fd wire

/-- Nothing is left for the client. -/
theorem delivered_of_empty (related : Related fd wire link) (running : wire.loop.phase = .running)
    (taken : wire.server.writeBuffer fd = []) (arrived : wire.downstream = []) : Delivered fd wire := by
  have stream := related.downstream running
  rw [taken, arrived, List.append_nil, List.append_nil, List.flatMap_map] at stream
  have none := eq_nil_of_waits (fun reply : Frame × Option Bytes => reply.1.line) (related.settled running) stream
  have routed := related.routed
  rw [none] at stream routed
  exact .all running (by simpa using routed) stream arrived

/-- What a client that reads everything has routed, when it goes no further. -/
theorem delivered_of_ended (written : Written fd wire link) {after : ClientLoop} {outcome : ReadOutcome}
    (read : wire.loop.reader.handleServerReadable wire.downstream = some (outcome, after.reader)) :
    (outcome = .disconnected → after.reader.router.shouldDisconnect = true) ∧
      (outcome = .oversized → ∃ frame ∈ wire.server.appendedTo fd,
        ServerReader.maxServerFrameSize < frame.line.length + 1) := by
  obtain ⟨accepted, backed⟩ := written.backed
  obtain ⟨_, _, same, seen, -⟩ := ServerReader.handleServerReadable_eq wire.downstream wire.loop.reader
  rw [read] at same
  obtain ⟨rfl, rfl⟩ := Prod.mk.inj (Option.some.inj same)
  have stream := written.downstream written.running
  rw [written.taken, List.flatMap_map] at stream
  obtain ⟨taken, rest, split, texts, remains⟩ := cut_stream (fun reply : Frame × Option Bytes => reply.1.line)
    (fun reply member inside => (oneLine_line (backed.replies reply member) newline inside).2 rfl) stream
  -- the stream ends behind a message
  have complete : rest = [] := by
    rw [List.append_nil] at remains
    refine eq_nil_of_waits (fun reply : Frame × Option Bytes => reply.1.line) ?_ remains
    exact tail_eq_self (tail_clean _)
  rw [complete, List.append_nil, List.flatMap_nil] at remains
  have ends : outcome = (ServerReader.consume
      (lines (· = newline) (wire.loop.reader.serverReadBuffer ++ wire.downstream)) wire.loop.reader.router).1 := by
    have whole : outcome = ServerReader.checkRest
      (tail (· = newline) (wire.loop.reader.serverReadBuffer ++ wire.downstream)) _ := congrArg Prod.fst seen
    rw [whole, remains]
    generalize ServerReader.consume _ _ = result
    obtain ⟨reason, -⟩ := result
    cases reason <;> rfl
  have router : after.reader.router = (ServerReader.consume
      (lines (· = newline) (wire.loop.reader.serverReadBuffer ++ wire.downstream)) wire.loop.reader.router).2.2 :=
    congrArg (fun result => result.2.2) seen
  refine ⟨fun left => ?_, fun thrown => ?_⟩
  · rw [router]
    exact ServerReader.consume_disconnected (ends.symm.trans left)
  · obtain ⟨line, member, long⟩ := ServerReader.consume_oversized (ends.symm.trans thrown)
    rw [texts] at member
    obtain ⟨reply, present, rfl⟩ := List.mem_map.mp member
    have listed : reply.1.line ∈ (wire.server.appendedTo fd).map Frame.line := by
      rw [written.routed, split]
      exact List.mem_append_right _ (List.mem_map_of_mem (List.mem_append_left _ present))
    obtain ⟨frame, appended, same⟩ := List.mem_map.mp listed
    refine ⟨frame, appended, ?_⟩
    rw [same]
    rwa [List.length_append, List.length_singleton] at long

/-- **The client reads.** -/
theorem delivered_readAll (env : Env) (written : Written fd wire link) :
    (wire.step env fd wire.readAll).loop.client.given = wire.handled.map ClientApplication.wireFrame ∧
      Delivered fd (wire.step env fd wire.readAll) := by
  have related := @related_step env fd wire link written.toRelated wire.readAll
  have other : wire.loop.socketFd ≠ stdinFileno := written.ready.socket
  let event : ClientEvent := { fd := wire.loop.socketFd, pollIn := !wire.downstream.isEmpty }
  let answers := wire.answers none [] wire.downstream.length []
  have received : wire.loop.received event answers = wire.downstream := by
    unfold ClientLoop.received ClientLoop.handles ClientLoop.written
    cases arrived : wire.downstream with
    | nil => simp [event, arrived]
    | cons first rest =>
      simp [event, answers, other, written.running, arrived, Wire.answers, bytesRead, readSome,
        List.take_of_length_le]
  have arrived : (wire.step env fd wire.readAll).downstream = [] := by
    show wire.downstream.drop (wire.loop.received event answers).length = []
    rw [received, List.drop_length]
  have effect := ClientLoop.effect_handleEvent written.ready event answers
  have server : (wire.step env fd wire.readAll).server = wire.server := rfl
  have after : (wire.step env fd wire.readAll).loop = wire.loop.handleEvent (event, answers) := rfl
  have sent := written.sent
  rw [written.none, List.append_nil] at sent
  rw [← after] at effect
  cases effect with
  | idle dispatched nothing gives reader =>
    refine ⟨(gives.given.trans (List.append_nil _)).trans sent, ?_⟩
    refine delivered_of_empty related ?_ written.taken arrived
    have empty : wire.downstream = [] := received.symm.trans nothing
    rw [after]
    unfold ClientLoop.handleEvent
    rw [ClientLoop.andThen_of_running written.running]
    simp only [event, if_neg other, empty, if_true]
    show ((wire.loop.andThen fun loop => loop).andThen ClientLoop.updateServerWatchedEvents).phase = _
    rw [ClientLoop.andThen_of_running written.running, ClientLoop.andThen_of_running written.running]
    exact written.running
  | @typed line running dispatched _ _ =>
    simp [ClientLoop.dispatched, ClientLoop.handles, event, other] at dispatched
  | @read outcome running dispatched gives read phase =>
    rw [received] at read
    obtain ⟨disconnects, oversizes⟩ := delivered_of_ended written read
    refine ⟨(gives.given.trans (List.append_nil _)).trans sent, ?_⟩
    cases outcome with
    | running => exact delivered_of_empty related phase written.taken arrived
    | disconnected => exact .disconnected phase (disconnects rfl)
    | oversized =>
      obtain ⟨frame, appended, long⟩ := oversizes rfl
      exact .oversized phase appended long

end Drain

end Wire

/-- **Nothing waits for ever.** At every moment at which the client is in its event loop, one write and one read
on each side, of all that is there, make the server handle all frames that the client has sent; and the client
routes all messages that were appended for it, unless it disconnects at a reply, or a message is too long. -/
theorem four_calls_deliver (env : Env) {fd socketFd : Int} (socket : socketFd ≠ stdinFileno)
    {before : List Input} (free : (run (Server.handle env) {} before).clients.find? fd = none)
    (events : List WireEvent)
    (running : (run (Wire.step env fd) (Wire.start env fd socketFd before) events).loop.phase = .running) :
    let wire := run (Wire.step env fd) (Wire.start env fd socketFd before) events
    let after := run (Wire.step env fd) wire (wire.drain env fd)
    after.loop.client.given = after.handled.map ClientApplication.wireFrame ∧ Wire.Delivered fd after := by
  intro wire after
  have related := @Wire.related_run env fd events _ _ (Wire.related_start env socket free)
  have gathered := @Wire.gathered_drain env fd wire _ related running
  have handled := @Wire.related_run env fd [wire.flushAll,
    .read (wire.step env fd wire.flushAll).upstream.length] _ _ related
  obtain ⟨link, written⟩ := @Wire.written_drain env fd _ _ handled gathered
  exact Wire.delivered_readAll env written

/-- The server has read nothing yet, and the socket of the client has taken three bytes of the login. -/
def firstPieces : List WireEvent := pieces.take 2

theorem four_calls_deliver_sample :
    let wire := run (Wire.step sampleEnv 4) (Wire.start sampleEnv 4 3 []) firstPieces
    let after := run (Wire.step sampleEnv 4) wire (wire.drain sampleEnv 4)
    (after.loop.client.given = after.handled.map ClientApplication.wireFrame ∧ after.Delivered 4) ∧
      wire.handled = [] := by
  have delivered := @four_calls_deliver sampleEnv 4 3 (by decide) [] (by decide) firstPieces (by decide +kernel)
  exact ⟨delivered, by decide +kernel⟩

end MyTeams
