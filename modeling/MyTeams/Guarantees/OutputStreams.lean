/-
**Output streams are kept.**

Both programs buffer what a socket does not take. The client keeps an offset into its buffer and resets
both when everything is written; the server erases what was taken. Each is an `Outbox`:

* `outbox_sendAll`, `outbox_write`, `outbox_flush` — the calls of `TcpClient` push and take;
* `ready_handleEvent` — an event of the client's loop keeps the stream, and watches `POLLOUT` exactly while
  bytes are pending;
* `Sending.sound_step` — a step of the server keeps the stream of every connection;
* `looping_sound` — so does `Server::run`, which runs such steps (`looping_sends`);
* `output_streams` — so do all runs of the three.
-/

import MyTeams.ClientApp.EventLoop
import MyTeams.Invariants.Identities
import MyTeams.Lib.Outbox
import MyTeams.Server.Lifecycle
import MyTeams.Server.Observation

namespace MyTeams

open Transition

/-! ### `TcpClient` -/

namespace TcpClient

/-- What the socket has taken, and what it is offered. -/
def outbox (client : TcpClient) : Outbox UInt8 := ⟨client.accepted, client.offered⟩

/-- The stream of the client is what it was given, and the offset is inside the buffer. -/
structure Sound (client : TcpClient) : Prop where
  stream : client.outbox.stream = client.given.flatten
  offset : client.pendingOffset ≤ client.pendingWrites.length

variable {client : TcpClient}

theorem hasPendingWrites_iff : client.hasPendingWrites = true ↔ client.offered ≠ [] := by
  rw [hasPendingWrites, decide_eq_true_eq, offered, ne_eq, List.drop_eq_nil_iff, Nat.not_le]

theorem outbox_sendAll (inside : client.pendingOffset ≤ client.pendingWrites.length) (data : Bytes) :
    (client.sendAll data).outbox = client.outbox.push data := by
  show Outbox.mk client.accepted ((client.pendingWrites ++ data).drop client.pendingOffset) = _
  rw [List.drop_append_of_le_length inside]
  rfl

theorem outbox_write (count : Nat) : (client.write count).outbox = client.outbox.take count := by
  show Outbox.mk _ (client.pendingWrites.drop (client.pendingOffset + (client.offered.take count).length)) = _
  rw [← List.drop_drop, List.length_take]
  -- what the socket takes at most is what it takes
  have same : client.offered.drop (min count client.offered.length) = client.offered.drop count := by
    rcases Nat.le_total count client.offered.length with fewer | more
    · rw [Nat.min_eq_left fewer]
    · rw [Nat.min_eq_right more, List.drop_length, List.drop_eq_nil_of_le more]
  exact congrArg (Outbox.mk _) same

/-- Nothing is cleared but what was taken. -/
theorem outbox_clear (drained : ¬ client.hasPendingWrites = true) : client.clear.outbox = client.outbox := by
  rw [hasPendingWrites_iff, not_not] at drained
  show Outbox.mk client.accepted [] = Outbox.mk client.accepted client.offered
  rw [drained]

theorem offset_write (inside : client.pendingOffset ≤ client.pendingWrites.length) (count : Nat) :
    (client.write count).pendingOffset ≤ (client.write count).pendingWrites.length := by
  show client.pendingOffset + (client.offered.take count).length ≤ client.pendingWrites.length
  have short : (client.offered.take count).length ≤ client.offered.length :=
    (List.take_prefix count client.offered).length_le
  have rest : client.offered.length = client.pendingWrites.length - client.pendingOffset := List.length_drop
  omega

/-- **A flush takes bytes**, and nothing else: however the calls of `::write` end. -/
theorem outbox_flush (answers : List (Except Errno Nat))
    (inside : client.pendingOffset ≤ client.pendingWrites.length) :
    (∃ count, (client.flushPendingWrites answers).2.outbox = client.outbox.take count) ∧
      (client.flushPendingWrites answers).2.given = client.given ∧
      (client.flushPendingWrites answers).2.pendingOffset
        ≤ (client.flushPendingWrites answers).2.pendingWrites.length := by
  have still : (∃ count, client.outbox = client.outbox.take count) ∧ client.given = client.given ∧
      client.pendingOffset ≤ client.pendingWrites.length := ⟨⟨0, (Outbox.take_zero _).symm⟩, rfl, inside⟩
  induction answers generalizing client with
  | nil =>
    unfold flushPendingWrites
    split_ifs with pending
    · exact still
    · exact ⟨⟨0, by rw [Outbox.take_zero, outbox_clear pending]⟩, rfl, Nat.zero_le _⟩
  | cons answer answers ih =>
    unfold flushPendingWrites
    by_cases pending : client.hasPendingWrites = true
    · rw [if_pos pending]
      cases answer with
      | ok count =>
        simp only
        split_ifs
        · exact still
        · have inside' := offset_write inside count
          obtain ⟨⟨more, taken⟩, given, offset⟩ :=
            ih inside' ⟨⟨0, (Outbox.take_zero _).symm⟩, rfl, inside'⟩
          refine ⟨⟨count + more, ?_⟩, given, offset⟩
          rw [taken, outbox_write, Outbox.take_take]
      | error errno =>
        simp only
        split_ifs
        · exact ih inside still
        · exact still
        · exact still
    · rw [if_neg pending]
      exact ⟨⟨0, by rw [Outbox.take_zero, outbox_clear pending]⟩, rfl, Nat.zero_le _⟩

theorem Sound.sendAll (sound : client.Sound) (data : Bytes) : (client.sendAll data).Sound := by
  refine ⟨?_, ?_⟩
  · rw [outbox_sendAll sound.offset, Outbox.stream_push, sound.stream]
    show _ = (client.given ++ [data]).flatten
    rw [List.flatten_append, List.flatten_singleton]
  · show client.pendingOffset ≤ (client.pendingWrites ++ data).length
    rw [List.length_append]
    exact le_add_right sound.offset

theorem Sound.flush (sound : client.Sound) (answers : List (Except Errno Nat)) :
    (client.flushPendingWrites answers).2.Sound := by
  obtain ⟨⟨count, taken⟩, given, offset⟩ := outbox_flush answers sound.offset
  refine ⟨?_, offset⟩
  rw [taken, Outbox.stream_take, sound.stream, given]

theorem sound_start : Sound {} := ⟨rfl, le_rfl⟩

/-- A call that writes to the socket or to the buffer. -/
inductive Call
  | sendAll (data : Bytes)
  | flush (answers : List (Except Errno Nat))

def call (client : TcpClient) : Call → TcpClient
  | .sendAll data => client.sendAll data
  | .flush answers => (client.flushPendingWrites answers).2

/-- What a call gives to the stream. -/
def Call.data : Call → Bytes
  | .sendAll data => data
  | .flush _ => []

/-- What was given is what the calls gave. -/
theorem given_run (calls : List Call) {client : TcpClient} (inside : client.Sound) :
    (run call client calls).given.flatten = client.given.flatten ++ calls.flatMap Call.data := by
  induction calls generalizing client with
  | nil => rw [run_nil, List.flatMap_nil, List.append_nil]
  | cons next rest ih =>
    rw [run_cons, List.flatMap_cons, ← List.append_assoc]
    cases next with
    | sendAll data =>
      rw [call, ih (inside.sendAll data)]
      show (client.given ++ [data]).flatten ++ _ = _
      rw [List.flatten_append, List.flatten_singleton]
      rfl
    | flush answers =>
      obtain ⟨-, given, -⟩ := outbox_flush answers inside.offset
      rw [call, ih (inside.flush answers), given, Call.data, List.append_nil]

/-- **Every order of calls keeps the stream.** -/
theorem run_sound (calls : List Call) : (run call {} calls).Sound :=
  run_invariant Sound (fun client next sound => by
    cases next with
    | sendAll data => exact sound.sendAll data
    | flush answers => exact sound.flush answers) sound_start calls

end TcpClient

/-! ### The event loop of the client -/

namespace ClientLoop

/-- The poller has the socket with this bit, and the standard input or nothing else. -/
def Polls (pollOut : Bool) (loop : ClientLoop) : Prop :=
  loop.fds = [{ fd := stdinFileno }, { fd := loop.socketFd, pollOut := pollOut }] ∨
    loop.fds = [{ fd := loop.socketFd, pollOut := pollOut }]

/-- What holds at every moment of a turn. -/
structure Connected (loop : ClientLoop) : Prop where
  socket : loop.socketFd ≠ stdinFileno
  sound : loop.client.Sound
  polls : ∃ pollOut, loop.Polls pollOut

/-- What holds between two events. -/
structure Ready (loop : ClientLoop) : Prop extends loop.Connected where
  watched : loop.phase = .running → loop.Polls loop.client.hasPendingWrites

variable {loop : ClientLoop}

theorem Connected.ready_of_ended (connected : loop.Connected) (ended : loop.phase ≠ .running) : loop.Ready :=
  ⟨connected, fun running => absurd running ended⟩

/-- The poller after `updateServerWatchedEvents`. -/
theorem Connected.update (connected : loop.Connected) : loop.updateServerWatchedEvents.Ready := by
  have polls : loop.updateServerWatchedEvents.Polls loop.client.hasPendingWrites := by
    have other : ¬ stdinFileno = loop.socketFd := fun same => connected.socket same.symm
    obtain ⟨pollOut, both | socket⟩ := connected.polls
    · refine Or.inl ?_
      show updateWatchedEvents loop.socketFd _ loop.fds = _
      rw [both]
      simp [updateWatchedEvents, FirstMatch.modifyFirst, other, updateServerWatchedEvents]
    · refine Or.inr ?_
      show updateWatchedEvents loop.socketFd _ loop.fds = _
      rw [socket]
      simp [updateWatchedEvents, FirstMatch.modifyFirst, updateServerWatchedEvents]
  exact ⟨⟨connected.socket, connected.sound, _, polls⟩, fun _ => polls⟩

/-- Behind a call that may throw, the poller is updated or the loop is left. -/
theorem Connected.andThen_update (connected : loop.Connected) :
    (loop.andThen updateServerWatchedEvents).Ready := by
  unfold andThen
  split_ifs with running
  · exact connected.update
  · exact connected.ready_of_ended running

theorem Connected.flush (connected : loop.Connected) (writes : List (Except Errno Nat)) :
    (loop.flush writes).Connected := by
  have sound := connected.sound.flush writes
  unfold ClientLoop.flush
  generalize loop.client.flushPendingWrites writes = flushed at sound
  obtain ⟨outcome, client⟩ := flushed
  cases outcome <;> exact ⟨connected.socket, sound, connected.polls⟩

theorem Ready.sendCommandFrame (ready : loop.Ready) (frame : Bytes) (writes : List (Except Errno Nat)) :
    (loop.sendCommandFrame frame writes).Ready := by
  have appended : Connected
      { loop with client := loop.client.sendAll (ClientApplication.wireFrame frame) } :=
    ⟨ready.socket, ready.sound.sendAll _, ready.polls⟩
  exact (appended.flush writes).andThen_update

theorem Ready.dispatchCommandLine (ready : loop.Ready) (line : Bytes) (writes : List (Except Errno Nat)) :
    (loop.dispatchCommandLine line writes).Ready := by
  have read : ∀ reader : ServerReader, Ready { loop with reader := reader } := fun _ =>
    ⟨⟨ready.socket, ready.sound, ready.polls⟩, ready.watched⟩
  unfold ClientLoop.dispatchCommandLine
  cases ClientApplication.dispatchCommandLine line with
  | nothing => exact ready
  | printed text => exact read _
  | sent command frame => exact (read _).sendCommandFrame frame writes

/-- The standard input is taken out of the poller, the socket stays. -/
theorem Polls.removeStdin (socket : loop.socketFd ≠ stdinFileno) {pollOut : Bool} (polls : loop.Polls pollOut) :
    Polls pollOut { loop with fds := removeFileDescriptor stdinFileno loop.fds } := by
  refine Or.inr ?_
  show removeFileDescriptor stdinFileno loop.fds = _
  rcases polls with both | one
  · rw [both]
    simp [removeFileDescriptor]
  · rw [one]
    simp [removeFileDescriptor, socket]

theorem Ready.handleStdinEvent (ready : loop.Ready) (event : ClientEvent) (answers : ClientAnswers) :
    (loop.handleStdinEvent event answers).Ready := by
  unfold ClientLoop.handleStdinEvent
  split_ifs
  · exact Connected.ready_of_ended ⟨ready.socket, ready.sound, ready.polls⟩ (by simp)
  · exact ready
  · cases answers.line with
    | none =>
      obtain ⟨pollOut, polls⟩ := ready.polls
      exact ⟨⟨ready.socket, ready.sound, pollOut, polls.removeStdin ready.socket⟩,
        fun running => (ready.watched running).removeStdin ready.socket⟩
    | some line => exact ready.dispatchCommandLine _ _

theorem Connected.handleServerReadable (connected : loop.Connected) (reads : List (Except Errno Bytes)) :
    (loop.handleServerReadable reads).Connected := by
  unfold ClientLoop.handleServerReadable
  split
  · exact ⟨connected.socket, connected.sound, connected.polls⟩
  · exact connected
  · exact ⟨connected.socket, connected.sound, connected.polls⟩
  · split
    · exact connected
    all_goals exact ⟨connected.socket, connected.sound, connected.polls⟩

theorem Ready.handleServerEvent (ready : loop.Ready) (event : ClientEvent) (answers : ClientAnswers) :
    (loop.handleServerEvent event answers).Ready := by
  unfold ClientLoop.handleServerEvent
  by_cases hangUp : event.hangUp = true
  · rw [if_pos hangUp]
    exact Connected.ready_of_ended ⟨ready.socket, ready.sound, ready.polls⟩ (by simp)
  rw [if_neg hangUp]
  refine Connected.andThen_update ?_
  have written : (if event.pollOut then loop.flush answers.writes else loop).Connected := by
    split_ifs
    · exact ready.toConnected.flush _
    · exact ready.toConnected
  generalize (if event.pollOut then loop.flush answers.writes else loop) = between at written
  unfold andThen
  split_ifs
  · exact written.handleServerReadable _
  · exact written
  · exact written

/-- **An event keeps the stream and watches the socket.** -/
theorem ready_handleEvent (ready : loop.Ready) (event : ClientEvent × ClientAnswers) :
    (loop.handleEvent event).Ready := by
  unfold handleEvent andThen
  by_cases running : loop.phase = .running
  · rw [if_pos running]
    simp only
    split_ifs
    · exact ready.handleStdinEvent _ _
    · exact ready.handleServerEvent _ _
    · exact ready
  · rw [if_neg running]
    exact ready

theorem ready_start {socketFd : Int} (socket : socketFd ≠ stdinFileno) : (start socketFd).Ready :=
  ⟨⟨socket, TcpClient.sound_start, false, Or.inl rfl⟩, fun _ => Or.inl rfl⟩

/-- **The loop is ready whenever it waits.** -/
theorem run_ready {socketFd : Int} (socket : socketFd ≠ stdinFileno)
    (turns : List (List (ClientEvent × ClientAnswers))) : (run turn (start socketFd) turns).Ready :=
  run_invariant Ready (fun _ events ready =>
    run_invariant Ready (fun _ event ready => ready_handleEvent ready event) ready events)
    (ready_start socket) turns

/-- The bit of the socket is the only one in the poller. -/
theorem Polls.watchesOutput_iff {pollOut : Bool} (polls : loop.Polls pollOut) :
    loop.watchesOutput ↔ pollOut = true := by
  unfold watchesOutput
  rcases polls with both | one
  · rw [both]
    simp [eq_comm]
  · rw [one]
    simp [eq_comm]

end ClientLoop

/-! ### The server -/

/-- What the socket of a client has taken, and what it is offered. -/
def Client.outbox (client : Client) (accepted : Bytes) : Outbox UInt8 := ⟨accepted, client.writeBuffer⟩

/-- The stream of the client is what was appended for it, when this is what its socket has taken. -/
def Client.Owes (client : Client) (accepted : Bytes) : Prop :=
  (client.outbox accepted).stream = client.appended.flatMap Frame.render

theorem outbox_receive (frames : List Frame) (client : Client) (accepted : Bytes) :
    (client.receive frames).outbox accepted = (client.outbox accepted).push (frames.flatMap Frame.render) :=
  rfl

/-- Messages are appended to both sides. -/
theorem untouched_owes : Untouched Client.Owes where
  receive frames client := by
    funext accepted
    unfold Client.Owes
    rw [outbox_receive, Outbox.stream_push]
    show (_ = (client.appended ++ frames).flatMap Frame.render) = _
    rw [List.flatMap_append, List.append_cancel_right_eq]
  session _ _ _ := rfl
  args _ _ := rfl

namespace Sending

/-- The stream of every connection is what was appended for it. -/
def Sound (sending : Sending) : Prop :=
  ∀ fd client, sending.server.clients.find? fd = some client → client.Owes (sending.accepted fd)

variable {env : Env} {sending : Sending}

/-- A server on which the clients that are left owe what they owed. -/
theorem Sound.of_observed (sound : sending.Sound) {server : Server}
    (kept : ∀ fd, server.observed Client.Owes fd = none ∨
      server.observed Client.Owes fd = sending.server.observed Client.Owes fd) :
    Sound { sending with server := server } := by
  intro fd client found
  have owes : server.observed Client.Owes fd = some client.Owes := by
    rw [Server.observed, found]
    rfl
  have same := (kept fd).resolve_left (by rw [owes]; exact Option.some_ne_none _)
  rw [owes, Server.observed] at same
  obtain ⟨before, present, equal⟩ := Option.map_eq_some_iff.mp same.symm
  rw [← equal]
  exact sound fd before present

/-- A new connection owes nothing. -/
theorem Sound.accept (sound : sending.Sound) (fd : Int) : (sending.step env (.accept fd)).Sound := by
  intro other client found
  have clients : (sending.step env (.accept fd)).server.clients.find? other
      = if other = fd then some ((sending.server.clients.find? fd).getD { fd := fd })
        else sending.server.clients.find? other := SortedMap.find?_emplace _ _ _ _
  have accepted : (sending.step env (.accept fd)).accepted
      = if sending.server.clients.find? fd = none then Function.update sending.accepted fd []
        else sending.accepted := rfl
  rw [clients] at found
  rw [accepted]
  by_cases same : other = fd
  · subst same
    rw [if_pos rfl] at found
    cases present : sending.server.clients.find? other with
    | none =>
      rw [present] at found
      cases found
      rw [if_pos rfl, Function.update_self]
      rfl
    | some holder =>
      rw [present] at found
      cases found
      rw [if_neg (Option.some_ne_none _)]
      exact sound other holder present
  · rw [if_neg same] at found
    have still := sound other client found
    split_ifs
    · rwa [Function.update_of_ne same]
    · exact still

/-- What a socket takes leaves the write buffer. -/
theorem Sound.write (sound : sending.Sound) (fd : Int) (count : Nat) :
    (sending.step env (.write fd count)).Sound := by
  intro other client found
  have clients : (sending.step env (.write fd count)).server.clients.find? other
      = if other = fd then (sending.server.clients.find? fd).map fun client =>
          { client with writeBuffer := client.writeBuffer.drop count }
        else sending.server.clients.find? other := SortedMap.find?_modify _ _ _ _
  rw [clients] at found
  by_cases same : other = fd
  · subst same
    rw [if_pos rfl] at found
    obtain ⟨holder, here, rfl⟩ := Option.map_eq_some_iff.mp found
    have accepted : (sending.step env (.write other count)).accepted other
        = sending.accepted other ++ holder.writeBuffer.take count := by
      simp only [step, nextAccepted, here, Function.update_self]
    rw [accepted]
    show ((holder.outbox (sending.accepted other)).take count).stream = _
    rw [Outbox.stream_take]
    exact sound other holder here
  · rw [if_neg same] at found
    have accepted : (sending.step env (.write fd count)).accepted other = sending.accepted other := by
      simp only [step, nextAccepted]
      cases sending.server.clients.find? fd with
      | none => rfl
      | some holder => exact Function.update_of_ne same _ _
    rw [accepted]
    exact sound other client found

/-- **A step keeps the stream of every connection.** -/
theorem sound_step (sound : sending.Sound) (event : Event) : (sending.step env event).Sound := by
  cases event with
  | accept fd => exact sound.accept fd
  | write fd count => exact sound.write fd count
  | buffer fd data =>
    refine sound.of_observed fun other => Or.inr ?_
    rw [Server.step, Server.appendToReadBuffer, observed_modifyClient]
    exact fun _ => rfl
  | consume fd count =>
    refine sound.of_observed fun other => Or.inr ?_
    rw [Server.step, Server.consumeFromReadBuffer, observed_modifyClient]
    exact fun _ => rfl
  | line fd rawCommand =>
    exact sound.of_observed fun other => Or.inr (observed_handleCommand untouched_owes rawCommand fd other)
  | updateFlags =>
    refine sound.of_observed fun other => Or.inr ?_
    rw [Server.step, Server.updatePollFlags, observed_modifyClients]
    exact fun _ _ => rfl
  | disconnect fd =>
    refine sound.of_observed fun other => ?_
    rw [Server.step, observed_disconnectClient untouched_owes]
    exact ite_eq_or_eq _ _ _
  | restart =>
    refine sound.of_observed fun other => Or.inl ?_
    rw [Server.step, restart_eq]
    rfl

/-- What the machine does keeps the streams. -/
theorem Sound.runs {after : Sending} (sound : sending.Sound) (runs : Sending.Runs env sending after) : after.Sound := by
  obtain ⟨inputs, rfl⟩ := runs
  exact run_invariant Sound (fun sending input sound =>
    run_invariant Sound (fun _ event sound => sound_step sound event) sound (input.events sending.server)) sound inputs

end Sending

/-- **The streams of all connections are kept** by the loop of the server. -/
theorem looping_sound {env : Env} {serverFd : Int} {db : Database} {rounds : List Round} {loop : Loop}
    (goesOn : run (Process.round env) (.looping (.listening serverFd db)) rounds = .looping loop) :
    loop.sending.Sound := by
  have start : (Loop.listening serverFd db).sending.Sound := fun _ _ found => by cases found
  exact start.runs (looping_sends rounds goesOn)

/-! ### Both programs -/

/-- **No byte is lost, repeated or moved on its way out**, whatever the order of the messages and the
attempts to write, and whatever these attempts write:

* for all calls of `sendAll` and `flushPendingWrites`, what the socket has taken and what is left of
  `_pendingWrites` from `_pendingOffset` on is what was given to `sendAll`, and the offset is inside the
  buffer;
* this holds whenever the event loop of the client waits, which then watches `POLLOUT` exactly if bytes are
  pending. The descriptor of the socket is not that of the standard input, which is open before the socket;
* in `Server::run`, whatever `poll` reports and whatever the calls answer, what the socket of a client has taken
  and its write buffer are all messages that were appended for it. -/
theorem output_streams (env : Env) (db : Database) (calls : List TcpClient.Call) {socketFd : Int}
    (socket : socketFd ≠ stdinFileno) (turns : List (List (ClientEvent × ClientAnswers)))
    (serverFd : Int) (rounds : List Round) :
    (let client := run TcpClient.call {} calls
     client.accepted ++ client.pendingWrites.drop client.pendingOffset = calls.flatMap TcpClient.Call.data ∧
       client.pendingOffset ≤ client.pendingWrites.length) ∧
    (let loop := run ClientLoop.turn (ClientLoop.start socketFd) turns
     let client := loop.client
     client.accepted ++ client.pendingWrites.drop client.pendingOffset = client.given.flatten ∧
       client.pendingOffset ≤ client.pendingWrites.length ∧
       (loop.phase = .running →
         (loop.watchesOutput ↔ client.pendingWrites.drop client.pendingOffset ≠ []))) ∧
    (∀ loop, run (Process.round env) (.looping (.listening serverFd db)) rounds = .looping loop →
      ∀ fd client, loop.server.clients.find? fd = some client →
        loop.accepted fd ++ client.writeBuffer = client.appended.flatMap Frame.render) := by
  refine ⟨?_, ?_, fun loop goesOn => looping_sound goesOn⟩
  · have sound := TcpClient.run_sound calls
    refine ⟨?_, sound.offset⟩
    rw [← List.nil_append (calls.flatMap TcpClient.Call.data)]
    exact sound.stream.trans (TcpClient.given_run calls TcpClient.sound_start)
  · have ready := ClientLoop.run_ready socket turns
    refine ⟨ready.sound.stream, ready.sound.offset, fun running => ?_⟩
    rw [(ready.watched running).watchesOutput_iff, TcpClient.hasPendingWrites_iff]
    rfl

/-- The socket of a client takes three bytes of a request and then no more; the rest waits, and `POLLOUT` is watched.
The socket of the server takes five bytes of an answer. -/
theorem output_streams_sample :
    let turns : List (List (ClientEvent × ClientAnswers)) := [[({ fd := 0, pollIn := true },
      { line := some (ascii "/users"), writes := [.ok 3, .error .again] })]]
    let loop := run ClientLoop.turn (ClientLoop.start 3) turns
    let rounds : List Round := [.wait [.ok [({ fd := 3, pollIn := true }, { accept := .ok 4 })]],
      .wait [.ok [({ fd := 4, pollIn := true }, { read := .ok (ascii "/users\n") })]],
      .wait [.ok [({ fd := 4, pollOut := true }, { write := .ok 5 })]]]
    (loop.client.accepted = ascii "/us" ∧
      loop.client.accepted ++ loop.client.offered = ascii "/users\r\n" ∧ loop.watchesOutput) ∧
    ∃ serving client, run (Process.round sampleEnv) (.looping (.listening 3 {})) rounds = .looping serving ∧
      serving.server.clients.find? 4 = some client ∧ serving.accepted 4 = ascii "401 U" ∧
      serving.accepted 4 ++ client.writeBuffer = ascii "401 UNAUTHORIZED\r\n" := by
  intro turns loop rounds
  obtain ⟨-, ⟨stream, -, watched⟩, streams⟩ :=
    output_streams sampleEnv {} [] (by decide : (3 : Int) ≠ stdinFileno) turns 3 rounds
  have given : loop.client.given = [ascii "/users\r\n"] := by decide
  refine ⟨⟨by decide, stream.trans ?_, (watched (by decide)).mpr (by decide)⟩, ?_⟩
  · rw [given, List.flatten_singleton]
  · refine ⟨_, _, rfl, rfl, by decide, (streams _ rfl 4 _ rfl).trans (by decide)⟩

end MyTeams
