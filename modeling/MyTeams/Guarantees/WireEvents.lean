/-
**What one event does to a client, to the server and to a link.**

* `effect_handleEvent` — an event of the client leaves the reader alone, or hands it a line that was typed, or
  bytes that were read; the output gets at most a frame, and the socket takes any part of it (`Gives`);
* `hears_events` — an event of the server is a step of a link, with the messages that it writes;
* `run_route` — the line by line reading of a buffer is a run of steps of a link;
* `cut_stream` — the lines of the first part of a stream;
* `events_read`, `apart_elsewhere` — the events of a read, and of an input of another connection.
-/

import MyTeams.ClientApp.Wire
import MyTeams.Guarantees.ClientFragmentation
import MyTeams.Guarantees.OutputStreams
import MyTeams.Guarantees.ServerFragmentation
import MyTeams.Invariants.Provenance

namespace MyTeams

open Transition Words

/-! ### What an event of the client does -/

namespace TcpClient

/-- This was given to the output, and any part of what then waits was taken. -/
structure Gives (given : List Bytes) (client after : TcpClient) : Prop where
  taken : ∃ count, after.outbox = (client.outbox.push given.flatten).take count
  given : after.given = client.given ++ given

variable {client : TcpClient}

theorem gives_nothing (client : TcpClient) : Gives [] client client :=
  ⟨⟨0, by simp⟩, (List.append_nil _).symm⟩

theorem gives_flush (inside : client.pendingOffset ≤ client.pendingWrites.length)
    (writes : List (Except Errno Nat)) : Gives [] client (client.flushPendingWrites writes).2 := by
  obtain ⟨⟨count, taken⟩, given, -⟩ := outbox_flush writes inside
  exact ⟨⟨count, by simpa using taken⟩, by simpa using given⟩

theorem gives_send (sound : client.Sound) (data : Bytes) (writes : List (Except Errno Nat)) :
    Gives [data] client ((client.sendAll data).flushPendingWrites writes).2 := by
  obtain ⟨⟨count, taken⟩, given, -⟩ := outbox_flush writes (sound.sendAll data).offset
  refine ⟨⟨count, ?_⟩, given⟩
  rw [taken, outbox_sendAll sound.offset, List.flatten_singleton]

/-- What the socket takes is what the output loses. -/
theorem Gives.stream {given : List Bytes} {after : TcpClient} (gives : Gives given client after) :
    after.accepted.drop client.accepted.length ++ after.offered = client.offered ++ given.flatten := by
  obtain ⟨count, taken⟩ := gives.taken
  have accepted : after.accepted = client.accepted ++ (client.offered ++ given.flatten).take count :=
    congrArg Outbox.accepted taken
  have offered : after.offered = (client.offered ++ given.flatten).drop count :=
    congrArg Outbox.waiting taken
  rw [accepted, offered, List.drop_left, List.take_append_drop]

end TcpClient

namespace ClientLoop

open TcpClient

/-- What a typed line does to the output of the client and to its reader. -/
def Dispatches (loop : ClientLoop) (line : Bytes) (after : ClientLoop) : Prop :=
  match ClientApplication.dispatchCommandLine line with
  | .nothing => Gives [] loop.client after.client ∧ after.reader = loop.reader
  | .printed text => Gives [] loop.client after.client ∧ after.reader = { loop.reader with
      router := { loop.reader.router with output := loop.reader.router.output ++ [.stdout text] } }
  | .sent command frame => Gives [ClientApplication.wireFrame frame] loop.client after.client ∧
      after.reader = { loop.reader with router := loop.reader.router.setPendingCommand command }

/-- Where the loop is after a read. -/
def phaseAfter : ReadOutcome → ClientPhase
  | .running => .running
  | .disconnected => .left
  | .oversized => .thrown

/-- **What an event does**: nothing to the reader, a line is typed, or bytes are read. -/
inductive Effect (loop : ClientLoop) (event : ClientEvent) (answers : ClientAnswers) (after : ClientLoop) :
    Prop
  | idle : loop.dispatched event answers = none → loop.received event answers = [] →
      Gives [] loop.client after.client → after.reader = loop.reader →
      Effect loop event answers after
  | typed {line : Bytes} : loop.phase = .running → loop.dispatched event answers = some line →
      loop.received event answers = [] → loop.Dispatches line after → Effect loop event answers after
  | read {outcome : ReadOutcome} : loop.phase = .running → loop.dispatched event answers = none →
      Gives [] loop.client after.client →
      loop.reader.handleServerReadable (loop.received event answers) = some (outcome, after.reader) →
      after.phase = phaseAfter outcome → Effect loop event answers after

variable {loop : ClientLoop}

theorem flush_client (writes : List (Except Errno Nat)) :
    (loop.flush writes).client = (loop.client.flushPendingWrites writes).2 ∧
      (loop.flush writes).reader = loop.reader ∧ (loop.flush writes).socketFd = loop.socketFd := by
  unfold flush
  generalize loop.client.flushPendingWrites writes = flushed
  obtain ⟨outcome, client⟩ := flushed
  cases outcome <;> exact ⟨rfl, rfl, rfl⟩

/-- The poller is updated or not; the output and the reader stay. -/
theorem andThen_update_same (loop : ClientLoop) :
    (loop.andThen updateServerWatchedEvents).client = loop.client ∧
      (loop.andThen updateServerWatchedEvents).reader = loop.reader ∧
      (loop.andThen updateServerWatchedEvents).phase = loop.phase := by
  unfold andThen
  split_ifs <;> exact ⟨rfl, rfl, rfl⟩

theorem dispatches_dispatchCommandLine (sound : loop.client.Sound) (line : Bytes)
    (writes : List (Except Errno Nat)) : loop.Dispatches line (loop.dispatchCommandLine line writes) := by
  unfold Dispatches ClientLoop.dispatchCommandLine
  cases ClientApplication.dispatchCommandLine line with
  | nothing => exact ⟨gives_nothing _, rfl⟩
  | printed text => exact ⟨gives_nothing _, rfl⟩
  | sent command frame =>
    let pushed : ClientLoop := { loop with
      client := loop.client.sendAll (ClientApplication.wireFrame frame)
      reader := { loop.reader with router := loop.reader.router.setPendingCommand command } }
    obtain ⟨client, reader, -⟩ := andThen_update_same (pushed.flush writes)
    obtain ⟨flushed, kept, -⟩ := @flush_client pushed writes
    refine ⟨?_, reader.trans kept⟩
    show Gives _ _ ((pushed.flush writes).andThen updateServerWatchedEvents).client
    rw [client, flushed]
    exact gives_send sound _ _

theorem effect_stdin (ready : loop.Ready) (running : loop.phase = .running) {event : ClientEvent}
    (stdin : event.fd = stdinFileno) (answers : ClientAnswers) :
    Effect loop event answers (loop.handleStdinEvent event answers) := by
  have received : loop.received event answers = [] := by simp [received, stdin]
  have dispatched : loop.dispatched event answers
      = if event.hangUp then none
        else if event.pollIn then answers.line.map StdinLoop.popReturn else none := by
    unfold dispatched handles
    cases event.hangUp <;> simp [running, stdin]
  unfold handleStdinEvent
  cases hangUp : event.hangUp with
  | true => exact .idle (by rw [dispatched, hangUp]; rfl) received (gives_nothing _) rfl
  | false =>
    cases pollIn : event.pollIn with
    | false => exact .idle (by rw [dispatched, hangUp, pollIn]; rfl) received (gives_nothing _) rfl
    | true =>
      rw [hangUp, pollIn] at dispatched
      cases given : answers.line with
      | none => exact .idle (by rw [dispatched, given]; rfl) received (gives_nothing _) rfl
      | some text =>
        exact .typed running (by rw [dispatched, given]; rfl) received
          (dispatches_dispatchCommandLine ready.sound _ _)

theorem andThen_of_running {next : ClientLoop → ClientLoop} (running : loop.phase = .running) :
    loop.andThen next = next loop := if_pos running

theorem andThen_of_ended {next : ClientLoop → ClientLoop} (ended : loop.phase ≠ .running) :
    loop.andThen next = loop := if_neg ended

/-- Behind a read, the poller is updated. -/
theorem effect_readable {event : ClientEvent} {answers : ClientAnswers} {between : ClientLoop}
    (running : loop.phase = .running) (goesOn : between.phase = .running)
    (dispatched : loop.dispatched event answers = none) (received : loop.received event answers = bytesRead answers.reads)
    (gives : Gives [] loop.client between.client) (reader : between.reader = loop.reader) :
    Effect loop event answers
      ((between.handleServerReadable answers.reads).andThen updateServerWatchedEvents) := by
  have nothing : ∀ {after : ClientLoop}, after.client = between.client → after.reader = between.reader →
      loop.received event answers = [] →
      Effect loop event answers (after.andThen updateServerWatchedEvents) := by
    intro after sameClient sameReader nothing
    obtain ⟨client, kept, -⟩ := andThen_update_same after
    exact .idle dispatched nothing (by rw [client, sameClient]; exact gives)
      (by rw [kept, sameReader, reader])
  unfold ClientLoop.handleServerReadable
  unfold bytesRead at received
  cases got : readSome answers.reads with
  | error errno => exact nothing rfl rfl (by rw [received, got])
  | ok data =>
    rcases data with _ | ⟨_ | ⟨first, rest⟩⟩
    · exact nothing rfl rfl (by rw [received, got])
    · exact nothing rfl rfl (by rw [received, got])
    · rw [got] at received
      obtain ⟨outcome, after, read, -, -⟩ := ServerReader.handleServerReadable_eq (first :: rest) loop.reader
      have something : ∀ {last : ClientLoop}, last.client = between.client → last.reader = after →
          last.phase = phaseAfter outcome →
          Effect loop event answers (last.andThen updateServerWatchedEvents) := by
        intro last sameClient sameReader phases
        obtain ⟨client, kept, phase⟩ := andThen_update_same last
        refine .read running dispatched (by rw [client, sameClient]; exact gives) ?_ (phase.trans phases)
        rw [received, kept, sameReader]
        exact read
      simp only [reader, read]
      cases outcome with
      | running => exact something rfl rfl goesOn
      | disconnected => exact something rfl rfl rfl
      | oversized => exact something rfl rfl rfl

theorem effect_server (ready : loop.Ready) (running : loop.phase = .running) {event : ClientEvent}
    (socket : event.fd = loop.socketFd) (answers : ClientAnswers) :
    Effect loop event answers (loop.handleServerEvent event answers) := by
  have other : loop.socketFd ≠ stdinFileno := ready.socket
  have dispatched : loop.dispatched event answers = none := by
    simp [dispatched, handles, socket, other]
  have written : Gives [] loop.client (loop.written event answers).client ∧
      (loop.written event answers).reader = loop.reader := by
    unfold ClientLoop.written
    split_ifs
    · obtain ⟨client, reader, -⟩ := @flush_client loop answers.writes
      exact ⟨client ▸ gives_flush ready.sound.offset _, reader⟩
    · exact ⟨gives_nothing _, rfl⟩
  unfold handleServerEvent
  by_cases hangUp : event.hangUp = true
  · rw [if_pos hangUp]
    exact .idle dispatched (by simp [received, handles, hangUp]) (gives_nothing _) rfl
  rw [if_neg hangUp]
  show Effect loop event answers (((loop.written event answers).andThen fun loop =>
    if event.pollIn then loop.handleServerReadable answers.reads else loop).andThen _)
  by_cases goesOn : (loop.written event answers).phase = .running
  · rw [andThen_of_running goesOn]
    by_cases pollIn : event.pollIn = true
    · rw [if_pos pollIn]
      refine effect_readable running goesOn dispatched ?_ written.1 written.2
      simp [received, handles, running, socket, other, hangUp, pollIn, goesOn]
    · rw [if_neg pollIn]
      obtain ⟨client, kept, -⟩ := andThen_update_same (loop.written event answers)
      exact .idle dispatched (by simp [received, pollIn]) (client ▸ written.1) (kept.trans written.2)
  · rw [andThen_of_ended goesOn, andThen_of_ended goesOn]
    exact .idle dispatched (by simp [received, goesOn]) written.1 written.2

/-- **An event has one of these effects.** -/
theorem effect_handleEvent (ready : loop.Ready) (event : ClientEvent) (answers : ClientAnswers) :
    Effect loop event answers (loop.handleEvent (event, answers)) := by
  unfold handleEvent
  by_cases running : loop.phase = .running
  · rw [andThen_of_running running]
    simp only
    split_ifs with stdin socket
    · exact effect_stdin ready running stdin answers
    · exact effect_server ready running socket answers
    · exact .idle (by simp [dispatched, handles, stdin]) (by simp [received, handles, socket])
        (gives_nothing _) rfl
  · rw [andThen_of_ended running]
    exact .idle (by simp [dispatched, handles, running]) (by simp [received, handles, running])
      (gives_nothing _) rfl

/-- A loop that goes on was not left before. -/
theorem running_of_handleEvent {event : ClientEvent × ClientAnswers}
    (goesOn : (loop.handleEvent event).phase = .running) : loop.phase = .running := by
  by_contra ended
  rw [handleEvent, andThen_of_ended ended] at goesOn
  exact ended goesOn

end ClientLoop

/-! ### What an event of the server does to a link -/

/-- An event that neither ends the connection nor lets its socket take bytes. -/
def Event.inner (fd : Int) : Event → Bool
  | .line _ _ => true
  | .write other _ => other ≠ fd
  | event => event.elsewhere fd

section Events

variable {env : Env} {fd : Int} {server : Server} {event : Event}

/-- Such an event keeps the stream of the connection. -/
theorem step_owes (inner : event.inner fd = true) :
    (server.step env event).observed Client.Owes fd = server.observed Client.Owes fd := by
  cases event with
  | accept other =>
    have different : fd ≠ other := by
      rintro rfl
      simp [Event.inner, Event.elsewhere] at inner
    show ((server.clients.emplace other _).find? fd).map _ = _
    rw [SortedMap.find?_emplace, if_neg different]
    rfl
  | write other count =>
    have different : fd ≠ other := by
      rintro rfl
      simp [Event.inner] at inner
    show ((server.clients.modify other _).find? fd).map _ = _
    rw [SortedMap.find?_modify_of_ne different]
    rfl
  | buffer other data =>
    rw [Server.step, Server.appendToReadBuffer, observed_modifyClient]
    exact fun _ => rfl
  | consume other count =>
    rw [Server.step, Server.consumeFromReadBuffer, observed_modifyClient]
    exact fun _ => rfl
  | line other rawCommand => exact observed_handleCommand untouched_owes rawCommand other fd
  | updateFlags =>
    rw [Server.step, Server.updatePollFlags, observed_modifyClients]
    exact fun _ _ => rfl
  | disconnect other =>
    have different : fd ≠ other := by
      rintro rfl
      simp [Event.inner, Event.elsewhere] at inner
    rw [Server.step, observed_disconnectClient untouched_owes, if_neg different]
  | restart => simp [Event.inner, Event.elsewhere] at inner

/-- What was appended for a client grows by the new messages. -/
theorem appendedTo_step {client : Client}
    (present : (server.step env event).clients.find? fd = some client) :
    (server.step env event).appendedTo fd
      = server.appendedTo fd ++ server.newFrames fd (server.step env event) := by
  obtain ⟨letters, -, appended⟩ := step_says (step_steps env server event)
  unfold Server.newFrames
  rw [appendedTo_of_found present, appended fd client present, List.drop_left]

/-- **The new messages are written** behind what waits. -/
theorem writeBuffer_step {accepted : Bytes} {before client : Client}
    (found : server.clients.find? fd = some before) (owes : before.Owes accepted)
    (present : (server.step env event).clients.find? fd = some client) (still : client.Owes accepted) :
    client.writeBuffer = before.writeBuffer
      ++ (server.newFrames fd (server.step env event)).flatMap Frame.render := by
  have appended := appendedTo_step present
  rw [appendedTo_of_found present, appendedTo_of_found found] at appended
  have early : accepted ++ before.writeBuffer = before.appended.flatMap Frame.render := owes
  have late : accepted ++ client.writeBuffer = client.appended.flatMap Frame.render := still
  rw [appended, List.flatMap_append, ← early, List.append_assoc] at late
  exact List.append_cancel_left late

end Events

namespace Link

/-- What a link needs of the connection of its client. -/
structure Backed (fd : Int) (accepted : Bytes) (link : Link) : Prop where
  connected : ∃ client, link.server.clients.find? fd = some client ∧ client.Owes accepted
  stored : link.server.Carries Storable
  replies : ∀ reply ∈ link.replies, reply.1.Carries Storable

/-- What the events of an input do to a link. -/
structure Hears (env : Env) (fd : Int) (events : List Event) (link after : Link) : Prop where
  server : after.server = run (Server.step env) link.server events
  router : after.router = link.router
  requests : link.requests = events.filterMap (Event.ownLine fd) ++ after.requests
  output : ∃ added : List Frame, after.replies.map Prod.fst = link.replies.map Prod.fst ++ added ∧
    after.server.appendedTo fd = link.server.appendedTo fd ++ added ∧
    after.server.writeBuffer fd = link.server.writeBuffer fd ++ added.flatMap Frame.render

section Hearing

variable {env : Env} {fd : Int} {accepted : Bytes} {link : Link}

/-- An event of the server, with the new messages. -/
theorem step_ofEvent {event : Event} (inner : event.inner fd = true) {rest : List Bytes}
    (requests : link.requests = (event.ownLine fd).toList ++ rest) :
    ∃ answered : Frame → Option Bytes, link.step env fd (.ofEvent fd event) =
      { link with
        requests := rest
        server := link.server.step env event
        replies := link.replies ++
          (link.server.newFrames fd (link.server.step env event)).map fun frame => (frame, answered frame) } := by
  cases own : event.ownLine fd with
  | some rawCommand =>
    have line : event = .line fd rawCommand := by
      cases event with
      | line other text =>
        simp only [Event.ownLine] at own
        split_ifs at own with same
        rw [same, Option.some.inj own]
      | _ => cases own
    subst line
    rw [own] at requests
    refine ⟨answeredBy rawCommand, ?_⟩
    rw [LinkEvent.ofEvent, own]
    show link.serve env fd = _
    unfold serve
    rw [requests]
    rfl
  | none =>
    have elsewhere : event.elsewhere fd = true := by
      cases event with
      | line other text =>
        simp only [Event.ownLine] at own
        split_ifs at own with same
        simpa [Event.elsewhere] using same
      | write other count => rfl
      | _ => exact inner
    rw [own] at requests
    refine ⟨fun _ => none, ?_⟩
    rw [LinkEvent.ofEvent, own]
    show link.other env fd event = _
    unfold other
    rw [if_pos elsewhere, ← show link.requests = rest from requests]

/-- **One event of the server.** -/
theorem hears_event (env : Env) (backed : link.Backed fd accepted) {event : Event} (inner : event.inner fd = true)
    {rest : List Bytes} (requests : link.requests = (event.ownLine fd).toList ++ rest) :
    (link.step env fd (.ofEvent fd event)).Backed fd accepted ∧
      Hears env fd [event] link (link.step env fd (.ofEvent fd event)) ∧
      (link.step env fd (.ofEvent fd event)).requests = rest := by
  obtain ⟨before, found, owes⟩ := backed.connected
  have carries : (link.server.step env event).Carries Storable :=
    step_carries source_storable (event_storable event) backed.stored
  have kept : (link.server.step env event).observed Client.Owes fd = some before.Owes := by
    rw [step_owes inner, Server.observed, found]
    rfl
  obtain ⟨client, present, same⟩ := Option.map_eq_some_iff.mp kept
  have still : client.Owes accepted := by
    rw [same]
    exact owes
  obtain ⟨answered, stepped⟩ := step_ofEvent inner requests
  rw [stepped]
  refine ⟨⟨⟨client, present, still⟩, carries, fun reply member => ?_⟩, ⟨rfl, rfl, ?_, _, ?_,
    appendedTo_step present, ?_⟩, rfl⟩
  · rcases List.mem_append.mp member with old | new
    · exact backed.replies reply old
    · obtain ⟨frame, appended, rfl⟩ := List.mem_map.mp new
      exact newFrames_carries carries appended
  · rw [requests]
    cases own : event.ownLine fd <;> simp [own]
  · rw [List.map_append, List.map_map]
    exact congrArg _ (List.map_id' _)
  · have written := writeBuffer_step found owes present still
    unfold Server.writeBuffer Server.observed
    rw [present, found]
    exact written

theorem Hears.trans {first second : List Event} {between after : Link}
    (early : Hears env fd first link between) (late : Hears env fd second between after) :
    Hears env fd (first ++ second) link after := by
  obtain ⟨added, replies, appended, written⟩ := early.output
  obtain ⟨more, replies', appended', written'⟩ := late.output
  refine ⟨?_, late.router.trans early.router, ?_, added ++ more, ?_, ?_, ?_⟩
  · rw [late.server, early.server, run_append]
  · rw [early.requests, late.requests, List.filterMap_append, List.append_assoc]
  · rw [replies', replies, List.append_assoc]
  · rw [appended', appended, List.append_assoc]
  · rw [written', written, List.flatMap_append, List.append_assoc]

/-- **All events of an input.** The link has the lines of the connection as its next requests. -/
theorem hears_events (env : Env) (events : List Event) {link : Link} (backed : link.Backed fd accepted)
    (inner : ∀ event ∈ events, event.inner fd = true) {rest : List Bytes}
    (requests : link.requests = events.filterMap (Event.ownLine fd) ++ rest) :
    (run (Link.step env fd) link (events.map (.ofEvent fd))).Backed fd accepted ∧
      Hears env fd events link (run (Link.step env fd) link (events.map (.ofEvent fd))) := by
  induction events generalizing link with
  | nil =>
    exact ⟨backed, rfl, rfl, rfl, [], (List.append_nil _).symm, (List.append_nil _).symm,
      (List.append_nil _).symm⟩
  | cons event later ih =>
    have next : link.requests
        = (event.ownLine fd).toList ++ (later.filterMap (Event.ownLine fd) ++ rest) := by
      rw [requests, List.filterMap_cons]
      cases event.ownLine fd <;> rfl
    obtain ⟨still, first, left⟩ := hears_event env backed (inner event List.mem_cons_self) next
    obtain ⟨final, others⟩ := ih still
      (fun other member => inner other (List.mem_cons_of_mem _ member)) left
    rw [List.map_cons, run_cons]
    exact ⟨final, first.trans others⟩

end Hearing

/-- **The client routes lines.** The first messages of the link are the lines that are read. -/
theorem run_route (env : Env) (fd : Int) (taken rest : List (Frame × Option Bytes)) {link : Link}
    (replies : link.replies = taken ++ rest) (stays : link.router.shouldDisconnect = false) :
    let result := ServerReader.consume (taken.map fun reply => reply.1.line ++ [carriageReturn]) link.router
    run (Link.step env fd) link (List.replicate result.2.1.length .route)
        = { link with router := result.2.2, replies := taken.drop result.2.1.length ++ rest } ∧
      taken.map (·.1.line) = result.2.1 ++ (taken.drop result.2.1.length).map (·.1.line) ∧
      (result.1 = .running →
        result.2.1.length = taken.length ∧ result.2.2.shouldDisconnect = false) := by
  induction taken generalizing link with
  | nil => exact ⟨by rw [List.nil_append] at replies; simp [← replies, ServerReader.consume], rfl, fun _ => ⟨rfl, stays⟩⟩
  | cons reply later ih =>
    have frame : StdinLoop.popReturn (reply.1.line ++ [carriageReturn]) = reply.1.line := by
      simp [StdinLoop.popReturn]
    have routed : link.route
        = { link with router := link.router.routeFrame reply.1.line, replies := later ++ rest } := by
      unfold Link.route
      rw [replies, if_neg (by rw [stays]; exact Bool.false_ne_true)]
      rfl
    simp only [List.map_cons, ServerReader.consume]
    by_cases long : ServerReader.maxServerFrameSize < (reply.1.line ++ [carriageReturn]).length
    · rw [if_pos long]
      exact ⟨by simp [← replies], rfl, fun running => by cases running⟩
    rw [if_neg long, frame]
    by_cases asks : (link.router.routeFrame reply.1.line).shouldDisconnect = true
    · simp only [if_pos asks]
      exact ⟨routed, rfl, fun running => by cases running⟩
    · simp only [if_neg asks]
      obtain ⟨ran, texts, ended⟩ := @ih
        { link with router := link.router.routeFrame reply.1.line, replies := later ++ rest } rfl
        (by simpa using asks)
      refine ⟨?_, congrArg _ texts, fun running => ⟨congrArg _ (ended running).1, (ended running).2⟩⟩
      rw [List.length_cons, List.replicate_succ, run_cons]
      show run _ link.route _ = _
      rw [routed]
      exact ran

end Link

/-! ### Lines of a stream -/

/-- **The first part of a stream of lines**, each of them with its CR. -/
theorem cut_stream {α : Type} (text : α → Bytes) {items : List α}
    (clean : ∀ item ∈ items, newline ∉ text item) {left right : Bytes}
    (stream : left ++ right = items.flatMap fun item => text item ++ [carriageReturn, newline]) :
    ∃ taken rest, items = taken ++ rest ∧
      lines (· = newline) left = taken.map (fun item => text item ++ [carriageReturn]) ∧
      tail (· = newline) left ++ right
        = rest.flatMap fun item => text item ++ [carriageReturn, newline] := by
  have ended : ∀ items : List α, (items.flatMap fun item => text item ++ [carriageReturn, newline])
      = (items.map fun item => text item ++ [carriageReturn]).flatMap (· ++ [newline]) := by
    intro items
    rw [List.flatMap_map]
    exact List.flatMap_congr fun item _ => by rw [List.append_assoc]; rfl
  have each : ∀ line ∈ items.map fun item => text item ++ [carriageReturn],
      ∀ byte ∈ line, decide (byte = newline) = false := by
    intro line member byte inside
    obtain ⟨item, present, rfl⟩ := List.mem_map.mp member
    refine decide_eq_false ?_
    rintro rfl
    rcases List.mem_append.mp inside with within | final
    · exact clean item present within
    · exact absurd (List.mem_singleton.mp final) (by decide)
  rw [ended] at stream
  obtain ⟨others, split, remains⟩ := lines_of_stream each (fun _ => decide_eq_true_iff) stream
  obtain ⟨taken, rest, rfl, early, rfl⟩ := List.map_eq_append_iff.mp split
  exact ⟨taken, rest, rfl, early.symm, remains.trans (ended rest).symm⟩

/-! ### What the server reads -/

section Reading

variable {env : Env} {fd : Int} {server : Server}

/-- A read leaves what follows the last LF. -/
theorem readBuffer_handleRead {client : Client} (found : server.clients.find? fd = some client)
    (data : Bytes) :
    (server.handleRead env fd data).readBuffer fd = tail (· = newline) (server.readBuffer fd ++ data) := by
  let state : Receiving := { server := server }
  have present : state.server.clients.find? fd = some client := found
  have read := server_handleRead env present data
  rw [receive_eq env present, Option.map_some] at read
  obtain ⟨later, here, remains⟩ :
      ∃ later, (afterText env fd (client.readBuffer ++ data) state).server.clients.find? fd = some later ∧
        later.readBuffer = tail (· = newline) (client.readBuffer ++ data) := find?_afterText env present _
  rw [show server.handleRead env fd data = _ from (Option.some.inj read).symm]
  unfold Server.readBuffer Server.observed
  rw [here, found]
  exact remains

/-- The events of a read. -/
theorem events_read (server : Server) (fd : Int) (data : Bytes) :
    (Input.read fd data).events server = .buffer fd data ::
      match server.clients.find? fd with
      | none => []
      | some client => lineEvents fd (client.readBuffer ++ data) ++ [.consume fd
          ((client.readBuffer ++ data).length - (tail (· = newline) (client.readBuffer ++ data)).length)] := by
  have appended : (server.appendToReadBuffer fd data).clients.find? fd
      = (server.clients.find? fd).map fun client => { client with readBuffer := client.readBuffer ++ data } :=
    SortedMap.find?_modify_self _ _ _
  simp only [Input.events, appended]
  cases server.clients.find? fd <;> rfl

theorem ownLine_lineEvents (text : Bytes) :
    (lineEvents fd text).filterMap (Event.ownLine fd)
      = ((lines (· = newline) text).map Server.stripReturn).filter (· ≠ []) := by
  unfold lineEvents
  rw [List.filterMap_map]
  have own : Event.ownLine fd ∘ Event.line fd = some := funext fun text => if_pos rfl
  rw [own, List.filterMap_some]

/-- A read is inner. -/
theorem inner_read {server : Server} {other : Int} {data : Bytes} :
    ∀ event ∈ (Input.read other data).events server, event.inner fd = true := by
  rw [events_read]
  refine List.forall_mem_cons.mpr ⟨rfl, ?_⟩
  cases server.clients.find? other with
  | none => exact List.forall_mem_nil _
  | some client =>
    intro event member
    rcases List.mem_append.mp member with line | last
    · obtain ⟨text, -, rfl⟩ := List.mem_map.mp line
      rfl
    · rw [List.mem_singleton.mp last]
      rfl

/-- **What an input of another connection is.** -/
theorem inner_elsewhere {input : Input} (elsewhere : input.elsewhere fd = true) :
    ∀ event ∈ input.events server, event.inner fd = true := by
  cases input with
  | read other data => exact inner_read
  | restart => cases elsewhere
  | updateFlags => exact List.forall_mem_singleton.mpr rfl
  | accept other => exact List.forall_mem_singleton.mpr elsewhere
  | hangUp other => exact List.forall_mem_singleton.mpr elsewhere
  | write other count => exact List.forall_mem_singleton.mpr elsewhere

theorem observed_modifyClient_of_ne {α : Type} (observe : Client → α) {other : Int} (different : fd ≠ other)
    (f : Client → Client) : (server.modifyClient other f).observed observe fd = server.observed observe fd := by
  unfold Server.observed Server.modifyClient
  rw [SortedMap.find?_modify_of_ne different]

/-- It has no line of this connection, and touches no read buffer but its own. -/
theorem apart_elsewhere {input : Input} (elsewhere : input.elsewhere fd = true) :
    (input.events server).filterMap (Event.ownLine fd) = [] ∧
      (server.handle env input).observed Client.readBuffer fd
        = server.observed Client.readBuffer fd := by
  have distinct : ∀ {other : Int}, decide (other ≠ fd) = true → fd ≠ other := fun different =>
    Ne.symm (of_decide_eq_true different)
  cases input with
  | accept other =>
    refine ⟨rfl, ?_⟩
    show ((server.clients.emplace other _).find? fd).map _ = _
    rw [SortedMap.find?_emplace, if_neg (distinct elsewhere)]
    rfl
  | read other data =>
    have different : fd ≠ other := distinct elsewhere
    have none : ∀ text, (lineEvents other text).filterMap (Event.ownLine fd) = [] := by
      intro text
      refine List.filterMap_eq_nil_iff.mpr fun event member => ?_
      obtain ⟨line, -, rfl⟩ := List.mem_map.mp member
      exact if_neg (Ne.symm different)
    have lines : ∀ (texts : List Bytes) (server : Server),
        (texts.foldl (Server.handleLine env other) server).observed Client.readBuffer fd
          = server.observed Client.readBuffer fd := by
      intro texts
      induction texts with
      | nil => exact fun _ => rfl
      | cons text rest ih =>
        intro server
        rw [List.foldl_cons, ih, Server.handleLine]
        split_ifs
        · rfl
        · exact readBuffer_handleCommand env _ other
    rw [events_read]
    refine ⟨?_, ?_⟩
    · cases server.clients.find? other with
      | none => rfl
      | some client =>
        show (_ ++ [_]).filterMap (Event.ownLine fd) = []
        rw [List.filterMap_append, none]
        rfl
    · show ((server.appendToReadBuffer other data).parseCommands env other).observed _ fd = _
      unfold Server.parseCommands
      split
      · exact observed_modifyClient_of_ne _ different _
      · rw [Server.consumeFromReadBuffer, observed_modifyClient_of_ne _ different, lines]
        exact observed_modifyClient_of_ne _ different _
  | hangUp other =>
    refine ⟨rfl, ?_⟩
    rw [Server.handle, observed_disconnectClient untouched_readBuffer, if_neg (distinct elsewhere)]
  | write other count => exact ⟨rfl, observed_modifyClient_of_ne _ (distinct elsewhere) _⟩
  | updateFlags =>
    refine ⟨rfl, ?_⟩
    rw [Server.handle, Server.updatePollFlags, observed_modifyClients]
    exact fun _ _ => rfl
  | restart => cases elsewhere

end Reading

/-! ### What the client reads -/

/-- Interrupted and failed reads get nothing. -/
theorem bytesRead_failures (failures : List Errno) (rest : List (Except Errno Bytes)) :
    bytesRead (failures.map Except.error ++ rest) = [] ∨
      bytesRead (failures.map Except.error ++ rest) = bytesRead rest := by
  induction failures with
  | nil => exact Or.inr rfl
  | cons errno later ih =>
    unfold bytesRead at ih ⊢
    rw [List.map_cons, List.cons_append, readSome]
    split_ifs
    · exact ih
    · exact Or.inl rfl
    · exact Or.inl rfl

/-- **The client reads what comes next.** -/
theorem received_prefix (wire : Wire) (event : ClientEvent) (line : Option TypedLine)
    (failures : List Errno) (count : Nat) (writes : List (Except Errno Nat)) :
    wire.loop.received event (wire.answers line failures count writes) <+: wire.downstream := by
  unfold ClientLoop.received
  split_ifs
  · show bytesRead (failures.map Except.error ++ _) <+: _
    rcases bytesRead_failures failures
      (if wire.downstream = [] then [] else [.ok (wire.downstream.take (count + 1))]) with none | some
    · rw [none]
      exact List.nil_prefix
    · rw [some]
      split_ifs
      · exact List.nil_prefix
      · exact List.take_prefix _ _
  · exact List.nil_prefix

end MyTeams
