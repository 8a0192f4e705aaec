/-
**Frames and messages travel as bytes.**

`Link` speaks of frames and messages, `Wire` of the bytes that carry them. `Wire.Refines` says that a link is
what a wire carries.

* `related_client`, `related_read`, `related_write`, `related_elsewhere` — each step of a wire keeps the
  relation, with its steps of the link;
* `wire_refines_link` — so every run of a wire is a run of a link, and what holds of links holds of the two
  programs, however their reads and writes cut the streams;
* `exactly_once` — no frame and no message is lost, repeated or moved.
-/

import MyTeams.Guarantees.NoInjection
import MyTeams.Guarantees.ReplyAttribution
import MyTeams.Guarantees.WireEvents

namespace MyTeams

open Transition Words

/-! ### The relation -/

namespace Wire

/-- **What a link is for a wire**: the same server and the same router, and its frames and messages are
the bytes on their way. -/
structure Refines (fd : Int) (wire : Wire) (link : Link) : Prop where
  server : link.server = wire.server
  router : link.router = wire.loop.reader.router
  upstream : wire.server.readBuffer fd ++ wire.upstream ++ wire.loop.client.offered
    = link.requests.flatMap ClientApplication.wireFrame
  /-- A client that has left its loop keeps lines that it has routed in its buffer. -/
  downstream : wire.loop.phase = .running →
    wire.loop.reader.serverReadBuffer ++ wire.downstream ++ wire.server.writeBuffer fd
      = (link.replies.map Prod.fst).flatMap Frame.render

/-- What both keep while they are related. -/
structure Related (fd : Int) (wire : Wire) (link : Link) : Prop extends Refines fd wire link where
  ready : wire.loop.Ready
  stays : wire.loop.phase = .running → wire.loop.reader.router.shouldDisconnect = false
  backed : ∃ accepted, link.Backed fd accepted
  /-- No complete line waits in a buffer. -/
  waits : tail (· = newline) (wire.server.readBuffer fd) = wire.server.readBuffer fd
  settled : wire.loop.phase = .running →
    tail (· = newline) wire.loop.reader.serverReadBuffer = wire.loop.reader.serverReadBuffer
  requests : ∀ request ∈ link.requests, request ≠ [] ∧ newline ∉ request
  /-- Every frame that was given to the output was handled, or is on its way. -/
  sent : wire.loop.client.given = (wire.handled ++ link.requests).map ClientApplication.wireFrame
  /-- Every message that was appended was routed, or is on its way. -/
  routed : (wire.server.appendedTo fd).map Frame.line
    = wire.loop.reader.routed ++ link.replies.map (·.1.line)

section Steps

variable {env : Env} {fd : Int} {wire : Wire} {link : Link}

/-- **The server handles an input** that does not take bytes from the connection. -/
theorem related_input (related : Related fd wire link) {input : Input}
    (inner : ∀ event ∈ input.events wire.server, event.inner fd = true) (rest : List Bytes) (upstream : Bytes)
    (requests : link.requests = (input.events wire.server).filterMap (Event.ownLine fd) ++ rest)
    (stream : (wire.server.handle env input).readBuffer fd ++ upstream ++ wire.loop.client.offered
      = rest.flatMap ClientApplication.wireFrame)
    (waits : tail (· = newline) ((wire.server.handle env input).readBuffer fd)
      = (wire.server.handle env input).readBuffer fd) :
    Related fd { wire.input env fd input with upstream := upstream }
      (run (Link.step env fd) link (wire.inputEvents fd input)) := by
  obtain ⟨accepted, backed⟩ := related.backed
  obtain ⟨still, hears⟩ := Link.hears_events env (input.events wire.server) backed inner requests
  show Related fd _ (run _ link ((input.events wire.server).map (LinkEvent.ofEvent fd)))
  generalize run _ link ((input.events wire.server).map (LinkEvent.ofEvent fd)) = next at still hears
  have after : next.server = wire.server.handle env input := by
    rw [hears.server, related.server, ← handle_eq_run]
  have left : next.requests = rest := (List.append_cancel_left (requests.symm.trans hears.requests)).symm
  obtain ⟨added, replies, appended, written⟩ := hears.output
  rw [related.server, after] at appended written
  refine ⟨⟨after, hears.router.trans related.router, ?_, fun running => ?_⟩, related.ready, related.stays,
    ⟨accepted, still⟩, waits, related.settled, ?_, ?_, ?_⟩
  · rw [left]
    exact stream
  · show wire.loop.reader.serverReadBuffer ++ wire.downstream
      ++ (wire.server.handle env input).writeBuffer fd = _
    rw [written, ← List.append_assoc, related.downstream running, replies, List.flatMap_append]
  · rw [left]
    intro request member
    exact related.requests request (by rw [requests]; exact List.mem_append_right _ member)
  · show _ = ((wire.handled ++ (input.events wire.server).filterMap (Event.ownLine fd)) ++ _).map _
    rw [left, List.append_assoc, ← requests]
    exact related.sent
  · show ((wire.server.handle env input).appendedTo fd).map Frame.line = _
    have texts : ∀ replies : List (Frame × Option Bytes), (replies.map fun reply => reply.1.line)
        = (replies.map Prod.fst).map Frame.line := fun replies => by
      rw [List.map_map]
      rfl
    rw [appended, List.map_append, related.routed, texts, texts, replies, List.map_append, List.append_assoc]
    rfl

/-- **The server reads from the connection.** -/
theorem related_read (related : Related fd wire link) (count : Nat) :
    Related fd (wire.step env fd (.read count)) (run (Link.step env fd) link (wire.linkEvents fd (.read count))) := by
  simp only [step, linkEvents]
  split_ifs with empty
  · exact related
  obtain ⟨accepted, backed⟩ := related.backed
  obtain ⟨client, found, -⟩ := backed.connected
  rw [related.server] at found
  have buffer : wire.server.readBuffer fd = client.readBuffer := by
    rw [Server.readBuffer, Server.observed, found]
    rfl
  have stream : (client.readBuffer ++ wire.upstream.take (count + 1))
      ++ (wire.upstream.drop (count + 1) ++ wire.loop.client.offered)
        = link.requests.flatMap fun request => id request ++ [carriageReturn, newline] := by
    have before := related.upstream
    rw [buffer] at before
    show _ = link.requests.flatMap ClientApplication.wireFrame
    rw [← before, ← List.append_assoc, List.append_assoc client.readBuffer, List.take_append_drop]
  obtain ⟨taken, rest, split, texts, remains⟩ := cut_stream id (fun request member =>
    (related.requests request member).2) stream
  have given : (lines (· = newline) (client.readBuffer ++ wire.upstream.take (count + 1))).map Server.stripReturn
      = taken := by
    rw [texts, List.map_map]
    refine (List.map_congr_left fun request _ => ?_).trans (List.map_id taken)
    simp [Server.stripReturn]
  have after : (wire.server.handle env (.read fd (wire.upstream.take (count + 1)))).readBuffer fd
      = tail (· = newline) (client.readBuffer ++ wire.upstream.take (count + 1)) := by
    rw [← buffer]
    exact readBuffer_handleRead found _
  refine related_input related inner_read rest _ ?_ ?_ ?_
  · rw [events_read, found]
    show _ = (lineEvents fd _ ++ [_]).filterMap (Event.ownLine fd) ++ rest
    rw [List.filterMap_append, ownLine_lineEvents, given, split, List.filter_eq_self.mpr]
    · simp [Event.ownLine]
    · intro request member
      exact decide_eq_true (related.requests request (by rw [split]; exact List.mem_append_left _ member)).1
  · rw [after, List.append_assoc]
    exact remains
  · rw [after, tail_eq_self (tail_clean _)]

/-- The socket of the server takes bytes. -/
theorem related_write (related : Related fd wire link) (count : Nat) :
    Related fd (wire.step env fd (.write count)) (run (Link.step env fd) link (wire.linkEvents fd (.write count))) := by
  obtain ⟨accepted, backed⟩ := related.backed
  obtain ⟨client, found, owes⟩ := backed.connected
  have quiet : Quiet fun client : Client => { client with writeBuffer := client.writeBuffer.drop count } :=
    ⟨fun _ => rfl, fun _ => rfl, fun _ => rfl⟩
  have nothing : link.server.newFrames fd (link.server.consumeFromWriteBuffer fd count) = [] :=
    newFrames_quiet (quiet_at quiet fd) fd
  have next : run (Link.step env fd) link (wire.linkEvents fd (.write count))
      = { link with server := link.server.consumeFromWriteBuffer fd count } := by
    show link.other env fd (.write fd count) = _
    unfold Link.other
    simp only [Event.elsewhere, if_true, Server.step, nothing, List.map_nil, List.append_nil]
  have present : (link.server.consumeFromWriteBuffer fd count).clients.find? fd
      = some { client with writeBuffer := client.writeBuffer.drop count } := by
    rw [Server.consumeFromWriteBuffer, Server.modifyClient, SortedMap.find?_modify_self, found]
    rfl
  have carries : (link.server.step env (.write fd count)).Carries Storable :=
    step_carries source_storable (event_storable _) backed.stored
  have buffer : (wire.server.consumeFromWriteBuffer fd count).readBuffer fd = wire.server.readBuffer fd := by
    rw [Server.readBuffer, Server.consumeFromWriteBuffer, observed_modifyClient]
    · rfl
    · exact fun _ => rfl
  rw [next]
  refine ⟨⟨?_, related.router, ?_, fun running => ?_⟩, related.ready, related.stays,
    ⟨accepted ++ client.writeBuffer.take count, ⟨_, present, ?_⟩, carries, backed.replies⟩, ?_, related.settled,
    related.requests, ?_, ?_⟩
  · show _ = wire.server.consumeFromWriteBuffer fd count
    rw [related.server]
  · show (wire.server.consumeFromWriteBuffer fd count).readBuffer fd ++ wire.upstream ++ _ = _
    rw [buffer]
    exact related.upstream
  · show wire.loop.reader.serverReadBuffer ++ (wire.downstream ++ (wire.server.writeBuffer fd).take count)
      ++ (wire.server.consumeFromWriteBuffer fd count).writeBuffer fd = _
    rw [related.server] at present found
    have rest : (wire.server.consumeFromWriteBuffer fd count).writeBuffer fd
        = (wire.server.writeBuffer fd).drop count := by
      unfold Server.writeBuffer Server.observed
      rw [present, found]
      rfl
    rw [rest, ← related.downstream running]
    simp [List.append_assoc]
  · show ((client.outbox accepted).take count).stream = _
    rw [Outbox.stream_take]
    exact owes
  · show tail _ ((wire.server.consumeFromWriteBuffer fd count).readBuffer fd)
      = (wire.server.consumeFromWriteBuffer fd count).readBuffer fd
    rw [buffer]
    exact related.waits
  · exact related.sent.trans (by simp [step, input, Input.events, Event.ownLine])
  · show ((wire.server.consumeFromWriteBuffer fd count).appendedTo fd).map Frame.line = _
    rw [Server.consumeFromWriteBuffer, appendedTo_modifyClient quiet]
    exact related.routed

/-- **Anything else** that happens to the server. -/
theorem related_elsewhere (related : Related fd wire link) (input : Input) :
    Related fd (wire.step env fd (.elsewhere input))
      (run (Link.step env fd) link (wire.linkEvents fd (.elsewhere input))) := by
  simp only [step, linkEvents]
  split_ifs with elsewhere
  · obtain ⟨none, buffer⟩ := @apart_elsewhere env fd wire.server input elsewhere
    have same : (wire.server.handle env input).readBuffer fd = wire.server.readBuffer fd := by
      rw [Server.readBuffer, buffer, Server.readBuffer]
    refine related_input related (inner_elsewhere elsewhere) link.requests wire.upstream ?_ ?_ ?_
    · rw [none, List.nil_append]
    · rw [same]
      exact related.upstream
    · rw [same]
      exact related.waits
  · exact related

/-- **The client has handled an event**: these frames were given to its output. -/
theorem related_after (related : Related fd wire link) {after : ClientLoop} (ready : after.Ready)
    (frames : List Bytes) {next : Link} (server : next.server = link.server)
    (router : next.router = after.reader.router) (requests : next.requests = link.requests ++ frames)
    (gives : TcpClient.Gives (frames.map ClientApplication.wireFrame) wire.loop.client after.client)
    (clean : ∀ frame ∈ frames, frame ≠ [] ∧ newline ∉ frame)
    (fewer : ∀ reply ∈ next.replies, reply ∈ link.replies)
    (stays : after.phase = .running → after.reader.router.shouldDisconnect = false)
    (settled : after.phase = .running →
      tail (· = newline) after.reader.serverReadBuffer = after.reader.serverReadBuffer) {rest : Bytes}
    (downstream : after.phase = .running → after.reader.serverReadBuffer ++ rest ++ wire.server.writeBuffer fd
      = (next.replies.map Prod.fst).flatMap Frame.render)
    (routed : wire.loop.reader.routed ++ link.replies.map (·.1.line)
      = after.reader.routed ++ next.replies.map (·.1.line)) :
    Related fd
      { wire with
        loop := after
        upstream := wire.upstream ++ after.client.accepted.drop wire.loop.client.accepted.length
        downstream := rest } next := by
  obtain ⟨accepted, backed⟩ := related.backed
  have connected : next.Backed fd accepted := by
    refine ⟨?_, ?_, fun reply member => backed.replies reply (fewer reply member)⟩
    · rw [server]
      exact backed.connected
    · rw [server]
      exact backed.stored
  refine ⟨⟨server.trans related.server, router, ?_, downstream⟩, ready, stays, ⟨accepted, connected⟩,
    related.waits, settled, ?_, ?_, related.routed.trans routed⟩
  · show wire.server.readBuffer fd ++ (wire.upstream ++ after.client.accepted.drop _) ++ after.client.offered
      = next.requests.flatMap ClientApplication.wireFrame
    rw [requests, List.append_assoc, List.append_assoc, gives.stream, List.flatMap_append, ← related.upstream]
    simp [List.append_assoc, List.flatMap_def]
  · rw [requests]
    intro request member
    rcases List.mem_append.mp member with old | new
    · exact related.requests request old
    · exact clean request new
  · show after.client.given = (wire.handled ++ next.requests).map _
    rw [gives.given, related.sent, requests, ← List.append_assoc, ← List.map_append]

/-- **A line is typed.** -/
theorem related_typed (related : Related fd wire link) (running : wire.loop.phase = .running)
    {after : ClientLoop} (ready : after.Ready) {line : Bytes} (clean : newline ∉ line)
    (dispatches : wire.loop.Dispatches line after) :
    Related fd
      { wire with
        loop := after
        upstream := wire.upstream ++ after.client.accepted.drop wire.loop.client.accepted.length }
      (link.type line) ∧ after.reader.routed = wire.loop.reader.routed := by
  have stays := related.stays running
  have here : ¬ link.router.shouldDisconnect = true := by
    rw [related.router, stays]
    exact Bool.false_ne_true
  have buffered : after.reader.serverReadBuffer = wire.loop.reader.serverReadBuffer →
      after.reader.serverReadBuffer ++ wire.downstream ++ wire.server.writeBuffer fd
        = (link.replies.map Prod.fst).flatMap Frame.render := by
    intro same
    rw [same]
    exact related.downstream running
  unfold ClientLoop.Dispatches at dispatches
  unfold Link.type
  rw [if_neg here]
  cases result : ClientApplication.dispatchCommandLine line with
  | nothing =>
    rw [result] at dispatches
    obtain ⟨gives, reader⟩ := dispatches
    rw [reader] at buffered
    refine ⟨related_after related ready [] rfl ?_ (List.append_nil _).symm gives (List.forall_mem_nil _)
      (fun _ => id) ?_ ?_ ?_ ?_, ?_⟩ <;> rw [reader]
    · exact related.router
    · exact fun _ => stays
    · exact fun _ => related.settled running
    · exact fun _ => buffered rfl
  | printed text =>
    rw [result] at dispatches
    obtain ⟨gives, reader⟩ := dispatches
    rw [reader] at buffered
    let next : Link :=
      { link with router := { link.router with output := link.router.output ++ [.stdout text] } }
    refine ⟨@related_after _ _ _ related _ ready [] next rfl ?_ (List.append_nil _).symm gives (List.forall_mem_nil _)
      (fun _ => id) ?_ ?_ _ ?_ ?_, ?_⟩ <;> rw [reader]
    · exact congrArg (fun router : ServerMessageRouter =>
        { router with output := router.output ++ [Output.stdout text] }) related.router
    · exact fun _ => stays
    · exact fun _ => related.settled running
    · exact fun _ => buffered rfl
  | sent command frame =>
    rw [result] at dispatches
    obtain ⟨gives, reader⟩ := dispatches
    rw [reader] at buffered
    obtain ⟨nonempty, bytes⟩ := sent_bytes result
    have whole : ∀ sent ∈ [frame], sent ≠ [] ∧ newline ∉ sent := by
      refine List.forall_mem_singleton.mpr ⟨nonempty, fun member => ?_⟩
      rcases bytes newline member with word | typed
      · exact absurd word (by decide)
      · exact clean typed
    let next : Link :=
      { link with router := link.router.setPendingCommand command, requests := link.requests ++ [frame] }
    refine ⟨@related_after _ _ _ related _ ready [frame] next rfl ?_ rfl gives whole (fun _ => id) ?_ ?_ _ ?_ ?_,
      ?_⟩ <;> rw [reader]
    · exact congrArg (ServerMessageRouter.setPendingCommand command) related.router
    · exact fun _ => stays
    · exact fun _ => related.settled running
    · exact fun _ => buffered rfl

/-- **Bytes are read.** The link routes the messages that they complete. -/
theorem related_received (related : Related fd wire link) (running : wire.loop.phase = .running)
    {after : ClientLoop} (ready : after.Ready) (gives : TcpClient.Gives [] wire.loop.client after.client)
    {data : Bytes} (arrived : data <+: wire.downstream) {outcome : ReadOutcome}
    (read : wire.loop.reader.handleServerReadable data = some (outcome, after.reader))
    (phase : after.phase = ClientLoop.phaseAfter outcome) :
    Related fd
      { wire with
        loop := after
        upstream := wire.upstream ++ after.client.accepted.drop wire.loop.client.accepted.length
        downstream := wire.downstream.drop data.length }
      (run (Link.step env fd) link
        (List.replicate (after.reader.routed.length - wire.loop.reader.routed.length) .route)) := by
  obtain ⟨accepted, backed⟩ := related.backed
  obtain ⟨_, _, same, seen, left⟩ := ServerReader.handleServerReadable_eq data wire.loop.reader
  rw [read] at same
  obtain ⟨rfl, rfl⟩ := Prod.mk.inj (Option.some.inj same)
  have ends : after.phase = .running → outcome = .running := by
    rw [phase]
    cases outcome <;> simp [ClientLoop.phaseAfter]
  have stream : (wire.loop.reader.serverReadBuffer ++ data)
      ++ (wire.downstream.drop data.length ++ wire.server.writeBuffer fd)
        = link.replies.flatMap fun reply => reply.1.line ++ [carriageReturn, newline] := by
    have before := related.downstream running
    rw [List.flatMap_map] at before
    refine Eq.trans ?_ before
    obtain ⟨later, shape⟩ := arrived
    rw [← shape, List.drop_left]
    simp [List.append_assoc]
  obtain ⟨taken, rest, split, texts, remains⟩ := cut_stream (fun reply : Frame × Option Bytes => reply.1.line)
    (fun reply member inside => (oneLine_line (backed.replies reply member) newline inside).2 rfl) stream
  have stays : link.router.shouldDisconnect = false := by
    rw [related.router]
    exact related.stays running
  obtain ⟨ran, lines, ended⟩ := Link.run_route env fd taken rest split stays
  rw [related.router, ← texts] at ran lines ended
  have frames : after.reader.routed = wire.loop.reader.routed ++
      (ServerReader.consume (Words.lines (· = newline) (wire.loop.reader.serverReadBuffer ++ data))
        wire.loop.reader.router).2.1 := congrArg (fun result => result.2.1) seen
  have router : after.reader.router =
      (ServerReader.consume (Words.lines (· = newline) (wire.loop.reader.serverReadBuffer ++ data))
        wire.loop.reader.router).2.2 := congrArg (fun result => result.2.2) seen
  have outcomes : outcome = ServerReader.checkRest _
      (ServerReader.consume (Words.lines (· = newline) (wire.loop.reader.serverReadBuffer ++ data))
        wire.loop.reader.router).1 := congrArg Prod.fst seen
  generalize ServerReader.consume (Words.lines (· = newline) (wire.loop.reader.serverReadBuffer ++ data))
    wire.loop.reader.router = result at ran lines ended frames router outcomes
  have goesOn : after.phase = .running →
      result.2.1.length = taken.length ∧ result.2.2.shouldDisconnect = false := by
    intro still
    refine ended ?_
    have running := ends still
    rw [outcomes] at running
    cases first : result.1 with
    | running => rfl
    | _ =>
      rw [first] at running
      cases running
  have count : after.reader.routed.length - wire.loop.reader.routed.length = result.2.1.length := by
    rw [frames, List.length_append, Nat.add_sub_cancel_left]
  rw [count, ran]
  let next : Link :=
    { link with router := result.2.2, replies := taken.drop result.2.1.length ++ rest }
  refine @related_after _ _ _ related _ ready [] next rfl router.symm (List.append_nil _).symm gives
    (List.forall_mem_nil _) ?_ ?_ ?_ _ ?_ ?_
  · intro reply member
    rw [split]
    rcases List.mem_append.mp member with old | later
    · exact List.mem_append_left _ (List.mem_of_mem_drop old)
    · exact List.mem_append_right _ later
  · intro still
    rw [router]
    exact (goesOn still).2
  · intro still
    rw [(left (ends still)).1, tail_eq_self (tail_clean _)]
  · intro still
    show _ = ((taken.drop result.2.1.length ++ rest).map Prod.fst).flatMap Frame.render
    rw [(left (ends still)).1, (goesOn still).1, List.drop_length, List.nil_append, List.append_assoc, remains,
      List.flatMap_map]
    rfl
  · show _ = _ ++ (taken.drop result.2.1.length ++ rest).map (·.1.line)
    rw [split, frames, List.map_append, List.map_append, lines, List.append_assoc, List.append_assoc]

/-- **The client handles an event.** -/
theorem related_client (related : Related fd wire link) (event : ClientEvent) (line : Option TypedLine)
    (failures : List Errno) (count : Nat) (writes : List (Except Errno Nat)) :
    Related fd (wire.step env fd (.client event line failures count writes))
      (run (Link.step env fd) link (wire.linkEvents fd (.client event line failures count writes))) := by
  have arrived := received_prefix wire event line failures count writes
  show Related fd (wire.client event (wire.answers line failures count writes))
    (run _ link (wire.clientEvents event (wire.answers line failures count writes)))
  have typedLine : (wire.answers line failures count writes).line = line.map Subtype.val := rfl
  generalize wire.answers line failures count writes = answers at arrived typedLine
  have effect := ClientLoop.effect_handleEvent related.ready event answers
  have ready := ClientLoop.ready_handleEvent related.ready (event, answers)
  have still := @ClientLoop.running_of_handleEvent wire.loop (event, answers)
  unfold client clientEvents
  generalize wire.loop.handleEvent (event, answers) = after at effect ready still
  simp only
  cases effect with
  | idle dispatched received gives reader =>
    rw [dispatched, received, reader, Nat.sub_self]
    refine related_after related ready [] rfl ?_ (List.append_nil _).symm gives (List.forall_mem_nil _)
      (fun _ => id) ?_ ?_ ?_ ?_ <;> rw [reader]
    · exact related.router
    · exact fun running => related.stays (still running)
    · exact fun running => related.settled (still running)
    · exact fun running => related.downstream (still running)
  | @typed text running dispatched received dispatches =>
    have clean : newline ∉ text := by
      unfold ClientLoop.dispatched at dispatched
      split_ifs at dispatched
      rw [typedLine] at dispatched
      obtain ⟨given, mapped, rfl⟩ := Option.map_eq_some_iff.mp dispatched
      obtain ⟨⟨whole, free⟩, -, rfl⟩ := Option.map_eq_some_iff.mp mapped
      unfold StdinLoop.popReturn
      split_ifs
      · exact fun member => free ((List.dropLast_prefix whole).subset member)
      · exact free
    obtain ⟨next, same⟩ := related_typed related running ready clean dispatches
    rw [dispatched, received, same, Nat.sub_self]
    exact next
  | read running dispatched gives read phase =>
    rw [dispatched]
    exact related_received related running ready gives arrived read phase

/-- **A step of the wire** is these steps of the link. -/
theorem related_step (related : Related fd wire link) (event : WireEvent) :
    Related fd (wire.step env fd event) (run (Link.step env fd) link (wire.linkEvents fd event)) := by
  cases event with
  | client event line failures count writes => exact related_client related event line failures count writes
  | read count => exact related_read related count
  | write count => exact related_write related count
  | elsewhere input => exact related_elsewhere related input

/-- **A run of the wire is a run of the link.** -/
theorem related_run (events : List WireEvent) {wire : Wire} {link : Link} (related : Related fd wire link) :
    Related fd (run (Wire.step env fd) wire events) (run (Link.step env fd) link (wire.trace env fd events)) := by
  induction events generalizing wire link with
  | nil => exact related
  | cons event rest ih =>
    rw [run_cons, trace, run_append]
    exact ih (related_step related event)

end Steps

/-- A connection starts with nothing on its way. -/
theorem related_start (env : Env) {fd socketFd : Int} (socket : socketFd ≠ stdinFileno)
    {before : List Input} (free : (run (Server.handle env) {} before).clients.find? fd = none) :
    Related fd (start env fd socketFd before)
      (Link.start env (Input.trace env {} (before ++ [.accept fd]))) := by
  have server : (Link.start env (Input.trace env {} (before ++ [.accept fd]))).server
      = (start env fd socketFd before).server := (run_trace _ _).symm
  have present : (start env fd socketFd before).server.clients.find? fd = some { fd := fd } := by
    show (run (Server.handle env) {} (before ++ [.accept fd])).clients.find? fd = _
    rw [run_concat, Server.handle, Server.acceptClient, SortedMap.find?_emplace, if_pos rfl, free]
    rfl
  have observed : ∀ {α : Type} (observe : Client → α),
      (start env fd socketFd before).server.observed observe fd = some (observe { fd := fd }) := by
    intro α observe
    rw [Server.observed, present]
    rfl
  have buffer : (start env fd socketFd before).server.readBuffer fd = [] := by
    rw [Server.readBuffer, observed]
    rfl
  refine ⟨⟨server, rfl, ?_, fun _ => ?_⟩, ClientLoop.ready_start socket, fun _ => rfl, ⟨[], ⟨?_, ?_,
    fun _ member => absurd member List.not_mem_nil⟩⟩, by rw [buffer]; rfl, fun _ => rfl,
    fun _ member => absurd member List.not_mem_nil, rfl, ?_⟩
  · rw [buffer]
    rfl
  · rw [Server.writeBuffer, observed]
    rfl
  · rw [server, present]
    exact ⟨_, rfl, rfl⟩
  · exact run_storable _
  · rw [appendedTo_of_found present]
    rfl

end Wire

/-- **Bytes carry frames.** However the two programs take turns, and however their reads and writes cut the two
streams, a client that is connected to the server is a link: a typed line is a typed line, a line of the
connection that the server handles is the next frame of the link, a line that the client routes is the next
message. The server and the router are the same at every moment, the frames of the link that have not reached
the server are the bytes on their way, in order, and so are the messages, until the client leaves its loop. -/
theorem wire_refines_link (env : Env) {fd socketFd : Int} (socket : socketFd ≠ stdinFileno)
    {before : List Input} (free : (run (Server.handle env) {} before).clients.find? fd = none)
    (events : List WireEvent) :
    Wire.Refines fd (run (Wire.step env fd) (Wire.start env fd socketFd before) events)
      (run (Link.step env fd) (Link.start env (Input.trace env {} (before ++ [.accept fd])))
        ((Wire.start env fd socketFd before).trace env fd events)) :=
  (Wire.related_run events (Wire.related_start env socket free)).toRefines

/-- A login and a list of users, in pieces: three bytes are written, then the others; the server reads seven of
them, and the rest after a line of another client; the client is interrupted, and reads in the middle of a
message. -/
def pieces : List WireEvent :=
  [.client { fd := 0, pollIn := true } (some ⟨ascii "/login \"ann\"", by decide⟩) [] 0 [.ok 3, .error .again],
    .client { fd := 0, pollIn := true } (some ⟨ascii "/users", by decide⟩) [] 0 [],
    .client { fd := 3, pollOut := true } none [] 0 [.ok 100], .read 6,
    .elsewhere (.read 5 (ascii "/login \"bob\"\r\n")), .read 100, .write 120,
    .client { fd := 3, pollIn := true } none [.interrupted] 100 []]

theorem wire_refines_link_sample :
    let wire := run (Wire.step sampleEnv 4) (Wire.start sampleEnv 4 3 [.accept 5]) pieces
    let link := run (Link.step sampleEnv 4) (Link.start sampleEnv [.accept 5, .accept 4])
      ((Wire.start sampleEnv 4 3 [.accept 5]).trace sampleEnv 4 pieces)
    wire.Refines 4 link ∧ link.replies.length = 6 := by
  intro wire link
  exact ⟨wire_refines_link sampleEnv (by decide) (by decide) pieces, by decide +kernel⟩

/-- **Every frame is handled once, and every message routed once**, in order. What was given to the output of
the client is what the server has handled and what is on its way as bytes; what was appended for the client is
what it has routed and what is on its way, until the client leaves its loop. -/
theorem exactly_once (env : Env) {fd socketFd : Int} (socket : socketFd ≠ stdinFileno)
    {before : List Input} (free : (run (Server.handle env) {} before).clients.find? fd = none)
    (events : List WireEvent) :
    let wire := run (Wire.step env fd) (Wire.start env fd socketFd before) events
    (∃ frames : List Bytes,
      wire.loop.client.given = (wire.handled ++ frames).map ClientApplication.wireFrame ∧
      wire.server.readBuffer fd ++ wire.upstream ++ wire.loop.client.offered
        = frames.flatMap ClientApplication.wireFrame) ∧
    ∃ messages : List Frame,
      (wire.server.appendedTo fd).map Frame.line = wire.loop.reader.routed ++ messages.map Frame.line ∧
      (wire.loop.phase = .running →
        wire.loop.reader.serverReadBuffer ++ wire.downstream ++ wire.server.writeBuffer fd
          = messages.flatMap Frame.render) := by
  intro wire
  have related := @Wire.related_run env fd events _ _ (Wire.related_start env socket free)
  refine ⟨⟨_, related.sent, related.upstream⟩, _, ?_, related.downstream⟩
  rw [List.map_map]
  exact related.routed

theorem exactly_once_sample :
    let wire := run (Wire.step sampleEnv 4) (Wire.start sampleEnv 4 3 [.accept 5]) pieces
    (∃ messages : List Frame,
      (wire.server.appendedTo 4).map Frame.line = wire.loop.reader.routed ++ messages.map Frame.line ∧
      wire.loop.reader.serverReadBuffer ++ wire.downstream ++ wire.server.writeBuffer 4
        = messages.flatMap Frame.render) ∧
    wire.handled = [ascii "/login \"ann\"", ascii "/users"] := by
  intro wire
  obtain ⟨-, messages, routed, bytes⟩ := exactly_once sampleEnv (by decide : (3 : Int) ≠ stdinFileno)
    (by decide : (run (Server.handle sampleEnv) {} [.accept 5]).clients.find? 4 = none) pieces
  exact ⟨⟨messages, routed, bytes (by decide +kernel)⟩, by decide +kernel⟩

end MyTeams
