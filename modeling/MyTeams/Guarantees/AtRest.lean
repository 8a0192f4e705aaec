/-
**A command is one step.**

`Network.AtRest` says that nothing is on its way. `Network.settle`, four calls for each client that take all that is
there, brings every network to rest (`settle_rests`). When a user then types a command and `Network.settle` brings the
network to rest again, the server has handled this one line, and every client has routed what this one line has
appended for it. Other schedules are not considered.

* `outgoing_gather`, `outgoing_scatter` — what the turns of a client leave on its way;
* `settle_rests` — a network comes to rest;
* `handle_wireFrame` — a read of one frame is the handling of one line;
* `follows_run` — the router of a client follows the lines that it routes;
* `command_is_atomic` — a command at rest.
-/

import MyTeams.Guarantees.ArgumentFidelity
import MyTeams.Guarantees.Settling

namespace MyTeams

open Transition Sweep

/-! ### Nothing is on its way -/

/-- Nothing is on its way to the server, and nothing to a client that reads. -/
structure Wire.AtRest (fd : Int) (wire : Wire) : Prop where
  outgoing : wire.outgoing = []
  routed : wire.loop.phase = .running →
    (wire.server.appendedTo fd).map Frame.line = wire.loop.reader.routed

def Network.AtRest (network : Network) : Prop :=
  ∀ fd wire, network.wire fd = some wire → wire.AtRest fd

namespace Wire

variable {env : Env} {fd : Int} {wire : Wire} {link : Link}

/-- What a client has written and has to write, behind an event that gives something to its output. -/
theorem outgoing_gives {after : ClientLoop} {given : List Bytes} (running : wire.loop.phase = .running)
    (gives : TcpClient.Gives given wire.loop.client after.client) :
    wire.upstream ++ after.client.accepted.drop wire.loop.client.accepted.length ++ after.client.offered
      = wire.outgoing ++ given.flatten := by
  unfold outgoing
  rw [if_pos running, List.append_assoc, gives.stream, List.append_assoc]

theorem outgoing_gather (related : Related fd wire link) :
    (run (Wire.step env fd) wire (wire.gather env fd)).outgoing = [] := by
  let sent := wire.step env fd wire.flushAll
  show (sent.step env fd (.read sent.upstream.length)).outgoing = []
  have upstream : (sent.step env fd (.read sent.upstream.length)).upstream = [] := by
    simp only [step]
    split_ifs with none
    · exact none
    · exact List.drop_eq_nil_of_le (Nat.le_succ _)
  unfold outgoing
  rw [upstream, List.nil_append]
  by_cases running : wire.loop.phase = .running
  · rw [(gathered_drain related running).offered, ite_self]
  · have loop : (sent.step env fd (.read sent.upstream.length)).loop = wire.loop := by
      have same : sent.loop = wire.loop := by
        show wire.loop.handleEvent _ = wire.loop
        exact ClientLoop.andThen_of_ended running
      simp only [step]
      split_ifs <;> exact same
    rw [loop, if_neg running]

theorem outgoing_readAll (related : Related fd wire link) (empty : wire.outgoing = []) :
    (wire.step env fd wire.readAll).outgoing = [] := by
  let event : ClientEvent := { fd := wire.loop.socketFd, pollIn := !wire.downstream.isEmpty }
  let answers := wire.answers none [] wire.downstream.length []
  let after := wire.loop.handleEvent (event, answers)
  show (wire.upstream ++ after.client.accepted.drop wire.loop.client.accepted.length)
    ++ (if after.phase = .running then after.client.offered else []) = []
  by_cases running : wire.loop.phase = .running
  · have gives := gives_of_socket related (show event.fd = wire.loop.socketFd from rfl) answers
    have stream := outgoing_gives running gives
    rw [empty, List.flatten_nil, List.append_nil, List.append_eq_nil_iff] at stream
    rw [stream.1, stream.2, ite_self, List.append_nil]
  · have same : after = wire.loop := ClientLoop.andThen_of_ended running
    rw [same, List.drop_length, List.append_nil]
    exact empty

theorem outgoing_scatter (related : Related fd wire link) (empty : wire.outgoing = []) :
    (run (Wire.step env fd) wire (wire.scatter env fd)).outgoing = [] := by
  let count := (wire.server.writeBuffer fd).length
  exact @outgoing_readAll env fd _ _ (related_step related (.write count)) empty

/-- A client that has left its loop does not come back. -/
theorem ended_run (events : List WireEvent) (ended : wire.loop.phase ≠ .running) :
    (run (Wire.step env fd) wire events).loop.phase ≠ .running := by
  refine run_invariant (fun wire : Wire => wire.loop.phase ≠ .running) (fun wire event ended => ?_) ended events
  cases event with
  | client => exact fun goesOn => ended (ClientLoop.running_of_handleEvent goesOn)
  | read count =>
    simp only [step]
    split_ifs <;> exact ended
  | write => exact ended
  | elsewhere input =>
    simp only [step]
    split_ifs <;> exact ended

end Wire

/-! ### What comes to rest -/

namespace Network

variable {env : Env} {fd other : Int} {network : Network}

/-- A client, with the link that it is. -/
def Linked (fd : Int) (network : Network) : Prop :=
  ∃ wire link, network.wire fd = some wire ∧ Wire.Related fd wire link

/-- A client from which nothing is on its way. -/
def Idle (fd : Int) (network : Network) : Prop :=
  ∃ wire link, network.wire fd = some wire ∧ Wire.Related fd wire link ∧ wire.outgoing = []

/-- A client that has left its loop. -/
def Ended (fd : Int) (network : Network) : Prop :=
  ∃ wire, network.wire fd = some wire ∧ wire.loop.phase ≠ .running

theorem idle_gather (linked : Linked fd network) :
    Idle fd (run (step env) network (turn (Wire.gather env) fd network)) := by
  obtain ⟨wire, link, seen, related⟩ := linked
  unfold turn
  rw [seen]
  exact ⟨_, _, run_turn_self seen own_gather, Wire.related_run _ related, Wire.outgoing_gather related⟩

theorem idle_scatter (idle : Idle fd network) :
    Idle fd (run (step env) network (turn (Wire.scatter env) fd network)) := by
  obtain ⟨wire, link, seen, related, empty⟩ := idle
  unfold turn
  rw [seen]
  exact ⟨_, _, run_turn_self seen own_scatter, Wire.related_run _ related, Wire.outgoing_scatter related empty⟩

/-! Turns of others. -/

section Others

variable {events : Int → Wire → List WireEvent} (own : ∀ wire, ∀ event ∈ events other wire, event.isOwn = true)
include own

theorem linked_turn (linked : Linked fd network) (different : other ≠ fd) :
    Linked fd (run (step env) network (turn events other network)) := by
  obtain ⟨wire, link, seen, related⟩ := linked
  obtain ⟨server, link, reached, related⟩ := @related_turn env fd other wire network seen link related different _ own
  exact ⟨_, link, reached, related⟩

theorem idle_turn (idle : Idle fd network) (different : other ≠ fd) :
    Idle fd (run (step env) network (turn events other network)) :=
  related_and_turn own (fun _ _ empty => empty) idle different

/-- No turn brings a client back. -/
theorem ended_turn (ended : Ended fd network) : Ended fd (run (step env) network (turn events other network)) := by
  obtain ⟨wire, seen, phase⟩ := ended
  by_cases here : other = fd
  · subst here
    unfold turn
    rw [seen]
    exact ⟨_, run_turn_self seen (own wire), Wire.ended_run _ phase⟩
  · obtain ⟨party, present, rfl⟩ := wire_eq_some.mp seen
    exact ⟨_, wire_eq_some.mpr ⟨party, (find?_turn here own).trans present, rfl⟩, phase⟩

/-- No turn brings a client in. -/
theorem wire_none_turn (absent : network.wire fd = none) :
    (run (step env) network (turn events other network)).wire fd = none := by
  by_cases here : other = fd
  · subst here
    unfold turn
    rw [absent]
    exact absent
  · unfold Network.wire at absent ⊢
    rw [find?_turn here own]
    rw [Option.map_eq_none_iff] at absent ⊢
    exact absent

end Others

/-- What every turn keeps. -/
theorem settle_keeps {P : Network → Prop}
    (keeps : ∀ (events : Int → Wire → List WireEvent) (other : Int),
      (∀ wire, ∀ event ∈ events other wire, event.isOwn = true) →
        ∀ network : Network, P network → P (run (step env) network (turn events other network)))
    (start : P network) : P (run (step env) network (network.settle env)) := by
  unfold settle
  rw [run_append]
  have gathered : P (run (step env) network (sweep (step env) (turn (Wire.gather env)) network.keys network)) :=
    sweep_keeps (fun state other _ => keeps _ other (fun _ => own_gather) state) start
  exact sweep_keeps (fun state other _ => keeps _ other (fun _ => own_scatter) state) gathered

theorem idle_settle (linked : Linked fd network) : Idle fd (run (step env) network (network.settle env)) := by
  have member : fd ∈ network.keys := by
    obtain ⟨wire, -, seen, -⟩ := linked
    exact mem_keys seen
  have gathered : Idle fd (run (step env) network (sweep _ (turn (Wire.gather env)) network.keys network)) :=
    sweep_achieves network.keys_nodup member (fun _ linked => idle_gather linked)
      (fun _ _ _ different linked => linked_turn (fun _ => own_gather) linked different)
      (fun _ _ _ different idle => idle_turn (fun _ => own_gather) idle different) linked
  unfold settle
  rw [run_append]
  apply sweep_keeps _ gathered
  intro state other _ idle
  by_cases here : other = fd
  · exact here ▸ idle_scatter (here ▸ idle)
  · exact idle_turn (fun _ => own_scatter) idle here

/-- **A network comes to rest.** -/
theorem settle_rests (sound : network.Sound) : (run (step env) network (network.settle env)).AtRest := by
  intro fd wire reached
  cases was : network.wire fd with
  | none =>
    have absent := @settle_keeps env network (fun network => network.wire fd = none)
      (fun events other own network absent => wire_none_turn own absent) was
    rw [absent] at reached
    cases reached
  | some old =>
    obtain ⟨link, related⟩ := sound fd old was
    obtain ⟨settled, -, same, -, empty⟩ := @idle_settle env fd network ⟨old, link, was, related⟩
    rw [same] at reached
    cases reached
    refine ⟨empty, fun goesOn => ?_⟩
    by_cases running : old.loop.phase = .running
    · obtain ⟨wire, seen, -, delivered⟩ := @rests_settle env fd network ⟨old, link, was, related, running⟩
      rw [same] at seen
      cases seen
      cases delivered with
      | all _ routed => exact routed
      | disconnected left =>
        rw [goesOn] at left
        cases left
      | oversized thrown =>
        rw [goesOn] at thrown
        cases thrown
    · obtain ⟨wire, seen, ended⟩ := @settle_keeps env network (Ended fd)
        (fun events other own network ended => ended_turn own ended) ⟨old, was, running⟩
      rw [same] at seen
      cases seen
      exact absurd goesOn ended

end Network

/-! ### A typed line -/

/-- The standard input of the client is readable. -/
def stdinReadable : ClientEvent := { fd := stdinFileno, pollIn := true }

/-- A typed line has no line end, with its CR or without it. -/
theorem StdinLoop.clean_popReturn (text : TypedLine) : newline ∉ StdinLoop.popReturn text := by
  unfold StdinLoop.popReturn
  split_ifs
  · exact fun member => text.2 (List.dropLast_subset _ member)
  · exact text.2

namespace Wire

variable {env : Env} {fd : Int} {wire : Wire} {link : Link}

/-- **A line is typed**, and its frame is on its way. -/
theorem type_sends (related : Related fd wire link) (running : wire.loop.phase = .running)
    {text : TypedLine} {command frame : Bytes}
    (sent : ClientApplication.dispatchCommandLine (StdinLoop.popReturn text) = .sent command frame)
    (writes : List (Except Errno Nat)) :
    let after := wire.step env fd (.client stdinReadable (some text) [] 0 writes)
    (after.loop.phase = .running → after.outgoing = wire.outgoing ++ ClientApplication.wireFrame frame) ∧
      after.loop.reader = { wire.loop.reader with router := wire.loop.reader.router.setPendingCommand command } := by
  let answers := wire.answers (some text) [] 0 writes
  let after := wire.loop.handleEvent (stdinReadable, answers)
  have dispatched : wire.loop.dispatched stdinReadable answers = some (StdinLoop.popReturn text) := by
    simp [ClientLoop.dispatched, ClientLoop.handles, running, stdinReadable, answers, Wire.answers]
  have effect := ClientLoop.effect_handleEvent related.ready stdinReadable answers
  have given : TcpClient.Gives [ClientApplication.wireFrame frame] wire.loop.client after.client ∧
      after.reader = { wire.loop.reader with router := wire.loop.reader.router.setPendingCommand command } := by
    cases effect with
    | idle nothing =>
      rw [dispatched] at nothing
      cases nothing
    | read _ nothing =>
      rw [dispatched] at nothing
      cases nothing
    | typed _ same _ dispatches =>
      rw [dispatched] at same
      cases same
      unfold ClientLoop.Dispatches at dispatches
      rw [sent] at dispatches
      exact dispatches
  refine ⟨fun goesOn => ?_, given.2⟩
  show (wire.upstream ++ after.client.accepted.drop wire.loop.client.accepted.length)
    ++ (if after.phase = .running then after.client.offered else []) = _
  rw [if_pos (show after.phase = .running from goesOn), outgoing_gives running given.1, List.flatten_singleton]

/-- A client from which nothing is on its way has nothing in the read buffer of the server. -/
theorem readBuffer_of_rest (related : Related fd wire link) (running : wire.loop.phase = .running)
    (empty : wire.outgoing = []) : wire.server.readBuffer fd = [] := by
  unfold outgoing at empty
  rw [if_pos running, List.append_eq_nil_iff] at empty
  have none := requests_of_read related empty.2 empty.1
  have stream := related.upstream
  rw [none, empty.1, empty.2, List.append_nil, List.append_nil] at stream
  exact stream

end Wire

/-- **A read of one frame is the handling of one line.** -/
theorem handle_wireFrame (env : Env) {server : Server} {fd : Int} {client : Client}
    (found : server.clients.find? fd = some client) (nothing : client.readBuffer = []) {frame : Bytes}
    (oneLine : newline ∉ frame) (nonempty : frame ≠ []) :
    Network.SameContent (server.step env (.line fd frame))
      (server.handle env (.read fd (ClientApplication.wireFrame frame))) := by
  have quiet : ∀ buffer, Quiet (Client.setReadBuffer buffer) := fun _ =>
    ⟨fun _ => rfl, fun _ => rfl, fun _ => rfl⟩
  rw [handle_eq_run, events_read, found]
  simp only [nothing, List.nil_append, lineEvents_wireFrame fd oneLine nonempty]
  show Network.SameContent (CommandHandling.handleCommand env frame fd server)
    ((CommandHandling.handleCommand env frame fd
      (server.appendToReadBuffer fd (ClientApplication.wireFrame frame))).consumeFromReadBuffer fd _)
  rw [append_eq_setReadBuffer found, handleCommand_setReadBuffer, consume_setReadBuffer]
  exact ⟨rfl, session_modifyClient (quiet _) fd, appendedTo_modifyClient (quiet _) fd⟩

/-! ### What a client routes -/

namespace ServerReader

/-- The client has routed these lines, one after the other. -/
structure Follows (lines : List Bytes) (reader after : ServerReader) : Prop where
  routed : after.routed = reader.routed ++ lines
  router : after.router = lines.foldl (fun router line => router.routeFrame line) reader.router

theorem Follows.refl (reader : ServerReader) : Follows [] reader reader := ⟨(List.append_nil _).symm, rfl⟩

theorem Follows.trans {early late : List Bytes} {first second third : ServerReader}
    (before : Follows early first second) (behind : Follows late second third) :
    Follows (early ++ late) first third := by
  constructor
  · rw [behind.routed, before.routed, List.append_assoc]
  · rw [behind.router, before.router, List.foldl_append]

theorem consume_router (texts : List Bytes) (router : ServerMessageRouter) : (consume texts router).2.2
    = (consume texts router).2.1.foldl (fun router line => router.routeFrame line) router := by
  induction texts generalizing router with
  | nil => rfl
  | cons text rest ih =>
    unfold consume
    by_cases long : maxServerFrameSize < text.length
    · rw [if_pos long]
      rfl
    rw [if_neg long]
    by_cases asks : (router.routeFrame (StdinLoop.popReturn text)).shouldDisconnect = true
    · simp only [if_pos asks]
      rfl
    · simp only [if_neg asks]
      exact ih (router.routeFrame (StdinLoop.popReturn text))

/-- **A read.** -/
theorem follows_read {reader after : ServerReader} {data : Bytes} {outcome : ReadOutcome}
    (read : reader.handleServerReadable data = some (outcome, after)) : ∃ lines, Follows lines reader after := by
  obtain ⟨_, _, same, seen, -⟩ := handleServerReadable_eq data reader
  rw [read] at same
  cases same
  have routed : after.routed = _ := congrArg (fun result => result.2.1) seen
  have router : after.router = _ := congrArg (fun result => result.2.2) seen
  exact ⟨_, routed, router.trans (consume_router _ _)⟩

end ServerReader

namespace Wire

open ServerReader

variable {env : Env} {fd : Int} {wire : Wire} {link : Link}

theorem follows_step (related : Related fd wire link) {event : WireEvent} (own : event.isOwn = true) :
    ∃ lines, Follows lines wire.loop.reader (wire.step env fd event).loop.reader := by
  cases event with
  | client event line failures count writes =>
    have untyped : line = none := Option.isNone_iff_eq_none.mp own
    subst untyped
    let answers := wire.answers none failures count writes
    show ∃ lines, Follows lines wire.loop.reader (wire.loop.handleEvent (event, answers)).reader
    have effect := ClientLoop.effect_handleEvent related.ready event answers
    cases effect with
    | idle _ _ _ same =>
      rw [same]
      exact ⟨[], .refl _⟩
    | read _ _ _ read => exact follows_read read
    | typed _ dispatched => simp [ClientLoop.dispatched, answers, Wire.answers] at dispatched
  | read count =>
    refine ⟨[], ?_⟩
    simp only [step]
    split_ifs <;> exact .refl _
  | write count => exact ⟨[], .refl _⟩
  | elsewhere input => cases own

theorem follows_run (related : Related fd wire link) {events : List WireEvent}
    (own : ∀ event ∈ events, event.isOwn = true) :
    ∃ lines, Follows lines wire.loop.reader (run (Wire.step env fd) wire events).loop.reader := by
  induction events generalizing wire link with
  | nil => exact ⟨[], .refl _⟩
  | cons event rest ih =>
    obtain ⟨first, later⟩ := List.forall_mem_cons.mp own
    obtain ⟨lines, now⟩ := @follows_step env fd wire link related event first
    obtain ⟨more, behind⟩ := ih (@related_step env fd wire link related event) later
    exact ⟨lines ++ more, now.trans behind⟩

end Wire

/-! ### A command in a network at rest -/

namespace Network

open ServerReader

variable {env : Env} {fd other : Int} {network : Network} {wire : Wire}

/-- A client that has routed some lines since `start`. -/
def Following (start : ServerReader) (fd : Int) (network : Network) : Prop :=
  ∃ wire link lines, network.wire fd = some wire ∧ Wire.Related fd wire link ∧ Follows lines start wire.loop.reader

theorem following_turn {start : ServerReader} {events : Int → Wire → List WireEvent}
    (own : ∀ wire, ∀ event ∈ events other wire, event.isOwn = true) (following : Following start fd network) :
    Following start fd (run (step env) network (turn events other network)) := by
  obtain ⟨wire, link, lines, seen, related, follows⟩ := following
  by_cases here : other = fd
  · subst here
    obtain ⟨more, behind⟩ := @Wire.follows_run env other wire link related _ (own wire)
    unfold turn
    rw [seen]
    exact ⟨_, _, _, run_turn_self seen (own wire), Wire.related_run _ related, follows.trans behind⟩
  · obtain ⟨server, link, reached, related⟩ := @related_turn env fd other wire network seen link related here _ own
    exact ⟨_, link, lines, reached, related, follows⟩

/-- The server has a session for every client. -/
theorem connected (seen : network.wire fd = some wire) {link : Link} (related : Wire.Related fd wire link) :
    ∃ client, network.server.clients.find? fd = some client := by
  obtain ⟨accepted, backed⟩ := related.backed
  obtain ⟨client, found, -⟩ := backed.connected
  rw [related.server, wire_server seen] at found
  exact ⟨client, found⟩

/-- **The server reads the one frame.** -/
theorem serve_typed (rests : network.AtRest) (seen : network.wire fd = some wire) {link : Link}
    (related : Wire.Related fd wire link) (running : wire.loop.phase = .running)
    {text : TypedLine} {command frame : Bytes}
    (sent : ClientApplication.dispatchCommandLine (StdinLoop.popReturn text) = .sent command frame)
    {writes : List (Except Errno Nat)}
    (goesOn : (wire.step env fd (.client stdinReadable (some text) [] 0 writes)).loop.phase = .running) :
    let typed := network.step env (.client fd stdinReadable (some text) [] 0 writes)
    typed.keys.foldl (typed.serve env) typed.server
      = network.server.handle env (.read fd (ClientApplication.wireFrame frame)) := by
  intro typed
  have here : typed.wire fd = some (wire.step env fd (.client stdinReadable (some text) [] 0 writes)) :=
    wire_advance_self _ seen
  have server : typed.server = network.server := by
    rw [← wire_server here, ← wire_server seen]
    rfl
  have idle : ∀ other ∈ typed.keys, other ≠ fd → ∀ server, typed.serve env server other = server := by
    intro other _ different server
    have same : typed.parties.find? other = network.parties.find? other := find?_advance different _
    unfold serve
    cases acts : typed.wire other with
    | none => rfl
    | some acting =>
      obtain ⟨party, present, rfl⟩ := wire_eq_some.mp acts
      rw [same] at present
      have empty := (rests other _ (wire_eq_some.mpr ⟨party, present, rfl⟩)).outgoing
      rw [Option.elim_some]
      exact if_pos empty
  have outgoing := (@Wire.type_sends env fd wire link related running text command frame sent writes).1 goesOn
  rw [(rests fd wire seen).outgoing, List.nil_append] at outgoing
  rw [foldl_single typed.keys_nodup (mem_keys here) idle, server]
  unfold serve
  rw [here, Option.elim_some, outgoing]
  exact if_neg (by simp [ClientApplication.wireFrame])

/-- **The server handles the one line.** -/
theorem content_typed (rests : network.AtRest) (seen : network.wire fd = some wire) {link : Link}
    (related : Wire.Related fd wire link) (running : wire.loop.phase = .running)
    {text : TypedLine} {command frame : Bytes}
    (sent : ClientApplication.dispatchCommandLine (StdinLoop.popReturn text) = .sent command frame)
    {writes : List (Except Errno Nat)}
    (goesOn : (wire.step env fd (.client stdinReadable (some text) [] 0 writes)).loop.phase = .running) :
    let typed := network.step env (.client fd stdinReadable (some text) [] 0 writes)
    SameContent (network.server.step env (.line fd frame)) (typed.keys.foldl (typed.serve env) typed.server) := by
  intro typed
  obtain ⟨client, found⟩ := connected seen related
  have nothing : client.readBuffer = [] := by
    have empty := Wire.readBuffer_of_rest related running (rests fd wire seen).outgoing
    rw [wire_server seen] at empty
    unfold Server.readBuffer Server.observed at empty
    rw [found] at empty
    exact empty
  obtain ⟨nonempty, bytes⟩ := sent_bytes sent
  have oneLine : newline ∉ frame := by
    intro member
    rcases bytes newline member with space | inside
    · exact absurd space (by decide)
    · exact StdinLoop.clean_popReturn text inside
  rw [serve_typed rests seen related running sent goesOn]
  exact handle_wireFrame env found nothing oneLine nonempty

/-- What the clients had routed when the line was typed. -/
theorem routed_typed (rests : network.AtRest) (seen : network.wire fd = some wire) {link : Link}
    (related : Wire.Related fd wire link) (running : wire.loop.phase = .running)
    {text : TypedLine} {command frame : Bytes}
    (sent : ClientApplication.dispatchCommandLine (StdinLoop.popReturn text) = .sent command frame)
    {writes : List (Except Errno Nat)} {before : Wire}
    (there : (network.step env (.client fd stdinReadable (some text) [] 0 writes)).wire other = some before)
    (goes : before.loop.phase = .running) :
    (network.server.appendedTo other).map Frame.line = before.loop.reader.routed := by
  let event : WireEvent := .client stdinReadable (some text) [] 0 writes
  by_cases own : other = fd
  · subst own
    have same : before = wire.step env other event :=
      Option.some.inj (there.symm.trans (wire_advance_self event seen))
    obtain ⟨-, reader⟩ := @Wire.type_sends env other wire link related running text command frame sent writes
    rw [same, reader, ← wire_server seen]
    exact (rests other wire seen).routed running
  · have party : (network.advance env fd event).parties.find? other = network.parties.find? other :=
      find?_advance own event
    have server : (network.advance env fd event).server = network.server := by
      rw [← wire_server (wire_advance_self event seen), ← wire_server seen]
      rfl
    have same : (network.advance env fd event).wire other = network.wire other := by
      unfold Network.wire
      rw [party, server]
    have was : network.wire other = some before := same.symm.trans there
    rw [← wire_server was]
    exact (rests other before was).routed goes

/-- What is there in the content of a server is there in the other one. -/
theorem SameContent.exists_client {server after : Server} (same : SameContent server after) {client : Client}
    (found : after.clients.find? fd = some client) : ∃ holder, server.clients.find? fd = some holder := by
  have session := session_of_found found
  rw [same.sessions] at session
  obtain ⟨holder, present, -⟩ := Option.map_eq_some_iff.mp session
  exact ⟨holder, present⟩

/-- What a client has routed behind a command, and what it has not. -/
theorem routed_command {event : Event} {after : Network} {start settled : Wire} {link : Link}
    {lines rest : List Bytes} (same : SameContent (network.server.step env event) after.server)
    (before : (network.server.appendedTo fd).map Frame.line = start.loop.reader.routed)
    (seen : after.wire fd = some settled) (related : Wire.Related fd settled link)
    (follows : Follows lines start.loop.reader settled.loop.reader)
    (routed : (settled.server.appendedTo fd).map Frame.line = settled.loop.reader.routed ++ rest) :
    lines ++ rest = (network.server.newFrames fd (network.server.step env event)).map Frame.line := by
  obtain ⟨client, found⟩ := connected seen related
  obtain ⟨holder, present⟩ := same.exists_client found
  rw [wire_server seen, same.appendedTo, appendedTo_step present, List.map_append, before, follows.routed,
    List.append_assoc] at routed
  exact (List.append_cancel_left routed).symm

/-- A client that is in its loop when it has acted was in it before. -/
theorem exists_client_step {events : List NetworkEvent} {event : ClientEvent} {line : Option TypedLine}
    {failures : List Errno} {count : Nat} {writes : List (Except Errno Nat)} {later : Wire}
    (seen : (run (step env) {} (events ++ [.client fd event line failures count writes])).wire fd = some later)
    (goesOn : later.loop.phase = .running) : ∃ wire link, (run (step env) {} events).wire fd = some wire ∧
      Wire.Related fd wire link ∧ wire.loop.phase = .running ∧
        later = wire.step env fd (.client event line failures count writes) := by
  rw [run_concat] at seen
  obtain ⟨wire, here, rfl⟩ := exists_of_advance seen
  obtain ⟨link, related⟩ := run_related env events here
  exact ⟨wire, link, here, related, ClientLoop.running_of_handleEvent goesOn, rfl⟩

/-- **What a client has when the network is at rest again**: all that was appended for it, or the messages up to one
at which it has disconnected. -/
theorem delivered_command {events : List NetworkEvent} (rests : (run (step env) {} events).AtRest) {text : TypedLine}
    {command frame : Bytes}
    (sent : ClientApplication.dispatchCommandLine (StdinLoop.popReturn text) = .sent command frame)
    {writes : List (Except Errno Nat)} {later : Wire}
    (seen : (run (step env) {} (events ++ [.client fd stdinReadable (some text) [] 0 writes])).wire fd = some later)
    (goesOn : later.loop.phase = .running) :
    let network := run (step env) {} events
    let typed := run (step env) {} (events ++ [.client fd stdinReadable (some text) [] 0 writes])
    let after := run (step env) typed (typed.settle env)
    let server := network.server.step env (.line fd frame)
    SameContent server after.server ∧ (Clocked IsTime env after.server.timeCalls →
      ∀ other before, typed.wire other = some before → before.loop.phase = .running →
        ∃ settled lines rest, after.wire other = some settled ∧
          Follows lines before.loop.reader settled.loop.reader ∧
          lines ++ rest = (network.server.newFrames other server).map Frame.line ∧
          (settled.loop.phase = .running ∧ rest = [] ∨
            settled.loop.phase = .left ∧ settled.loop.reader.router.shouldDisconnect = true)) := by
  intro network typed after server
  let event : NetworkEvent := .client fd stdinReadable (some text) [] 0 writes
  have stepped : typed = network.step env event := run_concat _ _ _
  have sound : typed.Sound := fun other wire there => run_related env (events ++ [event]) there
  obtain ⟨wire, link, here, related, running, rfl⟩ := exists_client_step seen goesOn
  have handled := content_typed rests here related running sent goesOn
  rw [← stepped] at handled
  have content : SameContent server after.server := handled.trans (server_settle sound)
  refine ⟨content, fun times other before there goes => ?_⟩
  have routed := routed_typed rests here related running sent (stepped ▸ there) goes
  obtain ⟨link, related⟩ := sound other before there
  obtain ⟨settled, reached, -, delivered⟩ := @rests_settle env other typed ⟨before, link, there, related, goes⟩
  obtain ⟨_, link, lines, same, related, follows⟩ := @settle_keeps env typed
    (Following before.loop.reader other) (fun _ _ own _ following => following_turn own following)
    ⟨before, link, [], there, related, .refl _⟩
  rw [reached] at same
  cases same
  have remains := not_thrown_of_delivered reached times delivered
  cases delivered with
  | all goesOn delivered =>
    have whole := routed_command content routed reached related follows (delivered.trans (List.append_nil _).symm)
    exact ⟨settled, lines, [], reached, follows, whole, Or.inl ⟨goesOn, rfl⟩⟩
  | disconnected left asks =>
    have whole := routed_command content routed reached related follows related.routed
    exact ⟨settled, lines, _, reached, follows, whole, Or.inr ⟨left, asks⟩⟩
  | oversized thrown => exact absurd thrown remains

end Network

/-- **A command is one step.** A network is at rest, and a user types a line for which the client sends a frame. After
the calls of `Network.settle`, which bring the network to rest again, the server has what the handling of this one
line makes of it, in one step. Every client that was in its loop has routed the messages that this step has appended
for it, no others, each as a whole and in their order, or it has disconnected at one of them. -/
theorem command_is_atomic (env : Env) (events : List NetworkEvent)
    (rests : (run (Network.step env) {} events).AtRest) {fd : Int} {text : TypedLine} {command frame : Bytes}
    (sent : ClientApplication.dispatchCommandLine (StdinLoop.popReturn text) = .sent command frame)
    {writes : List (Except Errno Nat)} {later : Wire}
    (seen : (run (Network.step env) {}
      (events ++ [.client fd stdinReadable (some text) [] 0 writes])).wire fd = some later)
    (goesOn : later.loop.phase = .running) :
    let network := run (Network.step env) {} events
    let typed := run (Network.step env) {} (events ++ [.client fd stdinReadable (some text) [] 0 writes])
    let after := run (Network.step env) typed (typed.settle env)
    let server := network.server.step env (.line fd frame)
    Network.SameContent server after.server ∧ after.AtRest ∧
      (Clocked IsTime env after.server.timeCalls →
        ∀ other before, typed.wire other = some before → before.loop.phase = .running →
          ∃ settled lines, after.wire other = some settled ∧
            ServerReader.Follows lines before.loop.reader settled.loop.reader ∧
            lines <+: (network.server.newFrames other server).map Frame.line ∧
            (settled.loop.phase = .running ∧ lines = (network.server.newFrames other server).map Frame.line ∨
              settled.loop.phase = .left ∧ settled.loop.reader.router.shouldDisconnect = true)) := by
  intro network typed after server
  have sound : typed.Sound := fun other wire there => Network.run_related env _ there
  obtain ⟨content, clients⟩ := Network.delivered_command rests sent seen goesOn
  refine ⟨content, Network.settle_rests sound, fun times other before there goes => ?_⟩
  obtain ⟨settled, lines, rest, reached, follows, whole, ends⟩ := clients times other before there goes
  refine ⟨settled, lines, reached, follows, ⟨rest, whole⟩, ends.imp_left ?_⟩
  rintro ⟨goesOn, rfl⟩
  rw [List.append_nil] at whole
  exact ⟨goesOn, whole⟩

/-- The two clients of the meeting have logged in, and nothing is on its way. -/
def quietMeeting : List NetworkEvent := meeting ++ (run (Network.step sampleEnv) {} meeting).settle sampleEnv

theorem quietMeeting_rests : (run (Network.step sampleEnv) {} quietMeeting).AtRest := by
  unfold quietMeeting
  rw [run_append]
  exact Network.settle_rests fun fd wire seen => Network.run_related sampleEnv meeting seen

/-- A greeting for the user who has logged in first. -/
def greeting : Bytes := ascii "/send \"" ++ (digitUuid 0).1 ++ ascii "\" \"hi ben\""

theorem command_is_atomic_sample :
    let text : TypedLine := ⟨greeting, by decide⟩
    let network := run (Network.step sampleEnv) {} quietMeeting
    let typed := run (Network.step sampleEnv) {} (quietMeeting ++ [.client 4 stdinReadable (some text) [] 0 [.ok 9]])
    let after := run (Network.step sampleEnv) typed (typed.settle sampleEnv)
    Network.SameContent (network.server.step sampleEnv (.line 4 greeting)) after.server ∧
      (after.wire 5).map (fun wire => wire.loop.reader.router.output.getLast?) = some (some
        (.call .eventPrivateMessageReceived [.text (digitUuid 1).1, .text (ascii "hi ben")])) := by
  intro text network typed after
  have running : (typed.wire 4).map (fun wire => decide (wire.loop.phase = .running)) = some true := by decide +kernel
  have output : (after.wire 5).map (fun wire => wire.loop.reader.router.output.getLast?) = some (some
    (.call .eventPrivateMessageReceived [.text (digitUuid 1).1, .text (ascii "hi ben")])) := by decide +kernel
  obtain ⟨later, seen, phase⟩ := Option.map_eq_some_iff.mp running
  have sent : ClientApplication.dispatchCommandLine (StdinLoop.popReturn text) = .sent (ascii "/send") greeting := by
    decide +kernel
  obtain ⟨content, -⟩ := command_is_atomic sampleEnv quietMeeting quietMeeting_rests sent seen (of_decide_eq_true phase)
  exact ⟨content, output⟩

end MyTeams
