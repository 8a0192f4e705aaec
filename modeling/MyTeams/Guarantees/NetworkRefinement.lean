/-
**Every client of a network is a wire.**

What the other clients of a network do reaches the server as inputs of other connections, and these are all that
a client notices of them.

* `step_server`, `step_wire_other` — a step of the network, for the server and for a client that is not concerned;
* `run_isRun` — every client of a network is at the end of a run of a wire;
* `network_refines_links` — so it is a link, and what holds of links holds of all clients of a network at once.
-/

import MyTeams.ClientApp.Network
import MyTeams.Guarantees.WireRefinement

namespace MyTeams

open Transition

/-! ### What the server gets -/

/-- The inputs of the server at an event of a wire. -/
def WireEvent.inputs (fd : Int) (wire : Wire) : WireEvent → List Input
  | .client .. => []
  | .read count => if wire.upstream = [] then [] else [.read fd (wire.upstream.take (count + 1))]
  | .write count => [.write fd count]
  | .elsewhere input => if input.elsewhere fd then [input] else []

/-- The inputs of the server at an event of a network. -/
def NetworkEvent.inputs (network : Network) : NetworkEvent → List Input
  | .connect fd _ => if network.server.clients.find? fd = none then [.accept fd] else []
  | .client .. => []
  | .read fd count => (network.wire fd).elim [] fun wire => WireEvent.inputs fd wire (.read count)
  | .write fd count => (network.wire fd).elim [] fun wire => WireEvent.inputs fd wire (.write count)
  | .hangUp fd => [.hangUp fd]
  | .foreign input => if network.isForeign input then [input] else []

/-- The client that an event of a network is about. -/
def NetworkEvent.party : NetworkEvent → Option Int
  | .connect fd _ => some fd
  | .client fd .. => some fd
  | .read fd _ => some fd
  | .write fd _ => some fd
  | .hangUp fd => some fd
  | .foreign _ => none

section Inputs

variable {env : Env} {fd other : Int} {wire : Wire} {network : Network}

namespace Wire

theorem step_server (env : Env) (fd : Int) (wire : Wire) (event : WireEvent) :
    (wire.step env fd event).server = run (Server.handle env) wire.server (event.inputs fd wire) := by
  cases event with
  | client event line failures count writes => rfl
  | read count =>
    simp only [step, WireEvent.inputs]
    split_ifs <;> rfl
  | write count => rfl
  | elsewhere input =>
    simp only [step, WireEvent.inputs]
    split_ifs <;> rfl

/-- An input of another connection changes the server only. -/
theorem step_elsewhere {input : Input} (elsewhere : input.elsewhere fd = true) :
    wire.step env fd (.elsewhere input) = { wire with server := wire.server.handle env input } := by
  obtain ⟨none, -⟩ := @apart_elsewhere env fd wire.server input elsewhere
  simp only [step, if_pos elsewhere, Wire.input, none, List.append_nil]

theorem run_elsewhere {inputs : List Input} (elsewhere : ∀ input ∈ inputs, input.elsewhere fd = true) :
    run (Wire.step env fd) wire (inputs.map WireEvent.elsewhere)
      = { wire with server := run (Server.handle env) wire.server inputs } := by
  induction inputs generalizing wire with
  | nil => rfl
  | cons input rest ih =>
    obtain ⟨first, later⟩ := List.forall_mem_cons.mp elsewhere
    rw [List.map_cons, run_cons, step_elsewhere first, ih later]
    rfl

end Wire

namespace Network

/-! ### One step, for the server and for each client -/

theorem wire_eq_some : network.wire fd = some wire ↔ ∃ party, network.parties.find? fd = some party ∧
    wire = { loop := party.loop, upstream := party.upstream, server := network.server,
             downstream := party.downstream, handled := party.handled } := by
  unfold Network.wire
  rw [Option.map_eq_some_iff]
  exact exists_congr fun party => and_congr_right fun _ => eq_comm

theorem wire_server (seen : network.wire fd = some wire) : wire.server = network.server := by
  obtain ⟨party, -, rfl⟩ := wire_eq_some.mp seen
  rfl

/-- The client that acts. -/
theorem wire_advance_self (event : WireEvent) (seen : network.wire fd = some wire) :
    (network.advance env fd event).wire fd = some (wire.step env fd event) := by
  unfold advance
  rw [seen]
  simp only [Network.wire, SortedMap.find?_insert, if_true, Option.map_some]

/-- A client that has done something was there. -/
theorem exists_of_advance {event : WireEvent} {later : Wire}
    (seen : (network.advance env fd event).wire fd = some later) :
    ∃ wire, network.wire fd = some wire ∧ later = wire.step env fd event := by
  cases was : network.wire fd with
  | none =>
    have same : network.advance env fd event = network := by
      unfold advance
      rw [was]
    rw [same, was] at seen
    cases seen
  | some wire =>
    rw [wire_advance_self event was] at seen
    exact ⟨wire, rfl, (Option.some.inj seen).symm⟩

/-- Any other client. -/
theorem find?_advance (different : other ≠ fd) (event : WireEvent) :
    (network.advance env fd event).parties.find? other = network.parties.find? other := by
  unfold advance
  split
  · rfl
  · rw [SortedMap.find?_insert, if_neg different]

theorem advance_server (event : WireEvent) : (network.advance env fd event).server
    = run (Server.handle env) network.server ((network.wire fd).elim [] fun wire => event.inputs fd wire) := by
  unfold advance
  cases seen : network.wire fd with
  | none => rfl
  | some wire =>
    show (wire.step env fd event).server = _
    rw [Wire.step_server, wire_server seen]
    rfl

/-- **The server of a network** handles inputs. -/
theorem step_server (env : Env) (network : Network) (event : NetworkEvent) :
    (network.step env event).server = run (Server.handle env) network.server (event.inputs network) := by
  cases event with
  | connect fd socketFd =>
    simp only [step, NetworkEvent.inputs]
    split_ifs <;> rfl
  | client fd event line failures count writes =>
    simp only [step, advance_server, NetworkEvent.inputs]
    cases network.wire fd <;> rfl
  | read fd count => exact advance_server (.read count)
  | write fd count => exact advance_server (.write count)
  | hangUp fd => rfl
  | foreign input =>
    simp only [step, NetworkEvent.inputs]
    split_ifs <;> rfl

/-- What the other clients of a network give to the server is not of this connection. -/
theorem wire_inputs_elsewhere (different : other ≠ fd) {event : WireEvent} (own : ∀ input, event ≠ .elsewhere input) :
    ∀ input ∈ (network.wire other).elim [] fun wire => event.inputs other wire, input.elsewhere fd = true := by
  intro input member
  cases seen : network.wire other with
  | none =>
    rw [seen] at member
    cases member
  | some wire =>
    rw [seen, Option.elim_some] at member
    cases event with
    | client => cases member
    | read count =>
      simp only [WireEvent.inputs] at member
      split_ifs at member
      · cases member
      · rw [List.mem_singleton.mp member]
        exact decide_eq_true different
    | write count =>
      rw [List.mem_singleton.mp member]
      exact decide_eq_true different
    | elsewhere input => exact absurd rfl (own input)

/-- Nobody else's input is one of this connection. -/
theorem inputs_elsewhere {party : Party} (present : network.parties.find? fd = some party) {event : NetworkEvent}
    (different : event.party ≠ some fd) : ∀ input ∈ event.inputs network, input.elsewhere fd = true := by
  have apart : ∀ {other : Int}, some other ≠ some fd → other ≠ fd := fun different same =>
    different (congrArg some same)
  intro input member
  cases event with
  | connect other socketFd =>
    simp only [NetworkEvent.inputs] at member
    split_ifs at member
    · rw [List.mem_singleton.mp member]
      exact decide_eq_true (apart different)
    · cases member
  | client => cases member
  | read other count => exact wire_inputs_elsewhere (apart different) (by simp) input member
  | write other count => exact wire_inputs_elsewhere (apart different) (by simp) input member
  | hangUp other =>
    rw [List.mem_singleton.mp member]
    exact decide_eq_true (apart different)
  | foreign foreign =>
    simp only [NetworkEvent.inputs] at member
    split_ifs at member with allowed
    · rw [List.mem_singleton.mp member]
      exact List.all_eq_true.mp allowed (fd, party) (SortedMap.find?_eq_some_iff.mp present)
    · cases member

/-- A client that the event is not about keeps its program and its bytes. -/
theorem find?_step_other {event : NetworkEvent} (different : event.party ≠ some fd) :
    (network.step env event).parties.find? fd = network.parties.find? fd := by
  have apart : ∀ {other : Int}, some other ≠ some fd → fd ≠ other := fun different same =>
    different (congrArg some same.symm)
  cases event with
  | connect other socketFd =>
    simp only [step]
    split_ifs
    · rw [SortedMap.find?_insert, if_neg (apart different)]
    · rfl
  | client => exact find?_advance (apart different) _
  | read => exact find?_advance (apart different) _
  | write => exact find?_advance (apart different) _
  | hangUp other =>
    simp only [step]
    rw [SortedMap.find?_erase, if_neg (apart different)]
  | foreign input =>
    simp only [step]
    split_ifs <;> rfl

/-- **What a client notices of the others**: inputs of other connections. -/
theorem step_wire_other (seen : network.wire fd = some wire) {event : NetworkEvent}
    (different : event.party ≠ some fd) : (network.step env event).wire fd
      = some (run (Wire.step env fd) wire ((event.inputs network).map WireEvent.elsewhere)) := by
  obtain ⟨party, present, rfl⟩ := wire_eq_some.mp seen
  rw [Wire.run_elsewhere (inputs_elsewhere present different)]
  refine wire_eq_some.mpr ⟨party, (find?_step_other different).trans present, ?_⟩
  rw [step_server]

/-! ### Runs -/

/-- The wire of a client that has connected to a server after some inputs. -/
def IsRun (env : Env) (fd : Int) (wire : Wire) : Prop :=
  ∃ (before : List Input) (socketFd : SocketFd) (events : List WireEvent),
    (run (Server.handle env) {} before).clients.find? fd = none ∧
      wire = run (Wire.step env fd) (Wire.start env fd socketFd before) events

theorem IsRun.more (runs : IsRun env fd wire) (events : List WireEvent) :
    IsRun env fd (run (Wire.step env fd) wire events) := by
  obtain ⟨before, socketFd, early, free, rfl⟩ := runs
  exact ⟨before, socketFd, early ++ events, free, (run_append _ _ _).symm⟩

/-- The server of a network is one that has handled inputs. -/
theorem run_server (env : Env) (events : List NetworkEvent) : Runs env {} (run (Network.step env) {} events).server :=
  run_invariant (fun network : Network => Runs env {} network.server)
    (fun network event runs => runs.trans ⟨_, step_server env network event⟩) (.refl {}) events

/-- What holds of runs of the server holds of the server of a network. -/
theorem run_steps (env : Env) (events : List NetworkEvent) :
    ∃ steps : List Event, (run (Network.step env) {} events).server = run (Server.step env) {} steps := by
  obtain ⟨inputs, led⟩ := run_server env events
  rw [run_trace] at led
  exact ⟨_, led⟩

theorem advance_isRun (before : ∀ wire, network.wire fd = some wire → IsRun env fd wire) (event : WireEvent)
    (seen : (network.advance env fd event).wire fd = some wire) : IsRun env fd wire := by
  obtain ⟨old, was, rfl⟩ := exists_of_advance seen
  exact (before old was).more [event]

/-- A client that connects is at the start of a wire. -/
theorem connect_isRun (sound : Runs env {} network.server)
    (before : ∀ wire, network.wire fd = some wire → IsRun env fd wire) (socketFd : SocketFd)
    (seen : (network.step env (.connect fd socketFd)).wire fd = some wire) : IsRun env fd wire := by
  simp only [step] at seen
  split_ifs at seen with free
  · obtain ⟨inputs, led⟩ := sound
    obtain ⟨party, present, rfl⟩ := wire_eq_some.mp seen
    rw [SortedMap.find?_insert, if_pos rfl] at present
    cases present
    rw [led] at free
    refine ⟨inputs, socketFd, [], free, ?_⟩
    unfold Wire.start
    rw [run_concat, ← led]
    rfl
  · exact before wire seen

/-- **One step of a network** is some steps of the wire of each client. -/
theorem step_isRun (sound : Runs env {} network.server)
    (before : ∀ wire, network.wire fd = some wire → IsRun env fd wire) (event : NetworkEvent)
    (seen : (network.step env event).wire fd = some wire) : IsRun env fd wire := by
  by_cases own : event.party = some fd
  · cases event with
    | connect other socketFd =>
      cases own
      exact connect_isRun sound before socketFd seen
    | client =>
      cases own
      exact advance_isRun before _ seen
    | read =>
      cases own
      exact advance_isRun before _ seen
    | write =>
      cases own
      exact advance_isRun before _ seen
    | hangUp other =>
      cases own
      obtain ⟨party, present, -⟩ := wire_eq_some.mp seen
      simp only [step] at present
      rw [SortedMap.find?_erase, if_pos rfl] at present
      cases present
    | foreign => cases own
  · cases was : network.parties.find? fd with
    | none =>
      obtain ⟨party, present, -⟩ := wire_eq_some.mp seen
      rw [find?_step_other own, was] at present
      cases present
    | some party =>
      have old := wire_eq_some.mpr ⟨party, was, rfl⟩
      rw [step_wire_other old own] at seen
      cases seen
      exact (before _ old).more _

end Network

end Inputs

namespace Network

theorem run_isRun (env : Env) (events : List NetworkEvent) {fd : Int} {wire : Wire}
    (seen : (run (Network.step env) {} events).wire fd = some wire) : IsRun env fd wire := by
  induction events using List.reverseRecOn generalizing wire with
  | nil => cases seen
  | append_singleton events event ih =>
    rw [run_concat] at seen
    exact step_isRun (run_server env events) (fun _ => ih) event seen

/-- Every client of a network is a link. -/
theorem run_related (env : Env) (events : List NetworkEvent) {fd : Int} {wire : Wire}
    (seen : (run (Network.step env) {} events).wire fd = some wire) : ∃ link, Wire.Related fd wire link := by
  obtain ⟨before, socketFd, events, free, rfl⟩ := run_isRun env events seen
  exact ⟨_, Wire.related_run events (Wire.related_start env socketFd.2 free)⟩

end Network

/-- **Every client of a network is a link.** Clients connect and go, and all programs take turns, in any order. What
has happened to a client and its bytes since it has connected is a run of a wire, and so it is a run of a link from
the server that had the inputs before it. -/
theorem network_refines_links (env : Env) (events : List NetworkEvent) {fd : Int} {wire : Wire}
    (seen : (run (Network.step env) {} events).wire fd = some wire) :
    ∃ (before : List Input) (socketFd : SocketFd) (trace : List WireEvent),
      wire = run (Wire.step env fd) (Wire.start env fd socketFd before) trace ∧
      Wire.Refines fd wire (run (Link.step env fd) (Link.start env (Input.trace env {} (before ++ [.accept fd])))
        ((Wire.start env fd socketFd before).trace env fd trace)) := by
  obtain ⟨before, socketFd, trace, free, rfl⟩ := Network.run_isRun env events seen
  exact ⟨before, socketFd, trace, rfl, (Wire.related_run trace (Wire.related_start env socketFd.2 free)).toRefines⟩

def sampleSocket : SocketFd := ⟨3, by decide⟩

/-- Two clients connect and log in. The socket of the first one has taken three bytes and then the rest, of which
the server has read seven bytes; it has read all of the second one, and answered in part. -/
def meeting : List NetworkEvent :=
  [.connect 4 sampleSocket, .connect 5 sampleSocket,
    .client 4 { fd := 0, pollIn := true } (some ⟨ascii "/login \"amy\"", by decide⟩) [] 0 [.ok 3, .error .again],
    .client 5 { fd := 0, pollIn := true } (some ⟨ascii "/login \"ben\"", by decide⟩) [] 0 [.ok 100],
    .read 5 100, .client 4 { fd := 3, pollOut := true } none [] 0 [.ok 100], .read 4 6, .write 5 10]

theorem network_refines_links_sample :
    let network := run (Network.step sampleEnv) {} meeting
    ∃ (wire : Wire) (before : List Input) (socketFd : SocketFd) (trace : List WireEvent),
      network.wire 4 = some wire ∧ wire.upstream.length = 7 ∧
        wire = run (Wire.step sampleEnv 4) (Wire.start sampleEnv 4 socketFd before) trace := by
  intro network
  have sending : (network.wire 4).map (fun wire => wire.upstream.length) = some 7 := by decide +kernel
  obtain ⟨wire, seen, length⟩ := Option.map_eq_some_iff.mp sending
  obtain ⟨before, socketFd, trace, runs, -⟩ := network_refines_links sampleEnv meeting seen
  exact ⟨wire, before, socketFd, trace, seen, length, runs⟩

end MyTeams
