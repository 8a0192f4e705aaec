/-
**The clients of a network are official.**

The server gets from a client of a network only lines that `validateArgs` has accepted. So no message for it is too
long, and whatever its pieces are, it never gives up on one.

* `checked_step` — what a client gives to its output is a frame of an accepted line;
* `official_of_isRun` — its connection is an `OfficialConnection`;
* `not_oversized` — no message that the server has appended for it is too long.
-/

import MyTeams.Guarantees.FrameSize
import MyTeams.Guarantees.NetworkRefinement

namespace MyTeams

open Transition

namespace Wire

variable {env : Env} {fd : Int} {wire : Wire} {link : Link}

/-! ### What the client sends -/

/-- What was given to the output of the client are frames of accepted lines. -/
def Checked (wire : Wire) : Prop :=
  ∀ data ∈ wire.loop.client.given, ∃ frame, Accepted frame ∧ data = ClientApplication.wireFrame frame

/-- What an event of the client gives to its output. -/
theorem given_handleEvent (ready : wire.loop.Ready) (event : ClientEvent) (answers : ClientAnswers) :
    ∃ given : List Bytes, TcpClient.Gives given wire.loop.client (wire.loop.handleEvent (event, answers)).client ∧
      ∀ data ∈ given, ∃ frame, Accepted frame ∧ data = ClientApplication.wireFrame frame := by
  have effect := ClientLoop.effect_handleEvent ready event answers
  cases effect with
  | idle _ _ gives => exact ⟨[], gives, List.forall_mem_nil _⟩
  | read _ _ gives => exact ⟨[], gives, List.forall_mem_nil _⟩
  | @typed line _ _ _ dispatches =>
    unfold ClientLoop.Dispatches at dispatches
    cases sent : ClientApplication.dispatchCommandLine line with
    | nothing =>
      rw [sent] at dispatches
      exact ⟨[], dispatches.1, List.forall_mem_nil _⟩
    | printed text =>
      rw [sent] at dispatches
      exact ⟨[], dispatches.1, List.forall_mem_nil _⟩
    | sent command frame =>
      rw [sent] at dispatches
      exact ⟨_, dispatches.1, List.forall_mem_singleton.mpr ⟨frame, ⟨line, command, sent⟩, rfl⟩⟩

theorem checked_step (related : Related fd wire link) (checked : wire.Checked) (event : WireEvent) :
    (wire.step env fd event).Checked := by
  cases event with
  | client event line failures count writes =>
    obtain ⟨given, gives, each⟩ := given_handleEvent related.ready event (wire.answers line failures count writes)
    intro data member
    have grown : (wire.step env fd (.client event line failures count writes)).loop.client.given
        = wire.loop.client.given ++ given := gives.given
    rw [grown] at member
    exact (List.mem_append.mp member).elim (checked data) (each data)
  | read count =>
    unfold step
    simp only
    split_ifs <;> exact checked
  | write count => exact checked
  | elsewhere input =>
    unfold step
    simp only
    split_ifs <;> exact checked

theorem checked_run (related : Related fd wire link) (checked : wire.Checked) (events : List WireEvent) :
    (run (Wire.step env fd) wire events).Checked := by
  induction events generalizing wire link with
  | nil => exact checked
  | cons event rest ih => exact ih (related_step related event) (checked_step related checked event)

/-! ### What the server hears -/

/-- The events of the server, and the lines of the connection among the last of them. -/
structure Heard (env : Env) (fd : Int) (early late : List Event) (wire : Wire) : Prop where
  server : wire.server = run (Server.step env) {} (early ++ late)
  handled : wire.handled = late.filterMap (Event.ownLine fd)

theorem Heard.input {early late : List Event} (heard : Heard env fd early late wire) (input : Input) :
    Heard env fd early (late ++ input.events wire.server) (wire.input env fd input) := by
  constructor
  · show wire.server.handle env input = _
    rw [handle_eq_run, ← List.append_assoc, run_append, ← heard.server]
  · show wire.handled ++ _ = _
    rw [heard.handled, List.filterMap_append]

theorem heard_step {early late : List Event} (heard : Heard env fd early late wire) (event : WireEvent) :
    ∃ more, Heard env fd early (late ++ more) (wire.step env fd event) := by
  cases event with
  | client event line failures count writes =>
    refine ⟨[], ?_⟩
    rw [List.append_nil]
    exact ⟨heard.server, heard.handled⟩
  | read count =>
    unfold step
    simp only
    split_ifs
    · exact ⟨[], (List.append_nil late).symm ▸ heard⟩
    · obtain ⟨server, handled⟩ := heard.input (.read fd (wire.upstream.take (count + 1)))
      exact ⟨_, server, handled⟩
  | write count =>
    obtain ⟨server, handled⟩ := heard.input (.write fd count)
    exact ⟨_, server, handled⟩
  | elsewhere input =>
    unfold step
    simp only
    split_ifs
    · exact ⟨_, heard.input input⟩
    · exact ⟨[], (List.append_nil late).symm ▸ heard⟩

theorem heard_run {early late : List Event} (heard : Heard env fd early late wire) (events : List WireEvent) :
    ∃ more, Heard env fd early (late ++ more) (run (Wire.step env fd) wire events) := by
  induction events generalizing wire late with
  | nil => exact ⟨[], (List.append_nil late).symm ▸ heard⟩
  | cons event rest ih =>
    obtain ⟨first, next⟩ := heard_step heard event
    obtain ⟨more, last⟩ := ih next
    exact ⟨first ++ more, (List.append_assoc late first more) ▸ last⟩

theorem heard_start (env : Env) (fd socketFd : Int) (before : List Input) :
    Heard env fd (Input.trace env {} before) [.accept fd] (Wire.start env fd socketFd before) := by
  refine ⟨?_, rfl⟩
  show run (Server.handle env) {} (before ++ [.accept fd]) = _
  rw [run_concat, run_concat, run_trace]
  rfl

/-- A line that the server has handled was accepted by the client. -/
theorem accepted_of_handled (related : Related fd wire link) (checked : wire.Checked) :
    ∀ rawCommand ∈ wire.handled, Accepted rawCommand := by
  intro rawCommand member
  have given : ClientApplication.wireFrame rawCommand ∈ wire.loop.client.given := by
    rw [related.sent]
    exact List.mem_map_of_mem (List.mem_append_left _ member)
  obtain ⟨frame, accepted, same⟩ := checked _ given
  rwa [List.append_cancel_right (show rawCommand ++ _ = frame ++ _ from same)]

end Wire

namespace Network

variable {env : Env} {fd : Int} {wire : Wire}

/-- **The connection of a client is official.** -/
theorem official_of_isRun (runs : IsRun env fd wire) : ∃ events, wire.server = run (Server.step env) {} events ∧
    OfficialConnection env events fd := by
  obtain ⟨before, socketFd, trace, free, rfl⟩ := runs
  have start := Wire.related_start env socketFd.2 free
  obtain ⟨more, heard⟩ := Wire.heard_run (Wire.heard_start env fd socketFd before) trace
  refine ⟨_, heard.server, _, _, rfl, ?_, fun rawCommand member => ?_⟩
  · rw [← run_trace]
    exact free
  · have related := @Wire.related_run env fd trace _ _ start
    have checked := @Wire.checked_run env fd _ _ start (List.forall_mem_nil _) trace
    apply Wire.accepted_of_handled related checked
    rw [heard.handled]
    exact List.mem_filterMap.mpr ⟨_, member, if_pos rfl⟩

/-- **No message for a client is too long.** -/
theorem not_oversized (runs : IsRun env fd wire) (times : Clocked IsTime env wire.server.timeCalls) {frame : Frame}
    (member : frame ∈ wire.server.appendedTo fd) : ¬ ServerReader.maxServerFrameSize < frame.line.length + 1 := by
  obtain ⟨events, server, official⟩ := official_of_isRun runs
  rw [server] at member times
  exact not_lt.mpr (appended_fit times official frame member)

end Network

end MyTeams
