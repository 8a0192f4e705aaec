/-
**A network comes to rest.**

Wherever the clients of a network and the server are, two calls for each client carry what they have sent to the
server, and then two calls for each client carry what the server has for them back (`Network.settle`).

* `Wire.gather`, `Wire.scatter` — the first two and the last two calls for a client;
* `run_turn_self`, `run_turn_other` — a turn of a client, for itself and for the others;
* `network_settles` — behind them all frames are handled and all messages are routed, for every client that was in
  its loop.
-/

import MyTeams.Guarantees.OfficialClients
import MyTeams.Guarantees.WireProgress
import MyTeams.Lib.Sweep

namespace MyTeams

open Transition Sweep

/-! ### The turns of one client -/

namespace Wire

/-- The client writes all it has, and the server reads it. -/
def gather (env : Env) (fd : Int) (wire : Wire) : List WireEvent :=
  [wire.flushAll, .read (wire.step env fd wire.flushAll).upstream.length]

/-- The server writes all it has for the client, and the client reads it. -/
def scatter (env : Env) (fd : Int) (wire : Wire) : List WireEvent :=
  let count := (wire.server.writeBuffer fd).length
  [.write count, (wire.step env fd (.write count)).readAll]

variable {env : Env} {fd : Int} {wire : Wire} {link : Link}

/-- What the server has not read of the client; a client that has left its loop sends nothing more. -/
def outgoing (wire : Wire) : Bytes :=
  wire.upstream ++ if wire.loop.phase = .running then wire.loop.client.offered else []

/-- An event of the socket gives nothing to the output. -/
theorem gives_of_socket (related : Related fd wire link) {event : ClientEvent}
    (socket : event.fd = wire.loop.socketFd) (answers : ClientAnswers) :
    TcpClient.Gives [] wire.loop.client (wire.loop.handleEvent (event, answers)).client := by
  have effect := ClientLoop.effect_handleEvent related.ready event answers
  cases effect with
  | idle _ _ gives => exact gives
  | read _ _ gives => exact gives
  | typed _ dispatched =>
    have other : wire.loop.socketFd ≠ stdinFileno := related.ready.socket
    simp [ClientLoop.dispatched, ClientLoop.handles, socket, other] at dispatched

theorem upstream_flushAll (related : Related fd wire link) :
    (wire.step env fd wire.flushAll).upstream = wire.outgoing := by
  let event : ClientEvent := { fd := wire.loop.socketFd, pollOut := wire.loop.client.hasPendingWrites }
  let answers := wire.answers none [] 0 [.ok wire.loop.client.offered.length]
  let after := wire.loop.handleEvent (event, answers)
  show wire.upstream ++ after.client.accepted.drop wire.loop.client.accepted.length = _
  unfold outgoing
  apply congrArg (wire.upstream ++ ·)
  by_cases running : wire.loop.phase = .running
  · rw [if_pos running]
    have gives := gives_of_socket related (show event.fd = wire.loop.socketFd from rfl) answers
    obtain ⟨-, empty⟩ := ClientLoop.handleEvent_flush related.ready running
      (show answers.writes = [.ok wire.loop.client.offered.length] from rfl)
    have stream := gives.stream
    rw [show after.client.offered = [] from empty, List.append_nil, List.flatten_nil, List.append_nil] at stream
    exact stream
  · rw [if_neg running]
    have same : after = wire.loop := ClientLoop.andThen_of_ended running
    rw [same, List.drop_length]

/-- **The server reads all of it at once.** -/
theorem server_gather (related : Related fd wire link) :
    (run (Wire.step env fd) wire (wire.gather env fd)).server
      = if wire.outgoing = [] then wire.server else wire.server.handle env (.read fd wire.outgoing) := by
  have upstream := @upstream_flushAll env fd wire link related
  have server : (wire.step env fd wire.flushAll).server = wire.server := rfl
  unfold gather
  rw [run_cons, run_cons, run_nil]
  generalize wire.step env fd wire.flushAll = sent at upstream server
  rw [step_server, server, ← upstream, WireEvent.inputs]
  split_ifs
  · rfl
  · rw [List.take_of_length_le (Nat.le_succ _)]
    rfl

/-- **What the server has for the client, the client has routed.** -/
theorem delivered_run (related : Related fd wire link) (gathered : Gathered wire) :
    let after := run (Wire.step env fd) wire (wire.scatter env fd)
    after.loop.client.given = after.handled.map ClientApplication.wireFrame ∧ Delivered fd after := by
  obtain ⟨link, written⟩ := @written_drain env fd wire link related gathered
  exact delivered_readAll env written

end Wire

/-! ### Turns in a network -/

/-- An event of the wire of a client. -/
def NetworkEvent.ofWire (fd : Int) : WireEvent → NetworkEvent
  | .client event line failures count writes => .client fd event line failures count writes
  | .read count => .read fd count
  | .write count => .write fd count
  | .elsewhere input => .foreign input

/-- An event at one of the ends of the wire that only carries bytes. -/
def WireEvent.isOwn : WireEvent → Bool
  | .elsewhere _ => false
  | .client _ line _ _ _ => line.isNone
  | _ => true

namespace Network

variable {env : Env} {fd other : Int} {wire : Wire} {network : Network}

/-- A turn of one client. -/
def turn (events : Int → Wire → List WireEvent) (fd : Int) (network : Network) : List NetworkEvent :=
  (network.wire fd).elim [] fun wire => (events fd wire).map (NetworkEvent.ofWire fd)

/-- The descriptors of the clients. -/
def keys (network : Network) : List Int := network.parties.entries.map Prod.fst

/-- **Four calls for each client**: what all of them have sent is carried to the server, then what the server has for
them is carried back. -/
def settle (env : Env) (network : Network) : List NetworkEvent :=
  let gathers := sweep (step env) (turn (Wire.gather env)) network.keys network
  gathers ++ sweep (step env) (turn (Wire.scatter env)) network.keys (run (step env) network gathers)

/-- The server reads all that a client has sent. -/
def serve (env : Env) (network : Network) (server : Server) (fd : Int) : Server :=
  (network.wire fd).elim server fun wire =>
    if wire.outgoing = [] then server else server.handle env (.read fd wire.outgoing)

theorem mem_keys (seen : network.wire fd = some wire) : fd ∈ network.keys := by
  obtain ⟨party, present, -⟩ := wire_eq_some.mp seen
  exact List.mem_map.mpr ⟨(fd, party), SortedMap.find?_eq_some_iff.mp present, rfl⟩

theorem step_ofWire {event : WireEvent} (own : event.isOwn = true) :
    network.step env (.ofWire fd event) = network.advance env fd event ∧
      (NetworkEvent.ofWire fd event).party = some fd := by
  cases event with
  | elsewhere => cases own
  | _ => exact ⟨rfl, rfl⟩

/-- **A turn, for its client.** -/
theorem run_turn_self (seen : network.wire fd = some wire) {events : List WireEvent}
    (own : ∀ event ∈ events, event.isOwn = true) :
    (run (step env) network (events.map (NetworkEvent.ofWire fd))).wire fd
      = some (run (Wire.step env fd) wire events) := by
  induction events generalizing network wire with
  | nil => exact seen
  | cons event rest ih =>
    obtain ⟨first, later⟩ := List.forall_mem_cons.mp own
    rw [List.map_cons, run_cons, run_cons, (step_ofWire first).1]
    exact ih (wire_advance_self event seen) later

/-- **A turn, for the other clients.** -/
theorem run_turn_other (seen : network.wire fd = some wire) (different : other ≠ fd) {events : List WireEvent}
    (own : ∀ event ∈ events, event.isOwn = true) : ∃ inputs : List Input,
    (run (step env) network (events.map (NetworkEvent.ofWire other))).wire fd
      = some (run (Wire.step env fd) wire (inputs.map WireEvent.elsewhere)) ∧
    ∀ input ∈ inputs, input.elsewhere fd = true := by
  induction events generalizing network wire with
  | nil => exact ⟨[], seen, List.forall_mem_nil _⟩
  | cons event rest ih =>
    obtain ⟨first, later⟩ := List.forall_mem_cons.mp own
    have apart : (NetworkEvent.ofWire other event).party ≠ some fd := by
      rw [(@step_ofWire env other network event first).2]
      exact fun same => different (Option.some.inj same)
    obtain ⟨party, present, -⟩ := wire_eq_some.mp seen
    have elsewhere := inputs_elsewhere present apart
    obtain ⟨inputs, reached, all⟩ := ih (step_wire_other seen apart) later
    refine ⟨(NetworkEvent.ofWire other event).inputs network ++ inputs, ?_, ?_⟩
    · rw [List.map_cons, run_cons, reached, List.map_append, run_append]
    · exact List.forall_mem_append.mpr ⟨elsewhere, all⟩

/-- A client in its loop. -/
def Live (fd : Int) (network : Network) : Prop :=
  ∃ wire link, network.wire fd = some wire ∧ Wire.Related fd wire link ∧ wire.loop.phase = .running

/-- A client that has sent everything. -/
def Sent (fd : Int) (network : Network) : Prop :=
  ∃ wire link, network.wire fd = some wire ∧ Wire.Related fd wire link ∧ Wire.Gathered wire

/-- A client that has routed everything. -/
def Rests (fd : Int) (network : Network) : Prop :=
  ∃ wire, network.wire fd = some wire ∧
    wire.loop.client.given = wire.handled.map ClientApplication.wireFrame ∧ Wire.Delivered fd wire

theorem own_gather : ∀ event ∈ wire.gather env fd, event.isOwn = true := by
  unfold Wire.gather Wire.flushAll
  simp [WireEvent.isOwn]

theorem own_scatter : ∀ event ∈ wire.scatter env fd, event.isOwn = true := by
  unfold Wire.scatter Wire.readAll
  simp [WireEvent.isOwn]

/-- What others do changes the server only. -/
theorem related_turn (seen : network.wire fd = some wire) {link : Link} (related : Wire.Related fd wire link)
    (different : other ≠ fd) {events : Int → Wire → List WireEvent}
    (own : ∀ wire, ∀ event ∈ events other wire, event.isOwn = true) :
    ∃ server link, (run (step env) network (turn events other network)).wire fd = some { wire with server := server } ∧
      Wire.Related fd { wire with server := server } link := by
  unfold turn
  cases acts : network.wire other with
  | none => exact ⟨wire.server, link, seen, related⟩
  | some acting =>
    obtain ⟨inputs, reached, elsewhere⟩ := @run_turn_other env fd other wire network seen different _ (own acting)
    have next := @Wire.related_run env fd (inputs.map WireEvent.elsewhere) _ _ related
    rw [Wire.run_elsewhere elsewhere] at reached next
    exact ⟨_, _, reached, next⟩

theorem sent_gather (live : Live fd network) :
    Sent fd (run (step env) network (turn (Wire.gather env) fd network)) := by
  obtain ⟨wire, link, seen, related, running⟩ := live
  unfold turn
  rw [seen]
  exact ⟨_, _, run_turn_self seen own_gather, Wire.related_run _ related, Wire.gathered_drain related running⟩

theorem rests_scatter (sent : Sent fd network) :
    Rests fd (run (step env) network (turn (Wire.scatter env) fd network)) := by
  obtain ⟨wire, link, seen, related, gathered⟩ := sent
  unfold turn
  rw [seen]
  exact ⟨_, run_turn_self seen own_scatter, Wire.delivered_run related gathered⟩

section Others

variable {events : Int → Wire → List WireEvent} (own : ∀ wire, ∀ event ∈ events other wire, event.isOwn = true)
include own

/-- What does not depend on the server, a turn of another client keeps. -/
theorem related_and_turn {P : Wire → Prop} (frame : ∀ wire server, P wire → P { wire with server := server })
    (here : ∃ wire link, network.wire fd = some wire ∧ Wire.Related fd wire link ∧ P wire) (different : other ≠ fd) :
    ∃ wire link, (run (step env) network (turn events other network)).wire fd = some wire ∧
      Wire.Related fd wire link ∧ P wire := by
  obtain ⟨wire, link, seen, related, holds⟩ := here
  obtain ⟨server, link, reached, related⟩ := @related_turn env fd other wire network seen link related different _ own
  exact ⟨_, link, reached, related, frame wire server holds⟩

theorem live_turn (live : Live fd network) (different : other ≠ fd) :
    Live fd (run (step env) network (turn events other network)) :=
  related_and_turn own (fun _ _ running => running) live different

theorem sent_turn (sent : Sent fd network) (different : other ≠ fd) :
    Sent fd (run (step env) network (turn events other network)) :=
  related_and_turn own (fun _ _ gathered => ⟨gathered.running, gathered.offered, gathered.upstream⟩) sent different

end Others

theorem find?_turn (different : other ≠ fd) {events : Int → Wire → List WireEvent}
    (own : ∀ wire, ∀ event ∈ events other wire, event.isOwn = true) :
    (run (step env) network (turn events other network)).parties.find? fd = network.parties.find? fd := by
  have each : ∀ (events : List WireEvent) (network : Network), (∀ event ∈ events, event.isOwn = true) →
      (run (step env) network (events.map (NetworkEvent.ofWire other))).parties.find? fd
        = network.parties.find? fd := by
    intro events
    induction events with
    | nil => exact fun _ _ => rfl
    | cons event rest ih =>
      intro network own
      obtain ⟨first, later⟩ := List.forall_mem_cons.mp own
      rw [List.map_cons, run_cons, ih _ later]
      apply find?_step_other
      intro same
      apply different
      rw [(@step_ofWire env other network event first).2] at same
      exact Option.some.inj same
  unfold turn
  cases network.wire other with
  | none => rfl
  | some wire => exact each _ network (own wire)

/-- The same database, sessions and messages; the buffers may be others. -/
structure SameContent (server after : Server) : Prop where
  db : after.db = server.db
  sessions : ∀ fd, after.session fd = server.session fd
  appendedTo : ∀ fd, after.appendedTo fd = server.appendedTo fd

/-- **The two other calls** only write. -/
theorem sameContent_scatter (network : Network) (acting : Int) :
    SameContent network.server (run (step env) network (turn (Wire.scatter env) acting network)).server := by
  unfold turn
  cases acts : network.wire acting with
  | none => exact ⟨rfl, fun _ => rfl, fun _ => rfl⟩
  | some wire =>
    let count := (wire.server.writeBuffer acting).length
    let between := network.step env (.write acting count)
    show SameContent network.server
      (between.step env (.ofWire acting (wire.step env acting (.write count)).readAll)).server
    have written : between.server = network.server.consumeFromWriteBuffer acting count := by
      rw [step_server]
      simp only [NetworkEvent.inputs, acts]
      rfl
    have quiet : Quiet fun client : Client => { client with writeBuffer := client.writeBuffer.drop count } :=
      ⟨fun _ => rfl, fun _ => rfl, fun _ => rfl⟩
    rw [step_server, written]
    show SameContent network.server (network.server.modifyClient acting _)
    exact ⟨rfl, session_modifyClient quiet acting, fun fd => appendedTo_modifyClient quiet acting fd⟩

theorem SameContent.trans {first second third : Server} (early : SameContent first second)
    (late : SameContent second third) : SameContent first third :=
  ⟨late.db.trans early.db, fun fd => (late.sessions fd).trans (early.sessions fd), fun fd =>
    (late.appendedTo fd).trans (early.appendedTo fd)⟩

/-- What the server writes for others is nothing to this client. -/
theorem rests_turn (rests : Rests fd network) (different : other ≠ fd) :
    Rests fd (run (step env) network (turn (Wire.scatter env) other network)) := by
  obtain ⟨wire, seen, handled, delivered⟩ := rests
  obtain ⟨party, present, rfl⟩ := wire_eq_some.mp seen
  have still : (run (step env) network (turn (Wire.scatter env) other network)).parties.find? fd = some party :=
    (find?_turn different fun _ => own_scatter).trans present
  have same := (@sameContent_scatter env network other).appendedTo fd
  generalize run (step env) network (turn (Wire.scatter env) other network) = after at still same
  refine ⟨_, wire_eq_some.mpr ⟨party, still, rfl⟩, handled, ?_⟩
  cases delivered with
  | all running routed buffer arrived =>
    refine .all running ?_ buffer arrived
    rw [same]
    exact routed
  | disconnected left asked => exact .disconnected left asked
  | oversized thrown member long =>
    refine .oversized thrown ?_ long
    rw [same]
    exact member

theorem keys_nodup (network : Network) : network.keys.Nodup :=
  List.pairwise_map.mpr (network.parties.sorted.imp fun before => ne_of_lt before)

theorem settle_length (env : Env) (network : Network) :
    (network.settle env).length ≤ 4 * network.parties.entries.length := by
  have short : ∀ (events : Int → Wire → List WireEvent), (∀ fd wire, (events fd wire).length = 2) →
      ∀ fd network, (turn events fd network).length ≤ 2 := by
    intro events two fd network
    unfold turn
    cases network.wire fd with
    | none => exact Nat.zero_le _
    | some wire =>
      rw [Option.elim_some, List.length_map, two]
  have first := @length_sweep_le _ _ _ (step env) _ network.keys 2 (short (Wire.gather env) fun _ _ => rfl) network
  have second := @length_sweep_le _ _ _ (step env) _ network.keys 2 (short (Wire.scatter env) fun _ _ => rfl)
    (run (step env) network (sweep (step env) (turn (Wire.gather env)) network.keys network))
  have keys : network.keys.length = network.parties.entries.length := List.length_map _
  unfold settle
  rw [List.length_append]
  omega

/-- **Four calls for each client**, for one of them. -/
theorem rests_settle (live : Live fd network) : Rests fd (run (step env) network (network.settle env)) := by
  have member : fd ∈ network.keys := by
    obtain ⟨wire, -, seen, -⟩ := live
    exact mem_keys seen
  have sent : Sent fd (run (step env) network (sweep _ (turn (Wire.gather env)) network.keys network)) :=
    sweep_achieves network.keys_nodup member (fun _ live => sent_gather live)
      (fun _ _ _ different live => live_turn (fun _ => own_gather) live different)
      (fun _ _ _ different sent => sent_turn (fun _ => own_gather) sent different) live
  unfold settle
  rw [run_append]
  exact sweep_achieves network.keys_nodup member (fun _ sent => rests_scatter sent)
    (fun _ _ _ different sent => sent_turn (fun _ => own_scatter) sent different)
    (fun _ _ _ different rests => rests_turn rests different) sent

/-! ### The server -/

/-- Every client is a link. -/
def Sound (network : Network) : Prop :=
  ∀ fd wire, network.wire fd = some wire → ∃ link, Wire.Related fd wire link

theorem sound_turn (sound : network.Sound) (acting : Int) {events : Int → Wire → List WireEvent}
    (own : ∀ wire, ∀ event ∈ events acting wire, event.isOwn = true) :
    (run (step env) network (turn events acting network)).Sound := by
  intro fd wire seen
  by_cases here : acting = fd
  · subst here
    cases acts : network.wire acting with
    | none =>
      have still : run (step env) network (turn events acting network) = network := by
        unfold turn
        rw [acts]
        rfl
      rw [still] at seen
      exact sound _ _ seen
    | some old =>
      obtain ⟨link, related⟩ := sound acting old acts
      have reached := @run_turn_self env acting old network acts _ (own old)
      unfold turn at seen
      rw [acts, Option.elim_some, reached] at seen
      rw [← Option.some.inj seen]
      exact ⟨_, Wire.related_run _ related⟩
  · obtain ⟨party, present, rfl⟩ := wire_eq_some.mp seen
    rw [find?_turn here own] at present
    have was := wire_eq_some.mpr ⟨party, present, rfl⟩
    obtain ⟨link, related⟩ := sound fd _ was
    obtain ⟨server, link, reached, related⟩ := @related_turn env fd acting _ network was link related here _ own
    rw [seen] at reached
    rw [Option.some.inj reached]
    exact ⟨link, related⟩

/-- **Two calls for each client**: the server reads what they have sent, one client after the other. -/
theorem server_gathers {keys : List Int} (distinct : keys.Nodup) (sound : network.Sound) :
    (run (step env) network (sweep (step env) (turn (Wire.gather env)) keys network)).server
      = keys.foldl (network.serve env) network.server := by
  induction keys generalizing network with
  | nil => rfl
  | cons key rest ih =>
    obtain ⟨absent, later⟩ := List.nodup_cons.mp distinct
    let next := run (step env) network (turn (Wire.gather env) key network)
    have first : next.server = network.serve env network.server key := by
      show (run (step env) network (turn (Wire.gather env) key network)).server = _
      unfold turn serve
      cases acts : network.wire key with
      | none => rfl
      | some wire =>
        obtain ⟨link, related⟩ := sound key wire acts
        have reached := @run_turn_self env key wire network acts (wire.gather env key) own_gather
        rw [Option.elim_some, Option.elim_some, ← wire_server reached, Wire.server_gather related, wire_server acts]
    have others : ∀ server, ∀ fd ∈ rest, next.serve env server fd = network.serve env server fd := by
      intro server fd member
      have different : key ≠ fd := fun same => absent (same ▸ member)
      have party : next.parties.find? fd = network.parties.find? fd := find?_turn different fun _ => own_gather
      unfold serve Network.wire
      rw [party]
      cases network.parties.find? fd <;> rfl
    rw [run_sweep_cons, ih later (sound_turn sound key fun _ => own_gather), List.foldl_cons, first,
      List.foldl_ext _ _ _ others]

/-- The server of a network at rest. -/
theorem server_settle (sound : network.Sound) : SameContent (network.keys.foldl (network.serve env) network.server)
    (run (step env) network (network.settle env)).server := by
  unfold settle
  rw [run_append, ← server_gathers network.keys_nodup sound]
  generalize run (step env) network (sweep (step env) (turn (Wire.gather env)) network.keys network) = gathered
  exact @sweep_keeps _ _ _ (step env) (turn (Wire.scatter env)) _
    (fun after => SameContent gathered.server after.server)
    (fun after other _ same => same.trans (sameContent_scatter after other)) gathered
    ⟨rfl, fun _ => rfl, fun _ => rfl⟩

/-- No client of a network gives up on a message. -/
theorem not_thrown_of_delivered {events more : List NetworkEvent}
    (reached : (run (step env) (run (step env) {} events) more).wire fd = some wire)
    (times : Clocked IsTime env (run (step env) (run (step env) {} events) more).server.timeCalls)
    (delivered : Wire.Delivered fd wire) : wire.loop.phase ≠ .thrown := by
  cases delivered with
  | all goesOn =>
    rw [goesOn]
    decide
  | disconnected left =>
    rw [left]
    decide
  | oversized _ member long =>
    rw [← wire_server reached] at times
    rw [← run_append] at reached
    exact absurd long (not_oversized (run_isRun env _ reached) times member)

end Network

/-- **A network comes to rest.** At every moment of a network, whatever its clients have typed and however much of it
is on its way, four calls for each client do this: the server reads what each client has sent, one client after the
other; all frames are handled; and every client that was in its loop goes on and has routed all messages that were
appended for it, unless it disconnects at a reply. -/
theorem network_settles (env : Env) (events : List NetworkEvent) :
    let network := run (Network.step env) {} events
    let after := run (Network.step env) network (network.settle env)
    (network.settle env).length ≤ 4 * network.parties.entries.length ∧
      Network.SameContent (network.keys.foldl (network.serve env) network.server) after.server ∧
      (Clocked IsTime env after.server.timeCalls →
        ∀ fd wire, network.wire fd = some wire → wire.loop.phase = .running →
          ∃ settled, after.wire fd = some settled ∧
            settled.loop.client.given = settled.handled.map ClientApplication.wireFrame ∧
            Wire.Delivered fd settled ∧ settled.loop.phase ≠ .thrown) := by
  intro network after
  have sound : network.Sound := fun fd wire seen => Network.run_related env events seen
  refine ⟨network.settle_length env, Network.server_settle sound, fun times fd wire seen running => ?_⟩
  obtain ⟨link, related⟩ := sound fd wire seen
  obtain ⟨settled, reached, handled, delivered⟩ := Network.rests_settle ⟨wire, link, seen, related, running⟩
  exact ⟨settled, reached, handled, delivered, Network.not_thrown_of_delivered reached times delivered⟩

theorem network_settles_sample :
    let network := run (Network.step sampleEnv) {} meeting
    let after := run (Network.step sampleEnv) network (network.settle sampleEnv)
    ((network.wire 4).map Wire.handled = some [] ∧ network.server.db.users.length = 1) ∧
      (∃ settled, after.wire 4 = some settled ∧ settled.Delivered 4 ∧
        settled.handled = [ascii "/login \"amy\""]) ∧
      after.server.db.users.length = 2 := by
  have settles := network_settles sampleEnv meeting
  intro network after
  extract_lets at settles
  have calls : after.server.timeCalls = 0 := by decide +kernel
  have running : (network.wire 4).map (fun wire => decide (wire.loop.phase = .running)) = some true := by decide +kernel
  have handled : (after.wire 4).map Wire.handled = some [ascii "/login \"amy\""] := by decide +kernel
  have before : (network.wire 4).map Wire.handled = some [] ∧ network.server.db.users.length = 1 := by decide +kernel
  have users : after.server.db.users.length = 2 := by decide +kernel
  clear_value after
  have times : Clocked IsTime sampleEnv after.server.timeCalls := by
    rw [calls]
    exact ⟨fun n less => absurd less (Nat.not_lt_zero n), fun _ inRange => inRange⟩
  obtain ⟨wire, seen, phase⟩ := Option.map_eq_some_iff.mp running
  obtain ⟨settled, reached, -, delivered, -⟩ := settles.2.2 times 4 wire seen (of_decide_eq_true phase)
  rw [reached] at handled
  exact ⟨before, ⟨settled, reached, delivered, Option.some.inj handled⟩, users⟩

end MyTeams
