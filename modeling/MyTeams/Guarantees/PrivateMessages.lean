/-
**A private message arrives.**

A user types `/send` in a network at rest, and the server confirms it. When the four calls of `Network.settle` for
each client have brought the network to rest again, every client of the receiver has shown the message once, with
the sender and the text as a C string, and no other client has shown anything.

* `run_isUuid` — the users of a server have well-formed uuids;
* `ServerReader.routes_all` — a client that no message makes disconnect has routed all of them;
* `confirmed_shows` — what the messages of a SEND show to one client;
* `private_message_arrives` — a SEND, from the standard input of one client to the output of the others.
-/

import MyTeams.Guarantees.AtRest
import MyTeams.Guarantees.EventDelivery
import MyTeams.Guarantees.ValueFidelity

namespace MyTeams

open Transition

/-! ### The sender -/

/-- No user has a uuid that needs escaping. -/
theorem run_isUuid (env : Env) (events : List Event) :
    ∀ uuid ∈ (run (Server.step env) {} events).db.uuids, IsUuid uuid := by
  refine run_invariant (fun server : Server => ∀ uuid ∈ server.db.uuids, IsUuid uuid)
    (fun server event known uuid member => ?_) (List.forall_mem_nil _) events
  rcases step_uuids (step_steps env server event) with ⟨same, -⟩ | ⟨grown, -⟩
  · exact known uuid (same.mem_iff.mp member)
  · rcases List.mem_cons.mp (grown.mem_iff.mp member) with rfl | old
    · exact (env.uuid _).2
    · exact known uuid old

theorem isUuid_of_findUser {env : Env} {events : List NetworkEvent} {uuid : Bytes} {user : User}
    (found : (run (Network.step env) {} events).server.db.findUser uuid = some user) : IsUuid user.uuid := by
  obtain ⟨steps, reached⟩ := Network.run_steps env events
  rw [reached] at found
  exact run_isUuid env steps _ (List.mem_append_left _ (List.mem_map_of_mem (List.mem_of_find?_eq_some found)))

/-- The client can read every message that the server of a network appends. -/
theorem newFrames_storable {env : Env} {events : List NetworkEvent} {event : Event} {fd : Int} {frame : Frame}
    (member : frame ∈ (run (Network.step env) {} events).server.newFrames fd
      ((run (Network.step env) {} events).server.step env event)) : frame.Carries Storable := by
  obtain ⟨steps, reached⟩ := Network.run_steps env events
  have carries := @run_storable env (steps ++ [event])
  rw [run_concat, ← reached] at carries
  exact newFrames_carries carries member

/-! ### What the clients show -/

namespace ServerMessageRouter

variable {router : ServerMessageRouter}

theorem routeFrame_privateMessage {senderUuid body : Bytes}
    (storable : (Frame.eventPrivateMessage senderUuid body).Carries Storable) :
    router.routeFrame (Frame.eventPrivateMessage senderUuid body).line
      = router.call .eventPrivateMessageReceived [.cStr (escapeField senderUuid), .cStr (escapeField body)] := by
  unfold routeFrame
  rw [parse_line storable]
  rfl

/-- The confirmation shows nothing. -/
theorem routeFrame_ok (pending : router.pendingCommand ≠ ascii "/logout") :
    router.routeFrame Frame.ok.line = router := by
  have storable : Frame.ok.Carries Storable := fun _ member => absurd member List.not_mem_nil
  unfold routeFrame
  rw [parse_line storable]
  exact if_neg pending

/-- Messages that keep the wish to disconnect, one after the other. -/
theorem keeps_foldl {lines : List Bytes} {command : Bytes}
    (each : ∀ line ∈ lines, ∀ router : ServerMessageRouter, router.pendingCommand = command →
      Keeps router (router.routeFrame line)) (pending : router.pendingCommand = command) :
    Keeps router (lines.foldl (fun router line => router.routeFrame line) router) := by
  induction lines generalizing router with
  | nil => exact keeps_refl router
  | cons line rest ih =>
    have first := each line List.mem_cons_self router pending
    have later := ih (fun line member => each line (List.mem_cons_of_mem _ member))
      (first.pendingCommand.trans pending)
    exact ⟨later.pendingCommand.trans first.pendingCommand, later.shouldDisconnect.trans first.shouldDisconnect⟩

end ServerMessageRouter

open ServerMessageRouter in
/-- A client that no message makes disconnect has routed all of them. -/
theorem ServerReader.routes_all {before settled : ServerReader} {phase : ClientPhase} {lines rest all : List Bytes}
    (stays : before.router.shouldDisconnect = false) (follows : ServerReader.Follows lines before settled)
    (whole : lines ++ rest = all)
    (ends : phase = .running ∧ rest = [] ∨ phase = .left ∧ settled.router.shouldDisconnect = true)
    (keeps : ∀ early, early <+: all →
      Keeps before.router (early.foldl (fun router line => router.routeFrame line) before.router)) :
    phase = .running ∧ settled.router = all.foldl (fun router line => router.routeFrame line) before.router := by
  rcases ends with ⟨running, rfl⟩ | ⟨-, asks⟩
  · rw [List.append_nil] at whole
    exact ⟨running, whole ▸ follows.router⟩
  · rw [follows.router, (keeps lines ⟨rest, whole⟩).shouldDisconnect, stays] at asks
    cases asks

open ServerMessageRouter in
/-- What the messages of a SEND show to one client: the event, if the client is one of the receiver. -/
theorem confirmed_shows {fd other : Int} {holder : Client} {recipient : Client → Bool} {senderUuid body : Bytes}
    (wellFormed : IsUuid senderUuid) {router : ServerMessageRouter}
    (storable : ∀ frame ∈ confirmed fd (Frame.eventPrivateMessage senderUuid body) Frame.ok recipient other holder,
      frame.Carries Storable)
    (pending : other = fd → router.pendingCommand ≠ ascii "/logout") :
    let lines := (confirmed fd (Frame.eventPrivateMessage senderUuid body) Frame.ok recipient other holder).map
      Frame.line
    (∀ early, early <+: lines → Keeps router (early.foldl (fun router line => router.routeFrame line) router)) ∧
      (lines.foldl (fun router line => router.routeFrame line) router).output = router.output ++
        if recipient holder then [.call .eventPrivateMessageReceived [.text senderUuid, .cStr (escapeField body)]]
        else [] := by
  intro lines
  have plain : escapeField senderUuid = senderUuid := escapeField_eq_self_iff.mpr (uuid_unescaped wellFormed)
  have event : recipient holder = true → ∀ router : ServerMessageRouter,
      router.routeFrame (Frame.eventPrivateMessage senderUuid body).line
        = router.call .eventPrivateMessageReceived [.text senderUuid, .cStr (escapeField body)] := by
    intro receives router
    have carries : (Frame.eventPrivateMessage senderUuid body).Carries Storable := by
      apply storable
      apply List.mem_append_left
      rw [if_pos receives]
      exact List.mem_cons_self
    rw [routeFrame_privateMessage carries, plain, Argument.cStr, cString_of_isUuid wellFormed]
  constructor
  · intro early initial
    apply keeps_foldl _ rfl
    intro line member router' same
    obtain ⟨frame, inside, rfl⟩ := List.mem_map.mp (initial.subset member)
    rcases List.mem_append.mp inside with inside | inside
    · split_ifs at inside with receives
      · rw [List.mem_singleton.mp inside, event receives]
        exact keeps_call router' _ _
      · cases inside
    · split_ifs at inside with own
      · rw [List.mem_singleton.mp inside, routeFrame_ok (same ▸ pending own)]
        exact keeps_refl router'
      · cases inside
  · show (((_ ++ _ : List Frame).map Frame.line).foldl _ router).output = _
    rw [List.map_append, List.foldl_append]
    by_cases receives : recipient holder = true
    · rw [if_pos receives, if_pos receives, List.map_singleton, List.foldl_cons, List.foldl_nil, event receives]
      split_ifs with own
      · have quiet := @routeFrame_ok
          (router.call .eventPrivateMessageReceived [.text senderUuid, .cStr (escapeField body)]) (pending own)
        rw [List.map_singleton, List.foldl_cons, List.foldl_nil, quiet]
        rfl
      · rfl
    · rw [if_neg receives, if_neg receives, List.append_nil]
      split_ifs with own
      · rw [List.map_nil, List.foldl_nil, List.map_singleton, List.foldl_cons, List.foldl_nil,
          routeFrame_ok (pending own)]
      · rfl

/-- **A private message arrives.** A network is at rest, a user types `/send`, and the server confirms it. Then the
sender is the user of this session and the receiver the one that the line names. After the calls of
`Network.settle`, which bring the network to rest again, every client that was in its loop still is. Those of the
receiver have called the logging library once, with the uuid of the sender and the text of the message, in which
quotes and backslashes are escaped, up to its first zero byte; the others have shown nothing. -/
theorem private_message_arrives (env : Env) (events : List NetworkEvent)
    (rests : (run (Network.step env) {} events).AtRest) {fd : Int} {text : TypedLine} {frame : Bytes}
    (sent : ClientApplication.dispatchCommandLine (StdinLoop.popReturn text) = .sent (ascii "/send") frame)
    {writes : List (Except Errno Nat)} {later : Wire}
    (seen : (run (Network.step env) {}
      (events ++ [.client fd stdinReadable (some text) [] 0 writes])).wire fd = some later)
    (goesOn : later.loop.phase = .running) :
    let network := run (Network.step env) {} events
    let typed := run (Network.step env) {} (events ++ [.client fd stdinReadable (some text) [] 0 writes])
    let after := run (Network.step env) typed (typed.settle env)
    let server := network.server.step env (.line fd frame)
    Frame.ok ∈ network.server.newFrames fd server → Clocked IsTime env after.server.timeCalls →
    ∃ client sender receiver, network.server.clients.find? fd = some client ∧
      network.server.db.findUser client.userUuid = some sender ∧
      network.server.db.findUser ((CommandHandling.parseArgs frame).getD 1 []) = some receiver ∧
      ∀ other before, typed.wire other = some before → before.loop.phase = .running →
        ∃ settled holder, after.wire other = some settled ∧ settled.loop.phase = .running ∧
          server.clients.find? other = some holder ∧
          settled.loop.reader.router.output = before.loop.reader.router.output ++
            if holder.userUuid = receiver.uuid then
              [.call .eventPrivateMessageReceived
                [.text sender.uuid, .cStr (escapeField ((CommandHandling.parseArgs frame).getD 2 []))]]
            else [] := by
  intro network typed after server confirms times
  obtain ⟨-, clients⟩ := Network.delivered_command rests sent seen goesOn
  obtain ⟨wire, link, here, related, running, rfl⟩ := Network.exists_client_step seen goesOn
  obtain ⟨-, reader⟩ := @Wire.type_sends env fd wire link related running text _ frame sent writes
  obtain ⟨client, found⟩ := Network.connected here related
  have named : (CommandHandling.parseArgs frame).head? = some Verb.send.text := sent_command sent
  obtain ⟨sender, receiver, sending, receiving, delivers⟩ := send_delivers found named confirms
  refine ⟨client, sender, receiver, found, sending, receiving, fun other before there goes => ?_⟩
  obtain ⟨settled, lines, rest, arrived, follows, whole, ends⟩ := clients times other before there goes
  obtain ⟨link, related⟩ := Network.run_related env _ there
  obtain ⟨session, opened⟩ := Network.connected there related
  have same : typed.server = network.server := by
    rw [← Network.wire_server seen, ← Network.wire_server here]
    rfl
  rw [same] at opened
  obtain ⟨holder, present, -, frames, -⟩ := delivers other session opened
  have pending : other = fd → before.loop.reader.router.pendingCommand ≠ ascii "/logout" := by
    rintro rfl
    rw [seen] at there
    cases there
    rw [reader]
    show ascii "/send" ≠ ascii "/logout"
    decide
  have storable : ∀ message ∈ network.server.newFrames other server, message.Carries Storable :=
    fun _ member => newFrames_storable member
  replace frames : network.server.newFrames other server = _ := frames
  rw [frames] at storable whole
  obtain ⟨keeps, output⟩ := confirmed_shows (isUuid_of_findUser sending) storable pending
  obtain ⟨remains, router⟩ := ServerReader.routes_all (related.stays goes) follows whole ends keeps
  refine ⟨settled, holder, arrived, remains, present, ?_⟩
  rw [router, output]
  simp only [decide_eq_true_eq]

/-- Of two users who are connected, one greets the other. -/
theorem private_message_arrives_sample :
    let text : TypedLine := ⟨greeting, by decide⟩
    let typed := run (Network.step sampleEnv) {} (quietMeeting ++ [.client 4 stdinReadable (some text) [] 0 [.ok 9]])
    let after := run (Network.step sampleEnv) typed (typed.settle sampleEnv)
    ∃ before settled, typed.wire 5 = some before ∧ after.wire 5 = some settled ∧
      settled.loop.reader.router.output = before.loop.reader.router.output ++
        [.call .eventPrivateMessageReceived [.text (digitUuid 1).1, .text (ascii "hi ben")]] := by
  intro text typed after
  have running : (typed.wire 4).map (fun wire => decide (wire.loop.phase = .running)) = some true := by decide +kernel
  obtain ⟨later, seen, phase⟩ := Option.map_eq_some_iff.mp running
  have sent : ClientApplication.dispatchCommandLine (StdinLoop.popReturn text) = .sent (ascii "/send") greeting := by
    decide +kernel
  have arrives := private_message_arrives sampleEnv quietMeeting quietMeeting_rests sent seen (of_decide_eq_true phase)
  extract_lets network server at arrives
  have confirms : Frame.ok ∈ network.server.newFrames 4 server := by decide +kernel
  have calls : after.server.timeCalls = 1 := by decide +kernel
  have requester : (network.server.clients.find? 4).map Client.userUuid = some (digitUuid 1).1 := by decide +kernel
  have recipient : (server.clients.find? 5).map Client.userUuid = some (digitUuid 0).1 := by decide +kernel
  have there : (typed.wire 5).map (fun wire => decide (wire.loop.phase = .running)) = some true := by decide +kernel
  have args : CommandHandling.parseArgs greeting = [ascii "/send", (digitUuid 0).1, ascii "hi ben"] := by
    decide +kernel
  have times : Clocked IsTime sampleEnv after.server.timeCalls := by
    rw [calls]
    exact ⟨by decide, fun _ inRange => inRange⟩
  clear_value network typed server
  obtain ⟨before, present, goes⟩ := Option.map_eq_some_iff.mp there
  obtain ⟨client, sender, receiver, found, sending, receiving, clients⟩ := arrives confirms times
  obtain ⟨settled, holder, reached, -, held, output⟩ := clients 5 before present (of_decide_eq_true goes)
  rw [found] at requester
  rw [held] at recipient
  rw [args] at receiving output
  have author : sender.uuid = (digitUuid 1).1 := (FirstMatch.find?_key sending).2.trans (Option.some.inj requester)
  have addressed : holder.userUuid = receiver.uuid :=
    (Option.some.inj recipient).trans (FirstMatch.find?_key receiving).2.symm
  rw [if_pos addressed, author] at output
  exact ⟨before, settled, present, reached, output⟩

end MyTeams
