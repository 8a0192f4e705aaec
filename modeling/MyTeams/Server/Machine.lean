/-
**The server as a state machine.**

`Input` is what the operating system reports to the event loop: a connection, received bytes, a
hang-up, a socket that takes bytes. `Server.handle` is what the server does with it, function by
function as in `server.cpp`; `Input.restart` is a graceful stop and start, a save followed by a
load.

`Event` cuts the inputs into smaller steps, of which one is the handling of a line. A run of inputs
is a run of events (`run_trace`), so what holds after every run of events holds after every run of
inputs.
-/

import MyTeams.Lib.Transition
import MyTeams.Server.Outcome
import MyTeams.Storage.RoundTrip

namespace MyTeams

open Words

namespace Server

/-! ### The functions of `server.cpp` -/

/-- `Server::_acceptClient`, for the descriptor that `accept` returned. -/
def acceptClient (fd : Int) (server : Server) : Server :=
  { server with clients := server.clients.emplace fd { fd := fd } }

/-- One trailing `'\r'` is removed. -/
def stripReturn (line : Bytes) : Bytes :=
  if line.getLast? = some carriageReturn then line.dropLast else line

/-- The body of the loop of `Server::_parseCommands`. -/
def handleLine (env : Env) (fd : Int) (server : Server) (line : Bytes) : Server :=
  if stripReturn line = [] then server
  else CommandHandling.handleCommand env (stripReturn line) fd server

/-- `Client::appendToReadBuffer` -/
def appendToReadBuffer (fd : Int) (data : Bytes) (server : Server) : Server :=
  server.modifyClient fd fun client => { client with readBuffer := client.readBuffer ++ data }

/-- `Client::consumeFromReadBuffer` -/
def consumeFromReadBuffer (fd : Int) (count : Nat) (server : Server) : Server :=
  server.modifyClient fd fun client => { client with readBuffer := client.readBuffer.drop count }

/-- `Client::consumeFromWriteBuffer` -/
def consumeFromWriteBuffer (fd : Int) (count : Nat) (server : Server) : Server :=
  server.modifyClient fd fun client => { client with writeBuffer := client.writeBuffer.drop count }

/-- `Server::_parseCommands`: every complete line of the read buffer is handled, then they are
consumed together. -/
def parseCommands (env : Env) (fd : Int) (server : Server) : Server :=
  match server.clients.find? fd with
  | none => server
  | some client =>
    (lines (· = newline) client.readBuffer).foldl (handleLine env fd) server
      |>.consumeFromReadBuffer fd
        (client.readBuffer.length - (tail (· = newline) client.readBuffer).length)

/-- `Server::_handleRead`, when `read` returned bytes. -/
def handleRead (env : Env) (fd : Int) (data : Bytes) (server : Server) : Server :=
  (server.appendToReadBuffer fd data).parseCommands env fd

/-- `Server::_disconnectClient` -/
def disconnectClient (fd : Int) (server : Server) : Server :=
  match server.clients.find? fd with
  | none => server
  | some client =>
    let erased := { server with clients := server.clients.erase fd }
    if client.userUuid = [] then erased
    else
      match server.db.findUser client.userUuid with
      | none => erased
      | some user =>
        if user.decrementConnection.isConnected then
          erased.modifyDb (·.modifyUser client.userUuid User.decrementConnection)
        else
          erased.modifyDb (·.modifyUser client.userUuid User.decrementConnection)
            |>.broadcast (Frame.eventLoggedOut user)

/-- `Server::_updatePollFlags`, as far as it concerns the clients. -/
def updatePollFlags (server : Server) : Server :=
  server.modifyClients fun _ client =>
    { client with pollOutEnabled := !client.writeBuffer.isEmpty }

/-- A graceful stop, which saves, and a start, which loads into an empty database. -/
def restart (env : Env) (server : Server) : Server :=
  let content := SaveManager.save server.db
  { server with
    clients := SortedMap.empty
    db := (SaveManager.load env.fp (2 * content.length) content {}).getD {} }

end Server

/-- What the event loop is told. -/
inductive Input
  | accept (fd : Int)
  /-- `read` returned these bytes. -/
  | read (fd : Int) (data : Bytes)
  /-- A hang-up, an error condition or the end of the stream. -/
  | hangUp (fd : Int)
  /-- `write` took this many bytes. -/
  | write (fd : Int) (count : Nat)
  /-- The loop is about to wait. -/
  | updateFlags
  | restart

/-- What the server does with an input. -/
def Server.handle (env : Env) (server : Server) : Input → Server
  | .accept fd => server.acceptClient fd
  | .read fd data => server.handleRead env fd data
  | .hangUp fd => server.disconnectClient fd
  | .write fd count => server.consumeFromWriteBuffer fd count
  | .updateFlags => server.updatePollFlags
  | .restart => server.restart env

/-! ### Events -/

/-- One step of the server. -/
inductive Event
  | accept (fd : Int)
  | buffer (fd : Int) (data : Bytes)
  | line (fd : Int) (rawCommand : Bytes)
  | consume (fd : Int) (count : Nat)
  | write (fd : Int) (count : Nat)
  | updateFlags
  | disconnect (fd : Int)
  | restart

/-- The effect of one step. -/
def Server.step (env : Env) (server : Server) : Event → Server
  | .accept fd => server.acceptClient fd
  | .buffer fd data => server.appendToReadBuffer fd data
  | .line fd rawCommand => CommandHandling.handleCommand env rawCommand fd server
  | .consume fd count => server.consumeFromReadBuffer fd count
  | .write fd count => server.consumeFromWriteBuffer fd count
  | .updateFlags => server.updatePollFlags
  | .disconnect fd => server.disconnectClient fd
  | .restart => server.restart env

open Transition

section Runs

variable {env : Env}

/-- The steps that the complete lines of a text cause. -/
def lineEvents (fd : Int) (text : Bytes) : List Event :=
  (((lines (· = newline) text).map Server.stripReturn).filter (· ≠ [])).map (Event.line fd)

theorem foldl_handleLine (fd : Int) (texts : List Bytes) (server : Server) :
    texts.foldl (Server.handleLine env fd) server
      = run (Server.step env) server
          (((texts.map Server.stripReturn).filter (· ≠ [])).map (Event.line fd)) := by
  induction texts generalizing server with
  | nil => rfl
  | cons text rest ih =>
    rw [List.foldl_cons, ih, Server.handleLine, List.map_cons]
    by_cases empty : Server.stripReturn text = []
    · rw [if_pos empty, List.filter_cons_of_neg (by simpa using empty)]
    · rw [if_neg empty, List.filter_cons_of_pos (by simpa using empty), List.map_cons, run_cons]
      rfl

/-- The steps that an input causes in a state. -/
def Input.events (server : Server) : Input → List Event
  | .accept fd => [.accept fd]
  | .read fd data =>
    .buffer fd data ::
      match (server.appendToReadBuffer fd data).clients.find? fd with
      | none => []
      | some client =>
        lineEvents fd client.readBuffer ++ [.consume fd
          (client.readBuffer.length - (tail (· = newline) client.readBuffer).length)]
  | .hangUp fd => [.disconnect fd]
  | .write fd count => [.write fd count]
  | .updateFlags => [.updateFlags]
  | .restart => [.restart]

/-- **An input is a run of events.** -/
theorem handle_eq_run (server : Server) (input : Input) :
    server.handle env input = run (Server.step env) server (input.events server) := by
  cases input with
  | read fd data =>
    simp only [Input.events, run_cons]
    show (server.appendToReadBuffer fd data).parseCommands env fd
      = run (Server.step env) (server.appendToReadBuffer fd data) _
    unfold Server.parseCommands
    cases (server.appendToReadBuffer fd data).clients.find? fd with
    | none => rfl
    | some client =>
      simp only [foldl_handleLine, run_append, run_cons, run_nil]
      rfl
  | _ => rfl

/-- The events of a run of inputs. -/
def Input.trace (env : Env) : Server → List Input → List Event
  | _, [] => []
  | server, input :: rest => input.events server ++ trace env (server.handle env input) rest

/-- **A run of inputs is a run of events.** -/
theorem run_trace (server : Server) (inputs : List Input) :
    run (Server.handle env) server inputs
      = run (Server.step env) server (Input.trace env server inputs) := by
  induction inputs generalizing server with
  | nil => rfl
  | cons input rest ih => rw [run_cons, ih, Input.trace, run_append, handle_eq_run]

end Runs

/-! ### What a step can do -/

/-- A write to a client that touches neither its session nor what was appended for it. -/
structure Quiet (f : Client → Client) : Prop where
  userUuid : ∀ client, (f client).userUuid = client.userUuid
  context : ∀ client, (f client).context = client.context
  appended : ∀ client, (f client).appended = client.appended

theorem quiet_id : Quiet id := ⟨fun _ => rfl, fun _ => rfl, fun _ => rfl⟩

/-- A quiet write to one client is a quiet write to every client. -/
theorem quiet_at {f : Client → Client} (quiet : Quiet f) (fd other : Int) :
    Quiet fun client => if other = fd then f client else client := by
  by_cases same : other = fd
  · simpa only [if_pos same] using quiet
  · simp only [if_neg same]
    exact quiet_id

theorem quiet_setArgs (args : List Bytes) : Quiet (Client.setArgs args) :=
  ⟨fun _ => rfl, fun _ => rfl, fun _ => rfl⟩

/-- **What a step does**, with the checks that it made. -/
inductive Steps (env : Env) (server : Server) : Event → Server → Prop
  | quiet (event : Event) {f : Int → Client → Client} : (∀ fd, Quiet (f fd)) →
      Steps env server event (server.modifyClients f)
  | accepted {fd : Int} : server.clients.find? fd = none →
      Steps env server (.accept fd) { server with clients := server.clients.insert fd { fd := fd } }
  | served {fd : Int} {rawCommand : Bytes} {client : Client} {verb : Verb} {outcome : Outcome} :
      server.clients.find? fd = some client →
      (CommandHandling.parseArgs rawCommand).head? = some verb.text →
      Serves env fd (client.setArgs (CommandHandling.parseArgs rawCommand))
        (server.modifyClient fd (Client.setArgs (CommandHandling.parseArgs rawCommand)))
        verb outcome →
      Steps env server (.line fd rawCommand) (outcome.commit fd
        (server.modifyClient fd (Client.setArgs (CommandHandling.parseArgs rawCommand))))
  | left {fd : Int} {client : Client} : server.clients.find? fd = some client →
      client.userUuid = [] ∨ server.db.findUser client.userUuid = none →
      Steps env server (.disconnect fd) { server with clients := server.clients.erase fd }
  | leftUser {fd : Int} {client : Client} {user : User} : server.clients.find? fd = some client →
      client.userUuid ≠ [] → server.db.findUser client.userUuid = some user →
      user.decrementConnection.isConnected = true →
      Steps env server (.disconnect fd)
        { server with
          clients := server.clients.erase fd
          db := server.db.modifyUser client.userUuid User.decrementConnection }
  | leftLast {fd : Int} {client : Client} {user : User} : server.clients.find? fd = some client →
      client.userUuid ≠ [] → server.db.findUser client.userUuid = some user →
      user.decrementConnection.isConnected = false →
      Steps env server (.disconnect fd) (Server.deliver (.toAll (Frame.eventLoggedOut user))
        { server with
          clients := server.clients.erase fd
          db := server.db.modifyUser client.userUuid User.decrementConnection })
  | restarted : Steps env server .restart
      { server with
        clients := SortedMap.empty
        db := server.db.reloaded (reloadTime env.fp) }

section Steps

variable (env : Env) (server : Server)

/-- A restart keeps the database, with every connection count at zero and every timestamp as a
`double` holds it. -/
theorem restart_eq : server.restart env =
    { server with
      clients := SortedMap.empty
      db := server.db.reloaded (reloadTime env.fp) } := by
  rw [Server.restart, load_save env.fp server.db {} le_rfl]
  rfl

theorem steps_modifyClient (event : Event) (fd : Int) {f : Client → Client} (quiet : Quiet f) :
    Steps env server event (server.modifyClient fd f) :=
  .quiet event (quiet_at quiet fd)

/-- A step that leaves the server as it is. -/
theorem steps_idle (event : Event) : Steps env server event server := by
  have same : server.modifyClients (fun _ => id) = server := by
    unfold Server.modifyClients
    congr 1
    refine SortedMap.ext_entries ?_
    simp [SortedMap.mapWithKey]
  have quiet : Steps env server event (server.modifyClients fun _ => id) :=
    .quiet event fun _ => quiet_id
  rwa [same] at quiet

theorem line_steps (fd : Int) (rawCommand : Bytes) :
    Steps env server (.line fd rawCommand) (CommandHandling.handleCommand env rawCommand fd server) := by
  cases found : server.clients.find? fd with
  | none =>
    rw [handleCommand_of_none env rawCommand found]
    exact steps_idle env server _
  | some client =>
    rcases handleCommand_serves env rawCommand found with
      ⟨-, still⟩ | ⟨name, rest, parsed, ⟨-, stored⟩ | ⟨verb, named, outcome, serves, committed⟩⟩
    · rw [still]
      exact steps_idle env server _
    · rw [stored]
      exact steps_modifyClient env server _ fd (quiet_setArgs _)
    · rw [committed, ← parsed]
      rw [← parsed] at serves
      exact .served found (by rw [parsed, List.head?_cons, named]) serves

theorem disconnect_steps (fd : Int) : Steps env server (.disconnect fd) (server.disconnectClient fd) := by
  unfold Server.disconnectClient
  cases found : server.clients.find? fd with
  | none => exact steps_idle env server _
  | some client =>
    by_cases session : client.userUuid = []
    · simp only [if_pos session]
      exact .left found (Or.inl session)
    simp only [if_neg session]
    cases present : server.db.findUser client.userUuid with
    | none => exact .left found (Or.inr present)
    | some user =>
      cases connected : user.decrementConnection.isConnected with
      | true =>
        simp only [connected, if_true]
        exact .leftUser found session present connected
      | false =>
        simp only [connected, Bool.false_eq_true, if_false]
        rw [Server.broadcast_eq]
        exact .leftLast found session present connected

/-- **Every step is one of these.** -/
theorem step_steps (event : Event) : Steps env server event (server.step env event) := by
  cases event with
  | accept fd =>
    show Steps env server _ (server.acceptClient fd)
    unfold Server.acceptClient SortedMap.emplace
    cases found : server.clients.find? fd with
    | none => exact .accepted found
    | some client => exact steps_idle env server _
  | buffer fd data =>
    exact steps_modifyClient env server _ fd ⟨fun _ => rfl, fun _ => rfl, fun _ => rfl⟩
  | line fd rawCommand => exact line_steps env server fd rawCommand
  | consume fd count =>
    exact steps_modifyClient env server _ fd ⟨fun _ => rfl, fun _ => rfl, fun _ => rfl⟩
  | write fd count =>
    exact steps_modifyClient env server _ fd ⟨fun _ => rfl, fun _ => rfl, fun _ => rfl⟩
  | updateFlags => exact .quiet _ fun _ => ⟨fun _ => rfl, fun _ => rfl, fun _ => rfl⟩
  | disconnect fd => exact disconnect_steps env server fd
  | restart =>
    show Steps env server _ (server.restart env)
    rw [restart_eq]
    exact .restarted

/-! ### What a step appends -/

variable {env server}

theorem appendedTo_modifyClients {f : Int → Client → Client} (quiet : ∀ fd, Quiet (f fd))
    (other : Int) : (server.modifyClients f).appendedTo other = server.appendedTo other := by
  unfold Server.appendedTo Server.modifyClients
  rw [SortedMap.find?_mapWithKey]
  cases server.clients.find? other with
  | none => rfl
  | some client => exact (quiet other).appended client

theorem appendedTo_modifyClient {f : Client → Client} (quiet : Quiet f) (fd other : Int) :
    (server.modifyClient fd f).appendedTo other = server.appendedTo other :=
  appendedTo_modifyClients (quiet_at quiet fd) other

theorem newFrames_quiet {f : Int → Client → Client} (quiet : ∀ fd, Quiet (f fd)) (other : Int) :
    server.newFrames other (server.modifyClients f) = [] := by
  rw [Server.newFrames, appendedTo_modifyClients quiet, List.drop_length]

theorem appendedTo_of_found {fd : Int} {client : Client}
    (found : server.clients.find? fd = some client) : server.appendedTo fd = client.appended := by
  unfold Server.appendedTo
  rw [found]
  rfl

/-- A client with the new arguments of a line has its session and its messages still. -/
theorem exists_setArgs (fd : Int) (args : List Bytes) {other : Int} {holder : Client}
    (present : server.clients.find? other = some holder) :
    ∃ stored, (server.modifyClient fd (Client.setArgs args)).clients.find? other = some stored ∧
      stored.userUuid = holder.userUuid ∧ stored.appended = holder.appended ∧
      stored.writeBuffer = holder.writeBuffer := by
  rw [Server.modifyClient, SortedMap.find?_modify]
  split_ifs with same
  · rw [← same, present]
    exact ⟨_, rfl, rfl, rfl, rfl⟩
  · exact ⟨holder, present, rfl, rfl, rfl⟩

/-- **A line appends the letters of its command**, for the requester and for the other sessions. -/
theorem newFrames_letters {fd other : Int} {client holder : Client} (outcome : Outcome)
    (args : List Bytes) (found : server.clients.find? fd = some client)
    (present : server.clients.find? other = some holder) :
    server.newFrames other (outcome.commit fd (server.modifyClient fd (Client.setArgs args)))
      = outcome.letters other (if other = fd then outcome.userUuid else holder.userUuid) := by
  obtain ⟨stored, here, session, -⟩ := exists_setArgs fd args present
  have letters := newFrames_commit outcome (find?_setArgs found args) other here
  rw [session] at letters
  rw [← letters]
  unfold Server.newFrames
  rw [appendedTo_modifyClient (quiet_setArgs _)]

theorem newFrames_served {fd : Int} {client : Client} {outcome : Outcome} {args : List Bytes}
    (found : server.clients.find? fd = some client) :
    server.newFrames fd (outcome.commit fd (server.modifyClient fd (Client.setArgs args)))
      = outcome.letters fd outcome.userUuid := by
  rw [newFrames_letters outcome args found found, if_pos rfl]

/-- A line that is only answered appends the answer. -/
theorem newFrames_answered {fd : Int} {client : Client} (args : List Bytes) (frames : List Frame)
    (found : server.clients.find? fd = some client) :
    server.newFrames fd
      ((server.modifyClient fd (Client.setArgs args)).sendAllToClient frames fd) = frames := by
  rw [← Outcome.commit_answer (find?_setArgs found args), newFrames_served found]
  exact Letters.toClient_self fd frames client.userUuid

/-- **A line writes what it appends**: the bytes of the new messages come behind what is still in the
write buffer. -/
theorem line_writes (env : Env) (rawCommand : Bytes) (fd : Int) {other : Int} {holder : Client}
    (present : server.clients.find? other = some holder) :
    ∃ after, (CommandHandling.handleCommand env rawCommand fd server).clients.find? other = some after ∧
      after.writeBuffer = holder.writeBuffer
        ++ (server.newFrames other (CommandHandling.handleCommand env rawCommand fd server)).flatMap
          Frame.render := by
  unfold Server.newFrames Server.appendedTo
  have idle : ∀ stored : Client, stored.appended = holder.appended →
      stored.writeBuffer = holder.writeBuffer → stored.writeBuffer = holder.writeBuffer
        ++ (stored.appended.drop holder.appended.length).flatMap Frame.render := by
    intro stored appended same
    rw [appended, same, List.drop_length, List.flatMap_nil, List.append_nil]
  cases found : server.clients.find? fd with
  | none =>
    rw [handleCommand_of_none env rawCommand found, present]
    exact ⟨holder, rfl, idle holder rfl rfl⟩
  | some client =>
    rcases handleCommand_serves env rawCommand found with
      ⟨-, still⟩ | ⟨name, rest, -, ⟨-, stored⟩ | ⟨verb, -, outcome, -, committed⟩⟩
    · rw [still, present]
      exact ⟨holder, rfl, idle holder rfl rfl⟩
    · obtain ⟨after, here, -, appended, same⟩ := exists_setArgs fd (name :: rest) present
      rw [stored, here, present]
      exact ⟨after, rfl, idle after appended same⟩
    · obtain ⟨before, here, -, appended, same⟩ := exists_setArgs fd (name :: rest) present
      have received : ∃ letters user context, (outcome.commit fd
          (server.modifyClient fd (Client.setArgs (name :: rest)))).clients.find? other
            = some (({ before with userUuid := user, context := context } : Client).receive letters) := by
        by_cases requester : other = fd
        · subst requester
          exact ⟨_, _, _, outcome.find?_commit_self here⟩
        · refine ⟨outcome.letters other before.userUuid, before.userUuid, before.context, ?_⟩
          rw [outcome.find?_commit_of_ne requester, here]
          rfl
      obtain ⟨letters, user, context, after⟩ := received
      rw [committed, after, present]
      refine ⟨_, rfl, ?_⟩
      show before.writeBuffer ++ letters.flatMap Frame.render = _
      simp [Client.receive, appended, same]

/-! The clients that are there after a step. -/

/-- The clients that are left after one was erased. -/
theorem appended_erase {fd other : Int} {holder : Client}
    (present : (server.clients.erase fd).find? other = some holder) :
    holder.appended = server.appendedTo other := by
  rw [SortedMap.find?_erase] at present
  split_ifs at present
  exact (appendedTo_of_found present).symm

/-- An accepted client and the others. -/
theorem appended_insert {fd other : Int} {holder : Client} (missing : server.clients.find? fd = none)
    (present : (server.clients.insert fd { fd := fd }).find? other = some holder) :
    holder.appended = server.appendedTo other := by
  rw [SortedMap.find?_insert] at present
  split_ifs at present with same
  · cases present
    unfold Server.appendedTo
    rw [same, missing]
    rfl
  · exact (appendedTo_of_found present).symm

/-- A notice to everybody who is left after a client was erased. -/
theorem appended_erase_notice {fd other : Int} {holder : Client} {notice : Frame} {db : Database}
    (present : (Server.deliver (.toAll notice)
      { server with clients := server.clients.erase fd, db := db }).clients.find? other = some holder) :
    holder.appended = server.appendedTo other ++ [notice] := by
  rw [Server.find?_deliver] at present
  obtain ⟨before, stored, rfl⟩ := Option.map_eq_some_iff.mp present
  exact congrArg (· ++ [notice]) (appended_erase stored)

/-- **What a command appends**, for the session that a client has after it. -/
theorem appended_commit {fd other : Int} {client holder : Client} (outcome : Outcome) (args : List Bytes)
    (found : server.clients.find? fd = some client)
    (present : (outcome.commit fd (server.modifyClient fd (Client.setArgs args))).clients.find? other
      = some holder) :
    holder.appended = server.appendedTo other ++ outcome.letters other holder.userUuid := by
  by_cases requester : other = fd
  · subst requester
    rw [outcome.find?_commit_self (find?_setArgs found args)] at present
    cases present
    rw [appendedTo_of_found found]
    rfl
  · rw [outcome.find?_commit_of_ne requester, Server.modifyClient,
      SortedMap.find?_modify_of_ne requester] at present
    obtain ⟨before, stored, rfl⟩ := Option.map_eq_some_iff.mp present
    rw [appendedTo_of_found stored]
    rfl

/-- What a step says to the clients that are there after it: the letters of a command, that a user is
gone, or nothing. -/
inductive Says (env : Env) (server : Server) : Event → Server → Letters → Prop
  | nothing (event : Event) (after : Server) : Says env server event after fun _ _ => []
  | command {fd : Int} {rawCommand : Bytes} {client : Client} {verb : Verb} {outcome : Outcome} :
      server.clients.find? fd = some client →
      (CommandHandling.parseArgs rawCommand).head? = some verb.text →
      Serves env fd (client.setArgs (CommandHandling.parseArgs rawCommand))
        (server.modifyClient fd (Client.setArgs (CommandHandling.parseArgs rawCommand)))
        verb outcome →
      Says env server (.line fd rawCommand) (outcome.commit fd
        (server.modifyClient fd (Client.setArgs (CommandHandling.parseArgs rawCommand)))) outcome.letters
  | gone {fd : Int} {client : Client} {user : User} (after : Server) :
      server.clients.find? fd = some client → server.db.findUser client.userUuid = some user →
      Says env server (.disconnect fd) after (.toAll (Frame.eventLoggedOut user))

/-- **What a step appends**, for the session that a client has after it. -/
theorem step_says {event : Event} {after : Server} (steps : Steps env server event after) :
    ∃ letters, Says env server event after letters ∧
      ∀ other holder, after.clients.find? other = some holder →
        holder.appended = server.appendedTo other ++ letters other holder.userUuid := by
  have silent : ∀ {event : Event} {after : Server}, (∀ other holder,
      after.clients.find? other = some holder → holder.appended = server.appendedTo other) →
      ∃ letters, Says env server event after letters ∧
        ∀ other holder, after.clients.find? other = some holder →
          holder.appended = server.appendedTo other ++ letters other holder.userUuid :=
    fun same => ⟨_, .nothing _ _, fun other holder present => by
      rw [same other holder present, List.append_nil]⟩
  cases steps with
  | quiet _ quiet =>
    refine silent fun other holder present => ?_
    rw [← appendedTo_of_found present, appendedTo_modifyClients quiet]
  | accepted missing => exact silent fun _ _ present => appended_insert missing present
  | @served fd rawCommand client verb outcome found named serves =>
    exact ⟨outcome.letters, .command found named serves, fun _ _ present =>
      appended_commit outcome _ found present⟩
  | left | leftUser => exact silent fun _ _ present => appended_erase present
  | @leftLast fd client user found _ present =>
    exact ⟨_, .gone _ found present, fun _ _ there => appended_erase_notice there⟩
  | restarted => exact silent fun _ _ present => by cases present

/-- A client that is there after a command was there before it. -/
theorem exists_before_commit {fd other : Int} {client holder : Client} {args : List Bytes}
    (outcome : Outcome) (found : server.clients.find? fd = some client)
    (present : (outcome.commit fd (server.modifyClient fd (Client.setArgs args))).clients.find? other
      = some holder) :
    ∃ before, server.clients.find? other = some before ∧
      holder.userUuid = if other = fd then outcome.userUuid else before.userUuid := by
  by_cases requester : other = fd
  · subst requester
    rw [outcome.find?_commit_self (find?_setArgs found args)] at present
    cases present
    exact ⟨client, found, (if_pos rfl).symm⟩
  · rw [outcome.find?_commit_of_ne requester, Server.modifyClient,
      SortedMap.find?_modify_of_ne requester] at present
    obtain ⟨before, stored, rfl⟩ := Option.map_eq_some_iff.mp present
    exact ⟨before, stored, (if_neg requester).symm⟩

theorem mem_of_newFrames {after : Server} {other : Int} {frames : List Frame}
    (appended : ∀ holder, after.clients.find? other = some holder →
      holder.appended = server.appendedTo other ++ frames)
    {frame : Frame} (member : frame ∈ server.newFrames other after) : frame ∈ frames := by
  unfold Server.newFrames at member
  cases present : after.clients.find? other with
  | none =>
    unfold Server.appendedTo at member
    rw [present, Option.map_none, Option.getD_none, List.drop_nil] at member
    cases member
  | some holder =>
    rwa [appendedTo_of_found present, appended holder present, List.drop_left] at member

/-- **A message that a step appends** was a letter of a command, or says that a user is gone. -/
theorem step_newFrames {event : Event} {after : Server} (steps : Steps env server event after)
    {other : Int} {frame : Frame} (member : frame ∈ server.newFrames other after) :
    (∃ fd rawCommand client holder verb outcome, event = .line fd rawCommand ∧
      server.clients.find? fd = some client ∧ server.clients.find? other = some holder ∧
      (CommandHandling.parseArgs rawCommand).head? = some (Verb.text verb) ∧
      Serves env fd (client.setArgs (CommandHandling.parseArgs rawCommand))
        (server.modifyClient fd (Client.setArgs (CommandHandling.parseArgs rawCommand)))
        verb outcome ∧
      after = outcome.commit fd
        (server.modifyClient fd (Client.setArgs (CommandHandling.parseArgs rawCommand))) ∧
      frame ∈ outcome.letters other (if other = fd then outcome.userUuid else holder.userUuid)) ∨
    ∃ fd client user, event = .disconnect fd ∧ server.clients.find? fd = some client ∧
      server.db.findUser client.userUuid = some user ∧ frame = Frame.eventLoggedOut user := by
  obtain ⟨letters, said, appended⟩ := step_says steps
  cases present : after.clients.find? other with
  | none =>
    refine absurd (mem_of_newFrames (fun holder here => ?_) member) List.not_mem_nil
    rw [present] at here
    cases here
  | some holder =>
    have letter : frame ∈ letters other holder.userUuid := by
      refine mem_of_newFrames (fun stored here => ?_) member
      rw [present] at here
      cases here
      exact appended other holder present
    cases said with
    | nothing => exact absurd letter List.not_mem_nil
    | @command fd rawCommand client verb outcome found named serves =>
      obtain ⟨before, stored, user⟩ := exists_before_commit outcome found present
      rw [user] at letter
      exact Or.inl ⟨fd, rawCommand, client, before, verb, outcome, rfl, found, stored, named, serves, rfl,
        letter⟩
    | gone _ found signedIn =>
      exact Or.inr ⟨_, _, _, rfl, found, signedIn, List.mem_singleton.mp letter⟩

end Steps

end MyTeams
