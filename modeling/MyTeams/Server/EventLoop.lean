/-
**The event loop and the system calls.**

`Server::run` waits for events and processes them one after the other. The operating system is a
parameter: it reports batches of events and answers every call with a value or an `errno`
(`Answers`). The wrappers of `sys::Posix` turn most errors into an exception, which leaves `run` and
is caught in `main`; a write to a connection that the other side has closed raises `SIGPIPE`.

The loop also keeps what the sockets have taken (`Loop.accepted`), by what `::write` answers, whatever
the server does with this answer.

* `Sending` — the machine of `Server.handle` with what the sockets take: a `write` input takes its bytes
  and drops them;
* `looping_sends` — the loop runs this machine: the count of each `write` input is the one that `::write`
  answered;
* `looping_runs` — so what the loop does to the server is a run of inputs.
-/

import MyTeams.Server.Machine

namespace MyTeams

open Transition FirstMatch

/-! ### `sys/Posix.cpp`, `sys/Errors.cpp` -/

/-- The values of `errno` that matter here, and all others. -/
inductive Errno
  | again | wouldBlock | interrupted | connectionReset | connectionAborted | brokenPipe
  | other (code : Nat)
deriving DecidableEq

inductive Syscall
  | accept | fcntl | read | write | poll | close
deriving DecidableEq

/-- What ends a call without a return value. -/
inductive Fault
  /-- `throwSystemError` -/
  | systemError (errno : Errno) (syscall : Syscall)
  /-- `SIGPIPE`, for which the server installs no handler. -/
  | sigPipe
deriving DecidableEq

/-- `errno == EAGAIN || errno == EWOULDBLOCK` -/
def Errno.isWouldBlock (errno : Errno) : Bool := errno = .again || errno = .wouldBlock

namespace Posix

/-- The wrappers that throw on every error. -/
def orThrow {α : Type} (syscall : Syscall) : Except Errno α → Except Fault α
  | .ok value => .ok value
  | .error errno => .error (.systemError errno syscall)

/-- `Posix::accept` -/
def accept : Except Errno Int → Except Fault Int := orThrow .accept

/-- `Posix::setNonBlocking`, with the answers to `F_GETFL` and `F_SETFL`. -/
def setNonBlocking (getFlags setFlags : Except Errno Unit) : Except Fault Unit :=
  match orThrow .fcntl getFlags with
  | .error fault => .error fault
  | .ok _ => orThrow .fcntl setFlags

/-- `Posix::read`: `none` stands for the returned -1. -/
def read : Except Errno Bytes → Except Fault (Option Bytes)
  | .ok data => .ok (some data)
  | .error errno => if errno.isWouldBlock then .ok none else .error (.systemError errno .read)

/-- `Posix::write`. The signal comes before the call returns. -/
def write : Except Errno Nat → Except Fault Nat
  | .ok count => .ok count
  | .error errno =>
    if errno.isWouldBlock then .ok 0
    else if errno = .brokenPipe then .error .sigPipe
    else .error (.systemError errno .write)

/-- `Posix::close` -/
def close : Except Errno Unit → Except Fault Unit := orThrow .close

/-- `Posix::poll`, with the answers to the calls until the deadline. An interrupted call is
repeated; after the deadline there are no events. -/
def poll {α : Type} : List (Except Errno (List α)) → Except Fault (List α)
  | [] => .ok []
  | .error .interrupted :: answers => poll answers
  | answer :: _ => orThrow .poll answer

end Posix

/-! ### `net/Poller.cpp` -/

/-- `PollEvent`, with the bits of `revents` that are tested. -/
structure PollEvent where
  fd : Int
  pollIn : Bool := false
  pollOut : Bool := false
  pollHup : Bool := false
  pollErr : Bool := false

/-- `struct pollfd`, with the watched bits. -/
structure Watched where
  fd : Int
  pollOut : Bool := false
deriving DecidableEq

/-- `Poller::updateWatchedEvents`, always with `POLLIN`. -/
def updateWatchedEvents (fd : Int) (pollOut : Bool) (fds : List Watched) : List Watched :=
  modifyFirst (·.fd = fd) (fun entry => { entry with pollOut := pollOut }) fds

/-- `Poller::removeFileDescriptor` -/
def removeFileDescriptor (fd : Int) (fds : List Watched) : List Watched := fds.eraseP (·.fd = fd)

/-! ### `Server::run` -/

/-- The answers to the calls that are made while one event is processed. -/
structure Answers where
  accept : Except Errno Int := .error .again
  getFlags : Except Errno Unit := .ok ()
  setFlags : Except Errno Unit := .ok ()
  /-- The received bytes; none at the end of the stream. -/
  read : Except Errno Bytes := .error .again
  write : Except Errno Nat := .error .again
  close : Except Errno Unit := .ok ()

/-- What `::write` takes of the bytes that it is given. -/
def Answers.taken (data : Bytes) (answers : Answers) : Bytes :=
  match answers.write with
  | .ok count => data.take count
  | .error _ => []

/-- The server and the poller of `run`. -/
structure Loop where
  server : Server
  serverFd : Int
  fds : List Watched
  /-- For each descriptor, what the socket of its connection has taken; read by proofs only. -/
  accepted : Int → Bytes := fun _ => []

namespace Loop

/-- What the sockets have taken behind `::accept`: the new one nothing. -/
def opened (clientFd : Int) (loop : Loop) : Int → Bytes :=
  if loop.server.clients.find? clientFd = none then Function.update loop.accepted clientFd []
  else loop.accepted

/-- `Server::_acceptClient` -/
def acceptClient (answers : Answers) (loop : Loop) : Except Fault Loop :=
  match Posix.accept answers.accept with
  | .error fault => .error fault
  | .ok clientFd =>
    match Posix.setNonBlocking answers.getFlags answers.setFlags with
    | .error fault => .error fault
    | .ok _ =>
      .ok { loop with
        server := loop.server.acceptClient clientFd
        fds := loop.fds ++ [{ fd := clientFd }]
        accepted := loop.opened clientFd }

/-- `Server::_handleRead`: at the end of the stream the descriptor of the client becomes -1. -/
def handleRead (env : Env) (fd : Int) (answers : Answers) (loop : Loop) : Except Fault Loop :=
  match Posix.read answers.read with
  | .error fault => .error fault
  | .ok none => .ok loop
  | .ok (some []) =>
    .ok { loop with server := loop.server.modifyClient fd fun client => { client with fd := -1 } }
  | .ok (some data) => .ok { loop with server := loop.server.handleRead env fd data }

/-- `Server::_handleWrite` -/
def handleWrite (fd : Int) (answers : Answers) (loop : Loop) : Except Fault Loop :=
  match loop.server.clients.find? fd with
  | none => .ok loop
  | some client =>
    if client.writeBuffer = [] then .ok loop
    else
      match Posix.write answers.write with
      | .error fault => .error fault
      | .ok bytesWritten =>
        .ok { loop with
          server := loop.server.consumeFromWriteBuffer fd bytesWritten
          accepted := Function.update loop.accepted fd
            (loop.accepted fd ++ answers.taken client.writeBuffer) }

/-- `Server::_disconnectClient`. When `close` throws, the client is not yet erased; nobody sees it. -/
def disconnectClient (clientFd : Int) (answers : Answers) (loop : Loop) : Except Fault Loop :=
  match Posix.close answers.close with
  | .error fault => .error fault
  | .ok _ =>
    .ok { loop with
      server := loop.server.disconnectClient clientFd
      fds := removeFileDescriptor clientFd loop.fds }

/-- The client behind a descriptor was marked at the end of its stream. -/
def isMarked (fd : Int) (loop : Loop) : Bool :=
  (loop.server.clients.find? fd).any fun client => client.fd = -1

/-- `Server::_processClientEvent` -/
def processClientEvent (env : Env) (event : PollEvent) (answers : Answers) (loop : Loop) :
    Except Fault Loop :=
  if event.pollHup || event.pollErr then loop.disconnectClient event.fd answers
  else
    match if event.pollIn then loop.handleRead env event.fd answers else .ok loop with
    | .error fault => .error fault
    | .ok loop =>
      if event.pollIn && loop.isMarked event.fd then loop.disconnectClient event.fd answers
      else if event.pollOut then loop.handleWrite event.fd answers
      else .ok loop

/-- `Server::_processEvent` -/
def processEvent (env : Env) (loop : Loop) (event : PollEvent × Answers) : Except Fault Loop :=
  if event.1.fd = loop.serverFd then
    if event.1.pollIn then loop.acceptClient event.2 else .ok loop
  else
    match loop.server.clients.find? event.1.fd with
    | none => .ok loop
    | some _ => loop.processClientEvent env event.1 event.2

/-- The inner loop of `Server::run`. -/
def processBatch (env : Env) : Loop → List (PollEvent × Answers) → Except Fault Loop
  | loop, [] => .ok loop
  | loop, event :: rest =>
    match loop.processEvent env event with
    | .error fault => .error fault
    | .ok loop => processBatch env loop rest

/-- `Server::_updatePollFlags` -/
def updatePollFlags (loop : Loop) : Loop :=
  { loop with
    server := loop.server.updatePollFlags
    fds := loop.server.clients.entries.foldl (fun fds entry =>
      if (!entry.2.writeBuffer.isEmpty) = entry.2.pollOutEnabled then fds
      else updateWatchedEvents entry.1 (!entry.2.writeBuffer.isEmpty) fds) loop.fds }

end Loop

/-- What the test of `_running` or the wait of the loop finds. -/
inductive Round
  /-- `SIGINT` or `SIGTERM` has cleared `_running`. -/
  | stop
  /-- The answers of `poll`: the events, with the answers to the calls that they lead to. -/
  | wait (ready : List (Except Errno (List (PollEvent × Answers))))

/-- The process during and after `Server::run`. -/
inductive Process
  | looping (loop : Loop)
  /-- `run` has returned; what `SaveManager::save` wrote. -/
  | returned (loop : Loop) (saved : Bytes)
  /-- An exception has left `run`. `main` prints the usage and returns `EXIT_ERROR`. -/
  | thrown (errno : Errno) (syscall : Syscall)
  /-- The default action of `SIGPIPE`. -/
  | killed

/-- One turn of the outer loop of `Server::run`. -/
def Process.round (env : Env) : Process → Round → Process
  | .looping loop, .stop => .returned loop (SaveManager.save loop.server.db)
  | .looping loop, .wait ready =>
    match Posix.poll ready with
    | .error (.systemError errno syscall) => .thrown errno syscall
    | .error .sigPipe => .killed
    | .ok events =>
      match loop.updatePollFlags.processBatch env events with
      | .ok loop => .looping loop
      | .error (.systemError errno syscall) => .thrown errno syscall
      | .error .sigPipe => .killed
  | ended, _ => ended

/-! ### The server and the sockets -/

/-- A server, and for each descriptor what the socket of its connection has taken so far. -/
structure Sending where
  server : Server := {}
  accepted : Int → Bytes := fun _ => []

namespace Sending

/-- What the sockets have taken after one step. A new connection has a new stream; a socket takes the bytes
that leave the write buffer. -/
def nextAccepted (sending : Sending) : Event → Int → Bytes
  | .accept fd =>
    if sending.server.clients.find? fd = none then Function.update sending.accepted fd []
    else sending.accepted
  | .write fd count =>
    match sending.server.clients.find? fd with
    | none => sending.accepted
    | some client =>
      Function.update sending.accepted fd (sending.accepted fd ++ client.writeBuffer.take count)
  | _ => sending.accepted

/-- One step of the server and of the sockets. -/
def step (env : Env) (sending : Sending) (event : Event) : Sending where
  server := sending.server.step env event
  accepted := sending.nextAccepted event

/-- What the server and the sockets do with an input. -/
def handle (env : Env) (sending : Sending) (input : Input) : Sending :=
  run (step env) sending (input.events sending.server)

/-- The sockets only watch. -/
theorem server_run (env : Env) (sending : Sending) (events : List Event) :
    (run (step env) sending events).server = run (Server.step env) sending.server events := by
  induction events generalizing sending with
  | nil => rfl
  | cons event rest ih => rw [run_cons, run_cons, ih, step]

theorem server_handle (env : Env) (sending : Sending) (input : Input) :
    (sending.handle env input).server = sending.server.handle env input := by
  rw [handle, server_run, handle_eq_run]

theorem server_runHandle (env : Env) (sending : Sending) (inputs : List Input) :
    (run (handle env) sending inputs).server = run (Server.handle env) sending.server inputs := by
  induction inputs generalizing sending with
  | nil => rfl
  | cons input rest ih => rw [run_cons, run_cons, ih, server_handle]

/-- A write takes bytes. -/
theorem handle_write (env : Env) {sending : Sending} {fd : Int} {client : Client} (count : Nat)
    (found : sending.server.clients.find? fd = some client) :
    sending.handle env (.write fd count) =
      ⟨sending.server.consumeFromWriteBuffer fd count,
        Function.update sending.accepted fd (sending.accepted fd ++ client.writeBuffer.take count)⟩ := by
  show (⟨_, sending.nextAccepted (.write fd count)⟩ : Sending) = _
  simp only [nextAccepted, found]
  rfl

/-- An input that neither opens a connection nor writes takes nothing. -/
theorem accepted_run {env : Env} {sending : Sending} {events : List Event}
    (inner : ∀ event ∈ events, ∀ sending : Sending, sending.nextAccepted event = sending.accepted) :
    (run (step env) sending events).accepted = sending.accepted := by
  induction events generalizing sending with
  | nil => rfl
  | cons event rest ih =>
    obtain ⟨first, later⟩ := List.forall_mem_cons.mp inner
    rw [run_cons, ih later]
    exact first sending

/-- A read takes nothing. -/
theorem handle_read (env : Env) (sending : Sending) (fd : Int) (data : Bytes) :
    sending.handle env (.read fd data) = { sending with server := sending.server.handleRead env fd data } := by
  have server := server_handle env sending (.read fd data)
  have accepted : (sending.handle env (.read fd data)).accepted = sending.accepted := by
    apply accepted_run
    intro event member
    rcases List.mem_cons.mp member with rfl | later
    · exact fun _ => rfl
    · split at later
      · cases later
      · rcases List.mem_append.mp later with line | consumed
        · obtain ⟨text, -, rfl⟩ := List.mem_map.mp line
          exact fun _ => rfl
        · rw [List.mem_singleton.mp consumed]
          exact fun _ => rfl
  cases after : sending.handle env (.read fd data) with
  | mk afterServer afterAccepted =>
    rw [after] at server accepted
    cases server
    cases accepted
    rfl

end Sending

/-- The server of the loop and its sockets. -/
def Loop.sending (loop : Loop) : Sending := ⟨loop.server, loop.accepted⟩

/-! ### The loop runs the machine -/

section Inputs

variable {env : Env} {loop after : Loop} {fd : Int} {answers : Answers}

/-- A server that the machine reaches from another. -/
def Runs (env : Env) (server after : Server) : Prop :=
  ∃ inputs, after = run (Server.handle env) server inputs

theorem Runs.refl (server : Server) : Runs env server server := ⟨[], rfl⟩

theorem Runs.single {server : Server} (input : Input) : Runs env server (server.handle env input) :=
  ⟨[input], rfl⟩

theorem Runs.trans {first second third : Server} (early : Runs env first second)
    (late : Runs env second third) : Runs env first third := by
  obtain ⟨before, rfl⟩ := early
  obtain ⟨rest, rfl⟩ := late
  exact ⟨before ++ rest, (run_append _ _ _).symm⟩

/-- A server and sockets that the machine reaches from others. -/
def Sending.Runs (env : Env) (sending after : Sending) : Prop :=
  ∃ inputs, after = run (Sending.handle env) sending inputs

theorem Sending.Runs.refl (sending : Sending) : Sending.Runs env sending sending := ⟨[], rfl⟩

theorem Sending.Runs.single {sending after : Sending} (input : Input) (same : after = sending.handle env input) :
    Sending.Runs env sending after := ⟨[input], same⟩

theorem Sending.Runs.trans {first second third : Sending} (early : Sending.Runs env first second)
    (late : Sending.Runs env second third) : Sending.Runs env first third := by
  obtain ⟨before, rfl⟩ := early
  obtain ⟨rest, rfl⟩ := late
  exact ⟨before ++ rest, (run_append _ _ _).symm⟩

theorem Sending.Runs.server {sending after : Sending} (sends : Sending.Runs env sending after) :
    MyTeams.Runs env sending.server after.server := by
  obtain ⟨inputs, rfl⟩ := sends
  exact ⟨inputs, Sending.server_runHandle env sending inputs⟩

/-- What is marked before a disconnection is lost. -/
theorem disconnectClient_modifyClient {f : Client → Client} (quiet : Quiet f) {server : Server}
    {client : Client} (found : server.clients.find? fd = some client) :
    (server.modifyClient fd f).disconnectClient fd = server.disconnectClient fd := by
  unfold Server.disconnectClient Server.modifyClient
  rw [SortedMap.find?_modify_self, SortedMap.erase_modify, found]
  simp only [Option.map_some, quiet.userUuid]

theorem acceptClient_sends (accepted : loop.acceptClient answers = .ok after) :
    Sending.Runs env loop.sending after.sending := by
  unfold Loop.acceptClient at accepted
  split at accepted
  · cases accepted
  · split at accepted
    · cases accepted
    · cases accepted
      exact .single (.accept _) rfl

theorem disconnectClient_sends (closed : loop.disconnectClient fd answers = .ok after) :
    after.sending = ⟨loop.server.disconnectClient fd, loop.accepted⟩ := by
  unfold Loop.disconnectClient at closed
  split at closed
  · cases closed
  · cases closed
    rfl

/-- The count that `Posix::write` returns is that of the bytes which `::write` has taken. -/
theorem take_of_write {data : Bytes} {count : Nat} (written : Posix.write answers.write = .ok count) :
    answers.taken data = data.take count := by
  unfold Answers.taken
  unfold Posix.write at written
  split at written
  · cases written
    rfl
  · split_ifs at written
    cases written
    rfl

/-- **`_handleWrite` drops what the socket has taken**: the count of the input is the answer of `::write`. -/
theorem handleWrite_sends (written : loop.handleWrite fd answers = .ok after) :
    after.sending = loop.sending ∨ ∃ count, Posix.write answers.write = .ok count ∧
      after.sending = loop.sending.handle env (.write fd count) := by
  unfold Loop.handleWrite at written
  split at written
  · cases written
    exact Or.inl rfl
  · rename_i client found
    split_ifs at written
    · cases written
      exact Or.inl rfl
    · split at written
      · cases written
      · rename_i count answered
        cases written
        refine Or.inr ⟨count, answered, ?_⟩
        rw [Sending.handle_write env count (show loop.sending.server.clients.find? fd = some client from found),
          take_of_write answered]
        rfl

/-- A read gives its bytes to the server, or marks the client. -/
theorem handleRead_sends (received : loop.handleRead env fd answers = .ok after) :
    Sending.Runs env loop.sending after.sending ∨
      after.sending = ⟨loop.server.modifyClient fd (fun client => { client with fd := -1 }), loop.accepted⟩ := by
  unfold Loop.handleRead at received
  split at received
  · cases received
  · cases received
    exact Or.inl (.refl _)
  · cases received
    exact Or.inr rfl
  · cases received
    exact Or.inl (.single (.read fd _) (Sending.handle_read env loop.sending fd _).symm)

/-- An event of a client is a run of inputs. -/
theorem processClientEvent_sends {event : PollEvent} {client : Client}
    (found : loop.server.clients.find? event.fd = some client)
    (processed : loop.processClientEvent env event answers = .ok after) :
    Sending.Runs env loop.sending after.sending := by
  unfold Loop.processClientEvent at processed
  by_cases hangUp : (event.pollHup || event.pollErr) = true
  · rw [if_pos hangUp] at processed
    exact .single (.hangUp event.fd) (disconnectClient_sends processed)
  rw [if_neg hangUp] at processed
  cases received : if event.pollIn then loop.handleRead env event.fd answers else .ok loop with
  | error fault =>
    rw [received] at processed
    cases processed
  | ok between =>
    rw [received] at processed
    have read : Sending.Runs env loop.sending between.sending ∨ (event.pollIn = true ∧ between.sending
        = ⟨loop.server.modifyClient event.fd fun client => { client with fd := -1 }, loop.accepted⟩) := by
      split_ifs at received with ready
      · exact (handleRead_sends received).imp_right fun marked => ⟨ready, marked⟩
      · cases received
        exact Or.inl (.refl _)
    rcases read with sends | ⟨ready, marked⟩
    · refine sends.trans ?_
      simp only at processed
      split_ifs at processed
      · exact .single (.hangUp event.fd) (disconnectClient_sends processed)
      · rcases @handleWrite_sends env _ _ _ _ processed with same | ⟨count, -, written⟩
        · rw [same]
          exact .refl _
        · exact .single (.write event.fd count) written
      · cases processed
        exact .refl _
    · have server : between.server = loop.server.modifyClient event.fd fun client => { client with fd := -1 } :=
        congrArg Sending.server marked
      have accepted : between.accepted = loop.accepted := congrArg Sending.accepted marked
      have isMarked : between.isMarked event.fd = true := by
        rw [Loop.isMarked, server, Server.modifyClient, SortedMap.find?_modify_self, found]
        rfl
      simp only [ready, isMarked, Bool.and_self, if_true] at processed
      have quiet : Quiet fun client : Client => { client with fd := -1 } :=
        ⟨fun _ => rfl, fun _ => rfl, fun _ => rfl⟩
      refine .single (.hangUp event.fd) ?_
      rw [disconnectClient_sends processed, server, accepted, disconnectClient_modifyClient quiet found]
      rfl

theorem processEvent_sends {event : PollEvent × Answers}
    (processed : loop.processEvent env event = .ok after) : Sending.Runs env loop.sending after.sending := by
  unfold Loop.processEvent at processed
  split_ifs at processed
  · exact acceptClient_sends processed
  · cases processed
    exact .refl _
  · cases found : loop.server.clients.find? event.1.fd with
    | none =>
      rw [found] at processed
      cases processed
      exact .refl _
    | some client =>
      rw [found] at processed
      exact processClientEvent_sends found processed

theorem processBatch_sends (events : List (PollEvent × Answers))
    (processed : loop.processBatch env events = .ok after) : Sending.Runs env loop.sending after.sending := by
  induction events generalizing loop with
  | nil =>
    cases processed
    exact .refl _
  | cons event rest ih =>
    unfold Loop.processBatch at processed
    cases first : loop.processEvent env event with
    | error fault =>
      rw [first] at processed
      cases processed
    | ok between =>
      rw [first] at processed
      exact (processEvent_sends first).trans (ih processed)

/-- One turn of a loop that goes on. -/
theorem round_sends {round : Round} (goesOn : Process.round env (.looping loop) round = .looping after) :
    Sending.Runs env loop.sending after.sending := by
  cases round with
  | stop => cases goesOn
  | wait ready =>
    simp only [Process.round] at goesOn
    split at goesOn
    · cases goesOn
    · cases goesOn
    · split at goesOn
      · cases goesOn
        have flags : Sending.Runs env loop.sending loop.updatePollFlags.sending := .single .updateFlags rfl
        exact flags.trans (processBatch_sends _ ‹_›)
      · cases goesOn
      · cases goesOn

/-- The loop that has ended stays where it is. -/
theorem run_round_of_ended {process : Process} (ended : ∀ loop, process ≠ .looping loop)
    (rounds : List Round) : run (Process.round env) process rounds = process := by
  induction rounds with
  | nil => rfl
  | cons round rest ih =>
    have still : process.round env round = process := by
      cases process with
      | looping loop => exact absurd rfl (ended loop)
      | _ => rfl
    rw [run_cons, still, ih]

/-- **The loop runs the machine**: as long as it goes on, the server and the sockets are where a run of inputs leads,
in which every write has the count that `::write` answered. -/
theorem looping_sends (rounds : List Round)
    (goesOn : run (Process.round env) (.looping loop) rounds = .looping after) :
    Sending.Runs env loop.sending after.sending := by
  induction rounds generalizing loop with
  | nil =>
    cases goesOn
    exact .refl _
  | cons round rest ih =>
    rw [run_cons] at goesOn
    cases first : Process.round env (.looping loop) round with
    | looping between =>
      rw [first] at goesOn
      exact (round_sends first).trans (ih goesOn)
    | _ =>
      rw [first, run_round_of_ended (by simp)] at goesOn
      cases goesOn

theorem looping_runs (rounds : List Round)
    (goesOn : run (Process.round env) (.looping loop) rounds = .looping after) :
    Runs env loop.server after.server :=
  (looping_sends rounds goesOn).server

end Inputs

end MyTeams
