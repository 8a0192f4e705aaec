/-
**The event loop of the client and its socket.**

`TcpClient` with its output buffer, and the turns of `ClientApplication::runEventLoop`. The operating
system is a parameter: what `poll` reports, and the answers to the calls that are made while an event is
handled (`ClientAnswers`). An interrupted call is repeated; a call that no answer is left for would block.

`accepted` and `given` record what the socket has taken and what `sendAll` was given; no function reads
them.
-/

import MyTeams.ClientApp.ServerReader
import MyTeams.Server.EventLoop

namespace MyTeams

open Transition

/-! ### `TcpClient.cpp` -/

/-- The output of `TcpClient`. -/
structure TcpClient where
  pendingWrites : Bytes := []
  pendingOffset : Nat := 0
  /-- The bytes that the socket has taken. -/
  accepted : Bytes := []
  /-- The arguments of the calls of `sendAll`. -/
  given : List Bytes := []
deriving DecidableEq

/-- How `TcpClient::flushPendingWrites` ends: it returns `true`, it returns `false`, or `Posix::write`
throws. -/
inductive Flushed
  | blocked
  | drained
  | thrown (errno : Errno)
deriving DecidableEq

namespace TcpClient

/-- `TcpClient::sendAll` -/
def sendAll (data : Bytes) (client : TcpClient) : TcpClient :=
  { client with
    pendingWrites := client.pendingWrites ++ data
    given := client.given ++ [data] }

/-- The bytes that `Posix::write` is offered. -/
def offered (client : TcpClient) : Bytes := client.pendingWrites.drop client.pendingOffset

/-- `Posix::write`, when the socket takes at most `count` bytes, and `_pendingOffset += bytesWritten`. -/
def write (count : Nat) (client : TcpClient) : TcpClient :=
  { client with
    pendingOffset := client.pendingOffset + (client.offered.take count).length
    accepted := client.accepted ++ client.offered.take count }

/-- `TcpClient::hasPendingWrites` -/
def hasPendingWrites (client : TcpClient) : Bool := client.pendingOffset < client.pendingWrites.length

/-- `_pendingWrites.clear(); _pendingOffset = 0;` -/
def clear (client : TcpClient) : TcpClient := { client with pendingWrites := [], pendingOffset := 0 }

/-- `TcpClient::flushPendingWrites`, with the loop of `Posix::write`, for the answers to the calls of
`::write`. -/
def flushPendingWrites : List (Except Errno Nat) → TcpClient → Flushed × TcpClient
  | [], client => if client.hasPendingWrites then (.blocked, client) else (.drained, client.clear)
  | answer :: answers, client =>
    if client.hasPendingWrites then
      match answer with
      | .ok count =>
        if (client.offered.take count).length = 0 then (.blocked, client)
        else flushPendingWrites answers (client.write count)
      | .error errno =>
        if errno = .interrupted then flushPendingWrites answers client
        else if errno.isWouldBlock then (.blocked, client)
        else (.thrown errno, client)
    else (.drained, client.clear)

end TcpClient

/-! ### `Posix::read` -/

/-- `Posix::read` of the client: `none` stands for the returned -1. -/
def readSome : List (Except Errno Bytes) → Except Errno (Option Bytes)
  | [] => .ok none
  | .ok data :: _ => .ok (some data)
  | .error errno :: answers =>
    if errno = .interrupted then readSome answers
    else if errno.isWouldBlock then .ok none
    else .error errno

/-! ### `ClientApplication.cpp` -/

/-- `STDIN_FILENO` -/
def stdinFileno : Int := 0

/-- A `PollEvent` of the client; `hangUp` is `POLLERR | POLLHUP | POLLNVAL`. -/
structure ClientEvent where
  fd : Int
  pollIn : Bool := false
  pollOut : Bool := false
  hangUp : Bool := false

/-- The answers to the calls that are made while one event is handled. -/
structure ClientAnswers where
  /-- `std::getline`: a line, or nothing at the end of the input. -/
  line : Option Bytes := none
  reads : List (Except Errno Bytes) := []
  writes : List (Except Errno Nat) := []

/-- `running` in `runEventLoop`, or an exception that has left it. -/
inductive ClientPhase
  | running
  | left
  | thrown
deriving DecidableEq

/-- `ClientApplication` while `runEventLoop` is on. -/
structure ClientLoop where
  client : TcpClient := {}
  socketFd : Int
  fds : List Watched
  /-- `_messageRouter` and `_serverReadBuffer` -/
  reader : ServerReader := {}
  phase : ClientPhase := .running

namespace ClientLoop

/-- `ClientApplication::run` up to the event loop, on the socket that `connectTo` has opened. -/
def start (socketFd : Int) : ClientLoop where
  socketFd := socketFd
  fds := [{ fd := stdinFileno }, { fd := socketFd }]

/-- `ClientApplication::updateServerWatchedEvents` -/
def updateServerWatchedEvents (loop : ClientLoop) : ClientLoop :=
  { loop with fds := updateWatchedEvents loop.socketFd loop.client.hasPendingWrites loop.fds }

/-- `TcpClient::flushPendingWrites` on the client; an exception leaves the loop. -/
def flush (writes : List (Except Errno Nat)) (loop : ClientLoop) : ClientLoop :=
  match loop.client.flushPendingWrites writes with
  | (.thrown _, client) => { loop with client := client, phase := .thrown }
  | (_, client) => { loop with client := client }

/-- What comes next, unless an exception was thrown or the loop is left. -/
def andThen (next : ClientLoop → ClientLoop) (loop : ClientLoop) : ClientLoop :=
  if loop.phase = .running then next loop else loop

/-- `ClientApplication::sendCommandFrame` -/
def sendCommandFrame (frame : Bytes) (writes : List (Except Errno Nat)) (loop : ClientLoop) :
    ClientLoop :=
  { loop with client := loop.client.sendAll (ClientApplication.wireFrame frame) }
    |>.flush writes
    |>.andThen updateServerWatchedEvents

/-- `ClientApplication::dispatchCommandLine` -/
def dispatchCommandLine (line : Bytes) (writes : List (Except Errno Nat)) (loop : ClientLoop) :
    ClientLoop :=
  let router := loop.reader.router
  match ClientApplication.dispatchCommandLine line with
  | .nothing => loop
  | .printed text =>
    { loop with
      reader := { loop.reader with router := { router with output := router.output ++ [.stdout text] } } }
  | .sent command frame =>
    { loop with reader := { loop.reader with router := router.setPendingCommand command } }
      |>.sendCommandFrame frame writes

/-- `ClientApplication::handleStdinEvent` -/
def handleStdinEvent (event : ClientEvent) (answers : ClientAnswers) (loop : ClientLoop) : ClientLoop :=
  if event.hangUp then { loop with phase := .left }
  else if !event.pollIn then loop
  else
    match answers.line with
    | none => { loop with fds := removeFileDescriptor stdinFileno loop.fds }
    | some line => loop.dispatchCommandLine (StdinLoop.popReturn line) answers.writes

/-- `ClientApplication::handleServerReadable`. The loop over the frames always ends, with one of the
three outcomes. -/
def handleServerReadable (reads : List (Except Errno Bytes)) (loop : ClientLoop) : ClientLoop :=
  match readSome reads with
  | .error _ => { loop with phase := .thrown }
  | .ok none => loop
  | .ok (some []) => { loop with phase := .left }
  | .ok (some data) =>
    match loop.reader.handleServerReadable data with
    | none => loop
    | some (.running, reader) => { loop with reader := reader }
    | some (.disconnected, reader) => { loop with reader := reader, phase := .left }
    | some (.oversized, reader) => { loop with reader := reader, phase := .thrown }

/-- `ClientApplication::handleServerEvent` -/
def handleServerEvent (event : ClientEvent) (answers : ClientAnswers) (loop : ClientLoop) : ClientLoop :=
  if event.hangUp then { loop with phase := .left }
  else
    (if event.pollOut then loop.flush answers.writes else loop)
      |>.andThen (fun loop => if event.pollIn then loop.handleServerReadable answers.reads else loop)
      |>.andThen updateServerWatchedEvents

/-- The body of the loop over the events of a batch. -/
def handleEvent (loop : ClientLoop) (event : ClientEvent × ClientAnswers) : ClientLoop :=
  loop.andThen fun loop =>
    if event.1.fd = stdinFileno then loop.handleStdinEvent event.1 event.2
    else if event.1.fd = loop.socketFd then loop.handleServerEvent event.1 event.2
    else loop

/-- One turn of `ClientApplication::runEventLoop`, from one wait to the next. -/
def turn (loop : ClientLoop) (events : List (ClientEvent × ClientAnswers)) : ClientLoop :=
  run handleEvent loop events

/-- `POLLOUT` is watched for the socket. -/
def watchesOutput (loop : ClientLoop) : Prop := { fd := loop.socketFd, pollOut := true } ∈ loop.fds

instance (loop : ClientLoop) : Decidable loop.watchesOutput :=
  inferInstanceAs (Decidable (_ ∈ loop.fds))

end ClientLoop

end MyTeams
