/-
**The bytes between a client and the server.**

`Wire` has the event loop of a client, the server, and the bytes on their way: what one socket has taken
and the other side has not read. The two programs take turns in any order. Each of them reads any part of
what has arrived and writes any part of what it has to write, as often as it likes; the other connections
of the server may do anything. The network keeps the bytes that a socket has taken, and their order, and
the server has not closed the connection.

A write of the server is an input with the count of the bytes that the socket takes. `Server::_handleWrite`
makes this input, with the count that `::write` answers (`Loop.handleWrite_sends`).

`Link` speaks of whole frames and messages. `Wire.linkEvents` are the steps of a `Link` for a step of a
`Wire`: a line that is typed, a frame for each line of the connection that the server handles, a message
for each line that the client routes.
-/

import MyTeams.ClientApp.EventLoop
import MyTeams.ClientApp.Link
import MyTeams.Server.ReadBuffer

namespace MyTeams

/-! ### One event of the client -/

/-- The bytes that `Posix::read` gets. -/
def bytesRead (reads : List (Except Errno Bytes)) : Bytes :=
  match readSome reads with
  | .ok (some data) => data
  | _ => []

namespace ClientLoop

/-- The event loop hands the event to the function for the standard input, or for the socket. -/
def handles (event : ClientEvent) (fd : Int) (loop : ClientLoop) : Bool :=
  loop.phase = .running && event.fd = fd && !event.hangUp

/-- The argument of `dispatchCommandLine` at an event. -/
def dispatched (event : ClientEvent) (answers : ClientAnswers) (loop : ClientLoop) : Option Bytes :=
  if loop.handles event stdinFileno && event.pollIn then answers.line.map StdinLoop.popReturn else none

/-- The client behind the part of `handleServerEvent` that writes. -/
def written (event : ClientEvent) (answers : ClientAnswers) (loop : ClientLoop) : ClientLoop :=
  if event.pollOut then loop.flush answers.writes else loop

/-- The bytes that `handleServerReadable` receives at an event. -/
def received (event : ClientEvent) (answers : ClientAnswers) (loop : ClientLoop) : Bytes :=
  if event.fd ≠ stdinFileno && loop.handles event loop.socketFd && event.pollIn
      && (loop.written event answers).phase = .running then bytesRead answers.reads
  else []

end ClientLoop

/-! ### Both programs -/

/-- A line of the standard input, without its line end. -/
abbrev TypedLine := { line : Bytes // newline ∉ line }

/-- A client and the server. -/
structure Wire where
  loop : ClientLoop
  /-- What the socket of the client has taken and the server has not read. -/
  upstream : Bytes := []
  server : Server := {}
  /-- What the socket of the server has taken and the client has not read. -/
  downstream : Bytes := []
  /-- The lines of the connection that the server has handled; read by proofs only. -/
  handled : List Bytes := []

inductive WireEvent
  /-- The client handles an event. It reads after these errors, at most one byte more than `count`. -/
  | client (event : ClientEvent) (line : Option TypedLine) (failures : List Errno) (count : Nat)
    (writes : List (Except Errno Nat))
  /-- The server reads from the connection, at most one byte more than `count`. -/
  | read (count : Nat)
  /-- The socket of the server takes at most `count` bytes for the connection. -/
  | write (count : Nat)
  /-- Anything else that happens to the server. -/
  | elsewhere (input : Input)

/-- An input that leaves the connection of a client alone. -/
def Input.elsewhere (fd : Int) : Input → Bool
  | .accept other => other ≠ fd
  | .read other _ => other ≠ fd
  | .hangUp other => other ≠ fd
  | .write other _ => other ≠ fd
  | .updateFlags => true
  | .restart => false

/-- A line of this connection. -/
def Event.ownLine (fd : Int) : Event → Option Bytes
  | .line other rawCommand => if other = fd then some rawCommand else none
  | _ => none

/-- The step of a link for an event of the server. -/
def LinkEvent.ofEvent (fd : Int) (event : Event) : LinkEvent :=
  if (event.ownLine fd).isSome then .serve else .other event

/-- The content of the write buffer of a client. -/
def Server.writeBuffer (fd : Int) (server : Server) : Bytes :=
  (server.observed Client.writeBuffer fd).getD []

namespace Wire

/-- What the calls of the client get. A read finds nothing if nothing has arrived. -/
def answers (line : Option TypedLine) (failures : List Errno) (count : Nat)
    (writes : List (Except Errno Nat)) (wire : Wire) : ClientAnswers where
  line := line.map Subtype.val
  reads := failures.map Except.error ++
    if wire.downstream = [] then [] else [.ok (wire.downstream.take (count + 1))]
  writes := writes

/-- The server handles an input. -/
def input (env : Env) (fd : Int) (input : Input) (wire : Wire) : Wire :=
  { wire with
    server := wire.server.handle env input
    handled := wire.handled ++ (input.events wire.server).filterMap (Event.ownLine fd) }

/-- The client handles an event: its socket may take bytes, and it may read. -/
def client (event : ClientEvent) (answers : ClientAnswers) (wire : Wire) : Wire :=
  let after := wire.loop.handleEvent (event, answers)
  { wire with
    loop := after
    upstream := wire.upstream ++ after.client.accepted.drop wire.loop.client.accepted.length
    downstream := wire.downstream.drop (wire.loop.received event answers).length }

def step (env : Env) (fd : Int) (wire : Wire) : WireEvent → Wire
  | .client event line failures count writes => wire.client event (wire.answers line failures count writes)
  | .read count =>
    if wire.upstream = [] then wire
    else
      { wire.input env fd (.read fd (wire.upstream.take (count + 1))) with
        upstream := wire.upstream.drop (count + 1) }
  | .write count =>
    { wire.input env fd (.write fd count) with
      downstream := wire.downstream ++ (wire.server.writeBuffer fd).take count }
  | .elsewhere input => if input.elsewhere fd then wire.input env fd input else wire

/-- A server that has accepted the connection, and a client whose socket is connected. -/
def start (env : Env) (fd : Int) (socketFd : Int) (before : List Input) : Wire where
  loop := .start socketFd
  server := Transition.run (Server.handle env) {} (before ++ [.accept fd])

/-! ### The steps of a link -/

/-- The steps for an input of the server. -/
def inputEvents (fd : Int) (input : Input) (wire : Wire) : List LinkEvent :=
  (input.events wire.server).map (LinkEvent.ofEvent fd)

/-- The steps for an event of the client. -/
def clientEvents (event : ClientEvent) (answers : ClientAnswers) (wire : Wire) : List LinkEvent :=
  let after := wire.loop.handleEvent (event, answers)
  ((wire.loop.dispatched event answers).map LinkEvent.type).toList
    ++ List.replicate (after.reader.routed.length - wire.loop.reader.routed.length) .route

/-- **The steps of a link** for a step of the wire. -/
def linkEvents (fd : Int) (wire : Wire) : WireEvent → List LinkEvent
  | .client event line failures count writes =>
    wire.clientEvents event (wire.answers line failures count writes)
  | .read count =>
    if wire.upstream = [] then []
    else wire.inputEvents fd (.read fd (wire.upstream.take (count + 1)))
  | .write count => wire.inputEvents fd (.write fd count)
  | .elsewhere input => if input.elsewhere fd then wire.inputEvents fd input else []

/-- The steps of a link for a run of the wire. -/
def trace (env : Env) (fd : Int) : Wire → List WireEvent → List LinkEvent
  | _, [] => []
  | wire, event :: rest => wire.linkEvents fd event ++ trace env fd (wire.step env fd event) rest

end Wire

end MyTeams
