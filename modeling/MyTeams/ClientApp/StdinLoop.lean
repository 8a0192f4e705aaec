/-
**The event loop of the client and its standard input.**

`ClientApplication::runEventLoop` with `handleStdinEvent`, in the steps that the operating system can
tell apart: `poll` returns, `std::getline` reads from the descriptor because the buffer of `std::cin`
has no line end, `std::getline` returns. Bytes arrive at any time in between, and a read takes any part
of the bytes that are there. `poll` knows the descriptor only, not the buffer.

The server is a parameter: what `handleServerEvent` returns for the event of a batch.
-/

import MyTeams.ClientApp.CommandLine
import MyTeams.Lib.Transition

namespace MyTeams

open Words

/-- The bits of `revents` for `STDIN_FILENO`; `hangUp` is `POLLERR | POLLHUP | POLLNVAL`. -/
structure Readiness where
  pollIn : Bool := false
  hangUp : Bool := false
deriving DecidableEq

/-- What ends the loop. -/
inductive Leaving
  /-- `handleStdinEvent` returned `false`. -/
  | endOfInput
  /-- `handleServerEvent` returned `false`, or sending has thrown. -/
  | server
deriving DecidableEq

/-- Where `runEventLoop` is. -/
inductive Phase
  /-- In `waitForEvents`. -/
  | waiting
  /-- In `std::getline`. The event of the server, if the batch has one, comes next. -/
  | reading (server : Option Bool)
  | left (leaving : Leaving)
deriving DecidableEq

/-- The client and its standard input. -/
structure StdinLoop where
  /-- The bytes that are in the descriptor. -/
  descriptor : Bytes := []
  /-- The writer has closed. -/
  closed : Bool := false
  /-- The bytes that are in the buffer of `std::cin`. -/
  buffer : Bytes := []
  /-- A read has found the end of the input. -/
  eof : Bool := false
  /-- `STDIN_FILENO` is in the poller. -/
  watched : Bool := true
  phase : Phase := .waiting
  /-- All bytes that have arrived. -/
  received : Bytes := []
  /-- The arguments of the calls of `dispatchCommandLine`. -/
  dispatched : List Bytes := []
  /-- How often `poll` has reported the standard input as readable and led to a `std::getline`. -/
  readable : Nat := 0
deriving DecidableEq

/-- What happens next. -/
inductive StdinStep
  | arrive (chunk : Bytes)
  | close
  /-- `poll` returns. -/
  | poll (stdin : Option Readiness) (server : Option Bool)
  /-- The stream reads, and gets this many bytes and one more, or all there are. -/
  | fill (count : Nat)
  /-- `std::getline` returns; `fails` says that sending the frame of the line throws. -/
  | getline (fails : Bool)
deriving DecidableEq

namespace StdinLoop

/-- What `poll` can report: something that is the case, and everything that is. -/
def reports (loop : StdinLoop) (stdin : Option Readiness) (server : Option Bool) : Bool :=
  match stdin with
  | none => server.isSome && !(loop.watched && (loop.closed || !loop.descriptor.isEmpty))
  | some bits => loop.watched && (bits.pollIn || bits.hangUp) &&
      (!bits.pollIn || loop.closed || !loop.descriptor.isEmpty) && (!bits.hangUp || loop.closed) &&
      (bits.pollIn || loop.descriptor.isEmpty)

/-- The event of the server in a batch, and then the next wait. -/
def handleServer (server : Option Bool) (loop : StdinLoop) : StdinLoop :=
  if server = some false then { loop with phase := .left .server } else { loop with phase := .waiting }

/-- `handleStdinEvent` up to `std::getline`, and the event of the server. -/
def handleStdin (stdin : Option Readiness) (server : Option Bool) (loop : StdinLoop) : StdinLoop :=
  match stdin with
  | none => loop.handleServer server
  | some bits =>
    if bits.hangUp then { loop with phase := .left .endOfInput }
    else if !bits.pollIn then loop.handleServer server
    else { loop with phase := .reading server, readable := loop.readable + 1 }

/-- A read of the stream: bytes, or the end of the input. It blocks while neither is there. -/
def fill (count : Nat) (loop : StdinLoop) : StdinLoop :=
  if newline ∈ loop.buffer ∨ loop.eof = true then loop
  else if loop.descriptor ≠ [] then
    { loop with
      buffer := loop.buffer ++ loop.descriptor.take (count + 1)
      descriptor := loop.descriptor.drop (count + 1) }
  else if loop.closed then { loop with eof := true }
  else loop

/-- One trailing `'\r'` is removed. -/
def popReturn (line : Bytes) : Bytes :=
  if line.getLast? = some carriageReturn then line.dropLast else line

/-- A line is sent to the server. -/
def sends (line : Bytes) : Bool :=
  match ClientApplication.dispatchCommandLine line with
  | .sent _ _ => true
  | _ => false

/-- The rest of `handleStdinEvent` for a line, and of the batch. -/
def dispatch (line : Bytes) (fails : Bool) (server : Option Bool) (loop : StdinLoop) : StdinLoop :=
  let line := popReturn line
  let loop := { loop with dispatched := loop.dispatched ++ [line] }
  if fails && sends line then { loop with phase := .left .server } else loop.handleServer server

/-- `std::getline` returns with a line, with what is left at the end of the input, or with nothing. -/
def getline (fails : Bool) (server : Option Bool) (loop : StdinLoop) : StdinLoop :=
  if newline ∈ loop.buffer then
    { loop with buffer := (loop.buffer.dropWhile (· ≠ newline)).tail }
      |>.dispatch (loop.buffer.takeWhile (· ≠ newline)) fails server
  else if loop.eof = false then loop
  else if loop.buffer ≠ [] then { loop with buffer := [] } |>.dispatch loop.buffer fails server
  else { loop with watched := false } |>.handleServer server

/-- One step. What cannot happen changes nothing. -/
def step (loop : StdinLoop) : StdinStep → StdinLoop
  | .arrive chunk =>
    if loop.closed then loop
    else { loop with descriptor := loop.descriptor ++ chunk, received := loop.received ++ chunk }
  | .close => { loop with closed := true }
  | .poll stdin server =>
    if loop.phase = .waiting ∧ loop.reports stdin server = true then loop.handleStdin stdin server
    else loop
  | .fill count =>
    match loop.phase with
    | .reading _ => loop.fill count
    | _ => loop
  | .getline fails =>
    match loop.phase with
    | .reading server => loop.getline fails server
    | _ => loop

end StdinLoop

end MyTeams
