/-
**The client reads from the server.**

`ClientApplication::handleServerReadable` as far as it concerns the bytes that were read: the frames of
the buffer are routed one by one, and a frame, or what is left behind the last one, must not be longer
than `MAX_SERVER_FRAME_SIZE`. `feed` hands over a stream chunk by chunk, until the client stops.
-/

import MyTeams.ClientApp.Router
import MyTeams.ClientApp.StdinLoop

namespace MyTeams

open Words

/-- How `handleServerReadable` ends: it returns `true`, it returns `false`, or it throws
`"server frame exceeded maximum size"`. -/
inductive ReadOutcome
  | running
  | disconnected
  | oversized
deriving DecidableEq, Repr

/-- The part of `ClientApplication` that reads from the server. -/
structure ServerReader where
  router : ServerMessageRouter := {}
  serverReadBuffer : Bytes := []
  /-- The arguments of the calls of `routeFrame`; read by proofs only. -/
  routed : List Bytes := []
deriving DecidableEq

namespace ServerReader

/-- `MAX_SERVER_FRAME_SIZE` -/
def maxServerFrameSize : Nat := 65536

/-- `_messageRouter.routeFrame(frame)` -/
def routeFrame (frame : Bytes) (reader : ServerReader) : ServerReader :=
  { reader with
    router := reader.router.routeFrame frame
    routed := reader.routed ++ [frame] }

/-- The loop over the frames of the buffer, from `parseOffset`; its result is how it was left, with the
last `parseOffset`. The check is on the frame with its CR. `none` if the fuel does not suffice. -/
def frameLoop : Nat → Nat → ServerReader → Option (ReadOutcome × Nat × ServerReader)
  | 0, _, _ => none
  | fuel + 1, parseOffset, reader =>
    match find (· = newline) reader.serverReadBuffer parseOffset with
    | none => some (.running, parseOffset, reader)
    | some lineEnd =>
      if maxServerFrameSize < lineEnd - parseOffset then some (.oversized, parseOffset, reader)
      else
        let frame := StdinLoop.popReturn
          ((reader.serverReadBuffer.drop parseOffset).take (lineEnd - parseOffset))
        let reader := reader.routeFrame frame
        if reader.router.shouldDisconnect then some (.disconnected, lineEnd + 1, reader)
        else frameLoop fuel (lineEnd + 1) reader

/-- `ClientApplication::handleServerReadable`, when bytes were received; a round for every byte of the
buffer suffices. -/
def handleServerReadable (data : Bytes) (reader : ServerReader) : Option (ReadOutcome × ServerReader) :=
  let reader := { reader with serverReadBuffer := reader.serverReadBuffer ++ data }
  match frameLoop (reader.serverReadBuffer.length + 1) 0 reader with
  | none => none
  | some (.running, parseOffset, reader) =>
    let reader := { reader with serverReadBuffer := reader.serverReadBuffer.drop parseOffset }
    if maxServerFrameSize < reader.serverReadBuffer.length then some (.oversized, reader)
    else some (.running, reader)
  | some (ended, _, reader) => some (ended, reader)

/-- The reads of a stream, until the client stops. -/
def feed : List Bytes → ServerReader → Option (ReadOutcome × ServerReader)
  | [], reader => some (.running, reader)
  | chunk :: rest, reader =>
    match reader.handleServerReadable chunk with
    | none => none
    | some (.running, reader) => feed rest reader
    | some (ended, reader) => some (ended, reader)

end ServerReader

end MyTeams
