/-
**Many clients and one server.**

`Network` has any number of client programs, each with its connection to the server and the bytes on their way.
Clients connect and go, in any order, and the programs take turns in any order. Connections of other programs,
which may send anything, come to the server as `foreign` inputs.

`Network.wire` is the network as one of its clients sees it: its own program, its bytes, and the server.
-/

import MyTeams.ClientApp.Wire

namespace MyTeams

open Transition

/-- A client program on its connection, with the bytes on their way. -/
structure Party where
  loop : ClientLoop
  upstream : Bytes := []
  downstream : Bytes := []
  /-- The lines of the connection that the server has handled; read by proofs only. -/
  handled : List Bytes := []

/-- The server, and its clients by the descriptors under which the server has accepted them. -/
structure Network where
  server : Server := {}
  parties : SortedMap Int Party := SortedMap.empty

/-- The socket of a client; its standard input is open. -/
abbrev SocketFd := { fd : Int // fd ≠ stdinFileno }

inductive NetworkEvent
  /-- A client connects, and the server accepts it under a descriptor that is free. -/
  | connect (fd : Int) (socketFd : SocketFd)
  /-- A client handles an event, as in `WireEvent.client`. -/
  | client (fd : Int) (event : ClientEvent) (line : Option TypedLine) (failures : List Errno) (count : Nat)
    (writes : List (Except Errno Nat))
  /-- The server reads from a client, at most one byte more than `count`. -/
  | read (fd : Int) (count : Nat)
  /-- The socket of the server takes at most `count` bytes for a client. -/
  | write (fd : Int) (count : Nat)
  /-- The server notices that a connection has ended. -/
  | hangUp (fd : Int)
  /-- Another connection, or the loop that is about to wait. -/
  | foreign (input : Input)

namespace Network

/-- **The network as one client sees it.** -/
def wire (fd : Int) (network : Network) : Option Wire :=
  (network.parties.find? fd).map fun party =>
    { loop := party.loop
      upstream := party.upstream
      server := network.server
      downstream := party.downstream
      handled := party.handled }

/-- One end of the connection of a client does something. -/
def advance (env : Env) (fd : Int) (event : WireEvent) (network : Network) : Network :=
  match network.wire fd with
  | none => network
  | some wire =>
    let after := wire.step env fd event
    { server := after.server
      parties := network.parties.insert fd
        { loop := after.loop
          upstream := after.upstream
          downstream := after.downstream
          handled := after.handled } }

/-- The input leaves the connections of all clients alone. -/
def isForeign (input : Input) (network : Network) : Bool :=
  network.parties.entries.all fun entry => input.elsewhere entry.1

def step (env : Env) (network : Network) : NetworkEvent → Network
  | .connect fd socketFd =>
    if network.server.clients.find? fd = none then
      { server := network.server.handle env (.accept fd)
        parties := network.parties.insert fd { loop := .start socketFd } }
    else network
  | .client fd event line failures count writes =>
    network.advance env fd (.client event line failures count writes)
  | .read fd count => network.advance env fd (.read count)
  | .write fd count => network.advance env fd (.write count)
  | .hangUp fd =>
    { server := network.server.handle env (.hangUp fd)
      parties := network.parties.erase fd }
  | .foreign input =>
    if network.isForeign input then { network with server := network.server.handle env input } else network

end Network

end MyTeams
