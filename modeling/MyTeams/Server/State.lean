/-
**The state of the server.**

`Client` and `Server` hold the fields of the two classes; `_clients` is a map from descriptors. Next
to the write buffer, a client keeps the messages that were appended to it since it was accepted
(`appended`), which no function of the server reads.

What the operating system answers is the environment `Env`: the values of `uuid_generate` and of
`std::time` call by call. The server counts the calls.

The four functions that write to clients (`sendToClient`, `broadcast`, `sendToUser`,
`notifySubscribers`) are instances of one operation, `deliver`: every client receives a list of
messages that depends on its descriptor and on the user of its session.
-/

import MyTeams.Protocol.Frame
import MyTeams.Storage.JsonParser

namespace MyTeams

/-- `server/Context.hpp` -/
structure Context where
  teamUuid : Bytes := []
  channelUuid : Bytes := []
  threadUuid : Bytes := []
deriving DecidableEq

/-- `server/client/client.hpp` -/
structure Client where
  fd : Int := -1
  userUuid : Bytes := []
  context : Context := {}
  readBuffer : Bytes := []
  writeBuffer : Bytes := []
  args : List Bytes := []
  pollOutEnabled : Bool := false
  /-- The messages appended to the write buffer so far; read by proofs only. -/
  appended : List Frame := []
deriving DecidableEq

/-- `server/server.hpp`, with the number of calls made to the environment. -/
structure Server where
  clients : SortedMap Int Client := SortedMap.empty
  db : Database := {}
  uuidCalls : Nat := 0
  timeCalls : Nat := 0
deriving DecidableEq

/-- The environment of the server process. -/
structure Env where
  /-- The text of the n-th value of `uuid_generate`. -/
  uuid : Nat → Uuid
  /-- The n-th value of `std::time`. -/
  time : Nat → Int
  /-- The floating-point library that the save manager uses. -/
  fp : FloatingPoint

/-! ### `Client` -/

namespace Client

/-- `args[index]` -/
def arg (index : Nat) (client : Client) : Bytes := client.args.getD index []

/-- `Client::appendToWriteBuffer` -/
def appendToWriteBuffer (frame : Frame) (client : Client) : Client :=
  { client with
    writeBuffer := client.writeBuffer ++ frame.render
    appended := client.appended ++ [frame] }

/-- A list of messages appended one after the other. -/
def receive (frames : List Frame) (client : Client) : Client :=
  { client with
    writeBuffer := client.writeBuffer ++ frames.flatMap Frame.render
    appended := client.appended ++ frames }

theorem appendToWriteBuffer_eq (frame : Frame) (client : Client) :
    client.appendToWriteBuffer frame = client.receive [frame] := by
  simp [appendToWriteBuffer, receive]

@[simp] theorem receive_nil (client : Client) : client.receive [] = client := by simp [receive]

theorem receive_receive (first second : List Frame) (client : Client) :
    (client.receive first).receive second = client.receive (first ++ second) := by
  simp [receive]

end Client

/-! ### Writing to clients -/

namespace Server

/-- A write through the reference to a client. -/
def modifyClient (fd : Int) (f : Client → Client) (server : Server) : Server :=
  { server with clients := server.clients.modify fd f }

/-- A write to every client. -/
def modifyClients (f : Int → Client → Client) (server : Server) : Server :=
  { server with clients := server.clients.mapWithKey f }

/-- `Server::sendToClient` -/
def sendToClient (frame : Frame) (fd : Int) (server : Server) : Server :=
  server.modifyClient fd (·.appendToWriteBuffer frame)

/-- A sequence of `Server::sendToClient` calls. -/
def sendAllToClient (frames : List Frame) (fd : Int) (server : Server) : Server :=
  frames.foldl (fun server frame => server.sendToClient frame fd) server

@[simp] theorem sendToClient_db (frame : Frame) (fd : Int) (server : Server) :
    (server.sendToClient frame fd).db = server.db := rfl

/-- `Server::broadcast` -/
def broadcast (frame : Frame) (server : Server) : Server :=
  { server with clients := server.clients.mapWithKey fun _ client => client.appendToWriteBuffer frame }

/-- `Server::sendToUser` -/
def sendToUser (userUuid : Bytes) (frame : Frame) (server : Server) : Server :=
  { server with
    clients := server.clients.mapWithKey fun _ client =>
      if client.userUuid = userUuid then client.appendToWriteBuffer frame else client }

/-- `Server::notifySubscribers`; a message is never empty. -/
def notifySubscribers (teamUuid : Bytes) (frame : Frame) (server : Server) : Server :=
  if teamUuid.isEmpty then server
  else
    match server.db.findTeam teamUuid with
    | none => server
    | some team =>
      { server with
        clients := server.clients.mapWithKey fun _ client =>
          if client.userUuid.isEmpty then client
          else if team.subscriberUuids.contains client.userUuid then client.appendToWriteBuffer frame
          else client }

/-! ### The environment -/

/-- The text that the next call of `uuid_generate` and `uuid_unparse_lower` writes. -/
def nextUuid (env : Env) (server : Server) : Bytes := (env.uuid server.uuidCalls).1

/-- The call is made. -/
def generateUuid (server : Server) : Server := { server with uuidCalls := server.uuidCalls + 1 }

/-- The value of the next call of `std::time`. -/
def nextTime (env : Env) (server : Server) : Int := env.time server.timeCalls

/-- The call is made. -/
def readTime (server : Server) : Server := { server with timeCalls := server.timeCalls + 1 }

/-- A write to `_db`. -/
def modifyDb (f : Database → Database) (server : Server) : Server := { server with db := f server.db }

end Server

/-! ### Deliveries -/

/-- What every client receives, by its descriptor and the user of its session. -/
abbrev Letters := Int → Bytes → List Frame

namespace Letters

/-- Messages for one connection. -/
def toClient (fd : Int) (frames : List Frame) : Letters := fun other _ =>
  if other = fd then frames else []

/-- One message for everybody. -/
def toAll (frame : Frame) : Letters := fun _ _ => [frame]

/-- One message for the sessions of a user. -/
def toUser (userUuid : Bytes) (frame : Frame) : Letters := fun _ session =>
  if session = userUuid then [frame] else []

/-- One message for the sessions of the subscribers of a team. -/
def toSubscribers (team : Team) (frame : Frame) : Letters := fun _ session =>
  if session ≠ [] ∧ session ∈ team.subscriberUuids then [frame] else []

/-- First one delivery, then another. -/
def followedBy (first second : Letters) : Letters := fun fd session =>
  first fd session ++ second fd session

theorem toClient_self (fd : Int) (frames : List Frame) (session : Bytes) :
    toClient fd frames fd session = frames := if_pos rfl

theorem toClient_of_ne {fd other : Int} (different : other ≠ fd) (frames : List Frame)
    (session : Bytes) : toClient fd frames other session = [] := if_neg different

/-! What a letter can contain. -/

section Contents

variable {fd : Int} {session : Bytes} {frame : Frame}

theorem mem_toClient {other : Int} {frames : List Frame}
    (member : frame ∈ toClient fd frames other session) : other = fd ∧ frame ∈ frames := by
  unfold toClient at member
  split_ifs at member with same
  · exact ⟨same, member⟩
  · cases member

theorem mem_toAll {sent : Frame} (member : frame ∈ toAll sent fd session) : frame = sent :=
  List.mem_singleton.mp member

theorem mem_toUser {userUuid : Bytes} {sent : Frame}
    (member : frame ∈ toUser userUuid sent fd session) : session = userUuid ∧ frame = sent := by
  unfold toUser at member
  split_ifs at member with same
  · exact ⟨same, List.mem_singleton.mp member⟩
  · cases member

theorem mem_toSubscribers {team : Team} {sent : Frame}
    (member : frame ∈ toSubscribers team sent fd session) :
    (session ≠ [] ∧ session ∈ team.subscriberUuids) ∧ frame = sent := by
  unfold toSubscribers at member
  split_ifs at member with subscribed
  · exact ⟨subscribed, List.mem_singleton.mp member⟩
  · cases member

end Contents

/-! What holds of all messages. -/

/-- All messages satisfy `P`. -/
def All (P : Frame → Prop) (letters : Letters) : Prop :=
  ∀ fd session, ∀ frame ∈ letters fd session, P frame

section Contents

variable {P : Frame → Prop} {frame : Frame}

theorem all_toClient {frames : List Frame} (fd : Int) (each : ∀ frame ∈ frames, P frame) :
    (toClient fd frames).All P :=
  fun _ _ _ member => each _ (mem_toClient member).2

theorem all_answer (fd : Int) (holds : P frame) : (toClient fd [frame]).All P :=
  all_toClient fd fun _ member => List.mem_singleton.mp member ▸ holds

theorem all_toAll (holds : P frame) : (toAll frame).All P :=
  fun _ _ _ member => mem_toAll member ▸ holds

theorem all_toUser (userUuid : Bytes) (holds : P frame) : (toUser userUuid frame).All P :=
  fun _ _ _ member => (mem_toUser member).2 ▸ holds

theorem all_toSubscribers (team : Team) (holds : P frame) : (toSubscribers team frame).All P :=
  fun _ _ _ member => (mem_toSubscribers member).2 ▸ holds

theorem All.followedBy {first second : Letters} (early : first.All P) (late : second.All P) :
    (first.followedBy second).All P :=
  fun fd session _ member => (List.mem_append.mp member).elim (early fd session _) (late fd session _)

end Contents

/-- Nothing but events and notices. -/
def Notices (letters : Letters) : Prop :=
  ∀ fd session, ∀ frame ∈ letters fd session, frame.isNotice = true

theorem notices_toAll {frame : Frame} (notice : frame.isNotice = true) : (toAll frame).Notices :=
  all_toAll notice

theorem notices_toUser {frame : Frame} (notice : frame.isNotice = true) (userUuid : Bytes) :
    (toUser userUuid frame).Notices :=
  all_toUser userUuid notice

theorem notices_toSubscribers {frame : Frame} (notice : frame.isNotice = true) (team : Team) :
    (toSubscribers team frame).Notices :=
  all_toSubscribers team notice

end Letters

namespace Server

/-- Every client receives its messages. -/
def deliver (letters : Letters) (server : Server) : Server :=
  { server with
    clients := server.clients.mapWithKey fun fd client => client.receive (letters fd client.userUuid) }

@[simp] theorem deliver_db (letters : Letters) (server : Server) :
    (server.deliver letters).db = server.db := rfl

theorem find?_deliver (letters : Letters) (server : Server) (fd : Int) :
    (server.deliver letters).clients.find? fd
      = (server.clients.find? fd).map fun client => client.receive (letters fd client.userUuid) :=
  SortedMap.find?_mapWithKey _ _ _

theorem deliver_deliver (first second : Letters) (server : Server) :
    (server.deliver first).deliver second = server.deliver (first.followedBy second) := by
  unfold deliver
  simp only [SortedMap.mapWithKey, List.map_map, Function.comp_def, Client.receive_receive]
  rfl

/-- A rewriting of the clients that is a delivery. -/
theorem deliver_of {f : Int → Client → Client} {letters : Letters} {server : Server}
    (same : ∀ fd client, f fd client = client.receive (letters fd client.userUuid)) :
    { server with clients := server.clients.mapWithKey f } = server.deliver letters := by
  rw [deliver, show f = fun fd client => client.receive (letters fd client.userUuid) from
    funext fun fd => funext fun client => same fd client]

theorem sendToClient_eq (frame : Frame) (fd : Int) (server : Server) :
    server.sendToClient frame fd = server.deliver (.toClient fd [frame]) := by
  refine deliver_of fun other client => ?_
  by_cases same : other = fd
  · rw [if_pos same, Letters.toClient, if_pos same]
    exact Client.appendToWriteBuffer_eq frame client
  · rw [if_neg same, Letters.toClient, if_neg same, Client.receive_nil]

theorem sendAllToClient_eq (frames : List Frame) (fd : Int) (server : Server) :
    server.sendAllToClient frames fd = server.deliver (.toClient fd frames) := by
  induction frames generalizing server with
  | nil =>
    rw [sendAllToClient, List.foldl_nil, deliver]
    simp [Letters.toClient, SortedMap.mapWithKey]
  | cons frame rest ih =>
    rw [sendAllToClient, List.foldl_cons, ← sendAllToClient, ih, sendToClient_eq, deliver_deliver]
    congr 1
    funext other session
    by_cases same : other = fd
    · simp [Letters.followedBy, Letters.toClient, same]
    · simp [Letters.followedBy, Letters.toClient, same]

theorem broadcast_eq (frame : Frame) (server : Server) :
    server.broadcast frame = server.deliver (.toAll frame) :=
  deliver_of fun _ client => Client.appendToWriteBuffer_eq frame client

theorem sendToUser_eq (userUuid : Bytes) (frame : Frame) (server : Server) :
    server.sendToUser userUuid frame = server.deliver (.toUser userUuid frame) := by
  refine deliver_of fun _ client => ?_
  by_cases same : client.userUuid = userUuid
  · rw [if_pos same, Client.appendToWriteBuffer_eq, Letters.toUser, if_pos same]
  · rw [if_neg same, Letters.toUser, if_neg same, Client.receive_nil]

theorem notifySubscribers_eq {teamUuid : Bytes} (named : teamUuid ≠ []) (frame : Frame)
    {server : Server} {team : Team} (found : server.db.findTeam teamUuid = some team) :
    server.notifySubscribers teamUuid frame = server.deliver (.toSubscribers team frame) := by
  rw [notifySubscribers, if_neg (by simpa using named), found]
  refine deliver_of fun _ client => ?_
  by_cases anonymous : client.userUuid = []
  · simp [anonymous, Letters.toSubscribers]
  · by_cases member : client.userUuid ∈ team.subscriberUuids
    · simp [anonymous, member, Letters.toSubscribers, Client.appendToWriteBuffer_eq]
    · simp [anonymous, member, Letters.toSubscribers]

end Server

end MyTeams
