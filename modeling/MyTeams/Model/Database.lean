/-
**The data model and its lookups.**

The six classes of `server/models` and `Database`, with the fields, the defaults and the
operations that the server uses. A `std::vector` is a list; a `std::map` is a `SortedMap`, which a
traversal visits in key order.

A pointer that `find…` returns is used in two ways. Where the caller only reads through it, the
model reads the found value (`findUser`, `findTeam`, `findChannel`, `findThread`). Where the caller
writes through it, the model updates the element that the same search finds (`modifyUser`,
`modifyTeam`, `modifyChannel`, `modifyThread`).
-/

import MyTeams.Lib.FirstMatch
import MyTeams.Lib.SortedMap
import MyTeams.Model.Bytes

namespace MyTeams

open FirstMatch

/-- `server/models/Message.hpp` -/
structure Message where
  senderUuid : Bytes := []
  receiverUuid : Bytes := []
  timestamp : Int := 0
  body : Bytes := []
deriving DecidableEq

/-- `server/models/Reply.hpp` -/
structure Reply where
  uuid : Bytes := []
  userUuid : Bytes := []
  timestamp : Int := 0
  body : Bytes := []
deriving DecidableEq

/-- `server/models/Thread.hpp` -/
structure Thread where
  uuid : Bytes := []
  userUuid : Bytes := []
  timestamp : Int := 0
  title : Bytes := []
  body : Bytes := []
  replies : List Reply := []
deriving DecidableEq

/-- `server/models/Channel.hpp` -/
structure Channel where
  uuid : Bytes := []
  name : Bytes := []
  description : Bytes := []
  threads : List Thread := []
deriving DecidableEq

/-- `server/models/Team.hpp` -/
structure Team where
  uuid : Bytes := []
  name : Bytes := []
  description : Bytes := []
  subscriberUuids : List Bytes := []
  channels : List Channel := []
deriving DecidableEq

/-- `server/models/User.hpp`. The connection count is an `int` that the code keeps at or above
zero, and at most the number of open connections. -/
structure User where
  uuid : Bytes := []
  name : Bytes := []
  connectedCount : Nat := 0
  teams : List Bytes := []
  messages : SortedMap Bytes (List Message) := SortedMap.empty
deriving DecidableEq

/-- `server/database/Database.hpp` -/
structure Database where
  users : List User := []
  teams : List Team := []
deriving DecidableEq

/-! ### `Team` -/

namespace Team

/-- `Team::isUserSubscribed` -/
def isUserSubscribed (userUuid : Bytes) (team : Team) : Bool :=
  team.subscriberUuids.contains userUuid

/-- `Team::addSubscriber`: the returned flag and the team after the call. -/
def addSubscriber (userUuid : Bytes) (team : Team) : Bool × Team :=
  if team.isUserSubscribed userUuid then (false, team)
  else (true, { team with subscriberUuids := team.subscriberUuids ++ [userUuid] })

/-- `Team::removeSubscriber`: every occurrence is erased; the flag is false if there was none. -/
def removeSubscriber (userUuid : Bytes) (team : Team) : Bool × Team :=
  if team.subscriberUuids.filter (· ≠ userUuid) = team.subscriberUuids then (false, team)
  else (true, { team with subscriberUuids := team.subscriberUuids.filter (· ≠ userUuid) })

theorem isUserSubscribed_iff {userUuid : Bytes} {team : Team} :
    team.isUserSubscribed userUuid = true ↔ userUuid ∈ team.subscriberUuids :=
  List.contains_iff_mem

theorem addSubscriber_of_absent {userUuid : Bytes} {team : Team}
    (absent : ¬ team.isUserSubscribed userUuid = true) :
    team.addSubscriber userUuid
      = (true, { team with subscriberUuids := team.subscriberUuids ++ [userUuid] }) :=
  if_neg absent

theorem removeSubscriber_of_present {userUuid : Bytes} {team : Team}
    (present : team.isUserSubscribed userUuid = true) :
    team.removeSubscriber userUuid
      = (true, { team with subscriberUuids := team.subscriberUuids.filter (· ≠ userUuid) }) := by
  refine if_neg fun same => ?_
  have kept := List.filter_eq_self.mp same userUuid (isUserSubscribed_iff.mp present)
  simp at kept

@[simp] theorem addSubscriber_uuid (userUuid : Bytes) (team : Team) :
    (team.addSubscriber userUuid).2.uuid = team.uuid := by
  unfold addSubscriber
  split_ifs <;> rfl

@[simp] theorem removeSubscriber_uuid (userUuid : Bytes) (team : Team) :
    (team.removeSubscriber userUuid).2.uuid = team.uuid := by
  unfold removeSubscriber
  split_ifs <;> rfl

@[simp] theorem addSubscriber_name (userUuid : Bytes) (team : Team) :
    (team.addSubscriber userUuid).2.name = team.name := by
  unfold addSubscriber
  split_ifs <;> rfl

@[simp] theorem removeSubscriber_name (userUuid : Bytes) (team : Team) :
    (team.removeSubscriber userUuid).2.name = team.name := by
  unfold removeSubscriber
  split_ifs <;> rfl

@[simp] theorem addSubscriber_channels (userUuid : Bytes) (team : Team) :
    (team.addSubscriber userUuid).2.channels = team.channels := by
  unfold addSubscriber
  split_ifs <;> rfl

@[simp] theorem removeSubscriber_channels (userUuid : Bytes) (team : Team) :
    (team.removeSubscriber userUuid).2.channels = team.channels := by
  unfold removeSubscriber
  split_ifs <;> rfl

/-- The subscribers after a user is added. -/
theorem mem_addSubscriber {userUuid other : Bytes} {team : Team} :
    other ∈ (team.addSubscriber userUuid).2.subscriberUuids ↔
      other ∈ team.subscriberUuids ∨ other = userUuid := by
  unfold addSubscriber
  split_ifs with present
  · exact ⟨Or.inl, fun either => either.elim id fun same => same ▸ isUserSubscribed_iff.mp present⟩
  · rw [List.mem_append, List.mem_singleton]

/-- The subscribers after a user is removed. -/
theorem mem_removeSubscriber {userUuid other : Bytes} {team : Team} :
    other ∈ (team.removeSubscriber userUuid).2.subscriberUuids ↔
      other ∈ team.subscriberUuids ∧ other ≠ userUuid := by
  unfold removeSubscriber
  split_ifs with none
  · refine ⟨fun member => ⟨member, ?_⟩, And.left⟩
    have kept := List.filter_eq_self.mp none other member
    exact of_decide_eq_true kept
  · rw [List.mem_filter, decide_eq_true_eq]

end Team

/-! ### `User` -/

namespace User

/-- `User::isConnected` -/
def isConnected (user : User) : Bool := 0 < user.connectedCount

/-- `User::incrementConnection` -/
def incrementConnection (user : User) : User := { user with connectedCount := user.connectedCount + 1 }

/-- `User::decrementConnection` -/
def decrementConnection (user : User) : User :=
  if 0 < user.connectedCount then { user with connectedCount := user.connectedCount - 1 } else user

/-- `User::addMessage` -/
def addMessage (senderUuid : Bytes) (message : Message) (user : User) : User :=
  { user with
    messages :=
      user.messages.insert senderUuid ((user.messages.find? senderUuid).getD [] ++ [message]) }

@[simp] theorem incrementConnection_uuid (user : User) : user.incrementConnection.uuid = user.uuid :=
  rfl

@[simp] theorem incrementConnection_name (user : User) : user.incrementConnection.name = user.name :=
  rfl

@[simp] theorem decrementConnection_uuid (user : User) :
    user.decrementConnection.uuid = user.uuid := by
  unfold decrementConnection
  split_ifs <;> rfl

@[simp] theorem decrementConnection_name (user : User) :
    user.decrementConnection.name = user.name := by
  unfold decrementConnection
  split_ifs <;> rfl

@[simp] theorem decrementConnection_messages (user : User) :
    user.decrementConnection.messages = user.messages := by
  unfold decrementConnection
  split_ifs <;> rfl

@[simp] theorem decrementConnection_connectedCount (user : User) :
    user.decrementConnection.connectedCount = user.connectedCount - 1 := by
  unfold decrementConnection
  split_ifs with positive
  · rfl
  · omega

@[simp] theorem addMessage_uuid (key : Bytes) (message : Message) (user : User) :
    (user.addMessage key message).uuid = user.uuid := rfl

@[simp] theorem addMessage_name (key : Bytes) (message : Message) (user : User) :
    (user.addMessage key message).name = user.name := rfl

@[simp] theorem addMessage_connectedCount (key : Bytes) (message : Message) (user : User) :
    (user.addMessage key message).connectedCount = user.connectedCount := rfl

end User

/-! ### Writes inside a team -/

/-- A write to the first channel of a team with the given uuid. -/
def Team.modifyChannel (channelUuid : Bytes) (f : Channel → Channel) (team : Team) : Team :=
  { team with channels := modifyFirst (·.uuid = channelUuid) f team.channels }

/-- A write to the first thread of a channel with the given uuid. -/
def Channel.modifyThread (threadUuid : Bytes) (f : Thread → Thread) (channel : Channel) : Channel :=
  { channel with threads := modifyFirst (·.uuid = threadUuid) f channel.threads }

@[simp] theorem Team.modifyChannel_uuid (channelUuid : Bytes) (f : Channel → Channel) (team : Team) :
    (team.modifyChannel channelUuid f).uuid = team.uuid := rfl

@[simp] theorem Team.modifyChannel_name (channelUuid : Bytes) (f : Channel → Channel) (team : Team) :
    (team.modifyChannel channelUuid f).name = team.name := rfl

@[simp] theorem Team.modifyChannel_subscriberUuids (channelUuid : Bytes) (f : Channel → Channel)
    (team : Team) : (team.modifyChannel channelUuid f).subscriberUuids = team.subscriberUuids := rfl

@[simp] theorem Channel.modifyThread_uuid (threadUuid : Bytes) (f : Thread → Thread)
    (channel : Channel) : (channel.modifyThread threadUuid f).uuid = channel.uuid := rfl

@[simp] theorem Channel.modifyThread_name (threadUuid : Bytes) (f : Thread → Thread)
    (channel : Channel) : (channel.modifyThread threadUuid f).name = channel.name := rfl

/-! ### `Database` -/

namespace Database

/-- `Database::findUser` -/
def findUser (uuid : Bytes) (db : Database) : Option User := db.users.find? (·.uuid = uuid)

/-- `Database::findUserByName` -/
def findUserByName (name : Bytes) (db : Database) : Option User := db.users.find? (·.name = name)

/-- `Database::findTeam` -/
def findTeam (uuid : Bytes) (db : Database) : Option Team := db.teams.find? (·.uuid = uuid)

/-- `Database::findChannel`: the channel is searched in the found team. -/
def findChannel (teamUuid channelUuid : Bytes) (db : Database) : Option Channel :=
  match db.findTeam teamUuid with
  | none => none
  | some team => team.channels.find? (·.uuid = channelUuid)

/-- `Database::findThread`: the first channel of any team with the given uuid decides. -/
def findThread (channelUuid threadUuid : Bytes) (db : Database) : Option Thread :=
  match (db.teams.flatMap Team.channels).find? (·.uuid = channelUuid) with
  | none => none
  | some channel => channel.threads.find? (·.uuid = threadUuid)

/-- A write through the pointer of `findUser`. -/
def modifyUser (uuid : Bytes) (f : User → User) (db : Database) : Database :=
  { db with users := modifyFirst (·.uuid = uuid) f db.users }

/-- A write through the pointer of `findUserByName`. -/
def modifyUserByName (name : Bytes) (f : User → User) (db : Database) : Database :=
  { db with users := modifyFirst (·.name = name) f db.users }

/-- A write through the pointer of `findTeam`. -/
def modifyTeam (uuid : Bytes) (f : Team → Team) (db : Database) : Database :=
  { db with teams := modifyFirst (·.uuid = uuid) f db.teams }

/-- A write through the pointer of `findChannel`. -/
def modifyChannel (teamUuid channelUuid : Bytes) (f : Channel → Channel) (db : Database) : Database :=
  db.modifyTeam teamUuid (Team.modifyChannel channelUuid f)

/-- A write through the pointer of `findThread`: the first team that has the channel. -/
def modifyThread (channelUuid threadUuid : Bytes) (f : Thread → Thread) (db : Database) : Database :=
  { db with
    teams := modifyFirst (fun team => team.channels.any (·.uuid = channelUuid))
      (Team.modifyChannel channelUuid (Channel.modifyThread threadUuid f)) db.teams }

end Database

end MyTeams
