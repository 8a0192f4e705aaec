/-
**What an observer can tell apart.**

An observer is a connection of a user. Some texts are not for it: the bodies of the messages that two other users
exchange, and, in the teams that are hidden from it, the descriptions of channels and the bodies of threads and
replies. `Database.seenBy` is a database without these texts. Two servers are `Alike` to the observer if they
agree on everything else; of the other connections only the session counts.

* `Database.SameFor` — two databases without the same texts: what lookups find in them, and what writes keep;
* `Server.Alike` — two servers: what sending, changing a session and reading the clock keep.
-/

import MyTeams.Model.Identifiers
import MyTeams.Server.Session

namespace MyTeams

open FirstMatch

/-- A connection of a user, and the teams that are hidden from it. -/
structure Observer where
  fd : Int
  userUuid : Bytes
  hidden : Bytes → Bool

/-! ### Texts left out -/

def Message.blank (message : Message) : Message := { message with body := [] }

def Reply.blank (reply : Reply) : Reply := { reply with body := [] }

def Thread.blank (thread : Thread) : Thread :=
  { thread with
    body := []
    replies := thread.replies.map Reply.blank }

def Channel.blank (channel : Channel) : Channel :=
  { channel with
    description := []
    threads := channel.threads.map Thread.blank }

/-- A user keeps the messages that the observer shares with others. -/
def User.seenBy (observer : Observer) (user : User) : User :=
  if user.uuid = observer.userUuid then user
  else { user with messages := user.messages.mapWithKey fun _ messages => messages.map Message.blank }

def Team.seenBy (observer : Observer) (team : Team) : Team :=
  if observer.hidden team.uuid then { team with channels := team.channels.map Channel.blank } else team

def Database.seenBy (observer : Observer) (db : Database) : Database where
  users := db.users.map (User.seenBy observer)
  teams := db.teams.map (Team.seenBy observer)

section Fields

variable (observer : Observer)

@[simp] theorem User.seenBy_uuid (user : User) : (user.seenBy observer).uuid = user.uuid := by
  unfold User.seenBy
  split_ifs <;> rfl

@[simp] theorem User.seenBy_name (user : User) : (user.seenBy observer).name = user.name := by
  unfold User.seenBy
  split_ifs <;> rfl

@[simp] theorem User.seenBy_connectedCount (user : User) :
    (user.seenBy observer).connectedCount = user.connectedCount := by
  unfold User.seenBy
  split_ifs <;> rfl

@[simp] theorem Team.seenBy_uuid (team : Team) : (team.seenBy observer).uuid = team.uuid := by
  unfold Team.seenBy
  split_ifs <;> rfl

@[simp] theorem Team.seenBy_name (team : Team) : (team.seenBy observer).name = team.name := by
  unfold Team.seenBy
  split_ifs <;> rfl

@[simp] theorem Team.seenBy_description (team : Team) : (team.seenBy observer).description = team.description := by
  unfold Team.seenBy
  split_ifs <;> rfl

@[simp] theorem Team.seenBy_subscriberUuids (team : Team) :
    (team.seenBy observer).subscriberUuids = team.subscriberUuids := by
  unfold Team.seenBy
  split_ifs <;> rfl

/-- What is seen of the channels of a team. -/
theorem Team.seenBy_channels (team : Team) : (team.seenBy observer).channels.map Channel.blank
    = team.channels.map Channel.blank := by
  unfold Team.seenBy
  split_ifs
  · have twice : ∀ channel : Channel, channel.blank.blank = channel.blank := by
      intro channel
      have threads : ∀ thread : Thread, thread.blank.blank = thread.blank := by
        intro thread
        unfold Thread.blank
        simp only [List.map_map]
        rfl
      unfold Channel.blank
      simp only [List.map_map, Function.comp_def, threads]
    simp only [List.map_map, Function.comp_def, twice]
  · rfl

end Fields

/-! ### Users and teams that look the same -/

section Parts

variable {observer : Observer} {user user' : User} {team team' : Team}

/-- What two users have in common. -/
structure User.SameFor (observer : Observer) (user user' : User) : Prop where
  seen : user.seenBy observer = user'.seenBy observer

theorem User.SameFor.uuid (same : user.SameFor observer user') : user.uuid = user'.uuid := by
  simpa using congrArg User.uuid same.seen

theorem User.SameFor.name (same : user.SameFor observer user') : user.name = user'.name := by
  simpa using congrArg User.name same.seen

theorem User.SameFor.connectedCount (same : user.SameFor observer user') :
    user.connectedCount = user'.connectedCount := by
  simpa using congrArg User.connectedCount same.seen

/-- The observed user is the same in both. -/
theorem User.SameFor.own (same : user.SameFor observer user') (own : user.uuid = observer.userUuid) :
    user = user' := by
  have seen := same.seen
  unfold User.seenBy at seen
  rwa [if_pos own, if_pos (same.uuid.symm.trans own)] at seen

/-- What two teams have in common. -/
structure Team.SameFor (observer : Observer) (team team' : Team) : Prop where
  seen : team.seenBy observer = team'.seenBy observer

theorem Team.SameFor.uuid (same : team.SameFor observer team') : team.uuid = team'.uuid := by
  simpa using congrArg Team.uuid same.seen

theorem Team.SameFor.name (same : team.SameFor observer team') : team.name = team'.name := by
  simpa using congrArg Team.name same.seen

theorem Team.SameFor.subscriberUuids (same : team.SameFor observer team') :
    team.subscriberUuids = team'.subscriberUuids := by
  simpa using congrArg Team.subscriberUuids same.seen

theorem Team.SameFor.isUserSubscribed (same : team.SameFor observer team') (userUuid : Bytes) :
    team.isUserSubscribed userUuid = team'.isUserSubscribed userUuid := by
  unfold Team.isUserSubscribed
  rw [same.subscriberUuids]

/-- The channels look alike, and so do their threads. -/
theorem Team.SameFor.channels (same : team.SameFor observer team') :
    team.channels.map Channel.blank = team'.channels.map Channel.blank := by
  have seen := congrArg (fun team => team.channels.map Channel.blank) same.seen
  simpa only [Team.seenBy_channels] using seen

/-- A team that is not hidden is the same in both. -/
theorem Team.SameFor.open_eq (same : team.SameFor observer team') (shown : observer.hidden team.uuid = false) :
    team = team' := by
  have seen := same.seen
  unfold Team.seenBy at seen
  rw [← same.uuid, shown] at seen
  exact seen

/-- Two teams with the same outside, whose channels differ at most in hidden texts. -/
theorem Team.SameFor.of_hidden (uuid : team.uuid = team'.uuid) (name : team.name = team'.name)
    (description : team.description = team'.description)
    (subscribers : team.subscriberUuids = team'.subscriberUuids)
    (channels : team.channels.map Channel.blank = team'.channels.map Channel.blank)
    (hidden : observer.hidden team.uuid = true) : team.SameFor observer team' := by
  refine ⟨?_⟩
  unfold Team.seenBy
  rw [if_pos hidden, if_pos (uuid ▸ hidden), channels]
  cases team
  cases team'
  simp_all

theorem Channel.blank_uuid_eq {channel channel' : Channel} (same : channel.blank = channel'.blank) :
    channel.uuid = channel'.uuid := by
  have uuids : channel.blank.uuid = channel'.blank.uuid := by rw [same]
  exact uuids

theorem Channel.blank_name_eq {channel channel' : Channel} (same : channel.blank = channel'.blank) :
    channel.name = channel'.name := by
  have names : channel.blank.name = channel'.blank.name := by rw [same]
  exact names

theorem Channel.blank_threads_eq {channel channel' : Channel} (same : channel.blank = channel'.blank) :
    channel.threads.map Thread.blank = channel'.threads.map Thread.blank := by
  have threads : channel.blank.threads = channel'.blank.threads := by rw [same]
  exact threads

theorem Thread.blank_uuid_eq {thread thread' : Thread} (same : thread.blank = thread'.blank) :
    thread.uuid = thread'.uuid := by
  have uuids : thread.blank.uuid = thread'.blank.uuid := by rw [same]
  exact uuids

theorem Thread.blank_title_eq {thread thread' : Thread} (same : thread.blank = thread'.blank) :
    thread.title = thread'.title := by
  have titles : thread.blank.title = thread'.blank.title := by rw [same]
  exact titles

end Parts

/-! ### Databases that look the same -/

/-- Two databases without the same texts. -/
structure Database.SameFor (observer : Observer) (db db' : Database) : Prop where
  seen : db.seenBy observer = db'.seenBy observer

section Databases

variable {observer : Observer} {db db' : Database}

theorem Database.SameFor.users (same : db.SameFor observer db') :
    db.users.map (User.seenBy observer) = db'.users.map (User.seenBy observer) :=
  congrArg Database.users same.seen

theorem Database.SameFor.teams (same : db.SameFor observer db') :
    db.teams.map (Team.seenBy observer) = db'.teams.map (Team.seenBy observer) :=
  congrArg Database.teams same.seen

/-- The channels of all teams. -/
theorem Database.SameFor.channels (same : db.SameFor observer db') :
    (db.teams.flatMap Team.channels).map Channel.blank = (db'.teams.flatMap Team.channels).map Channel.blank := by
  have through : ∀ teams : List Team, (teams.flatMap Team.channels).map Channel.blank
      = (teams.map (Team.seenBy observer)).flatMap fun team => team.channels.map Channel.blank := by
    intro teams
    rw [List.map_flatMap, List.flatMap_map]
    simp only [Team.seenBy_channels]
  rw [through, through, same.teams]

/-! Lookups. -/

theorem Database.SameFor.findUser (same : db.SameFor observer db') (uuid : Bytes) :
    (db.findUser uuid = none ∧ db'.findUser uuid = none) ∨
      ∃ user user', db.findUser uuid = some user ∧ db'.findUser uuid = some user' ∧
        user.SameFor observer user' := by
  have decides : ∀ a b : User, a.seenBy observer = b.seenBy observer →
      decide (a.uuid = uuid) = decide (b.uuid = uuid) := fun a b equal => by
    rw [User.SameFor.uuid ⟨equal⟩]
  rcases alike_cases (find?_congr_map same.users decides) with none | ⟨user, user', found, found', equal⟩
  · exact Or.inl none
  · exact Or.inr ⟨user, user', found, found', ⟨equal⟩⟩

theorem Database.SameFor.findUserByName (same : db.SameFor observer db') (name : Bytes) :
    (db.findUserByName name = none ∧ db'.findUserByName name = none) ∨
      ∃ user user', db.findUserByName name = some user ∧ db'.findUserByName name = some user' ∧
        user.SameFor observer user' := by
  have decides : ∀ a b : User, a.seenBy observer = b.seenBy observer →
      decide (a.name = name) = decide (b.name = name) := fun a b equal => by
    rw [User.SameFor.name ⟨equal⟩]
  rcases alike_cases (find?_congr_map same.users decides) with none | ⟨user, user', found, found', equal⟩
  · exact Or.inl none
  · exact Or.inr ⟨user, user', found, found', ⟨equal⟩⟩

theorem Database.SameFor.findTeam (same : db.SameFor observer db') (uuid : Bytes) :
    (db.findTeam uuid = none ∧ db'.findTeam uuid = none) ∨
      ∃ team team', db.findTeam uuid = some team ∧ db'.findTeam uuid = some team' ∧
        team.SameFor observer team' := by
  have decides : ∀ a b : Team, a.seenBy observer = b.seenBy observer →
      decide (a.uuid = uuid) = decide (b.uuid = uuid) := fun a b equal => by
    rw [Team.SameFor.uuid ⟨equal⟩]
  rcases alike_cases (find?_congr_map same.teams decides) with none | ⟨team, team', found, found', equal⟩
  · exact Or.inl none
  · exact Or.inr ⟨team, team', found, found', ⟨equal⟩⟩

/-- A channel of one list and its counterpart. -/
theorem findChannel_alike {channels channels' : List Channel}
    (alike : channels.map Channel.blank = channels'.map Channel.blank) (uuid : Bytes) :
    (channels.find? (·.uuid = uuid) = none ∧ channels'.find? (·.uuid = uuid) = none) ∨
      ∃ channel channel', channels.find? (·.uuid = uuid) = some channel ∧
        channels'.find? (·.uuid = uuid) = some channel' ∧ channel.blank = channel'.blank :=
  alike_cases (find?_congr_map alike fun a b equal => by rw [Channel.blank_uuid_eq equal])

theorem Database.SameFor.findChannel (same : db.SameFor observer db') (teamUuid channelUuid : Bytes) :
    (db.findChannel teamUuid channelUuid = none ∧ db'.findChannel teamUuid channelUuid = none) ∨
      ∃ channel channel', db.findChannel teamUuid channelUuid = some channel ∧
        db'.findChannel teamUuid channelUuid = some channel' ∧ channel.blank = channel'.blank := by
  unfold Database.findChannel
  rcases same.findTeam teamUuid with ⟨none, none'⟩ | ⟨team, team', found, found', alike⟩
  · rw [none, none']
    exact Or.inl ⟨rfl, rfl⟩
  · rw [found, found']
    exact findChannel_alike alike.channels channelUuid

theorem Database.SameFor.findThread (same : db.SameFor observer db') (channelUuid threadUuid : Bytes) :
    (db.findThread channelUuid threadUuid = none ∧ db'.findThread channelUuid threadUuid = none) ∨
      ∃ thread thread', db.findThread channelUuid threadUuid = some thread ∧
        db'.findThread channelUuid threadUuid = some thread' ∧ thread.blank = thread'.blank := by
  unfold Database.findThread
  rcases findChannel_alike same.channels channelUuid with ⟨none, none'⟩ | ⟨channel, channel', found, found', alike⟩
  · rw [none, none']
    exact Or.inl ⟨rfl, rfl⟩
  · rw [found, found']
    exact alike_cases (find?_congr_map (Channel.blank_threads_eq alike) fun a b equal => by
      rw [Thread.blank_uuid_eq equal])

/-! Writes. -/

theorem Database.SameFor.of_parts
    (users : db.users.map (User.seenBy observer) = db'.users.map (User.seenBy observer))
    (teams : db.teams.map (Team.seenBy observer) = db'.teams.map (Team.seenBy observer)) :
    db.SameFor observer db' := by
  refine ⟨?_⟩
  unfold Database.seenBy
  rw [users, teams]

theorem Database.SameFor.addUser (same : db.SameFor observer db') (user : User) :
    ({ db with users := db.users ++ [user] } : Database).SameFor observer
      { db' with users := db'.users ++ [user] } := by
  refine .of_parts ?_ same.teams
  rw [List.map_append, List.map_append, same.users]

theorem Database.SameFor.addTeam (same : db.SameFor observer db') (team : Team) :
    ({ db with teams := db.teams ++ [team] } : Database).SameFor observer
      { db' with teams := db'.teams ++ [team] } := by
  refine .of_parts same.users ?_
  rw [List.map_append, List.map_append, same.teams]

theorem Database.SameFor.modifyUser (same : db.SameFor observer db') (uuid : Bytes) {f f' : User → User}
    (keeps : ∀ user user' : User, user.SameFor observer user' → user.uuid = uuid →
      (f user).SameFor observer (f' user')) :
    (db.modifyUser uuid f).SameFor observer (db'.modifyUser uuid f') := by
  refine .of_parts ?_ same.teams
  exact modifyFirst_congr_map same.users (fun a b equal => by rw [User.SameFor.uuid ⟨equal⟩])
    fun a b equal hit => (keeps a b ⟨equal⟩ (of_decide_eq_true hit)).seen

theorem Database.SameFor.modifyUserByName (same : db.SameFor observer db') (name : Bytes) {f : User → User}
    (keeps : ∀ user user' : User, user.SameFor observer user' → (f user).SameFor observer (f user')) :
    (db.modifyUserByName name f).SameFor observer (db'.modifyUserByName name f) := by
  refine .of_parts ?_ same.teams
  exact modifyFirst_congr_map same.users (fun a b equal => by rw [User.SameFor.name ⟨equal⟩])
    fun a b equal _ => (keeps a b ⟨equal⟩).seen

theorem Database.SameFor.modifyTeam (same : db.SameFor observer db') (uuid : Bytes) {f f' : Team → Team}
    (keeps : ∀ team team' : Team, team.SameFor observer team' → team.uuid = uuid →
      (f team).SameFor observer (f' team')) :
    (db.modifyTeam uuid f).SameFor observer (db'.modifyTeam uuid f') := by
  refine .of_parts same.users ?_
  exact modifyFirst_congr_map same.teams (fun a b equal => by rw [Team.SameFor.uuid ⟨equal⟩])
    fun a b equal hit => (keeps a b ⟨equal⟩ (of_decide_eq_true hit)).seen

end Databases

/-! ### Writes to a user or a team -/

section Writes

variable {observer : Observer} {user user' : User} {team team' : Team}

/-- Another number of connections. -/
theorem User.SameFor.withCount (same : user.SameFor observer user') (count : Nat) :
    ({ user with connectedCount := count } : User).SameFor observer { user' with connectedCount := count } := by
  have commutes : ∀ user : User, ({ user with connectedCount := count } : User).seenBy observer
      = { user.seenBy observer with connectedCount := count } := by
    intro user
    unfold User.seenBy
    split_ifs <;> rfl
  refine ⟨?_⟩
  rw [commutes, commutes, same.seen]

theorem User.SameFor.increment (same : user.SameFor observer user') :
    user.incrementConnection.SameFor observer user'.incrementConnection := by
  unfold User.incrementConnection
  rw [← same.connectedCount]
  exact same.withCount _

theorem User.SameFor.decrement (same : user.SameFor observer user') :
    user.decrementConnection.SameFor observer user'.decrementConnection := by
  unfold User.decrementConnection
  rw [← same.connectedCount]
  split_ifs
  · exact same.withCount _
  · exact same

/-- Other messages of a user who is not the observer. -/
theorem User.seenBy_withMessages (other : user.uuid ≠ observer.userUuid) (messages : SortedMap Bytes (List Message)) :
    ({ user with messages := messages } : User).seenBy observer
      = { user.seenBy observer with
          messages := messages.mapWithKey fun _ messages => messages.map Message.blank } := by
  unfold User.seenBy
  rw [if_neg other, if_neg other]

/-- One more message; its body may differ, unless the observer is told. -/
theorem User.SameFor.addMessage (same : user.SameFor observer user') (partner : Bytes) {message message' : Message}
    (blank : message.blank = message'.blank) (told : user.uuid = observer.userUuid → message = message') :
    (user.addMessage partner message).SameFor observer (user'.addMessage partner message') := by
  by_cases own : user.uuid = observer.userUuid
  · rw [same.own own, told own]
    exact ⟨rfl⟩
  have other : user'.uuid ≠ observer.userUuid := same.uuid ▸ own
  have seen := same.seen
  unfold User.seenBy at seen
  rw [if_neg own, if_neg other] at seen
  have messages : ∀ key, (user.messages.find? key).map (List.map Message.blank)
      = (user'.messages.find? key).map (List.map Message.blank) := by
    intro key
    have maps := congrArg (fun user : User => user.messages.find? key) seen
    simpa only [SortedMap.find?_mapWithKey] using maps
  have extended : ∀ (found found' : Option (List Message)), found.map (List.map Message.blank)
      = found'.map (List.map Message.blank) →
      (found.getD [] ++ [message]).map Message.blank = (found'.getD [] ++ [message']).map Message.blank := by
    intro found found' alike
    rcases alike_cases alike with ⟨rfl, rfl⟩ | ⟨old, old', rfl, rfl, equal⟩
    · exact congrArg (fun last => [last]) blank
    · rw [Option.getD_some, Option.getD_some, List.map_append, List.map_append, equal]
      exact congrArg (fun last => _ ++ [last]) blank
  have after : (user.addMessage partner message).messages.mapWithKey (fun _ messages => messages.map Message.blank)
      = (user'.addMessage partner message').messages.mapWithKey fun _ messages =>
        messages.map Message.blank := by
    refine SortedMap.ext_find? fun key => ?_
    unfold User.addMessage
    rw [SortedMap.find?_mapWithKey, SortedMap.find?_mapWithKey, SortedMap.find?_insert, SortedMap.find?_insert]
    split_ifs
    · exact congrArg some (extended _ _ (messages partner))
    · exact messages key
  refine ⟨?_⟩
  unfold User.addMessage at after ⊢
  rw [User.seenBy_withMessages own, User.seenBy_withMessages other, same.seen, after]

/-- Other subscribers. -/
theorem Team.SameFor.withSubscribers (same : team.SameFor observer team') (uuids : List Bytes) :
    ({ team with subscriberUuids := uuids } : Team).SameFor observer { team' with subscriberUuids := uuids } := by
  have commutes : ∀ team : Team, ({ team with subscriberUuids := uuids } : Team).seenBy observer
      = { team.seenBy observer with subscriberUuids := uuids } := by
    intro team
    unfold Team.seenBy
    split_ifs <;> rfl
  refine ⟨?_⟩
  rw [commutes, commutes, same.seen]

theorem Team.SameFor.addSubscriber (same : team.SameFor observer team') (userUuid : Bytes) :
    (team.addSubscriber userUuid).2.SameFor observer (team'.addSubscriber userUuid).2 := by
  unfold Team.addSubscriber
  rw [← same.isUserSubscribed, ← same.subscriberUuids]
  split_ifs
  · exact same
  · exact same.withSubscribers _

theorem Team.SameFor.removeSubscriber (same : team.SameFor observer team') (userUuid : Bytes) :
    (team.removeSubscriber userUuid).2.SameFor observer (team'.removeSubscriber userUuid).2 := by
  unfold Team.removeSubscriber
  rw [← same.subscriberUuids]
  split_ifs
  · exact same
  · exact same.withSubscribers _

/-- Other channels: the same change in a team that is open, a change up to texts in one that is hidden. -/
theorem Team.SameFor.withChannels (same : team.SameFor observer team') {f f' : List Channel → List Channel}
    (blank : ∀ channels channels' : List Channel, channels.map Channel.blank = channels'.map Channel.blank →
      (f channels).map Channel.blank = (f' channels').map Channel.blank)
    (told : observer.hidden team.uuid = false → f = f') :
    ({ team with channels := f team.channels } : Team).SameFor observer
      { team' with channels := f' team'.channels } := by
  cases shown : observer.hidden team.uuid with
  | false =>
    rw [told shown, same.open_eq shown]
    exact ⟨rfl⟩
  | true =>
    have description : team.description = team'.description := by
      simpa using congrArg Team.description same.seen
    exact .of_hidden same.uuid same.name description same.subscriberUuids
      (blank _ _ same.channels) shown

end Writes

/-! ### Servers that look the same -/

/-- What two servers have in common: the connection of the observer, the sessions of all others, the databases up
to the texts that are left out, and the counters. -/
structure Server.Alike (observer : Observer) (server server' : Server) : Prop where
  own : server.clients.find? observer.fd = server'.clients.find? observer.fd
  sessions : ∀ fd, server.session fd = server'.session fd
  db : server.db.SameFor observer server'.db
  uuidCalls : server.uuidCalls = server'.uuidCalls
  timeCalls : server.timeCalls = server'.timeCalls

section Servers

variable {observer : Observer} {server server' : Server}

theorem Server.Alike.refl (server : Server) : server.Alike observer server :=
  ⟨rfl, fun _ => rfl, ⟨rfl⟩, rfl, rfl⟩

theorem isSessionOf_of_found {fd : Int} {client : Client} (found : server.clients.find? fd = some client) :
    server.IsSessionOf fd client.userUuid := by
  unfold Server.IsSessionOf
  rw [session_of_found found]
  rfl

/-- Deliveries that the observer cannot tell apart. -/
theorem Server.Alike.deliver (alike : server.Alike observer server') {letters letters' : Letters}
    (same : ∀ client, server.clients.find? observer.fd = some client →
      letters observer.fd client.userUuid = letters' observer.fd client.userUuid) :
    (server.deliver letters).Alike observer (server'.deliver letters') := by
  refine ⟨?_, fun fd => ?_, alike.db, alike.uuidCalls, alike.timeCalls⟩
  · rw [Server.find?_deliver, Server.find?_deliver, ← alike.own]
    exact Option.map_congr fun client present => by rw [same client present]
  · rw [session_deliver, session_deliver]
    exact alike.sessions fd

/-- The same message to one connection, or different ones to a connection of somebody else. -/
theorem Server.Alike.sendToClient (alike : server.Alike observer server') (fd : Int) {frame frame' : Frame}
    (same : fd = observer.fd → frame = frame') :
    (server.sendToClient frame fd).Alike observer (server'.sendToClient frame' fd) := by
  rw [Server.sendToClient_eq, Server.sendToClient_eq]
  refine alike.deliver fun client _ => ?_
  by_cases own : observer.fd = fd
  · rw [same own.symm]
  · rw [Letters.toClient_of_ne own, Letters.toClient_of_ne own]

theorem Server.Alike.sendAllToClient (alike : server.Alike observer server') (fd : Int) {frames frames' : List Frame}
    (same : fd = observer.fd → frames = frames') :
    (server.sendAllToClient frames fd).Alike observer (server'.sendAllToClient frames' fd) := by
  rw [Server.sendAllToClient_eq, Server.sendAllToClient_eq]
  refine alike.deliver fun client _ => ?_
  by_cases own : observer.fd = fd
  · rw [same own.symm]
  · rw [Letters.toClient_of_ne own, Letters.toClient_of_ne own]

theorem Server.Alike.broadcast (alike : server.Alike observer server') (frame : Frame) :
    (server.broadcast frame).Alike observer (server'.broadcast frame) := by
  rw [Server.broadcast_eq, Server.broadcast_eq]
  exact alike.deliver fun _ _ => rfl

/-- The same message to a user, or different ones to a user who is not behind the connection of the observer. -/
theorem Server.Alike.sendToUser (alike : server.Alike observer server') (userUuid : Bytes) {frame frame' : Frame}
    (same : server.IsSessionOf observer.fd userUuid → frame = frame') :
    (server.sendToUser userUuid frame).Alike observer (server'.sendToUser userUuid frame') := by
  rw [Server.sendToUser_eq, Server.sendToUser_eq]
  refine alike.deliver fun client present => ?_
  unfold Letters.toUser
  split_ifs with told
  · rw [same (told ▸ isSessionOf_of_found present)]
  · rfl

/-- The same message to the subscribers of a team, or different ones where the observer is none of them. -/
theorem Server.Alike.notifySubscribers (alike : server.Alike observer server') {teamUuid : Bytes}
    {frame frame' : Frame}
    (same : ∀ userUuid team, server.IsSessionOf observer.fd userUuid → server.db.findTeam teamUuid = some team →
      userUuid ∈ team.subscriberUuids → frame = frame') :
    (server.notifySubscribers teamUuid frame).Alike observer (server'.notifySubscribers teamUuid frame') := by
  by_cases named : teamUuid = []
  · subst named
    exact alike
  rcases alike.db.findTeam teamUuid with ⟨missing, missing'⟩ | ⟨team, team', found, found', equal⟩
  · have still : ∀ {server : Server} (frame : Frame), server.db.findTeam teamUuid = none →
        server.notifySubscribers teamUuid frame = server := by
      intro server frame missing
      unfold Server.notifySubscribers
      rw [if_neg (by simpa using named), missing]
    rw [still _ missing, still _ missing']
    exact alike
  · rw [Server.notifySubscribers_eq named _ found, Server.notifySubscribers_eq named _ found']
    refine alike.deliver fun client present => ?_
    unfold Letters.toSubscribers
    rw [← equal.subscriberUuids]
    split_ifs with told
    · rw [same client.userUuid team (isSessionOf_of_found present) found told.2]
    · rfl

/-- A write to the client behind a connection that sets its session in the same way. -/
theorem Server.Alike.modifyClient (alike : server.Alike observer server') (fd : Int) {f f' : Client → Client}
    (session : ∀ client client' : Client, client.session = client'.session → (f client).session = (f' client').session)
    (own : fd = observer.fd → f = f') :
    (server.modifyClient fd f).Alike observer (server'.modifyClient fd f') := by
  have sessionOf : ∀ (server : Server) (f : Client → Client) (other : Int), (server.modifyClient fd f).session other
      = if other = fd then (server.clients.find? fd).map fun client => (f client).session
        else server.session other := by
    intro server f other
    unfold Server.session Server.modifyClient
    rw [SortedMap.find?_modify]
    split_ifs
    · exact Option.map_map _ _ _
    · rfl
  refine ⟨?_, fun other => ?_, alike.db, alike.uuidCalls, alike.timeCalls⟩
  · unfold Server.modifyClient
    rw [SortedMap.find?_modify, SortedMap.find?_modify]
    split_ifs with same
    · rw [own same.symm, ← same, alike.own]
    · exact alike.own
  · rw [sessionOf, sessionOf]
    split_ifs
    · have sessions := alike.sessions fd
      unfold Server.session at sessions
      rcases alike_cases sessions with ⟨none, none'⟩ | ⟨client, client', found, found', equal⟩
      · rw [none, none']
        rfl
      · rw [found, found']
        exact congrArg some (session client client' equal)
    · exact alike.sessions other

/-- A write that concerns the session only. -/
theorem Server.Alike.modifySession (alike : server.Alike observer server') (fd : Int) {f : Client → Client}
    (session : ∀ client client' : Client, client.session = client'.session → (f client).session = (f client').session) :
    (server.modifyClient fd f).Alike observer (server'.modifyClient fd f) :=
  alike.modifyClient fd session fun _ => rfl

theorem Server.Alike.modifyDb (alike : server.Alike observer server') (f f' : Database → Database)
    (same : (f server.db).SameFor observer (f' server'.db)) :
    (server.modifyDb f).Alike observer (server'.modifyDb f') :=
  ⟨alike.own, alike.sessions, same, alike.uuidCalls, alike.timeCalls⟩

theorem Server.Alike.generateUuid (alike : server.Alike observer server') :
    server.generateUuid.Alike observer server'.generateUuid :=
  ⟨alike.own, alike.sessions, alike.db, congrArg (· + 1) alike.uuidCalls, alike.timeCalls⟩

theorem Server.Alike.readTime (alike : server.Alike observer server') :
    server.readTime.Alike observer server'.readTime :=
  ⟨alike.own, alike.sessions, alike.db, alike.uuidCalls, congrArg (· + 1) alike.timeCalls⟩

theorem Server.Alike.nextUuid (alike : server.Alike observer server') (env : Env) :
    server.nextUuid env = server'.nextUuid env := by
  unfold Server.nextUuid
  rw [alike.uuidCalls]

theorem Server.Alike.nextTime (alike : server.Alike observer server') (env : Env) :
    server.nextTime env = server'.nextTime env := by
  unfold Server.nextTime
  rw [alike.timeCalls]

end Servers

end MyTeams
