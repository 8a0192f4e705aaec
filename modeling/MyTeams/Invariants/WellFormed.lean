/-
**The database is well formed.**

`Database.WellFormed`: no uuid is empty or repeated, names and titles are distinct where a duplicate
is refused, every text has a length that the commands allow, and every reference to a user is the
uuid of a user of the database. The references are checked against the list `known` of these uuids,
which only grows (`mono`).

* `serves_wellFormed`, `step_wellFormed` — every step keeps this;
* `run_wellFormed`, `SelfSaved.wellFormed` — so does every run, and a database that was saved and
  loaded again.
-/

import MyTeams.Invariants.Contexts
import MyTeams.Invariants.Sessions

namespace MyTeams

open Transition FirstMatch

/-- A text of at least one and at most `limit` bytes. -/
def Sized (limit : Nat) (text : Bytes) : Prop := 1 ≤ text.length ∧ text.length ≤ limit

section Definitions

variable (known : List Bytes)

structure Reply.WellFormed (reply : Reply) : Prop where
  userUuid : reply.userUuid ∈ known
  body : Sized 512 reply.body

structure Thread.WellFormed (thread : Thread) : Prop where
  userUuid : thread.userUuid ∈ known
  title : Sized 32 thread.title
  body : Sized 512 thread.body
  replies : ∀ reply ∈ thread.replies, reply.WellFormed known

structure Channel.WellFormed (channel : Channel) : Prop where
  name : Sized 32 channel.name
  description : Sized 255 channel.description
  titles : (channel.threads.map Thread.title).Nodup
  threads : ∀ thread ∈ channel.threads, thread.WellFormed known

structure Team.WellFormed (team : Team) : Prop where
  name : Sized 32 team.name
  description : Sized 255 team.description
  distinct : team.subscriberUuids.Nodup
  subscribers : ∀ uuid ∈ team.subscriberUuids, uuid ∈ known
  names : (team.channels.map Channel.name).Nodup
  channels : ∀ channel ∈ team.channels, channel.WellFormed known

/-- A message of the conversation between the user `userUuid` and the user `key`. -/
structure Message.WellFormed (userUuid key : Bytes) (message : Message) : Prop where
  sender : message.senderUuid ∈ known
  receiver : message.receiverUuid ∈ known
  between : message.senderUuid = userUuid ∧ message.receiverUuid = key ∨
    message.senderUuid = key ∧ message.receiverUuid = userUuid
  body : Sized 512 message.body

structure User.WellFormed (user : User) : Prop where
  name : Sized 32 user.name
  keys : ∀ key messages, user.messages.find? key = some messages → key ∈ known
  messages : ∀ key messages, user.messages.find? key = some messages →
    ∀ message ∈ messages, message.WellFormed known user.uuid key

end Definitions

structure Database.WellFormed (db : Database) : Prop where
  distinct : Distinct db.uuids
  userNames : (db.users.map User.name).Nodup
  teamNames : (db.teams.map Team.name).Nodup
  users : ∀ user ∈ db.users, user.WellFormed db.userUuids
  teams : ∀ team ∈ db.teams, team.WellFormed db.userUuids

theorem sized_of_checks {text : Bytes} {limit : Nat} (nonempty : text ≠ []) (fits : text.length ≤ limit) :
    Sized limit text := ⟨List.length_pos_of_ne_nil nonempty, fits⟩

theorem sized_of_valid {text : Bytes} {limit : Nat} (valid : Create.isInvalidLength text limit = false) :
    Sized limit text :=
  have ⟨nonempty, fits⟩ := Create.isInvalidLength_eq_false_iff.mp valid
  sized_of_checks nonempty fits

/-! ### More users -/

section Mono

variable {known more : List Bytes} (sub : ∀ uuid ∈ known, uuid ∈ more)

include sub

theorem Reply.WellFormed.mono {reply : Reply} (proper : reply.WellFormed known) :
    reply.WellFormed more := ⟨sub _ proper.userUuid, proper.body⟩

theorem Thread.WellFormed.mono {thread : Thread} (proper : thread.WellFormed known) :
    thread.WellFormed more :=
  ⟨sub _ proper.userUuid, proper.title, proper.body, fun reply member =>
    (proper.replies reply member).mono sub⟩

theorem Channel.WellFormed.mono {channel : Channel} (proper : channel.WellFormed known) :
    channel.WellFormed more :=
  ⟨proper.name, proper.description, proper.titles, fun thread member =>
    (proper.threads thread member).mono sub⟩

theorem Team.WellFormed.mono {team : Team} (proper : team.WellFormed known) : team.WellFormed more :=
  ⟨proper.name, proper.description, proper.distinct, fun uuid member =>
    sub _ (proper.subscribers uuid member), proper.names, fun channel member =>
    (proper.channels channel member).mono sub⟩

theorem User.WellFormed.mono {user : User} (proper : user.WellFormed known) : user.WellFormed more := by
  refine ⟨proper.name, fun key messages found => sub _ (proper.keys key messages found), ?_⟩
  intro key messages found message member
  have old := proper.messages key messages found message member
  exact ⟨sub _ old.sender, sub _ old.receiver, old.between, old.body⟩

end Mono

/-! ### Writes to one record -/

section Records

variable {known : List Bytes}

theorem Thread.WellFormed.addReply {thread : Thread} (proper : thread.WellFormed known) {reply : Reply}
    (new : reply.WellFormed known) :
    Thread.WellFormed known { thread with replies := thread.replies ++ [reply] } :=
  ⟨proper.userUuid, proper.title, proper.body, forall_concat proper.replies new⟩

/-- A name that is not in a list of distinct names may be added to it. -/
theorem nodup_map_concat {α : Type} {name : α → Bytes} {items : List α} {added : α}
    (distinct : (items.map name).Nodup) (new : ∀ item ∈ items, name item ≠ name added) :
    ((items ++ [added]).map name).Nodup := by
  rw [List.map_append, List.map_singleton, ← List.concat_eq_append]
  refine distinct.concat fun member => ?_
  obtain ⟨item, stored, same⟩ := List.mem_map.mp member
  exact new item stored same

theorem Channel.WellFormed.addThread {channel : Channel} (proper : channel.WellFormed known)
    {thread : Thread} (fresh : ∀ other ∈ channel.threads, other.title ≠ thread.title)
    (new : thread.WellFormed known) :
    Channel.WellFormed known { channel with threads := channel.threads ++ [thread] } :=
  ⟨proper.name, proper.description, nodup_map_concat proper.titles fresh,
    forall_concat proper.threads new⟩

theorem Channel.WellFormed.modifyThread {channel : Channel} (proper : channel.WellFormed known)
    {uuid : Bytes} {f : Thread → Thread} {thread : Thread}
    (found : channel.threads.find? (·.uuid = uuid) = some thread)
    (titles : ∀ thread : Thread, (f thread).title = thread.title) (new : (f thread).WellFormed known) :
    (channel.modifyThread uuid f).WellFormed known := by
  refine ⟨proper.name, proper.description, ?_, forall_modifyFirst_of_found proper.threads found new⟩
  rw [Channel.modifyThread, map_modifyFirst titles]
  exact proper.titles

theorem Team.WellFormed.addChannel {team : Team} (proper : team.WellFormed known) {channel : Channel}
    (fresh : ∀ other ∈ team.channels, other.name ≠ channel.name) (new : channel.WellFormed known) :
    Team.WellFormed known { team with channels := team.channels ++ [channel] } :=
  ⟨proper.name, proper.description, proper.distinct, proper.subscribers,
    nodup_map_concat proper.names fresh, forall_concat proper.channels new⟩

theorem Team.WellFormed.modifyChannel {team : Team} (proper : team.WellFormed known) {uuid : Bytes}
    {f : Channel → Channel} {channel : Channel}
    (found : team.channels.find? (·.uuid = uuid) = some channel)
    (names : ∀ channel : Channel, (f channel).name = channel.name)
    (new : (f channel).WellFormed known) : (team.modifyChannel uuid f).WellFormed known := by
  refine ⟨proper.name, proper.description, proper.distinct, proper.subscribers, ?_,
    forall_modifyFirst_of_found proper.channels found new⟩
  rw [Team.modifyChannel, map_modifyFirst names]
  exact proper.names

theorem Team.WellFormed.addSubscriber {team : Team} (proper : team.WellFormed known) {userUuid : Bytes}
    (user : userUuid ∈ known) : (team.addSubscriber userUuid).2.WellFormed known := by
  unfold Team.addSubscriber
  split_ifs with present
  · exact proper
  · refine ⟨proper.name, proper.description, ?_, forall_concat proper.subscribers user, proper.names,
      proper.channels⟩
    rw [← List.concat_eq_append]
    exact proper.distinct.concat fun member => present (Team.isUserSubscribed_iff.mpr member)

theorem Team.WellFormed.removeSubscriber {team : Team} (proper : team.WellFormed known)
    (userUuid : Bytes) : (team.removeSubscriber userUuid).2.WellFormed known := by
  unfold Team.removeSubscriber
  split_ifs
  · exact proper
  · exact ⟨proper.name, proper.description, proper.distinct.filter _, fun uuid member =>
      proper.subscribers uuid (List.mem_of_mem_filter member), proper.names, proper.channels⟩

theorem User.WellFormed.incrementConnection {user : User} (proper : user.WellFormed known) :
    user.incrementConnection.WellFormed known := ⟨proper.name, proper.keys, proper.messages⟩

theorem User.WellFormed.decrementConnection {user : User} (proper : user.WellFormed known) :
    user.decrementConnection.WellFormed known := by
  unfold User.decrementConnection
  split_ifs
  · exact ⟨proper.name, proper.keys, proper.messages⟩
  · exact proper

theorem User.WellFormed.addMessage {user : User} (proper : user.WellFormed known) {key : Bytes}
    (partner : key ∈ known) {message : Message} (new : message.WellFormed known user.uuid key) :
    (user.addMessage key message).WellFormed known := by
  have cases : ∀ {other messages}, (user.addMessage key message).messages.find? other = some messages →
      other = key ∧ messages = (user.messages.find? key).getD [] ++ [message] ∨
        user.messages.find? other = some messages := by
    intro other messages found
    unfold User.addMessage at found
    rw [SortedMap.find?_insert] at found
    split_ifs at found with same
    · exact Or.inl ⟨same, (Option.some.inj found).symm⟩
    · exact Or.inr found
  refine ⟨proper.name, fun other messages found => ?_, fun other messages found => ?_⟩
  · rcases cases found with ⟨rfl, -⟩ | old
    · exact partner
    · exact proper.keys other messages old
  · rcases cases found with ⟨rfl, rfl⟩ | old
    · refine forall_concat (fun earlier member => ?_) new
      cases present : user.messages.find? other with
      | none =>
        rw [present] at member
        cases member
      | some conversation =>
        rw [present] at member
        exact proper.messages other conversation present earlier member
    · exact proper.messages other messages old

/-! Timestamps are no part of it. -/

theorem Thread.WellFormed.mapTime {thread : Thread} (proper : thread.WellFormed known) (f : Int → Int) :
    (thread.mapTime f).WellFormed known :=
  ⟨proper.userUuid, proper.title, proper.body, List.forall_mem_map.mpr fun reply member =>
    have old := proper.replies reply member
    ⟨old.userUuid, old.body⟩⟩

theorem Channel.WellFormed.mapTime {channel : Channel} (proper : channel.WellFormed known)
    (f : Int → Int) : (channel.mapTime f).WellFormed known := by
  have titles : (channel.threads.map (Thread.mapTime f)).map Thread.title
      = channel.threads.map Thread.title := List.map_map
  refine ⟨proper.name, proper.description, ?_, List.forall_mem_map.mpr fun thread member =>
    (proper.threads thread member).mapTime f⟩
  rw [Channel.mapTime, titles]
  exact proper.titles

theorem Team.WellFormed.mapTime {team : Team} (proper : team.WellFormed known) (f : Int → Int) :
    (team.mapTime f).WellFormed known := by
  have names : (team.channels.map (Channel.mapTime f)).map Channel.name
      = team.channels.map Channel.name := List.map_map
  refine ⟨proper.name, proper.description, proper.distinct, proper.subscribers, ?_,
    List.forall_mem_map.mpr fun channel member => (proper.channels channel member).mapTime f⟩
  rw [Team.mapTime, names]
  exact proper.names

theorem User.WellFormed.reloaded {user : User} (proper : user.WellFormed known) (f : Int → Int) :
    (user.reloaded f).WellFormed known := by
  have conversations : ∀ {key messages}, (user.reloaded f).messages.find? key = some messages →
      ∃ before, user.messages.find? key = some before ∧
        messages = before.map (Message.mapTime f) := by
    intro key messages found
    unfold User.reloaded at found
    rw [SortedMap.find?_mapWithKey] at found
    obtain ⟨before, present, same⟩ := Option.map_eq_some_iff.mp found
    exact ⟨before, present, same.symm⟩
  refine ⟨proper.name, fun key messages found => ?_, fun key messages found => ?_⟩
  · obtain ⟨before, present, -⟩ := conversations found
    exact proper.keys key before present
  · obtain ⟨before, present, rfl⟩ := conversations found
    refine List.forall_mem_map.mpr fun message member => ?_
    have old := proper.messages key before present message member
    exact ⟨old.sender, old.receiver, old.between, old.body⟩

end Records

/-! ### Writes to the database -/

section Writes

variable {db after : Database}

/-- A write to one user that keeps uuids and names. -/
theorem Database.WellFormed.modifyUsers (proper : db.WellFormed) {p : User → Bool} {f : User → User}
    (uuids : ∀ user : User, (f user).uuid = user.uuid) (names : ∀ user : User, (f user).name = user.name)
    (new : ∀ user ∈ db.users, p user = true → user.WellFormed db.userUuids →
      (f user).WellFormed db.userUuids)
    (distinct : Distinct ({ db with users := modifyFirst p f db.users } : Database).uuids) :
    Database.WellFormed { db with users := modifyFirst p f db.users } := by
  have same : ({ db with users := modifyFirst p f db.users } : Database).userUuids = db.userUuids :=
    map_modifyFirst uuids
  refine ⟨distinct, ?_, proper.teamNames, fun user member => ?_, ?_⟩
  · show ((modifyFirst p f db.users).map User.name).Nodup
    rw [map_modifyFirst names]
    exact proper.userNames
  · rw [same]
    rcases mem_modifyFirst member with old | ⟨source, inside, hit, rfl⟩
    · exact proper.users user old
    · exact new source inside hit (proper.users source inside)
  · rw [same]
    exact proper.teams

/-- A write to one team that keeps names. -/
theorem Database.WellFormed.modifyTeams (proper : db.WellFormed) {p : Team → Bool} {f : Team → Team}
    {team : Team} (found : db.teams.find? p = some team)
    (names : ∀ team : Team, (f team).name = team.name)
    (new : team.WellFormed db.userUuids → (f team).WellFormed db.userUuids)
    (distinct : Distinct ({ db with teams := modifyFirst p f db.teams } : Database).uuids) :
    Database.WellFormed { db with teams := modifyFirst p f db.teams } := by
  refine ⟨distinct, proper.userNames, ?_, proper.users, ?_⟩
  · show ((modifyFirst p f db.teams).map Team.name).Nodup
    rw [map_modifyFirst names]
    exact proper.teamNames
  · exact forall_modifyFirst_of_found proper.teams found
      (new (proper.teams team (List.mem_of_find?_eq_some found)))

theorem Database.WellFormed.addUser (proper : db.WellFormed) {user : User}
    (fresh : ∀ other ∈ db.users, other.name ≠ user.name) (name : Sized 32 user.name)
    (bare : user.messages = SortedMap.empty)
    (distinct : Distinct ({ db with users := db.users ++ [user] } : Database).uuids) :
    Database.WellFormed { db with users := db.users ++ [user] } := by
  have sub : ∀ uuid ∈ db.userUuids,
      uuid ∈ ({ db with users := db.users ++ [user] } : Database).userUuids := by
    intro uuid member
    unfold Database.userUuids
    rw [List.map_append]
    exact List.mem_append_left _ member
  refine ⟨distinct, nodup_map_concat proper.userNames fresh, proper.teamNames,
    forall_concat (fun other member => (proper.users other member).mono sub) ⟨name, ?_, ?_⟩,
    fun team member => (proper.teams team member).mono sub⟩
  · intro key messages found
    rw [bare] at found
    cases found
  · intro key messages found
    rw [bare] at found
    cases found

theorem Database.WellFormed.addTeam (proper : db.WellFormed) {team : Team}
    (fresh : ∀ other ∈ db.teams, other.name ≠ team.name) (new : team.WellFormed db.userUuids)
    (distinct : Distinct ({ db with teams := db.teams ++ [team] } : Database).uuids) :
    Database.WellFormed { db with teams := db.teams ++ [team] } :=
  ⟨distinct, proper.userNames, nodup_map_concat proper.teamNames fresh, proper.users,
    forall_concat proper.teams new⟩

/-- **A restart keeps the database well formed.** -/
theorem Database.WellFormed.reloaded (proper : db.WellFormed) (f : Int → Int) :
    (db.reloaded f).WellFormed := by
  have sameUsers : (db.reloaded f).users.map User.name = db.users.map User.name := List.map_map
  have sameTeams : (db.reloaded f).teams.map Team.name = db.teams.map Team.name := List.map_map
  refine ⟨?_, ?_, ?_, ?_, ?_⟩
  · rw [Database.reloaded_uuids]
    exact proper.distinct
  · rw [sameUsers]
    exact proper.userNames
  · rw [sameTeams]
    exact proper.teamNames
  · rw [Database.reloaded_userUuids]
    exact List.forall_mem_map.mpr fun user member => (proper.users user member).reloaded f
  · rw [Database.reloaded_userUuids]
    exact List.forall_mem_map.mpr fun team member => (proper.teams team member).mapTime f

end Writes

/-! ### Steps -/

section Steps

variable {env : Env} {fd : Int} {client : Client} {server after : Server} {verb : Verb}
  {outcome : Outcome}

theorem userUuid_known {db : Database} {uuid : Bytes} {user : User}
    (found : db.findUser uuid = some user) : user.uuid ∈ db.userUuids ∧ user.uuid = uuid := by
  obtain ⟨stored, key⟩ := find?_key found
  exact ⟨List.mem_map_of_mem stored, key⟩

/-- A user of the database is found by its uuid. -/
theorem exists_findUser {db : Database} {uuid : Bytes} (member : uuid ∈ db.userUuids) :
    ∃ user, db.findUser uuid = some user := by
  obtain ⟨user, stored, key⟩ := List.mem_map.mp member
  exact Option.isSome_iff_exists.mp (List.find?_isSome.mpr ⟨user, stored, decide_eq_true key⟩)

/-- **A command keeps the database well formed.** -/
theorem serves_wellFormed (proper : server.db.WellFormed)
    (session : client.userUuid = [] ∨ client.userUuid ∈ server.db.userUuids)
    (serves : Serves env fd client server verb outcome) (distinct : Distinct outcome.db.uuids) :
    outcome.db.WellFormed := by
  have user : client.userUuid ≠ [] → client.userUuid ∈ server.db.userUuids := session.resolve_left
  have left : ∀ {found : User}, server.db.findUser client.userUuid = some found →
      Distinct (server.db.modifyUser client.userUuid User.decrementConnection).uuids →
      (server.db.modifyUser client.userUuid User.decrementConnection).WellFormed := fun _ distinct =>
    proper.modifyUsers User.decrementConnection_uuid User.decrementConnection_name
      (fun _ _ _ old => old.decrementConnection) distinct
  cases serves with
  | loginNew _ _ named fits missing made =>
    subst made
    refine proper.addUser (fun other member same => ?_) (sized_of_checks named fits) rfl distinct
    exact List.find?_eq_none.mp missing other member (decide_eq_true same)
  | loginAgain =>
    exact proper.modifyUsers User.incrementConnection_uuid User.incrementConnection_name
      (fun _ _ _ old => old.incrementConnection) distinct
  | logout _ present => exact left present distinct
  | logoutLast _ present => exact left present distinct
  | createTeam loggedIn _ _ name description fresh made =>
    subst made
    refine proper.addTeam fresh ⟨sized_of_valid name, sized_of_valid description,
      List.nodup_singleton _, fun uuid member => ?_, List.nodup_nil,
      fun _ member => absurd member List.not_mem_nil⟩ distinct
    rw [List.mem_singleton.mp member]
    exact user loggedIn
  | createChannel _ _ _ present _ name description fresh made =>
    subst made
    refine proper.modifyTeams present (fun _ => rfl) (fun old => old.addChannel fresh ?_) distinct
    exact ⟨sized_of_valid name, sized_of_valid description, List.nodup_nil,
      fun _ member => absurd member List.not_mem_nil⟩
  | createThread allowed _ _ _ _ inside _ title body fresh made =>
    subst made
    obtain ⟨team, present, within⟩ := Database.findChannel_eq_some_iff.mp inside
    refine proper.modifyTeams present (fun _ => rfl) (fun old =>
      old.modifyChannel within (fun _ => rfl) ?_) distinct
    have channel := old.channels _ (List.mem_of_find?_eq_some within)
    refine channel.addThread fresh ⟨user allowed.loggedIn, sized_of_valid title, sized_of_valid body,
      fun _ member => absurd member List.not_mem_nil⟩
  | createReply allowed _ _ _ _ _ found _ body made =>
    subst made
    obtain ⟨team, channel, owner, within, deeper⟩ := Database.findThread_split found
    refine proper.modifyTeams owner (fun _ => rfl) (fun old =>
      old.modifyChannel within (fun _ => rfl) ?_) distinct
    have channel := old.channels _ (List.mem_of_find?_eq_some within)
    refine channel.modifyThread deeper (fun _ => rfl) ?_
    exact (channel.threads _ (List.mem_of_find?_eq_some deeper)).addReply
      ⟨user allowed.loggedIn, sized_of_valid body⟩
  | subscribe loggedIn _ _ present =>
    exact proper.modifyTeams present (Team.addSubscriber_name _)
      (fun old => old.addSubscriber (user loggedIn)) distinct
  | unsubscribe _ _ _ present =>
    exact proper.modifyTeams present (Team.removeSubscriber_name _)
      (fun old => old.removeSubscriber _) distinct
  | @send sender receiver message _ _ nonempty fits sending receiving made =>
    obtain ⟨senderKnown, senderKey⟩ := userUuid_known sending
    obtain ⟨receiverKnown, receiverKey⟩ := userUuid_known receiving
    have text := sized_of_checks nonempty fits
    have same := Database.uuids_modifyUser (f := User.addMessage receiver.uuid message) server.db
      client.userUuid (User.addMessage_uuid _ _)
    have first : (server.db.modifyUser client.userUuid
        (User.addMessage receiver.uuid message)).WellFormed := by
      refine proper.modifyUsers (User.addMessage_uuid _ _) (User.addMessage_name _ _)
        (fun stored _ hit old => old.addMessage receiverKnown ?_) (same ▸ proper.distinct)
      rw [made]
      exact ⟨senderKnown, receiverKnown, Or.inl ⟨senderKey.trans (of_decide_eq_true hit).symm, rfl⟩,
        text⟩
    have known : (server.db.modifyUser client.userUuid
        (User.addMessage receiver.uuid message)).userUuids = server.db.userUuids :=
      map_modifyFirst (User.addMessage_uuid _ _)
    refine first.modifyUsers (User.addMessage_uuid _ _) (User.addMessage_name _ _)
      (fun stored _ hit old => old.addMessage (known ▸ senderKnown) ?_) distinct
    rw [known, made]
    exact ⟨senderKnown, receiverKnown, Or.inr ⟨rfl, receiverKey.trans (of_decide_eq_true hit).symm⟩,
      text⟩
  | _ => exact proper

/-- **Every step keeps the database well formed**, while sessions belong to users of the database. -/
theorem step_wellFormed {event : Event} (proper : server.db.WellFormed)
    (bound : ∀ fd client, server.clients.find? fd = some client →
      client.userUuid = [] ∨ client.userUuid ∈ server.db.userUuids)
    (steps : Steps env server event after) (distinct : Distinct after.db.uuids) :
    after.db.WellFormed := by
  have left : ∀ uuid : Bytes, Distinct (server.db.modifyUser uuid User.decrementConnection).uuids →
      (server.db.modifyUser uuid User.decrementConnection).WellFormed := fun _ distinct =>
    proper.modifyUsers User.decrementConnection_uuid User.decrementConnection_name
      (fun _ _ _ old => old.decrementConnection) distinct
  cases steps with
  | served found _ serves =>
    have session := bound _ _ found
    refine serves_wellFormed ?_ ?_ serves distinct
    · exact proper
    · exact session
  | leftUser => exact left _ distinct
  | leftLast => exact left _ distinct
  | restarted => exact proper.reloaded _
  | _ => exact proper

end Steps

/-! ### Runs -/

section Runs

variable {env : Env}

/-- The start of a run: a well-formed database without connections. -/
structure Database.Loaded (db : Database) : Prop where
  wellFormed : db.WellFormed
  offline : ∀ user ∈ db.users, user.connectedCount = 0

theorem Database.Loaded.counted {db : Database} (loaded : db.Loaded) : Counted { db := db } :=
  counted_start db (fun member => loaded.wellFormed.distinct.named (List.mem_append_left _ member))
    loaded.offline

theorem Database.Loaded.supplied {db : Database} (loaded : db.Loaded) :
    Supplied env db.uuids 0 db.userUuids :=
  ⟨loaded.wellFormed.distinct.nodup.of_append_left, fun _ member =>
    Or.inl (List.mem_append_left _ member)⟩

theorem run_wellFormed {db : Database} (start : db.Loaded) (events : List Event)
    (fresh : env.Fresh db.uuids (run (Server.step env) { db := db } events).uuidCalls) :
    (run (Server.step env) { db := db } events).db.WellFormed := by
  induction events using List.reverseRecOn with
  | nil => exact start.wellFormed
  | append_singleton events event ih =>
    have distinct := run_distinct start.wellFormed.distinct (events ++ [event]) fresh
    rw [run_concat] at fresh distinct ⊢
    have earlier := fresh_earlier _ event fresh
    have counted := run_counted start.counted start.supplied events earlier
    exact step_wellFormed (ih earlier) counted.bound (step_steps env _ event) distinct

theorem SelfSaved.loaded {db : Database} (saved : SelfSaved db) : db.Loaded := by
  induction saved with
  | empty =>
    refine ⟨⟨⟨List.nodup_nil, List.not_mem_nil⟩, List.nodup_nil, List.nodup_nil, ?_, ?_⟩, ?_⟩ <;>
      exact fun _ member => absurd member List.not_mem_nil
  | saved env events _ fresh ih =>
    rw [restart_db]
    refine ⟨(run_wellFormed ih events fresh).reloaded _, List.forall_mem_map.mpr fun _ _ => rfl⟩

/-- **Database well-formedness.** From any database that a server process can load, every state of
every run (of inputs, and of the events that a read is cut into) is well formed. -/
theorem database_well_formed (env : Env) {db : Database} (start : SelfSaved db) :
    (∀ inputs, env.Fresh db.uuids (run (Server.handle env) { db := db } inputs).uuidCalls →
      (run (Server.handle env) { db := db } inputs).db.WellFormed) ∧
    ∀ events, env.Fresh db.uuids (run (Server.step env) { db := db } events).uuidCalls →
      (run (Server.step env) { db := db } events).db.WellFormed := by
  refine ⟨fun inputs fresh => ?_, fun events fresh => run_wellFormed start.loaded events fresh⟩
  rw [run_trace] at fresh ⊢
  exact run_wellFormed start.loaded _ fresh

/-- Two users, a team and a private message. -/
theorem database_well_formed_sample :
    let server := run (Server.handle sampleEnv) { db := {} } [.accept 4,
      .read 4 (ascii "/login \"ann\"\n/create \"red\" \"first\"\n"), .accept 5,
      .read 5 (ascii "/login \"bob\"\n/send \"" ++ (digitUuid 0).1 ++ ascii "\" \"hi\"\n")]
    server.db.users.length = 2 ∧ server.db.teams.length = 1 ∧ server.db.WellFormed :=
  ⟨by decide, by decide, (database_well_formed sampleEnv .empty).1 _ (sampleEnv_fresh.of_le (by decide))⟩

end Runs

end MyTeams
