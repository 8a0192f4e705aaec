/-
**The log tells the whole story.**

`Outline` is what a reader of the log can know of a database: every user with name, status and messages, every
team with its subscribers, and the channels, threads and replies below it. Descriptions, timestamps and the
uuids of replies are not logged. `Outline.record` reads one line of the log; a line about a channel, a thread or
a reply names the level above only.

* `modifyChannel_teams`, `modifyThread_teams` — the uuid of a channel or a thread is enough to find it;
* `log_command`, `step_recorded` — what a step logs makes the new outline out of the old one;
* `log_replays` — so does the log of a process, from the database that it has loaded.
-/

import MyTeams.Guarantees.Replicas
import MyTeams.Server.Log

namespace MyTeams

open Transition Replica FirstMatch

/-! ### The outline of a database -/

structure ThreadOutline where
  uuid : Bytes
  userUuid : Bytes
  title : Bytes
  body : Bytes
  /-- Author and text of each reply. -/
  replies : List (Bytes × Bytes) := []
deriving DecidableEq

structure ChannelOutline where
  uuid : Bytes
  name : Bytes
  threads : List ThreadOutline := []
deriving DecidableEq

structure TeamOutline where
  uuid : Bytes
  name : Bytes
  subscribers : List Bytes
  channels : List ChannelOutline := []
deriving DecidableEq

structure UserOutline where
  uuid : Bytes
  name : Bytes
  online : Bool := false
  /-- Sender and text of each message, by the other user. -/
  messages : SortedMap Bytes (List (Bytes × Bytes)) := SortedMap.empty
deriving DecidableEq

structure Outline where
  users : List UserOutline := []
  teams : List TeamOutline := []
deriving DecidableEq

def Thread.outline (thread : Thread) : ThreadOutline where
  uuid := thread.uuid
  userUuid := thread.userUuid
  title := cString thread.title
  body := cString thread.body
  replies := thread.replies.map fun reply => (reply.userUuid, cString reply.body)

def Channel.outline (channel : Channel) : ChannelOutline where
  uuid := channel.uuid
  name := cString channel.name
  threads := channel.threads.map Thread.outline

def Team.outline (team : Team) : TeamOutline where
  uuid := team.uuid
  name := cString team.name
  subscribers := team.subscriberUuids
  channels := team.channels.map Channel.outline

def User.outline (user : User) : UserOutline where
  uuid := user.uuid
  name := cString user.name
  online := user.isConnected
  messages := user.messages.mapWithKey fun _ messages =>
    messages.map fun message => (message.senderUuid, cString message.body)

def Database.outline (db : Database) : Outline where
  users := db.users.map User.outline
  teams := db.teams.map Team.outline

/-! ### Reading the log -/

def ChannelOutline.mapThreads (f : ThreadOutline → ThreadOutline) (channel : ChannelOutline) : ChannelOutline :=
  { channel with threads := channel.threads.map f }

def TeamOutline.mapChannels (f : ChannelOutline → ChannelOutline) (team : TeamOutline) : TeamOutline :=
  { team with channels := team.channels.map f }

/-- Rewrite the user who has this uuid. -/
def Outline.atUser (uuid : Bytes) (f : UserOutline → UserOutline) (outline : Outline) : Outline :=
  { outline with users := outline.users.map fun user => if user.uuid = uuid then f user else user }

/-- Rewrite the team that has this uuid. -/
def Outline.atTeam (uuid : Bytes) (f : TeamOutline → TeamOutline) (outline : Outline) : Outline :=
  { outline with teams := outline.teams.map fun team => if team.uuid = uuid then f team else team }

/-- Rewrite the channel that has this uuid, in whatever team it is. -/
def Outline.atChannel (uuid : Bytes) (f : ChannelOutline → ChannelOutline) (outline : Outline) : Outline :=
  { outline with
    teams := outline.teams.map (TeamOutline.mapChannels fun channel =>
      if channel.uuid = uuid then f channel else channel) }

/-- Rewrite the thread that has this uuid, in whatever channel it is. -/
def Outline.atThread (uuid : Bytes) (f : ThreadOutline → ThreadOutline) (outline : Outline) : Outline :=
  { outline with
    teams := outline.teams.map (TeamOutline.mapChannels (ChannelOutline.mapThreads fun thread =>
      if thread.uuid = uuid then f thread else thread)) }

/-- One more message with a user. -/
def UserOutline.addMessage (partner : Bytes) (message : Bytes × Bytes) (user : UserOutline) : UserOutline :=
  { user with
    messages := user.messages.insert partner ((user.messages.find? partner).getD [] ++ [message]) }

/-- What a line of the log says. A new user is not online yet; a loaded one is not online any more. -/
def Outline.record (outline : Outline) : LogEvent → Outline
  | .teamCreated teamUuid teamName userUuid =>
    { outline with teams := outline.teams ++ [{ uuid := teamUuid, name := teamName, subscribers := [userUuid] }] }
  | .channelCreated teamUuid channelUuid channelName =>
    outline.atTeam teamUuid fun team =>
      { team with channels := team.channels ++ [{ uuid := channelUuid, name := channelName }] }
  | .threadCreated channelUuid threadUuid userUuid threadTitle threadBody =>
    outline.atChannel channelUuid fun channel =>
      { channel with
        threads := channel.threads
          ++ [{ uuid := threadUuid, userUuid := userUuid, title := threadTitle, body := threadBody }] }
  | .replyCreated threadUuid userUuid replyBody =>
    outline.atThread threadUuid fun thread => { thread with replies := thread.replies ++ [(userUuid, replyBody)] }
  | .userSubscribed teamUuid userUuid =>
    outline.atTeam teamUuid fun team => { team with subscribers := team.subscribers ++ [userUuid] }
  | .userUnsubscribed teamUuid userUuid =>
    outline.atTeam teamUuid fun team => { team with subscribers := team.subscribers.filter (· ≠ userUuid) }
  | .userCreated userUuid userName => { outline with users := outline.users ++ [{ uuid := userUuid, name := userName }] }
  | .userLoaded userUuid _ => outline.atUser userUuid fun user => { user with online := false }
  | .userLoggedIn userUuid => outline.atUser userUuid fun user => { user with online := true }
  | .userLoggedOut userUuid => outline.atUser userUuid fun user => { user with online := false }
  | .privateMessageSended senderUuid receiverUuid messageBody =>
    (outline.atUser senderUuid (UserOutline.addMessage receiverUuid (senderUuid, messageBody))).atUser receiverUuid
      (UserOutline.addMessage senderUuid (senderUuid, messageBody))

/-! ### Writes to the database -/

section Writes

variable {db : Database} {teamUuid channelUuid threadUuid : Bytes}

theorem Channel.mem_uuids {channel : Channel} {thread : Thread} (inside : thread ∈ channel.threads) :
    thread.uuid ∈ channel.uuids :=
  List.mem_cons_of_mem _ (List.mem_flatMap.mpr ⟨thread, inside, List.mem_cons_self⟩)

theorem Team.mem_uuids {team : Team} {channel : Channel} {uuid : Bytes} (inside : channel ∈ team.channels)
    (held : uuid ∈ channel.uuids) : uuid ∈ team.uuids :=
  List.mem_cons_of_mem _ (List.mem_flatMap.mpr ⟨channel, inside, held⟩)

theorem Team.mem_uuids_of_channel {team : Team} {channel : Channel} (inside : channel ∈ team.channels) :
    channel.uuid ∈ team.uuids := Team.mem_uuids inside List.mem_cons_self

/-- Rewritings that no element of a list is in for. -/
theorem map_ite_of_absent {α : Type} {key : α → Bytes} {uuid : Bytes} {f : α → α} {items : List α}
    (absent : ∀ item ∈ items, key item ≠ uuid) :
    items.map (fun item => if key item = uuid then f item else item) = items :=
  (List.map_congr_left fun item member => if_neg (absent item member)).trans (List.map_id _)

/-- A write to a channel, by its uuid alone. -/
theorem modifyChannel_teams (distinct : db.uuids.Nodup) {channel : Channel}
    (found : db.findChannel teamUuid channelUuid = some channel) (f : Channel → Channel) :
    (db.modifyChannel teamUuid channelUuid f).teams = db.teams.map fun team =>
      { team with channels := team.channels.map fun channel =>
          if channel.uuid = channelUuid then f channel else channel } := by
  obtain ⟨team, present, inside⟩ := Database.findChannel_eq_some_iff.mp found
  obtain ⟨stored, rfl⟩ := find?_key inside
  have teams : (db.teams.flatMap Team.uuids).Nodup := List.Nodup.of_append_right distinct
  have channels : (team.channels.map Channel.uuid).Nodup :=
    (List.nodup_flatMap.mp (Database.channels_nodup distinct)).1 team (find?_key present).1
  refine modifyFirst_eq_map_of_part teams present (Team.mem_uuids_of_channel stored) ?_ fun other absent => ?_
  · unfold Team.modifyChannel
    rw [modifyFirst_eq_map channels]
  · show ({ other with channels := _ } : Team) = other
    have missing : ∀ stray ∈ other.channels, stray.uuid ≠ channel.uuid := fun stray member same =>
      absent (same ▸ Team.mem_uuids_of_channel member)
    rw [map_ite_of_absent missing]

/-- A write to a thread, by its uuid alone. -/
theorem modifyThread_teams (distinct : db.uuids.Nodup) {thread : Thread}
    (found : db.findThread channelUuid threadUuid = some thread) (f : Thread → Thread) :
    (db.modifyThread channelUuid threadUuid f).teams = db.teams.map fun team =>
      { team with channels := team.channels.map fun channel =>
          { channel with threads := channel.threads.map fun thread =>
              if thread.uuid = threadUuid then f thread else thread } } := by
  obtain ⟨team, channel, owner, inside, deep⟩ := Database.findThread_split found
  obtain ⟨stored, -⟩ := find?_key inside
  obtain ⟨listed, rfl⟩ := find?_key deep
  have teams : (db.teams.flatMap Team.uuids).Nodup := List.Nodup.of_append_right distinct
  have channels : (team.channels.flatMap Channel.uuids).Nodup :=
    (List.nodup_cons.mp ((List.nodup_flatMap.mp teams).1 team (List.mem_of_find?_eq_some owner))).2
  have threads : (channel.threads.map Thread.uuid).Nodup := by
    have all : (channel.threads.flatMap Thread.uuids).Nodup :=
      (List.nodup_cons.mp ((List.nodup_flatMap.mp channels).1 channel stored)).2
    rw [List.map_eq_flatMap]
    exact (List.Sublist.flatMap_right _ fun thread _ => (List.nil_sublist _).cons_cons _).nodup all
  -- a channel that does not have the thread stays as it is
  have others : ∀ stray : Channel, thread.uuid ∉ stray.uuids →
      ({ stray with threads := stray.threads.map fun other =>
          if other.uuid = thread.uuid then f other else other } : Channel) = stray := by
    intro stray absent
    have missing : ∀ other ∈ stray.threads, other.uuid ≠ thread.uuid := fun other member same =>
      absent (same ▸ Channel.mem_uuids member)
    rw [map_ite_of_absent missing]
  refine modifyFirst_eq_map_of_part teams owner (Team.mem_uuids stored (Channel.mem_uuids listed)) ?_
    fun other absent => ?_
  · unfold Team.modifyChannel
    rw [modifyFirst_eq_map_of_part channels inside (Channel.mem_uuids listed) ?_ others]
    unfold Channel.modifyThread
    rw [modifyFirst_eq_map threads]
  · have same : other.channels.map (fun stray : Channel =>
        { stray with threads := stray.threads.map fun other =>
            if other.uuid = thread.uuid then f other else other }) = other.channels :=
      (List.map_congr_left fun stray member =>
        others stray fun held => absent (Team.mem_uuids member held)).trans (List.map_id _)
    show ({ other with channels := _ } : Team) = other
    rw [same]

/-- A write to a user. -/
theorem outline_writeUser (distinct : (db.users.map User.uuid).Nodup) {p : User → Bool} {f : User → User}
    {user : User} {g : UserOutline → UserOutline} (found : db.users.find? p = some user)
    (same : (f user).outline = g user.outline) :
    ({ db with users := modifyFirst p f db.users } : Database).outline = db.outline.atUser user.uuid g := by
  have users := map_modifyFirst_at UserOutline.uuid distinct (fun _ => rfl) found same
  unfold Database.outline Outline.atUser
  rw [users]

/-- A write to a team. -/
theorem outline_modifyTeam (distinct : db.uuids.Nodup) {f : Team → Team} {team : Team}
    {g : TeamOutline → TeamOutline} (found : db.findTeam teamUuid = some team)
    (same : (f team).outline = g team.outline) :
    (db.modifyTeam teamUuid f).outline = db.outline.atTeam teamUuid g := by
  have teams := map_modifyFirst_at TeamOutline.uuid (Database.teams_nodup distinct) (fun _ => rfl) found same
  rw [(find?_key found).2] at teams
  unfold Database.outline Outline.atTeam Database.modifyTeam
  rw [teams]

/-- A write to a channel. -/
theorem outline_modifyChannel (distinct : db.uuids.Nodup) {f : Channel → Channel} {channel : Channel}
    {g : ChannelOutline → ChannelOutline} (found : db.findChannel teamUuid channelUuid = some channel)
    (same : ∀ channel, (f channel).outline = g channel.outline) :
    (db.modifyChannel teamUuid channelUuid f).outline = db.outline.atChannel channelUuid g := by
  have each : ∀ channel : Channel, (if channel.uuid = channelUuid then f channel else channel).outline
      = if channel.outline.uuid = channelUuid then g channel.outline else channel.outline := by
    intro channel
    rw [apply_ite Channel.outline, same]
    rfl
  show Outline.mk _ ((db.modifyChannel teamUuid channelUuid f).teams.map Team.outline) = _
  rw [modifyChannel_teams distinct found, List.map_map]
  unfold Outline.atChannel Database.outline
  rw [List.map_map]
  congr 1
  refine List.map_congr_left fun team _ => ?_
  simp only [Function.comp_apply, Team.outline, TeamOutline.mapChannels, List.map_map]
  congr 1
  exact List.map_congr_left fun channel _ => each channel

/-- A write to a thread. -/
theorem outline_modifyThread (distinct : db.uuids.Nodup) {f : Thread → Thread} {thread : Thread}
    {g : ThreadOutline → ThreadOutline} (found : db.findThread channelUuid threadUuid = some thread)
    (same : ∀ thread, (f thread).outline = g thread.outline) :
    (db.modifyThread channelUuid threadUuid f).outline = db.outline.atThread threadUuid g := by
  have each : ∀ thread : Thread, (if thread.uuid = threadUuid then f thread else thread).outline
      = if thread.outline.uuid = threadUuid then g thread.outline else thread.outline := by
    intro thread
    rw [apply_ite Thread.outline, same]
    rfl
  show Outline.mk _ ((db.modifyThread channelUuid threadUuid f).teams.map Team.outline) = _
  rw [modifyThread_teams distinct found, List.map_map]
  unfold Outline.atThread Database.outline
  rw [List.map_map]
  congr 1
  refine List.map_congr_left fun team _ => ?_
  simp only [Function.comp_apply, Team.outline, TeamOutline.mapChannels, List.map_map]
  congr 1
  refine List.map_congr_left fun channel _ => ?_
  simp only [Function.comp_apply, Channel.outline, ChannelOutline.mapThreads, List.map_map]
  congr 1
  exact List.map_congr_left fun thread _ => each thread

end Writes

/-! ### Writes to a user, a channel and a thread -/

theorem User.outline_increment (user : User) :
    user.incrementConnection.outline = { user.outline with online := true } := by
  have online : user.incrementConnection.isConnected = true := decide_eq_true (Nat.succ_pos _)
  unfold User.outline
  rw [online]
  rfl

theorem User.outline_decrement (user : User) :
    user.decrementConnection.outline = { user.outline with online := user.decrementConnection.isConnected } := by
  unfold User.outline
  rw [User.decrementConnection_uuid, User.decrementConnection_name, User.decrementConnection_messages]

theorem User.outline_addMessage (partner : Bytes) (message : Message) (user : User) :
    (user.addMessage partner message).outline
      = user.outline.addMessage partner (message.senderUuid, cString message.body) := by
  have online : (user.addMessage partner message).isConnected = user.isConnected := rfl
  unfold User.outline UserOutline.addMessage
  rw [online]
  congr 1
  refine SortedMap.ext_find? fun key => ?_
  rw [SortedMap.find?_mapWithKey, SortedMap.find?_insert, SortedMap.find?_mapWithKey, User.addMessage,
    SortedMap.find?_insert, SortedMap.find?_mapWithKey]
  split_ifs with same
  · cases user.messages.find? partner <;> simp
  · rfl

theorem Team.outline_addSubscriber {team : Team} {userUuid : Bytes}
    (absent : ¬ team.isUserSubscribed userUuid = true) : (team.addSubscriber userUuid).2.outline
      = { team.outline with subscribers := team.outline.subscribers ++ [userUuid] } := by
  rw [Team.addSubscriber_of_absent absent]
  rfl

theorem Team.outline_removeSubscriber {team : Team} {userUuid : Bytes}
    (present : team.isUserSubscribed userUuid = true) : (team.removeSubscriber userUuid).2.outline
      = { team.outline with subscribers := team.outline.subscribers.filter (· ≠ userUuid) } := by
  rw [Team.removeSubscriber_of_present present]
  rfl

/-! ### Commands -/

/-- The uuids of a database can be told apart, and the library reads them whole. -/
structure Database.Identified (db : Database) : Prop where
  distinct : db.uuids.Nodup
  wellFormed : ∀ uuid ∈ db.uuids, IsUuid uuid

/-- What is logged in a state makes the outline of the next one out of its own. -/
def Recorded (log : List LogEvent) (before after : Database) : Prop :=
  after.outline = log.foldl Outline.record before.outline

section Commands

variable {env : Env} {fd : Int} {client : Client} {server : Server} {db : Database} {past : List Bytes}

theorem Recorded.nothing {after : Database} (same : after.outline = db.outline) : Recorded [] db after := same

theorem notifySubscribers_db (teamUuid : Bytes) (frame : Frame) (server : Server) :
    (server.notifySubscribers teamUuid frame).db = server.db := by
  unfold Server.notifySubscribers
  split_ifs
  · rfl
  · split <;> rfl

theorem Database.Identified.whole (identified : db.Identified) {uuid : Bytes} (member : uuid ∈ db.uuids) :
    cString uuid = uuid := cString_of_isUuid (identified.wellFormed uuid member)

theorem Database.Identified.users (identified : db.Identified) : (db.users.map User.uuid).Nodup :=
  identified.distinct.of_append_left

theorem nextUuid_whole (env : Env) (server : Server) : cString (server.nextUuid env) = server.nextUuid env :=
  cString_of_isUuid (env.uuid server.uuidCalls).2

theorem mem_uuids_of_findUser {uuid : Bytes} {user : User} (found : db.findUser uuid = some user) :
    uuid ∈ db.uuids := by
  obtain ⟨stored, rfl⟩ := find?_key found
  exact List.mem_append_left _ (List.mem_map_of_mem stored)

theorem mem_uuids_of_findChannel {teamUuid channelUuid : Bytes} {channel : Channel}
    (found : db.findChannel teamUuid channelUuid = some channel) : channelUuid ∈ db.uuids := by
  obtain ⟨team, present, inside⟩ := Database.findChannel_eq_some_iff.mp found
  obtain ⟨stored, rfl⟩ := find?_key inside
  exact List.mem_append_right _
    (List.mem_flatMap.mpr ⟨team, (find?_key present).1, Team.mem_uuids_of_channel stored⟩)

theorem mem_uuids_of_findThread {channelUuid threadUuid : Bytes} {thread : Thread}
    (found : db.findThread channelUuid threadUuid = some thread) : threadUuid ∈ db.uuids := by
  obtain ⟨team, channel, owner, inside, deep⟩ := Database.findThread_split found
  obtain ⟨listed, rfl⟩ := find?_key deep
  exact List.mem_append_right _ (List.mem_flatMap.mpr ⟨team, List.mem_of_find?_eq_some owner,
    Team.mem_uuids (find?_key inside).1 (Channel.mem_uuids listed)⟩)

/-- A new user is created, then logged in. -/
theorem outline_newUser {uuid : Bytes} (absent : uuid ∉ db.userUuids) (name : Bytes) :
    ({ db with users := db.users ++ [User.incrementConnection { uuid := uuid, name := name }] } : Database).outline
      = (db.outline.record (.userCreated uuid (cString name))).record (.userLoggedIn uuid) := by
  have others : ∀ user ∈ db.outline.users, user.uuid ≠ uuid := by
    intro outline member same
    obtain ⟨user, stored, rfl⟩ := List.mem_map.mp member
    exact absent (List.mem_map.mpr ⟨user, stored, same⟩)
  have created : User.outline (User.incrementConnection { uuid := uuid, name := name })
      = { uuid := uuid, name := cString name, online := true } := rfl
  show Outline.mk ((db.users ++ [_]).map User.outline) db.outline.teams
    = Outline.mk ((db.outline.users ++ [_]).map _) db.outline.teams
  rw [List.map_append, List.map_append, map_ite_of_absent others, List.map_singleton, List.map_singleton,
    if_pos rfl, created]
  rfl

/-- LOGIN. A new user gets a uuid that no user has. -/
theorem Login.recorded (identified : server.db.Identified)
    (supplied : Supplied env past server.uuidCalls server.db.uuids)
    (fresh : env.Fresh past (execute env fd client server).uuidCalls) :
    Recorded (log env client server) server.db (execute env fd client server).db := by
  unfold execute at fresh
  unfold execute log
  split_ifs at fresh ⊢
  · exact .nothing rfl
  · exact .nothing rfl
  · exact .nothing rfl
  · unfold Recorded createNewUserLog
    rw [nextUuid_whole]
    exact outline_newUser (supplied.users.next_not_mem fresh) (client.arg 1)
  · unfold logUserIn logUserInLog
    cases found : server.db.findUserByName (client.arg 1) with
    | none => exact .nothing rfl
    | some user =>
      have member : user.uuid ∈ server.db.uuids :=
        List.mem_append_left _ (List.mem_map_of_mem (List.mem_of_find?_eq_some found))
      simp only [identified.whole member]
      exact outline_writeUser identified.users found user.outline_increment

/-- The two ways in which a session ends. -/
theorem outline_leave (identified : db.Identified) {uuid : Bytes} {user : User}
    (found : db.findUser uuid = some user) :
    Recorded (if user.decrementConnection.isConnected then [] else [.userLoggedOut (cString uuid)]) db
      (db.modifyUser uuid User.decrementConnection) := by
  obtain ⟨-, rfl⟩ := find?_key found
  unfold Recorded
  split_ifs with still
  · refine congrArg (Outline.mk · _) (map_modifyFirst_of_found found ?_)
    have connected : user.isConnected = true := by
      rw [User.isConnected, decide_eq_true_eq] at still ⊢
      rw [User.decrementConnection_connectedCount] at still
      omega
    rw [User.outline_decrement, still, ← connected]
    rfl
  · rw [identified.whole (mem_uuids_of_findUser found)]
    refine outline_writeUser identified.users found ?_
    rw [User.outline_decrement, Bool.eq_false_of_not_eq_true still]

/-- LOGOUT. -/
theorem Logout.recorded (identified : server.db.Identified) :
    Recorded (log client server) server.db (execute fd client server).db := by
  unfold execute log
  split_ifs
  · exact .nothing rfl
  · cases found : server.db.findUser client.userUuid with
    | none => exact .nothing rfl
    | some user =>
      have left := outline_leave identified found
      simp only
      split_ifs at left ⊢
      · exact left
      · exact left

/-- CREATE outside a team. -/
theorem Create.executeTeam_recorded (session : client.userUuid ≠ [])
    (author : cString client.userUuid = client.userUuid) :
    Recorded (executeTeamLog env client server) server.db (executeTeam env fd client server).db := by
  unfold executeTeam executeTeamLog
  split_ifs
  · exact .nothing rfl
  · exact .nothing rfl
  · exact .nothing rfl
  · unfold Recorded emitTeamCreatedLog
    rw [author, nextUuid_whole]
    exact congrArg (Outline.mk _) List.map_append

/-- CREATE in a team. -/
theorem Create.executeChannel_recorded (identified : server.db.Identified) :
    Recorded (executeChannelLog env client server) server.db (executeChannel env fd client server).db := by
  unfold executeChannel executeChannelLog
  rcases findAccessibleTeam_cases client.context.teamUuid teamUuid_known with
    ⟨frame, refused, -⟩ | ⟨team, accessible, present, -⟩
  · rw [refused]
    exact .nothing rfl
  rw [accessible]
  simp only [Server.orSend]
  split_ifs
  · exact .nothing rfl
  · exact .nothing rfl
  · exact .nothing rfl
  · unfold emitChannelCreated emitChannelCreatedLog
    rw [nextUuid_whole, identified.whole (mem_uuids_of_findTeam present), notifySubscribers_db]
    refine outline_modifyTeam identified.distinct present ?_
    exact congrArg (TeamOutline.mk _ _ _) List.map_append

/-- CREATE in a channel. -/
theorem Create.executeThread_recorded (identified : server.db.Identified)
    (author : cString client.userUuid = client.userUuid) :
    Recorded (executeThreadLog env client server) server.db (executeThread env fd client server).db := by
  unfold executeThread executeThreadLog
  rcases findAccessibleTeam_cases client.context.teamUuid teamUuid_known with
    ⟨frame, refused, -⟩ | ⟨team, accessible, -, -⟩
  · rw [refused]
    exact .nothing rfl
  rw [accessible]
  rcases findChannelOrSend404_cases client.context.teamUuid client.context.channelUuid channelUuid_known with
    ⟨frame, refused, -⟩ | ⟨channel, reached, inside⟩
  · rw [refused]
    exact .nothing rfl
  rw [reached]
  simp only [Server.orSend]
  split_ifs
  · exact .nothing rfl
  · exact .nothing rfl
  · exact .nothing rfl
  · unfold emitThreadCreated emitThreadCreatedLog
    rw [nextUuid_whole, identified.whole (mem_uuids_of_findChannel inside), author, notifySubscribers_db]
    refine outline_modifyChannel identified.distinct inside fun channel => ?_
    exact congrArg (ChannelOutline.mk _ _) List.map_append

/-- CREATE in a thread. -/
theorem Create.executeReply_recorded (identified : server.db.Identified)
    (author : cString client.userUuid = client.userUuid) :
    Recorded (executeReplyLog env client server) server.db (executeReply env fd client server).db := by
  unfold executeReply executeReplyLog
  rcases findAccessibleTeam_cases client.context.teamUuid teamUuid_known with
    ⟨frame, refused, -⟩ | ⟨team, accessible, -, -⟩
  · rw [refused]
    exact .nothing rfl
  rw [accessible]
  rcases findChannelOrSend404_cases client.context.teamUuid client.context.channelUuid channelUuid_known with
    ⟨frame, refused, -⟩ | ⟨channel, reached, -⟩
  · rw [refused]
    exact .nothing rfl
  rw [reached]
  rcases findThreadOrSend404_cases client.context.channelUuid client.context.threadUuid threadUuid_known with
    ⟨frame, refused, -⟩ | ⟨thread, met, deep⟩
  · rw [refused]
    exact .nothing rfl
  rw [met]
  simp only [Server.orSend]
  split_ifs
  · exact .nothing rfl
  · exact .nothing rfl
  · unfold emitReplyCreated emitReplyCreatedLog
    rw [identified.whole (mem_uuids_of_findThread deep), author, notifySubscribers_db]
    refine outline_modifyThread identified.distinct deep fun thread => ?_
    exact congrArg (ThreadOutline.mk _ _ _ _) List.map_append

/-- CREATE. -/
theorem Create.recorded (identified : server.db.Identified)
    (known : client.userUuid = [] ∨ client.userUuid ∈ server.db.userUuids) :
    Recorded (log env client server) server.db (execute env fd client server).db := by
  have author : client.userUuid ≠ [] → cString client.userUuid = client.userUuid := fun session =>
    identified.whole (List.mem_append_left _ (known.resolve_left session))
  unfold execute log
  split_ifs with session
  · exact .nothing rfl
  · exact executeTeam_recorded session (author session)
  · exact executeChannel_recorded identified
  · exact executeThread_recorded identified (author session)
  · exact executeReply_recorded identified (author session)

/-- SUBSCRIBE. -/
theorem Subscribe.recorded (identified : server.db.Identified)
    (known : client.userUuid = [] ∨ client.userUuid ∈ server.db.userUuids) :
    Recorded (log client server) server.db (execute fd client server).db := by
  unfold execute log
  split_ifs with session
  · exact .nothing rfl
  · exact .nothing rfl
  · cases found : server.db.findTeam (client.arg 1) with
    | none => exact .nothing rfl
    | some team =>
      simp only
      split_ifs with present
      · exact .nothing rfl
      · exact .nothing rfl
      · have subscriber := identified.whole (List.mem_append_left _ (known.resolve_left session))
        rw [identified.whole (mem_uuids_of_findTeam found), subscriber, Server.sendToClient_db, notifySubscribers_db]
        exact outline_modifyTeam identified.distinct found (Team.outline_addSubscriber present)

/-- UNSUBSCRIBE. -/
theorem Unsubscribe.recorded (identified : server.db.Identified)
    (known : client.userUuid = [] ∨ client.userUuid ∈ server.db.userUuids) :
    Recorded (log client server) server.db (execute fd client server).db := by
  unfold execute log
  split_ifs with session
  · exact .nothing rfl
  · exact .nothing rfl
  · cases found : server.db.findTeam (client.arg 1) with
    | none => exact .nothing rfl
    | some team =>
      simp only
      split_ifs with absent
      · exact .nothing rfl
      · exact .nothing rfl
      · have subscriber := identified.whole (List.mem_append_left _ (known.resolve_left session))
        rw [identified.whole (mem_uuids_of_findTeam found), subscriber, Server.sendToClient_db, notifySubscribers_db]
        exact outline_modifyTeam identified.distinct found
          (Team.outline_removeSubscriber (Bool.eq_true_of_not_eq_false absent))

/-- A message is stored with its sender, then with its receiver. -/
theorem outline_exchange (identified : db.Identified) {senderUuid receiverUuid : Bytes}
    {senderUser receiverUser : User} (sender : db.findUser senderUuid = some senderUser)
    (receiver : db.findUser receiverUuid = some receiverUser) (message : Message) :
    ((db.modifyUser senderUuid (User.addMessage receiverUuid message)).modifyUser receiverUuid
        (User.addMessage senderUuid message)).outline
      = (db.outline.atUser senderUuid
          (UserOutline.addMessage receiverUuid (message.senderUuid, cString message.body))).atUser receiverUuid
          (UserOutline.addMessage senderUuid (message.senderUuid, cString message.body)) := by
  have sent : (db.modifyUser senderUuid (User.addMessage receiverUuid message)).outline
      = db.outline.atUser senderUuid
        (UserOutline.addMessage receiverUuid (message.senderUuid, cString message.body)) := by
    have written := outline_writeUser identified.users sender (senderUser.outline_addMessage receiverUuid message)
    rwa [(find?_key sender).2] at written
  have same : (db.modifyUser senderUuid (User.addMessage receiverUuid message)).users.map User.uuid
      = db.users.map User.uuid := map_modifyFirst (f := User.addMessage receiverUuid message) fun _ => rfl
  have users := identified.users
  rw [← same] at users
  -- the receiver is still there, and may be the sender
  obtain ⟨user, found⟩ : ∃ user, (db.modifyUser senderUuid (User.addMessage receiverUuid message)).findUser
      receiverUuid = some user := by
    rcases find?_modifyFirst_cases (p := (·.uuid = senderUuid)) (f := User.addMessage receiverUuid message)
      (fun _ => rfl) receiver with same | ⟨-, changed⟩
    · exact ⟨_, same⟩
    · exact ⟨_, changed⟩
  have written := outline_writeUser users found (user.outline_addMessage senderUuid message)
  rw [(find?_key found).2, sent] at written
  exact written

/-- SEND. A message to oneself is added twice, by the server and by the reader of the log. -/
theorem Send.recorded (identified : server.db.Identified) :
    Recorded (log client server) server.db (execute env fd client server).db := by
  unfold execute log
  split_ifs
  · exact .nothing rfl
  · exact .nothing rfl
  cases sender : server.db.findUser client.userUuid with
  | none => exact .nothing rfl
  | some senderUser =>
    cases receiver : server.db.findUser (client.arg 1) with
    | none => exact .nothing rfl
    | some receiverUser =>
      simp only [(find?_key sender).2, (find?_key receiver).2, identified.whole (mem_uuids_of_findUser sender),
        identified.whole (mem_uuids_of_findUser receiver)]
      exact outline_exchange identified sender receiver _

/-- The seven commands that log nothing. -/
theorem silent_recorded {verb : Verb} (found : server.clients.find? fd = some client)
    (silent : verb ∈ [Verb.list, .use, .info, .subscribed, .messages, .user, .users]) :
    Recorded [] server.db (verb.command env fd client server).db := by
  obtain ⟨outcome, serves, same⟩ : Served env fd client server verb _ := commands_serve verb found
  rw [same]
  refine .nothing (congrArg Database.outline (?_ : outcome.db = server.db))
  cases serves with
  | refused | shown | useNothing | useTeam | useChannel | useThread | useNoChannel | useNoThread => rfl
  | _ => exact absurd silent (by decide)

/-- **What a command logs is what it does.** -/
theorem log_command (verb : Verb) (found : server.clients.find? fd = some client) (identified : server.db.Identified)
    (known : client.userUuid = [] ∨ client.userUuid ∈ server.db.userUuids)
    (supplied : Supplied env past server.uuidCalls server.db.uuids)
    (fresh : env.Fresh past (verb.command env fd client server).uuidCalls) :
    Recorded (verb.log env client server) server.db (verb.command env fd client server).db := by
  cases verb with
  | create => exact Create.recorded identified known
  | subscribe => exact Subscribe.recorded identified known
  | unsubscribe => exact Unsubscribe.recorded identified known
  | login => exact Login.recorded identified supplied fresh
  | logout => exact Logout.recorded identified
  | send => exact Send.recorded identified
  | list | use | info | subscribed | messages | user | users => exact silent_recorded found (by decide)

end Commands

/-! ### Steps -/

section Steps

variable {env : Env} {server : Server} {db : Database} {past : List Bytes}

/-- The user of a lost connection. -/
theorem disconnect_recorded (identified : server.db.Identified) (fd : Int) :
    Recorded (server.disconnectLog fd) server.db (server.disconnectClient fd).db := by
  unfold Server.disconnectLog Server.disconnectClient
  cases server.clients.find? fd with
  | none => exact .nothing rfl
  | some client =>
    simp only
    split_ifs with session
    · exact .nothing rfl
    cases found : server.db.findUser client.userUuid with
    | none => exact .nothing rfl
    | some user =>
      have left := outline_leave identified found
      simp only [(find?_key found).2]
      split_ifs at left ⊢
      · exact left
      · exact left

/-- The lines about loaded users, in any outline. -/
theorem foldl_loaded (loaded : List User) (whole : ∀ user ∈ loaded, cString user.uuid = user.uuid)
    (outline : Outline) :
    (loaded.map fun user => LogEvent.userLoaded (cString user.uuid) (cString user.name)).foldl Outline.record outline
      = { outline with users := outline.users.map fun user =>
            if user.uuid ∈ loaded.map User.uuid then { user with online := false } else user } := by
  induction loaded generalizing outline with
  | nil => simp
  | cons user rest ih =>
    obtain ⟨first, later⟩ := List.forall_mem_cons.mp whole
    rw [List.map_cons, List.foldl_cons, ih later, first]
    unfold Outline.record Outline.atUser
    simp only [List.map_map]
    congr 1
    refine List.map_congr_left fun line _ => ?_
    by_cases same : line.uuid = user.uuid
    · simp [same]
    · simp [same]

/-- **A load logs that everybody is offline**, and changes nothing else that is logged. -/
theorem load_recorded (identified : db.Identified) (convert : Int → Int) :
    Recorded (SaveManager.loadLog (db.reloaded convert)) db (db.reloaded convert) := by
  have whole : ∀ user ∈ (db.reloaded convert).users, cString user.uuid = user.uuid := by
    intro user member
    obtain ⟨stored, inside, rfl⟩ := List.mem_map.mp member
    exact identified.whole (List.mem_append_left _ (List.mem_map.mpr ⟨stored, inside, rfl⟩))
  have uuids : (db.reloaded convert).users.map User.uuid = db.users.map User.uuid := List.map_map
  have users : ∀ user : User, (user.reloaded convert).outline = { user.outline with online := false } := by
    intro user
    unfold User.outline
    congr 1
    refine SortedMap.ext_find? fun key => ?_
    simp only [SortedMap.find?_mapWithKey, User.reloaded, Option.map_map]
    congr 1
    funext messages
    exact List.map_map
  have teams : ∀ team : Team, (team.mapTime convert).outline = team.outline := by
    intro team
    simp only [Team.outline, Team.mapTime, List.map_map]
    congr 1
    refine List.map_congr_left fun channel _ => ?_
    simp only [Function.comp_apply, Channel.outline, Channel.mapTime, List.map_map]
    congr 1
    refine List.map_congr_left fun thread _ => ?_
    simp only [Function.comp_apply, Thread.outline, Thread.mapTime, List.map_map]
    rfl
  unfold Recorded SaveManager.loadLog
  rw [foldl_loaded _ whole, uuids]
  unfold Database.outline Database.reloaded
  simp only [List.map_map]
  congr 1
  · refine List.map_congr_left fun user member => ?_
    exact (users user).trans (if_pos (List.mem_map_of_mem member)).symm
  · exact List.map_congr_left fun team _ => teams team

/-- The first load of a process logs what its database says. -/
theorem start_recorded (identified : db.Identified) (offline : ∀ user ∈ db.users, user.connectedCount = 0) :
    Recorded (SaveManager.loadLog db) db db := by
  unfold Recorded SaveManager.loadLog
  rw [foldl_loaded _ fun user member => identified.whole (List.mem_append_left _ (List.mem_map_of_mem member))]
  have lines : db.outline.users.map (fun line =>
      if line.uuid ∈ db.users.map User.uuid then { line with online := false } else line) = db.outline.users := by
    refine (List.map_congr_left fun line member => ?_).trans (List.map_id _)
    obtain ⟨user, stored, rfl⟩ := List.mem_map.mp member
    have shown : user.isConnected = false := by
      unfold User.isConnected
      rw [offline user stored]
      rfl
    refine (if_pos (List.mem_map_of_mem stored)).trans ?_
    unfold User.outline
    rw [shown]
    rfl
  rw [lines]

/-- **What a step logs makes the new outline out of the old one.** -/
theorem step_recorded (event : Event) (identified : server.db.Identified) (counted : Counted server)
    (supplied : Supplied env past server.uuidCalls server.db.uuids)
    (fresh : env.Fresh past (server.step env event).uuidCalls) :
    Recorded (server.stepLog env event) server.db (server.step env event).db := by
  cases event with
  | accept fd =>
    refine .nothing ?_
    rfl
  | buffer | consume | write | updateFlags => exact .nothing rfl
  | line fd rawCommand =>
    show Recorded (CommandHandling.log env rawCommand fd server) server.db
      (CommandHandling.handleCommand env rawCommand fd server).db
    replace fresh : env.Fresh past (CommandHandling.handleCommand env rawCommand fd server).uuidCalls := fresh
    unfold CommandHandling.handleCommand at fresh
    unfold CommandHandling.log CommandHandling.handleCommand
    cases found : server.clients.find? fd with
    | none => exact .nothing rfl
    | some client =>
      rw [found] at fresh
      cases parsed : CommandHandling.parseArgs rawCommand with
      | nil => exact .nothing rfl
      | cons name rest =>
        rw [parsed] at fresh
        simp only at fresh ⊢
        cases registered : CommandHandling.verbs.lookup name with
        | none => exact .nothing rfl
        | some verb =>
          simp only [registered] at fresh ⊢
          exact log_command verb (find?_setArgs found _) identified (counted.bound fd client found) supplied fresh
  | disconnect fd => exact disconnect_recorded identified fd
  | restart =>
    show Recorded (SaveManager.loadLog (server.restart env).db) server.db (server.restart env).db
    rw [restart_db]
    exact load_recorded identified _

/-- Saved databases are identified. -/
theorem SelfSaved.isUuid (saved : SelfSaved db) : ∀ uuid ∈ db.uuids, IsUuid uuid := by
  induction saved with
  | empty => exact List.forall_mem_nil _
  | @saved db env events earlier fresh ih =>
    rw [restart_db, Database.reloaded_uuids]
    have supplied : Supplied env db.uuids 0 db.uuids := ⟨earlier.distinct.nodup, fun _ => Or.inl⟩
    intro uuid member
    rcases (run_supplied supplied events fresh).known uuid member with old | ⟨i, -, rfl⟩
    · exact ih uuid old
    · exact (env.uuid i).2

end Steps

/-! ### The log of a process -/

theorem run_logging_server (env : Env) (logging : Logging) (events : List Event) :
    (run (Logging.step env) logging events).server = run (Server.step env) logging.server events := by
  induction events generalizing logging with
  | nil => rfl
  | cons event rest ih => exact ih (logging.step env event)

/-- **The log tells the whole story.** A process loads a database that such processes have saved. Whatever the
clients then do, and however often the process is stopped and started again, the lines of its log, read one after
the other, make the outline of its database out of that of the database which it loaded. -/
theorem log_replays (env : Env) {db : Database} (start : SelfSaved db) (events : List Event)
    (fresh : env.Fresh db.uuids (run (Logging.step env) (Logging.start db) events).server.uuidCalls) :
    let life := run (Logging.step env) (Logging.start db) events
    life.server.db.outline = life.log.foldl Outline.record db.outline := by
  intro life
  have identified : db.Identified := ⟨start.distinct.nodup, start.isUuid⟩
  have supplied : Supplied env db.uuids 0 db.uuids := ⟨start.distinct.nodup, fun _ => Or.inl⟩
  rw [run_logging_server] at fresh
  have follows : Follows (fun logging : Logging => logging.server.db.outline) Logging.log Outline.record
      (Logging.start db) life := by
    refine run_follows fun early event initial => ?_
    have now := fresh_of_before initial fresh
    have server := run_logging_server env (Logging.start db) early
    rw [run_concat] at now
    have before := fresh_earlier _ event now
    have owned := run_supplied supplied early before
    refine ⟨_, rfl, ?_⟩
    show Recorded (Server.stepLog env (run (Logging.step env) (Logging.start db) early).server event)
      (run (Logging.step env) (Logging.start db) early).server.db
      (Server.step env (run (Logging.step env) (Logging.start db) early).server event).db
    rw [server]
    refine step_recorded event ⟨owned.nodup, fun uuid member => ?_⟩
      (run_counted start.loaded.counted start.loaded.supplied early before) owned now
    rcases owned.known uuid member with old | ⟨i, -, rfl⟩
    · exact start.isUuid uuid old
    · exact (env.uuid i).2
  obtain ⟨news, told, seen⟩ := follows
  have loading : (Logging.start db).log.foldl Outline.record db.outline = db.outline :=
    (start_recorded identified start.loaded.offline).symm
  rw [told, List.foldl_append, loading]
  exact seen

/-- Two users in a team, one of them leaves it and hangs up, one writes to herself; then the server restarts. -/
theorem log_replays_sample :
    let use := fun level => ascii "/use \"" ++ (digitUuid 1).1 ++ ascii "\"" ++
      (if level = 1 then [] else ascii " \"" ++ (digitUuid 2).1 ++ ascii "\"") ++
      (if level < 3 then [] else ascii " \"" ++ (digitUuid 3).1 ++ ascii "\"")
    let events := [Event.accept 4, .line 4 (ascii "/login \"ann\""), .line 4 (ascii "/create \"red\" \"first\""),
      .line 4 (use 1), .line 4 (ascii "/create \"hall\" \"big\""), .line 4 (use 2),
      .line 4 (ascii "/create \"one\" \"more\""), .line 4 (use 3), .line 4 (ascii "/create \"yes\""),
      .accept 5, .line 5 (ascii "/login \"bob\""),
      .line 5 (ascii "/subscribe \"" ++ (digitUuid 1).1 ++ ascii "\""),
      .line 5 (ascii "/send \"" ++ (digitUuid 0).1 ++ ascii "\" \"hi\""),
      .line 5 (ascii "/unsubscribe \"" ++ (digitUuid 1).1 ++ ascii "\""), .disconnect 5,
      .line 4 (ascii "/send \"" ++ (digitUuid 0).1 ++ ascii "\" \"ho\""), .restart]
    let life := run (Logging.step sampleEnv) (Logging.start {}) events
    life.server.db.outline = life.log.foldl Outline.record {} ∧ life.log.length = 15 := by
  intro use events life
  exact ⟨log_replays sampleEnv .empty events (sampleEnv_fresh.of_le (by decide +kernel)), by decide +kernel⟩

end MyTeams
