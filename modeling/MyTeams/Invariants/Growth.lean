/-
**The database only grows.**

`Database.Kept clock before after`: every user, team, channel, thread and reply of `before` is still
there, at the same position and with the same uuid, names, texts and author, and new ones come behind
the old ones. The relation `clock` is what may happen to a timestamp: commands leave it alone, and a
restart replaces it by its value as a `double` (`Env.Clock`).

* `serves_kept`, `step_kept` — every step keeps what is there.
-/

import MyTeams.Lib.Growth
import MyTeams.Server.Machine

namespace MyTeams

open FirstMatch

section Relations

variable (clock : Int → Int → Prop)

structure Reply.Kept (before after : Reply) : Prop where
  uuid : after.uuid = before.uuid
  userUuid : after.userUuid = before.userUuid
  timestamp : clock before.timestamp after.timestamp
  body : after.body = before.body

structure Thread.Kept (before after : Thread) : Prop where
  uuid : after.uuid = before.uuid
  userUuid : after.userUuid = before.userUuid
  timestamp : clock before.timestamp after.timestamp
  title : after.title = before.title
  body : after.body = before.body
  replies : Grown (Reply.Kept clock) before.replies after.replies

structure Channel.Kept (before after : Channel) : Prop where
  uuid : after.uuid = before.uuid
  name : after.name = before.name
  description : after.description = before.description
  threads : Grown (Thread.Kept clock) before.threads after.threads

/-- The subscribers may change. -/
structure Team.Kept (before after : Team) : Prop where
  uuid : after.uuid = before.uuid
  name : after.name = before.name
  description : after.description = before.description
  channels : Grown (Channel.Kept clock) before.channels after.channels

/-- The connection count and the messages may change. -/
structure User.Kept (before after : User) : Prop where
  uuid : after.uuid = before.uuid
  name : after.name = before.name

structure Database.Kept (before after : Database) : Prop where
  users : Grown User.Kept before.users after.users
  teams : Grown (Team.Kept clock) before.teams after.teams

end Relations

section Reflexive

variable {clock : Int → Int → Prop}

theorem User.Kept.refl (user : User) : user.Kept user := ⟨rfl, rfl⟩

variable (same : ∀ time, clock time time)

include same

theorem Reply.Kept.refl (reply : Reply) : reply.Kept clock reply := ⟨rfl, rfl, same _, rfl⟩

theorem Thread.Kept.refl (thread : Thread) : thread.Kept clock thread :=
  ⟨rfl, rfl, same _, rfl, rfl, .refl (Reply.Kept.refl same) _⟩

theorem Channel.Kept.refl (channel : Channel) : channel.Kept clock channel :=
  ⟨rfl, rfl, rfl, .refl (Thread.Kept.refl same) _⟩

theorem Team.Kept.refl (team : Team) : team.Kept clock team :=
  ⟨rfl, rfl, rfl, .refl (Channel.Kept.refl same) _⟩

theorem Database.Kept.refl (db : Database) : db.Kept clock db :=
  ⟨.refl User.Kept.refl _, .refl (Team.Kept.refl same) _⟩

/-! ### Writes -/

theorem Thread.kept_addReply (thread : Thread) (reply : Reply) :
    thread.Kept clock { thread with replies := thread.replies ++ [reply] } :=
  ⟨rfl, rfl, same _, rfl, rfl, .append (Reply.Kept.refl same) _ _⟩

theorem Channel.kept_addThread (channel : Channel) (thread : Thread) :
    channel.Kept clock { channel with threads := channel.threads ++ [thread] } :=
  ⟨rfl, rfl, rfl, .append (Thread.Kept.refl same) _ _⟩

theorem Channel.kept_modifyThread {f : Thread → Thread} (keeps : ∀ thread : Thread, thread.Kept clock (f thread))
    (threadUuid : Bytes) (channel : Channel) :
    channel.Kept clock (channel.modifyThread threadUuid f) :=
  ⟨rfl, rfl, rfl, .modifyFirst (Thread.Kept.refl same) _ _ fun thread _ _ => keeps thread⟩

theorem Team.kept_addChannel (team : Team) (channel : Channel) :
    team.Kept clock { team with channels := team.channels ++ [channel] } :=
  ⟨rfl, rfl, rfl, .append (Channel.Kept.refl same) _ _⟩

theorem Team.kept_modifyChannel {f : Channel → Channel}
    (keeps : ∀ channel : Channel, channel.Kept clock (f channel)) (channelUuid : Bytes) (team : Team) :
    team.Kept clock (team.modifyChannel channelUuid f) :=
  ⟨rfl, rfl, rfl, .modifyFirst (Channel.Kept.refl same) _ _ fun channel _ _ => keeps channel⟩

theorem Team.kept_addSubscriber (userUuid : Bytes) (team : Team) :
    team.Kept clock (team.addSubscriber userUuid).2 := by
  unfold addSubscriber
  split_ifs
  · exact .refl same team
  · exact ⟨rfl, rfl, rfl, .refl (Channel.Kept.refl same) _⟩

theorem Team.kept_removeSubscriber (userUuid : Bytes) (team : Team) :
    team.Kept clock (team.removeSubscriber userUuid).2 := by
  unfold removeSubscriber
  split_ifs
  · exact .refl same team
  · exact ⟨rfl, rfl, rfl, .refl (Channel.Kept.refl same) _⟩

namespace Database

theorem kept_addUser (db : Database) (user : User) :
    db.Kept clock { db with users := db.users ++ [user] } :=
  ⟨.append User.Kept.refl _ _, .refl (Team.Kept.refl same) _⟩

theorem kept_addTeam (db : Database) (team : Team) :
    db.Kept clock { db with teams := db.teams ++ [team] } :=
  ⟨.refl User.Kept.refl _, .append (Team.Kept.refl same) _ _⟩

theorem kept_modifyUser (db : Database) (uuid : Bytes) {f : User → User}
    (keeps : ∀ user, User.Kept user (f user)) : db.Kept clock (db.modifyUser uuid f) :=
  ⟨.modifyFirst User.Kept.refl _ _ fun user _ _ => keeps user, .refl (Team.Kept.refl same) _⟩

theorem kept_modifyUserByName (db : Database) (name : Bytes) {f : User → User}
    (keeps : ∀ user, User.Kept user (f user)) : db.Kept clock (db.modifyUserByName name f) :=
  ⟨.modifyFirst User.Kept.refl _ _ fun user _ _ => keeps user, .refl (Team.Kept.refl same) _⟩

theorem kept_modifyTeam (db : Database) (uuid : Bytes) {f : Team → Team}
    (keeps : ∀ team : Team, team.Kept clock (f team)) : db.Kept clock (db.modifyTeam uuid f) :=
  ⟨.refl User.Kept.refl _, .modifyFirst (Team.Kept.refl same) _ _ fun team _ _ => keeps team⟩

theorem kept_modifyChannel (db : Database) (teamUuid channelUuid : Bytes) {f : Channel → Channel}
    (keeps : ∀ channel : Channel, channel.Kept clock (f channel)) :
    db.Kept clock (db.modifyChannel teamUuid channelUuid f) :=
  kept_modifyTeam same db teamUuid (Team.kept_modifyChannel same keeps channelUuid)

theorem kept_modifyThread (db : Database) (channelUuid threadUuid : Bytes) {f : Thread → Thread}
    (keeps : ∀ thread : Thread, thread.Kept clock (f thread)) :
    db.Kept clock (db.modifyThread channelUuid threadUuid f) :=
  ⟨.refl User.Kept.refl _, .modifyFirst (Team.Kept.refl same) _ _ fun team _ _ =>
    Team.kept_modifyChannel same (Channel.kept_modifyThread same keeps threadUuid) channelUuid team⟩

end Database

end Reflexive

theorem User.Kept.decrementConnection (user : User) : user.Kept user.decrementConnection :=
  ⟨user.decrementConnection_uuid, user.decrementConnection_name⟩

/-! ### Commands -/

section Steps

variable {env : Env} {fd : Int} {client : Client} {server after : Server} {verb : Verb}
  {outcome : Outcome} {clock : Int → Int → Prop}

/-- **A command keeps what is there.** -/
theorem serves_kept (same : ∀ time, clock time time)
    (serves : Serves env fd client server verb outcome) : server.db.Kept clock outcome.db := by
  cases serves with
  | loginNew => exact Database.kept_addUser same _ _
  | loginAgain => exact Database.kept_modifyUserByName same _ _ fun _ => ⟨rfl, rfl⟩
  | logout => exact Database.kept_modifyUser same _ _ User.Kept.decrementConnection
  | logoutLast => exact Database.kept_modifyUser same _ _ User.Kept.decrementConnection
  | createTeam => exact Database.kept_addTeam same _ _
  | createChannel => exact Database.kept_modifyTeam same _ _ fun team => Team.kept_addChannel same team _
  | createThread =>
    exact Database.kept_modifyChannel same _ _ _ fun channel => Channel.kept_addThread same channel _
  | createReply =>
    exact Database.kept_modifyThread same _ _ _ fun thread => Thread.kept_addReply same thread _
  | subscribe => exact Database.kept_modifyTeam same _ _ (Team.kept_addSubscriber same _)
  | unsubscribe => exact Database.kept_modifyTeam same _ _ (Team.kept_removeSubscriber same _)
  | @send sender receiver message =>
    have users : ∀ (items : List User) (uuid key : Bytes), Grown User.Kept items
        (modifyFirst (·.uuid = uuid) (User.addMessage key message) items) :=
      fun items uuid key => .modifyFirst User.Kept.refl _ _ fun _ _ _ => ⟨rfl, rfl⟩
    refine ⟨?_, .refl (Team.Kept.refl same) _⟩
    refine (users _ _ _).trans (users _ _ _) fun _ _ _ early late => ?_
    exact ⟨late.uuid.trans early.uuid, late.name.trans early.name⟩
  | _ => exact .refl same _

/-- What a restart may do to a timestamp. -/
def Env.Clock (env : Env) (before after : Int) : Prop := after = before ∨ after = reloadTime env.fp before

theorem Database.kept_reloaded {f : Int → Int} (keeps : ∀ time, clock time (f time)) (db : Database) :
    db.Kept clock (db.reloaded f) := by
  have replies : ∀ reply : Reply, reply.Kept clock (reply.mapTime f) :=
    fun reply => ⟨rfl, rfl, keeps _, rfl⟩
  have threads : ∀ thread : Thread, thread.Kept clock (thread.mapTime f) :=
    fun thread => ⟨rfl, rfl, keeps _, rfl, rfl, .map _ replies⟩
  have channels : ∀ channel : Channel, channel.Kept clock (channel.mapTime f) :=
    fun channel => ⟨rfl, rfl, rfl, .map _ threads⟩
  exact ⟨.map _ fun user => ⟨rfl, rfl⟩, .map _ fun team => ⟨rfl, rfl, rfl, .map _ channels⟩⟩

/-- **Every step keeps what is there.** -/
theorem step_kept {event : Event} (steps : Steps env server event after) :
    server.db.Kept env.Clock after.db := by
  have same : ∀ time, env.Clock time time := fun _ => Or.inl rfl
  cases steps with
  | served _ _ serves =>
    have kept := serves_kept same serves
    exact kept
  | leftUser => exact Database.kept_modifyUser same _ _ User.Kept.decrementConnection
  | leftLast => exact Database.kept_modifyUser same _ _ User.Kept.decrementConnection
  | restarted => exact Database.kept_reloaded (fun _ => Or.inr rfl) _
  | _ => exact .refl same _

end Steps

/-! ### Conversations -/

/-- The messages that a user keeps of its conversation with another one. -/
def User.conversation (key : Bytes) (user : User) : List Message := (user.messages.find? key).getD []

theorem User.conversation_addMessage (key other : Bytes) (message : Message) (user : User) :
    (user.addMessage key message).conversation other
      = if other = key then user.conversation other ++ [message] else user.conversation other := by
  unfold User.conversation User.addMessage
  rw [SortedMap.find?_insert]
  split_ifs with same
  · rw [same, Option.getD_some]
  · rfl

theorem User.conversation_reloaded (f : Int → Int) (key : Bytes) (user : User) :
    (user.reloaded f).conversation key = (user.conversation key).map (Message.mapTime f) := by
  unfold User.conversation User.reloaded
  rw [SortedMap.find?_mapWithKey]
  cases user.messages.find? key <;> rfl

section Relations

variable (clock : Int → Int → Prop)

structure Message.Kept (before after : Message) : Prop where
  senderUuid : after.senderUuid = before.senderUuid
  receiverUuid : after.receiverUuid = before.receiverUuid
  timestamp : clock before.timestamp after.timestamp
  body : after.body = before.body

/-- The connection count may change. -/
structure User.Archived (before after : User) : Prop where
  uuid : after.uuid = before.uuid
  name : after.name = before.name
  messages : ∀ key, Grown (Message.Kept clock) (before.conversation key) (after.conversation key)

/-- What is there stays there, the messages included. -/
structure Database.Preserved (before after : Database) : Prop where
  users : Grown (User.Archived clock) before.users after.users
  teams : Grown (Team.Kept clock) before.teams after.teams

end Relations

section Preserving

variable {env : Env} {fd : Int} {client : Client} {server after : Server} {verb : Verb}
  {outcome : Outcome} {clock : Int → Int → Prop} (same : ∀ time, clock time time)

include same

theorem Message.Kept.refl (message : Message) : message.Kept clock message := ⟨rfl, rfl, same _, rfl⟩

theorem User.Archived.refl (user : User) : user.Archived clock user :=
  ⟨rfl, rfl, fun _ => .refl (Message.Kept.refl same) _⟩

theorem User.archived_incrementConnection (user : User) :
    user.Archived clock user.incrementConnection := ⟨rfl, rfl, fun _ => .refl (Message.Kept.refl same) _⟩

theorem User.archived_decrementConnection (user : User) :
    user.Archived clock user.decrementConnection := by
  refine ⟨user.decrementConnection_uuid, user.decrementConnection_name, fun key => ?_⟩
  unfold User.conversation
  rw [user.decrementConnection_messages]
  exact .refl (Message.Kept.refl same) _

theorem User.archived_addMessage (key : Bytes) (message : Message) (user : User) :
    user.Archived clock (user.addMessage key message) := by
  refine ⟨rfl, rfl, fun other => ?_⟩
  rw [User.conversation_addMessage]
  split_ifs
  · exact .append (Message.Kept.refl same) _ _
  · exact .refl (Message.Kept.refl same) _

end Preserving

section Composition

variable {clock : Int → Int → Prop}
  (compose : ∀ first second third : Int, clock first second → clock second third → clock first third)

include compose

theorem Message.Kept.trans {first second third : Message} (early : first.Kept clock second)
    (late : second.Kept clock third) : first.Kept clock third :=
  ⟨late.senderUuid.trans early.senderUuid, late.receiverUuid.trans early.receiverUuid,
    compose _ _ _ early.timestamp late.timestamp, late.body.trans early.body⟩

theorem User.Archived.trans {first second third : User} (early : first.Archived clock second)
    (late : second.Archived clock third) : first.Archived clock third :=
  ⟨late.uuid.trans early.uuid, late.name.trans early.name, fun key =>
    (early.messages key).trans (late.messages key) fun _ _ _ => Message.Kept.trans compose⟩

theorem Reply.Kept.trans {first second third : Reply} (early : first.Kept clock second)
    (late : second.Kept clock third) : first.Kept clock third :=
  ⟨late.uuid.trans early.uuid, late.userUuid.trans early.userUuid,
    compose _ _ _ early.timestamp late.timestamp, late.body.trans early.body⟩

theorem Thread.Kept.trans {first second third : Thread} (early : first.Kept clock second)
    (late : second.Kept clock third) : first.Kept clock third :=
  ⟨late.uuid.trans early.uuid, late.userUuid.trans early.userUuid,
    compose _ _ _ early.timestamp late.timestamp, late.title.trans early.title, late.body.trans early.body,
    early.replies.trans late.replies fun _ _ _ => Reply.Kept.trans compose⟩

theorem Channel.Kept.trans {first second third : Channel} (early : first.Kept clock second)
    (late : second.Kept clock third) : first.Kept clock third :=
  ⟨late.uuid.trans early.uuid, late.name.trans early.name, late.description.trans early.description,
    early.threads.trans late.threads fun _ _ _ => Thread.Kept.trans compose⟩

theorem Team.Kept.trans {first second third : Team} (early : first.Kept clock second)
    (late : second.Kept clock third) : first.Kept clock third :=
  ⟨late.uuid.trans early.uuid, late.name.trans early.name, late.description.trans early.description,
    early.channels.trans late.channels fun _ _ _ => Channel.Kept.trans compose⟩

theorem Database.Preserved.trans {first second third : Database} (early : first.Preserved clock second)
    (late : second.Preserved clock third) : first.Preserved clock third :=
  ⟨early.users.trans late.users fun _ _ _ => User.Archived.trans compose,
    early.teams.trans late.teams fun _ _ _ => Team.Kept.trans compose⟩

end Composition

section PreservingSteps

variable {env : Env} {fd : Int} {client : Client} {server after : Server} {verb : Verb}
  {outcome : Outcome} {clock : Int → Int → Prop} (same : ∀ time, clock time time)
  (compose : ∀ first second third : Int, clock first second → clock second third → clock first third)

include same compose

/-- **A command preserves what is there**, the messages included. -/
theorem serves_preserved (serves : Serves env fd client server verb outcome) :
    server.db.Preserved clock outcome.db := by
  refine ⟨?_, (serves_kept same serves).teams⟩
  have write : ∀ (p : User → Bool) {f : User → User} (users : List User),
      (∀ user : User, user.Archived clock (f user)) →
      Grown (User.Archived clock) users (modifyFirst p f users) :=
    fun p f users keeps => .modifyFirst (User.Archived.refl same) p users fun user _ _ => keeps user
  cases serves with
  | loginNew => exact .append (User.Archived.refl same) _ _
  | loginAgain => exact write _ _ (User.archived_incrementConnection same)
  | logout => exact write _ _ (User.archived_decrementConnection same)
  | logoutLast => exact write _ _ (User.archived_decrementConnection same)
  | send =>
    exact (write _ _ (User.archived_addMessage same _ _)).trans
      (write _ _ (User.archived_addMessage same _ _)) fun _ _ _ => User.Archived.trans compose
  | _ => exact .refl (User.Archived.refl same) _

/-- **Every step preserves what is there**; a restart may change the timestamps. -/
theorem step_preserved {event : Event}
    (reload : event = .restart → ∀ time, clock time (reloadTime env.fp time))
    (steps : Steps env server event after) : server.db.Preserved clock after.db := by
  have unchanged : server.db.Preserved clock server.db :=
    ⟨.refl (User.Archived.refl same) _, .refl (Team.Kept.refl same) _⟩
  have left : ∀ uuid : Bytes,
      server.db.Preserved clock (server.db.modifyUser uuid User.decrementConnection) := fun uuid =>
    ⟨.modifyFirst (User.Archived.refl same) _ _ fun user _ _ =>
      User.archived_decrementConnection same user, .refl (Team.Kept.refl same) _⟩
  cases steps with
  | served _ _ serves =>
    have preserved := serves_preserved same compose serves
    exact preserved
  | leftUser => exact left _
  | leftLast => exact left _
  | restarted =>
    refine ⟨.map _ fun user => ⟨rfl, rfl, fun key => ?_⟩,
      (Database.kept_reloaded (reload rfl) server.db).teams⟩
    rw [User.conversation_reloaded]
    exact .map _ fun message => ⟨rfl, rfl, reload rfl _, rfl⟩
  | _ => exact unchanged

end PreservingSteps

end MyTeams
