/-
**Where the texts come from.**

Every text in the database, in a session and in a message is empty, was an argument of a line, or is
a uuid that the server generated. So what holds of these (`Source`) holds of all texts: `Carries` says
so for each part of the state.

* `serves_checked` — a command makes no other text; what it stores, and what it tells the other clients,
  depends only on the arguments that pass a check of their length;
* `step_stores`, `says_carries` — so it is with a step, for what it stores and what it says;
* `step_carries` — a step makes no other text;
* `run_stores`, `run_carries` — nor does a run;
* `run_storable` — every text is one that the tokenizers can produce;
* `Preserved.carries` — what holds of all texts held of the texts of every earlier database.
-/

import MyTeams.Invariants.Growth
import MyTeams.Invariants.Identities
import MyTeams.Protocol.Reading
import MyTeams.Server.Session

namespace MyTeams

open Transition FirstMatch

section Definitions

variable (P : Bytes → Prop)

structure Message.Carries (message : Message) : Prop where
  senderUuid : P message.senderUuid
  body : P message.body

structure Reply.Carries (reply : Reply) : Prop where
  userUuid : P reply.userUuid
  body : P reply.body

structure Thread.Carries (thread : Thread) : Prop where
  uuid : P thread.uuid
  userUuid : P thread.userUuid
  title : P thread.title
  body : P thread.body
  replies : ∀ reply ∈ thread.replies, reply.Carries P

structure Channel.Carries (channel : Channel) : Prop where
  uuid : P channel.uuid
  name : P channel.name
  description : P channel.description
  threads : ∀ thread ∈ channel.threads, thread.Carries P

structure Team.Carries (team : Team) : Prop where
  uuid : P team.uuid
  name : P team.name
  description : P team.description
  channels : ∀ channel ∈ team.channels, channel.Carries P

structure User.Carries (user : User) : Prop where
  uuid : P user.uuid
  name : P user.name
  messages : ∀ key messages, user.messages.find? key = some messages →
    ∀ message ∈ messages, message.Carries P

structure Database.Carries (db : Database) : Prop where
  users : ∀ user ∈ db.users, user.Carries P
  teams : ∀ team ∈ db.teams, team.Carries P

structure Context.Carries (context : Context) : Prop where
  teamUuid : P context.teamUuid
  channelUuid : P context.channelUuid
  threadUuid : P context.threadUuid

/-- The session of a client and the messages that were appended for it. -/
structure Client.Carries (client : Client) : Prop where
  userUuid : P client.userUuid
  context : client.context.Carries P
  appended : ∀ frame ∈ client.appended, frame.Carries P

structure Server.Carries (server : Server) : Prop where
  db : server.db.Carries P
  clients : ∀ fd client, server.clients.find? fd = some client → client.Carries P

structure Session.Carries (session : Session) : Prop where
  userUuid : P session.userUuid
  context : session.context.Carries P

/-- The database and the sessions. -/
structure Server.Stores (server : Server) : Prop where
  db : server.db.Carries P
  sessions : ∀ fd session, server.session fd = some session → session.Carries P

def Letters.Carries (letters : Letters) : Prop :=
  ∀ fd session, ∀ frame ∈ letters fd session, frame.Carries P

structure Outcome.Carries (outcome : Outcome) : Prop where
  db : outcome.db.Carries P
  userUuid : P outcome.userUuid
  context : outcome.context.Carries P
  letters : outcome.letters.Carries P

/-- `P` holds of the texts that are not arguments. -/
structure Source (env : Env) : Prop where
  empty : P []
  uuid : ∀ n, P (env.uuid n).1

/-- `P` holds of the arguments of a line. -/
def Event.Carries : Event → Prop
  | .line _ rawCommand => ∀ arg ∈ CommandHandling.parseArgs rawCommand, P arg
  | _ => True

/-- `P` holds of the arguments of a line that are as short as the commands want their texts. -/
def Event.Checked : Event → Prop
  | .line _ rawCommand =>
    ∀ arg ∈ CommandHandling.parseArgs rawCommand, arg.length ≤ Create.maxBodyLength → P arg
  | _ => True

end Definitions

variable {P : Bytes → Prop}

/-! ### Reads -/

section Reads

variable {db : Database}

theorem Database.Carries.findUser (carries : db.Carries P) {uuid : Bytes} {user : User}
    (found : db.findUser uuid = some user) : user.Carries P :=
  carries.users user (List.mem_of_find?_eq_some found)

theorem Database.Carries.findUserByName (carries : db.Carries P) {name : Bytes} {user : User}
    (found : db.findUserByName name = some user) : user.Carries P :=
  carries.users user (List.mem_of_find?_eq_some found)

theorem Database.Carries.findTeam (carries : db.Carries P) {uuid : Bytes} {team : Team}
    (found : db.findTeam uuid = some team) : team.Carries P :=
  carries.teams team (List.mem_of_find?_eq_some found)

theorem Database.Carries.findChannel (carries : db.Carries P) {teamUuid channelUuid : Bytes}
    {channel : Channel} (found : db.findChannel teamUuid channelUuid = some channel) :
    channel.Carries P := by
  obtain ⟨team, present, inside⟩ := findChannel_eq_some_iff.mp found
  exact (carries.findTeam present).channels channel (List.mem_of_find?_eq_some inside)

theorem Database.Carries.findThread (carries : db.Carries P) {channelUuid threadUuid : Bytes}
    {thread : Thread} (found : db.findThread channelUuid threadUuid = some thread) :
    thread.Carries P := by
  unfold Database.findThread at found
  split at found
  · cases found
  · rename_i channel inside
    obtain ⟨team, member, owned⟩ := List.mem_flatMap.mp (List.mem_of_find?_eq_some inside)
    exact ((carries.teams team member).channels channel owned).threads thread
      (List.mem_of_find?_eq_some found)

/-! A uuid that was found is one of the database. -/

theorem Database.Carries.teamUuid (carries : db.Carries P) {uuid : Bytes} {team : Team}
    (found : db.findTeam uuid = some team) : P uuid := by
  obtain ⟨-, named⟩ := find?_key found
  exact named ▸ (carries.findTeam found).uuid

theorem Database.Carries.channelUuid (carries : db.Carries P) {teamUuid channelUuid : Bytes}
    {channel : Channel} (found : db.findChannel teamUuid channelUuid = some channel) : P channelUuid := by
  obtain ⟨team, -, inside⟩ := findChannel_eq_some_iff.mp found
  obtain ⟨-, named⟩ := find?_key inside
  exact named ▸ (carries.findChannel found).uuid

theorem Database.Carries.threadUuid (carries : db.Carries P) {channelUuid threadUuid : Bytes}
    {thread : Thread} (found : db.findThread channelUuid threadUuid = some thread) : P threadUuid := by
  obtain ⟨_, _, -, -, inside⟩ := Database.findThread_split found
  obtain ⟨-, named⟩ := find?_key inside
  exact named ▸ (carries.findThread found).uuid

end Reads

/-! ### Writes -/

section Writes

variable {db : Database}

theorem Database.Carries.addUser (carries : db.Carries P) {user : User} (new : user.Carries P) :
    Database.Carries P { db with users := db.users ++ [user] } :=
  ⟨forall_concat carries.users new, carries.teams⟩

theorem Database.Carries.addTeam (carries : db.Carries P) {team : Team} (new : team.Carries P) :
    Database.Carries P { db with teams := db.teams ++ [team] } :=
  ⟨carries.users, forall_concat carries.teams new⟩

theorem Database.Carries.modifyUser (carries : db.Carries P) (uuid : Bytes) {f : User → User}
    (keeps : ∀ user : User, user.Carries P → (f user).Carries P) : (db.modifyUser uuid f).Carries P :=
  ⟨forall_modifyFirst carries.users keeps, carries.teams⟩

theorem Database.Carries.modifyUserByName (carries : db.Carries P) (name : Bytes) {f : User → User}
    (keeps : ∀ user : User, user.Carries P → (f user).Carries P) :
    (db.modifyUserByName name f).Carries P :=
  ⟨forall_modifyFirst carries.users keeps, carries.teams⟩

theorem Database.Carries.modifyTeam (carries : db.Carries P) (uuid : Bytes) {f : Team → Team}
    (keeps : ∀ team : Team, team.Carries P → (f team).Carries P) : (db.modifyTeam uuid f).Carries P :=
  ⟨carries.users, forall_modifyFirst carries.teams keeps⟩

theorem Team.Carries.modifyChannel {team : Team} (carries : team.Carries P) (uuid : Bytes)
    {f : Channel → Channel} (keeps : ∀ channel : Channel, channel.Carries P → (f channel).Carries P) :
    (team.modifyChannel uuid f).Carries P :=
  ⟨carries.uuid, carries.name, carries.description, forall_modifyFirst carries.channels keeps⟩

theorem Channel.Carries.modifyThread {channel : Channel} (carries : channel.Carries P) (uuid : Bytes)
    {f : Thread → Thread} (keeps : ∀ thread : Thread, thread.Carries P → (f thread).Carries P) :
    (channel.modifyThread uuid f).Carries P :=
  ⟨carries.uuid, carries.name, carries.description, forall_modifyFirst carries.threads keeps⟩

theorem Database.Carries.modifyThread (carries : db.Carries P) (channelUuid threadUuid : Bytes)
    {f : Thread → Thread} (keeps : ∀ thread : Thread, thread.Carries P → (f thread).Carries P) :
    (db.modifyThread channelUuid threadUuid f).Carries P :=
  ⟨carries.users, forall_modifyFirst carries.teams fun _ team =>
    team.modifyChannel channelUuid fun _ channel => channel.modifyThread threadUuid keeps⟩

theorem User.Carries.decrementConnection {user : User} (carries : user.Carries P) :
    user.decrementConnection.Carries P := by
  refine ⟨?_, ?_, ?_⟩
  · rw [User.decrementConnection_uuid]
    exact carries.uuid
  · rw [User.decrementConnection_name]
    exact carries.name
  · rw [User.decrementConnection_messages]
    exact carries.messages

theorem User.Carries.addMessage {user : User} (carries : user.Carries P) (key : Bytes)
    {message : Message} (new : message.Carries P) : (user.addMessage key message).Carries P := by
  refine ⟨carries.uuid, carries.name, fun other messages found => ?_⟩
  unfold User.addMessage at found
  rw [SortedMap.find?_insert] at found
  split_ifs at found with same
  · cases found
    refine forall_concat (fun old member => ?_) new
    cases present : user.messages.find? key with
    | none =>
      rw [present] at member
      cases member
    | some known =>
      rw [present] at member
      exact carries.messages key known present old member
  · exact carries.messages other messages found

theorem Team.Carries.addSubscriber {team : Team} (carries : team.Carries P) (userUuid : Bytes) :
    (team.addSubscriber userUuid).2.Carries P := by
  unfold Team.addSubscriber
  split_ifs
  · exact carries
  · exact ⟨carries.uuid, carries.name, carries.description, carries.channels⟩

theorem Team.Carries.removeSubscriber {team : Team} (carries : team.Carries P) (userUuid : Bytes) :
    (team.removeSubscriber userUuid).2.Carries P := by
  unfold Team.removeSubscriber
  split_ifs
  · exact carries
  · exact ⟨carries.uuid, carries.name, carries.description, carries.channels⟩

/-- A restart changes no text. -/
theorem Database.Carries.reloaded (carries : db.Carries P) (f : Int → Int) :
    (db.reloaded f).Carries P := by
  have replies : ∀ reply : Reply, reply.Carries P → (reply.mapTime f).Carries P :=
    fun _ reply => ⟨reply.userUuid, reply.body⟩
  have threads : ∀ thread : Thread, thread.Carries P → (thread.mapTime f).Carries P :=
    fun _ thread => ⟨thread.uuid, thread.userUuid, thread.title, thread.body,
      List.forall_mem_map.mpr fun reply member => replies reply (thread.replies reply member)⟩
  have channels : ∀ channel : Channel, channel.Carries P → (channel.mapTime f).Carries P :=
    fun _ channel => ⟨channel.uuid, channel.name, channel.description,
      List.forall_mem_map.mpr fun thread member => threads thread (channel.threads thread member)⟩
  refine ⟨List.forall_mem_map.mpr fun user member => ?_, List.forall_mem_map.mpr fun team member => ?_⟩
  · have old := carries.users user member
    refine ⟨old.uuid, old.name, fun key messages found => ?_⟩
    unfold User.reloaded at found
    rw [SortedMap.find?_mapWithKey] at found
    obtain ⟨before, present, rfl⟩ := Option.map_eq_some_iff.mp found
    refine List.forall_mem_map.mpr fun message inside => ?_
    have known := old.messages key before present message inside
    exact ⟨known.senderUuid, known.body⟩
  · have old := carries.teams team member
    exact ⟨old.uuid, old.name, old.description,
      List.forall_mem_map.mpr fun channel inside => channels channel (old.channels channel inside)⟩

end Writes

/-! ### Messages -/

theorem carries_userFields {user : User} (carries : user.Carries P) :
    ∀ field ∈ Frame.userFields user, field.Carries P := by
  simp [Frame.userFields, Frame.status, Field.Carries, carries.uuid, carries.name]

theorem carries_namedFields {uuid name description : Bytes} (first : P uuid) (second : P name)
    (third : P description) :
    ∀ field ∈ Frame.namedFields uuid name description, field.Carries P := by
  simp [Frame.namedFields, Field.Carries, first, second, third]

theorem carries_threadFields {thread : Thread} (carries : thread.Carries P) :
    ∀ field ∈ Frame.threadFields thread, field.Carries P := by
  simp [Frame.threadFields, Field.Carries, carries.uuid, carries.userUuid, carries.title, carries.body]

theorem carries_replyFields {uuid : Bytes} (named : P uuid) {reply : Reply}
    (carries : reply.Carries P) : ∀ field ∈ Frame.replyFields uuid reply, field.Carries P := by
  simp [Frame.replyFields, Field.Carries, named, carries.userUuid, carries.body]

theorem carries_messageFields {message : Message} (carries : message.Carries P) :
    ∀ field ∈ Messages.messageFields message, field.Carries P := by
  simp [Messages.messageFields, Field.Carries, carries.senderUuid, carries.body]

theorem carries_frame {words : List Keyword} {fields : List Field}
    (carries : ∀ field ∈ fields, field.Carries P) : Frame.Carries P ⟨words, fields⟩ := carries

theorem carries_replyEvent {teamUuid threadUuid : Bytes} (team : P teamUuid) (thread : P threadUuid)
    {reply : Reply} (carries : reply.Carries P) :
    (Frame.eventReplyCreated teamUuid threadUuid reply).Carries P := by
  simp [Frame.eventReplyCreated, Frame.Carries, Field.Carries, team, thread, carries.userUuid,
    carries.body]

/-- A message without fields. -/
theorem carries_words (words : List Keyword) : Frame.Carries P ⟨words, []⟩ :=
  fun _ member => absurd member List.not_mem_nil

theorem carries_single {frame : Frame} (carries : frame.Carries P) :
    ∀ sent ∈ [frame], sent.Carries P :=
  fun _ member => List.mem_singleton.mp member ▸ carries

theorem carries_pair {words : List Keyword} {first second : Bytes} (one : P first) (two : P second) :
    Frame.Carries P ⟨words, [.quoted first, .quoted second]⟩ := by
  simp [Frame.Carries, Field.Carries, one, two]

theorem carries_plainPair {words : List Keyword} {first second : Bytes} (one : P first)
    (two : P second) : Frame.Carries P ⟨words, [.plain first, .plain second]⟩ := by
  simp [Frame.Carries, Field.Carries, one, two]

theorem carries_listing {α : Type} {items : List α} {fields : α → List Field} (type : Keyword)
    (carries : ∀ item ∈ items, ∀ field ∈ fields item, field.Carries P) :
    ∀ frame ∈ Frame.listing type (items.map fields), frame.Carries P := by
  refine Frame.forall_listing (carries_words _) (fun list listed => ?_) (carries_words _)
  obtain ⟨item, known, rfl⟩ := List.mem_map.mp listed
  exact carries item known

namespace Letters

theorem Carries.toClient {frames : List Frame} (fd : Int) (carries : ∀ frame ∈ frames, frame.Carries P) :
    (toClient fd frames).Carries P :=
  all_toClient fd carries

theorem Carries.toOne {frame : Frame} (fd : Int) (carries : frame.Carries P) :
    (Letters.toClient fd [frame]).Carries P :=
  all_answer fd carries

theorem Carries.toAll {frame : Frame} (carries : frame.Carries P) : (Letters.toAll frame).Carries P :=
  all_toAll carries

theorem Carries.toUser {frame : Frame} (carries : frame.Carries P) (userUuid : Bytes) :
    (Letters.toUser userUuid frame).Carries P :=
  all_toUser userUuid carries

theorem Carries.toSubscribers {frame : Frame} (carries : frame.Carries P) (team : Team) :
    (Letters.toSubscribers team frame).Carries P :=
  all_toSubscribers team carries

theorem Carries.followedBy {first second : Letters} (early : first.Carries P)
    (late : second.Carries P) : (first.followedBy second).Carries P :=
  All.followedBy early late

end Letters

/-! ### Commands -/

section Commands

variable {env : Env} {fd : Int} {client : Client} {server : Server} {verb : Verb} {outcome : Outcome}

theorem carries_refusal (known : ∀ text ∈ client.known, P text) {frame : Frame}
    (refusal : Refusal client frame) : frame.Carries P := by
  cases refusal with
  | notFoundUuid member =>
    simpa [Frame.Carries, Frame.notFoundUuid, Field.Carries] using known _ member
  | notFoundKind kind member =>
    simpa [Frame.Carries, Frame.notFoundKind, Field.Carries] using known _ member
  | _ => exact carries_words _

theorem carries_known (user : P client.userUuid) (context : client.context.Carries P)
    (args : ∀ arg ∈ client.args, P arg) : ∀ text ∈ client.known, P text := by
  intro text member
  rcases List.mem_append.mp member with given | rest
  · exact args text given
  · simp only [List.mem_cons, List.not_mem_nil, or_false] at rest
    rcases rest with rfl | rfl | rfl | rfl
    · exact user
    · exact context.teamUuid
    · exact context.channelUuid
    · exact context.threadUuid

/-- An argument that passes a check of its length. -/
theorem carries_arg (empty : P [])
    (checked : ∀ arg ∈ client.args, arg.length ≤ Create.maxBodyLength → P arg) {index limit : Nat}
    (short : (client.arg index).length ≤ limit) (fits : limit ≤ Create.maxBodyLength) :
    P (client.arg index) := by
  have inside := short.trans fits
  unfold Client.arg at inside ⊢
  rw [List.getD_eq_getElem?_getD] at inside ⊢
  cases present : client.args[index]? with
  | none => exact empty
  | some arg =>
    rw [present] at inside
    exact checked arg (List.mem_of_getElem? present) inside

theorem carries_shown (stored : server.db.Carries P) (user : P client.userUuid) {frames : List Frame}
    (shown : Shown client server.db verb frames) : ∀ frame ∈ frames, frame.Carries P := by
  have teams : ∀ team ∈ server.db.teams, ∀ field ∈ Frame.namedFields team.uuid team.name
      team.description, field.Carries P := fun team member =>
    carries_namedFields (stored.teams team member).uuid (stored.teams team member).name
      (stored.teams team member).description
  cases shown with
  | infoUser _ found => exact carries_single (carries_userFields (stored.findUser found))
  | infoTeam _ _ found =>
    have team := stored.findTeam found
    exact carries_single (carries_namedFields team.uuid team.name team.description)
  | infoChannel _ _ found =>
    have channel := stored.findChannel found
    exact carries_single (carries_namedFields channel.uuid channel.name channel.description)
  | infoThread _ _ found => exact carries_single (carries_threadFields (stored.findThread found))
  | listTeams => exact carries_listing _ teams
  | listChannels _ _ found =>
    have team := stored.findTeam found
    exact carries_listing _ fun channel member => carries_namedFields
      (team.channels channel member).uuid (team.channels channel member).name
      (team.channels channel member).description
  | listThreads _ _ _ found =>
    have channel := stored.findChannel found
    exact carries_listing _ fun thread member => carries_threadFields (channel.threads thread member)
  | listReplies _ _ _ _ found =>
    have thread := stored.findThread found
    exact carries_listing _ fun reply member =>
      carries_replyFields thread.uuid (thread.replies reply member)
  | subscribedTeams =>
    exact carries_listing _ fun team member => teams team (List.mem_of_mem_filter member)
  | subscribers =>
    refine carries_listing _ fun member inside => ?_
    obtain ⟨uuid, -, found⟩ := List.mem_filterMap.mp inside
    exact carries_userFields (stored.findUser found)
  | alreadySubscribed _ _ found => exact carries_single (carries_pair user (stored.teamUuid found))
  | user _ found => exact carries_single (carries_userFields (stored.findUser found))
  | users => exact carries_listing _ fun user member => carries_userFields (stored.users user member)
  | @messages reader _ found =>
    refine carries_listing _ fun message member => carries_messageFields ?_
    cases present : reader.messages.find? (client.arg 1) with
    | none =>
      rw [present] at member
      cases member
    | some messages =>
      rw [present] at member
      exact (stored.findUser found).messages _ messages present message member

/-- A command that changes nothing but the database and the messages. -/
theorem carries_outcome {db : Database} {uuidCalls timeCalls : Nat} {letters : Letters}
    (user : P client.userUuid) (context : client.context.Carries P) (stored : db.Carries P)
    (sent : letters.Carries P) :
    Outcome.Carries P { Outcome.idle client server with
      db := db
      uuidCalls := uuidCalls
      timeCalls := timeCalls
      letters := letters } :=
  ⟨stored, user, context, sent⟩

/-- The outcome has no other text, but for an answer that repeats the arguments. -/
def Outcome.Checked (P : Bytes → Prop) (fd : Int) (client : Client) (server : Server) (outcome : Outcome) :
    Prop :=
  outcome.Carries P ∨ ∃ frames, outcome = Outcome.answer fd client server frames ∧
    ((∀ arg ∈ client.args, P arg) → ∀ frame ∈ frames, frame.Carries P)

/-- The texts that a command works on: the uuids, what is stored, the session, and the arguments that pass
a check of their length. -/
structure Provided (P : Bytes → Prop) (env : Env) (client : Client) (server : Server) : Prop where
  source : Source P env
  stored : server.db.Carries P
  user : P client.userUuid
  context : client.context.Carries P
  checked : ∀ arg ∈ client.args, arg.length ≤ Create.maxBodyLength → P arg

namespace Provided

/-- An argument that is not too long. -/
theorem short (provided : Provided P env client server) {index limit : Nat}
    (length : (client.arg index).length ≤ limit) (fits : limit ≤ Create.maxBodyLength) :
    P (client.arg index) :=
  carries_arg provided.source.empty provided.checked length fits

/-- The same, with the check that CREATE makes. -/
theorem valid (provided : Provided P env client server) {index limit : Nat}
    (length : Create.isInvalidLength (client.arg index) limit = false) (fits : limit ≤ Create.maxBodyLength) :
    P (client.arg index) :=
  provided.short (Create.isInvalidLength_eq_false_iff.mp length).2 fits

theorem known (provided : Provided P env client server) (args : ∀ arg ∈ client.args, P arg) :
    ∀ text ∈ client.known, P text := carries_known provided.user provided.context args

theorem refused (provided : Provided P env client server) {frame : Frame} (refusal : Refusal client frame) :
    (Outcome.answer fd client server [frame]).Checked P fd client server :=
  Or.inr ⟨_, rfl, fun args => carries_single (carries_refusal (provided.known args) refusal)⟩

theorem shown (provided : Provided P env client server) {frames : List Frame}
    (shown : Shown client server.db verb frames) :
    (Outcome.answer fd client server frames).Checked P fd client server :=
  Or.inl (carries_outcome provided.user provided.context provided.stored
    (.toClient fd (carries_shown provided.stored provided.user shown)))

/-! One lemma for each command that does more. -/

theorem login (provided : Provided P env client server)
    (serves : Serves env fd client server .login outcome) : outcome.Checked P fd client server := by
  have stored := provided.stored
  cases serves with
  | refused refusal => exact provided.refused refusal
  | shown shown => exact provided.shown shown
  | loginNew _ _ _ fits _ made =>
    subst made
    have fresh : P (server.nextUuid env) := provided.source.uuid _
    have name : P (client.arg 1) := provided.short fits (by decide)
    have new : User.Carries P { uuid := server.nextUuid env, name := client.arg 1, connectedCount := 1 } :=
      ⟨fresh, name, fun key messages found => by cases found⟩
    exact Or.inl ⟨stored.addUser new, fresh, provided.context,
      (Letters.Carries.toOne fd (carries_plainPair fresh name)).followedBy
        (.toAll (carries_pair fresh name))⟩
  | loginAgain _ _ _ _ found =>
    have known := stored.findUserByName found
    exact Or.inl ⟨stored.modifyUserByName _ fun _ user => ⟨user.uuid, user.name, user.messages⟩, known.uuid,
      provided.context, (Letters.Carries.toOne fd (carries_plainPair known.uuid known.name)).followedBy
        (.toAll (carries_pair known.uuid known.name))⟩

theorem logout (provided : Provided P env client server)
    (serves : Serves env fd client server .logout outcome) : outcome.Checked P fd client server := by
  have stored := provided.stored
  have ok : Frame.Carries P Frame.ok := carries_words _
  cases serves with
  | refused refusal => exact provided.refused refusal
  | shown shown => exact provided.shown shown
  | logout =>
    exact Or.inl ⟨stored.modifyUser _ fun _ user => user.decrementConnection, provided.source.empty,
      provided.context, .toOne fd ok⟩
  | logoutLast _ found =>
    have known := stored.findUser found
    exact Or.inl ⟨stored.modifyUser _ fun _ user => user.decrementConnection, provided.source.empty,
      provided.context,
      (Letters.Carries.toAll (carries_pair known.uuid known.name)).followedBy (.toOne fd ok)⟩
  | logoutUnknown => exact Or.inl ⟨stored, provided.source.empty, provided.context, .toOne fd ok⟩

theorem use (provided : Provided P env client server)
    (serves : Serves env fd client server .use outcome) : outcome.Checked P fd client server := by
  have ⟨⟨empty, _⟩, stored, user, _, _⟩ := provided
  have ok : Frame.Carries P Frame.ok := carries_words _
  cases serves with
  | refused refusal => exact provided.refused refusal
  | shown shown => exact provided.shown shown
  | useNothing => exact Or.inl ⟨stored, user, ⟨empty, empty, empty⟩, .toOne fd ok⟩
  | useTeam _ _ team =>
    exact Or.inl ⟨stored, user, ⟨stored.teamUuid team, empty, empty⟩, .toOne fd ok⟩
  | useChannel _ _ team _ channel =>
    exact Or.inl ⟨stored, user, ⟨stored.teamUuid team, stored.channelUuid channel, empty⟩,
      .toClient fd (by simpa using ok)⟩
  | useThread _ _ team _ channel thread =>
    exact Or.inl ⟨stored, user,
      ⟨stored.teamUuid team, stored.channelUuid channel, stored.threadUuid thread⟩,
      .toClient fd (by simpa using ok)⟩
  | useNoChannel _ enough =>
    refine Or.inr ⟨_, rfl, fun args => ?_⟩
    have named : client.arg 2 ∈ client.known := arg_known (by omega)
    have missing := carries_refusal (provided.known args) (.notFoundKind .channel named)
    exact List.forall_mem_cons.mpr ⟨ok, carries_single missing⟩
  | useNoThread _ enough =>
    refine Or.inr ⟨_, rfl, fun args => ?_⟩
    have named : client.arg 3 ∈ client.known := arg_known (by omega)
    have missing := carries_refusal (provided.known args) (.notFoundKind .thread named)
    exact List.forall_mem_cons.mpr ⟨ok, List.forall_mem_cons.mpr ⟨ok, carries_single missing⟩⟩

theorem create (provided : Provided P env client server)
    (serves : Serves env fd client server .create outcome) : outcome.Checked P fd client server := by
  have fresh : P (server.nextUuid env) := provided.source.uuid _
  have ⟨_, stored, user, context, _⟩ := provided
  cases serves with
  | refused refusal => exact provided.refused refusal
  | shown shown => exact provided.shown shown
  | createTeam _ _ _ validName validDescription _ made =>
    subst made
    have name : P (client.arg 1) := provided.valid validName (by decide)
    have description : P (client.arg 2) := provided.valid validDescription (by decide)
    exact Or.inl (carries_outcome user context
      (stored.addTeam ⟨fresh, name, description, fun _ member => absurd member List.not_mem_nil⟩)
      ((Letters.Carries.toOne fd (carries_frame (carries_namedFields fresh name description))).followedBy
        (.toAll (carries_namedFields fresh name description))))
  | createChannel _ _ _ _ _ validName validDescription _ made =>
    subst made
    have name : P (client.arg 1) := provided.valid validName (by decide)
    have description : P (client.arg 2) := provided.valid validDescription (by decide)
    have new : Channel.Carries P
        { uuid := server.nextUuid env, name := client.arg 1, description := client.arg 2 } :=
      ⟨fresh, name, description, fun _ member => absurd member List.not_mem_nil⟩
    exact Or.inl (carries_outcome user context
      (stored.modifyTeam _ fun team carries => ⟨carries.uuid, carries.name, carries.description,
        forall_concat carries.channels new⟩)
      ((Letters.Carries.toOne fd (carries_frame (carries_namedFields fresh name description))).followedBy
        (.toSubscribers (carries_frame (carries_namedFields fresh name description)) _)))
  | createThread _ _ _ _ _ _ _ validTitle validBody _ made =>
    subst made
    have title : P (client.arg 1) := provided.valid validTitle (by decide)
    have body : P (client.arg 2) := provided.valid validBody le_rfl
    have new : Thread.Carries P
        { uuid := server.nextUuid env, userUuid := client.userUuid, title := client.arg 1,
          body := client.arg 2, timestamp := server.nextTime env } :=
      ⟨fresh, user, title, body, fun _ member => absurd member List.not_mem_nil⟩
    exact Or.inl (carries_outcome user context
      (stored.modifyTeam _ fun team carries => carries.modifyChannel _ fun channel carries =>
        ⟨carries.uuid, carries.name, carries.description, forall_concat carries.threads new⟩)
      ((Letters.Carries.toOne fd (carries_frame (carries_threadFields new))).followedBy
        (.toSubscribers (carries_frame (carries_threadFields new)) _)))
  | createReply _ _ _ _ _ _ _ _ validBody made =>
    subst made
    have body : P (client.arg 1) := provided.valid validBody le_rfl
    have new : Reply.Carries P
        { uuid := server.nextUuid env, userUuid := client.userUuid, body := client.arg 1,
          timestamp := server.nextTime env } := ⟨user, body⟩
    have event := carries_replyEvent context.teamUuid context.threadUuid new
    exact Or.inl (carries_outcome user context
      (stored.modifyThread _ _ fun thread carries => ⟨carries.uuid, carries.userUuid, carries.title,
        carries.body, forall_concat carries.replies new⟩)
      ((Letters.Carries.toOne fd (carries_frame (carries_replyFields context.threadUuid new))).followedBy
        (.toSubscribers event _)))

theorem subscribe (provided : Provided P env client server)
    (serves : Serves env fd client server .subscribe outcome) : outcome.Checked P fd client server := by
  cases serves with
  | refused refusal => exact provided.refused refusal
  | shown shown => exact provided.shown shown
  | subscribe _ _ _ found =>
    have team := provided.stored.teamUuid found
    exact Or.inl (carries_outcome provided.user provided.context
      (provided.stored.modifyTeam _ fun _ carries => carries.addSubscriber _)
      ((Letters.Carries.toSubscribers (carries_plainPair team provided.user) _).followedBy
        (.toOne fd (carries_pair provided.user team))))

theorem unsubscribe (provided : Provided P env client server)
    (serves : Serves env fd client server .unsubscribe outcome) : outcome.Checked P fd client server := by
  cases serves with
  | refused refusal => exact provided.refused refusal
  | shown shown => exact provided.shown shown
  | unsubscribe _ _ _ found =>
    have team := provided.stored.teamUuid found
    exact Or.inl (carries_outcome provided.user provided.context
      (provided.stored.modifyTeam _ fun _ carries => carries.removeSubscriber _)
      ((Letters.Carries.toSubscribers (carries_plainPair team provided.user) _).followedBy
        (.toOne fd (carries_pair provided.user team))))

theorem send (provided : Provided P env client server)
    (serves : Serves env fd client server .send outcome) : outcome.Checked P fd client server := by
  have stored := provided.stored
  cases serves with
  | refused refusal => exact provided.refused refusal
  | shown shown => exact provided.shown shown
  | @send writer reader message _ _ _ fits sender receiver made =>
    subst made
    have body : P (client.arg 2) := provided.short fits le_rfl
    have new : Message.Carries P
        { senderUuid := writer.uuid, receiverUuid := reader.uuid,
          timestamp := server.nextTime env, body := client.arg 2 } :=
      ⟨(stored.findUser sender).uuid, body⟩
    have users : ∀ key, ∀ user : User, user.Carries P → (user.addMessage key _).Carries P :=
      fun key _ carries => carries.addMessage key new
    exact Or.inl (carries_outcome provided.user provided.context
      ((stored.modifyUser _ (users reader.uuid)).modifyUser _ (users writer.uuid))
      ((Letters.Carries.toUser (carries_pair (stored.findUser sender).uuid body) _).followedBy
        (.toOne fd (carries_words _))))

end Provided

/-- **A command makes no other text** than uuids, what is there and the arguments that it has checked, but
for an answer that repeats an argument. -/
theorem serves_checked (provided : Provided P env client server)
    (serves : Serves env fd client server verb outcome) : outcome.Checked P fd client server := by
  cases verb with
  | login => exact provided.login serves
  | logout => exact provided.logout serves
  | use => exact provided.use serves
  | create => exact provided.create serves
  | subscribe => exact provided.subscribe serves
  | unsubscribe => exact provided.unsubscribe serves
  | send => exact provided.send serves
  | _ =>
    cases serves with
    | refused refusal => exact provided.refused refusal
    | shown shown => exact provided.shown shown

end Commands

/-! ### Steps and runs -/

section Steps

variable {env : Env} {server : Server}

/-- What a line does. -/
theorem served_checked (source : Source P env) (stores : server.Stores P) {fd : Int} {client : Client}
    {rawCommand : Bytes} {verb : Verb} {outcome : Outcome} (found : server.clients.find? fd = some client)
    (checked : (Event.line fd rawCommand).Checked P)
    (serves : Serves env fd (client.setArgs (CommandHandling.parseArgs rawCommand))
      (server.modifyClient fd (Client.setArgs (CommandHandling.parseArgs rawCommand))) verb outcome) :
    (outcome.db.Carries P ∧ P outcome.userUuid ∧ outcome.context.Carries P) ∧
      (outcome.letters.Carries P ∨ ∃ frames, outcome.letters = .toClient fd frames ∧
        ((∀ arg ∈ CommandHandling.parseArgs rawCommand, P arg) → ∀ frame ∈ frames, frame.Carries P)) := by
  have session : Session.Carries P client.session :=
    stores.sessions fd client.session (session_of_found found)
  have stored : (server.modifyClient fd (Client.setArgs (CommandHandling.parseArgs rawCommand))).db.Carries P :=
    stores.db
  have user : P (client.setArgs (CommandHandling.parseArgs rawCommand)).userUuid := session.userUuid
  have context : (client.setArgs (CommandHandling.parseArgs rawCommand)).context.Carries P := session.context
  rcases serves_checked ⟨source, stored, user, context, checked⟩ serves with
    carries | ⟨frames, rfl, answered⟩
  · exact ⟨⟨carries.db, carries.userUuid, carries.context⟩, Or.inl carries.letters⟩
  · exact ⟨⟨stored, user, context⟩, Or.inr ⟨frames, rfl, answered⟩⟩

/-- **A step stores no other text.** -/
theorem step_stores (source : Source P env) {event : Event} {after : Server}
    (steps : Steps env server event after) (checked : event.Checked P) (stores : server.Stores P) :
    after.Stores P := by
  refine ⟨?_, step_sessions steps ?_ stores.sessions ?_⟩
  · cases steps with
    | served found _ serves => exact (served_checked source stores found checked serves).1.1
    | leftUser => exact stores.db.modifyUser _ fun _ user => user.decrementConnection
    | leftLast => exact stores.db.modifyUser _ fun _ user => user.decrementConnection
    | restarted => exact stores.db.reloaded _
    | _ => exact stores.db
  · exact ⟨source.empty, ⟨source.empty, source.empty, source.empty⟩⟩
  · rintro fd rawCommand client verb outcome rfl found serves -
    obtain ⟨⟨-, user, context⟩, -⟩ := served_checked source stores found checked serves
    exact ⟨user, context⟩

/-- **A step says no other text**: only the requester may be told an argument that nobody has checked. -/
theorem says_carries (source : Source P env) {event : Event} {after : Server} {letters : Letters}
    (said : Says env server event after letters) (checked : event.Checked P) (stores : server.Stores P)
    {fd : Int} (given : ∀ rawCommand, event = .line fd rawCommand → event.Carries P) (session : Bytes) :
    ∀ frame ∈ letters fd session, frame.Carries P := by
  cases said with
  | nothing => exact fun _ member => absurd member List.not_mem_nil
  | @command requester rawCommand client verb outcome found _ serves =>
    obtain ⟨-, carries | ⟨frames, same, answered⟩⟩ := served_checked source stores found checked serves
    · exact carries fd session
    · intro frame member
      rw [same] at member
      obtain ⟨rfl, inside⟩ := Letters.mem_toClient member
      exact answered (given rawCommand rfl) frame inside
  | gone _ _ found =>
    have known := stores.db.findUser found
    exact carries_single (carries_pair known.uuid known.name)

theorem Server.Carries.stores (carries : server.Carries P) : server.Stores P := by
  refine ⟨carries.db, fun fd session present => ?_⟩
  obtain ⟨client, found, rfl⟩ := Option.map_eq_some_iff.mp present
  exact ⟨(carries.clients fd client found).userUuid, (carries.clients fd client found).context⟩

theorem Server.Carries.appendedTo (carries : server.Carries P) (fd : Int) :
    ∀ frame ∈ server.appendedTo fd, frame.Carries P := by
  unfold Server.appendedTo
  cases found : server.clients.find? fd with
  | none => exact List.forall_mem_nil _
  | some client => exact (carries.clients fd client found).appended

/-- **A step makes no other text.** -/
theorem step_carries (source : Source P env) {event : Event} (given : event.Carries P)
    (carries : server.Carries P) : (server.step env event).Carries P := by
  have checked : event.Checked P := by
    cases event with
    | line fd rawCommand => exact fun arg member _ => given arg member
    | _ => trivial
  have steps := step_steps env server event
  have stores := step_stores source steps checked carries.stores
  obtain ⟨letters, said, appended⟩ := step_says steps
  refine ⟨stores.db, fun fd client found => ?_⟩
  have session := stores.sessions fd client.session (session_of_found found)
  refine ⟨session.userUuid, session.context, fun frame member => ?_⟩
  rw [appended fd client found] at member
  rcases List.mem_append.mp member with old | new
  · exact carries.appendedTo fd frame old
  · exact says_carries source said checked carries.stores (fun _ _ => given) _ frame new

theorem start_carries : Server.Carries P {} :=
  ⟨⟨fun _ member => absurd member List.not_mem_nil, fun _ member => absurd member List.not_mem_nil⟩,
    fun _ _ found => by cases found⟩

/-- **What holds of all arguments and generated uuids holds of all texts.** -/
theorem run_carries (source : Source P env) (events : List Event)
    (given : ∀ event ∈ events, event.Carries P) : (run (Server.step env) {} events).Carries P := by
  induction events using List.reverseRecOn with
  | nil => exact start_carries
  | append_singleton events event ih =>
    rw [run_concat]
    exact step_carries source (given event (by simp))
      (ih fun earlier member => given earlier (List.mem_append_left _ member))

theorem start_stores : Server.Stores P {} := start_carries.stores

/-- **What holds of all checked arguments and generated uuids holds of all texts that are stored.** -/
theorem run_stores (source : Source P env) (events : List Event)
    (checked : ∀ event ∈ events, event.Checked P) : (run (Server.step env) {} events).Stores P := by
  induction events using List.reverseRecOn with
  | nil => exact start_stores
  | append_singleton events event ih =>
    rw [run_concat]
    exact step_stores source (step_steps env _ event) (checked event (by simp))
      (ih fun earlier member => checked earlier (List.mem_append_left _ member))

/-! ### Storable texts -/

theorem uuid_clean {uuid : Bytes} (wellFormed : IsUuid uuid) : Clean uuid := by
  intro byte member
  rcases wellFormed.2 byte member with digit | letter | rfl
  · unfold isDigit at digit
    unfold isSpace
    grind
  · unfold isSpace
    grind
  · decide

theorem source_storable : Source Storable env :=
  ⟨storable_nil, fun n => .word (uuid_clean (env.uuid n).2)⟩

/-- Every argument of every line is storable. -/
theorem event_storable (event : Event) : event.Carries Storable := by
  cases event with
  | line fd rawCommand => exact CommandHandling.parseArgs_storable rawCommand
  | _ => trivial

theorem run_storable (events : List Event) : (run (Server.step env) {} events).Carries Storable :=
  run_carries source_storable events fun event _ => event_storable event

/-- A message that a step appends is one of the receiver's messages. -/
theorem newFrames_carries {after : Server} (carries : after.Carries P) {fd : Int} {frame : Frame}
    (member : frame ∈ server.newFrames fd after) : frame.Carries P := by
  exact carries.appendedTo fd frame (List.mem_of_mem_drop member)

end Steps

/-! ### Earlier states -/

section Earlier

variable {clock : Int → Int → Prop}

theorem User.Carries.conversation {user : User} (carries : user.Carries P)
    {key : Bytes} {message : Message} (member : message ∈ user.conversation key) : message.Carries P := by
  unfold User.conversation at member
  cases found : user.messages.find? key with
  | none =>
    rw [found] at member
    cases member
  | some messages =>
    rw [found] at member
    exact carries.messages key messages found message member

/-- **What holds of all texts held of them before**: no text is ever removed. -/
theorem Database.Preserved.carries {before after : Database} (preserved : before.Preserved clock after)
    (texts : after.Carries P) : before.Carries P := by
  have replies : ∀ {reply now : Reply}, reply.Kept clock now → now.Carries P → reply.Carries P :=
    fun kept texts => ⟨kept.userUuid ▸ texts.userUuid, kept.body ▸ texts.body⟩
  have threads : ∀ {thread now : Thread}, thread.Kept clock now → now.Carries P → thread.Carries P := by
    intro thread now kept texts
    refine ⟨kept.uuid ▸ texts.uuid, kept.userUuid ▸ texts.userUuid, kept.title ▸ texts.title,
      kept.body ▸ texts.body, fun reply member => ?_⟩
    obtain ⟨later, inside, same⟩ := kept.replies.exists_mem member
    exact replies same (texts.replies later inside)
  have channels : ∀ {channel now : Channel}, channel.Kept clock now → now.Carries P →
      channel.Carries P := by
    intro channel now kept texts
    refine ⟨kept.uuid ▸ texts.uuid, kept.name ▸ texts.name, kept.description ▸ texts.description,
      fun thread member => ?_⟩
    obtain ⟨later, inside, same⟩ := kept.threads.exists_mem member
    exact threads same (texts.threads later inside)
  refine ⟨fun user member => ?_, fun team member => ?_⟩
  · obtain ⟨now, inside, same⟩ := preserved.users.exists_mem member
    have known := texts.users now inside
    refine ⟨same.uuid ▸ known.uuid, same.name ▸ known.name, fun key messages found message listed => ?_⟩
    have stored : message ∈ user.conversation key := by
      rw [User.conversation, found]
      exact listed
    obtain ⟨later, there, kept⟩ := (same.messages key).exists_mem stored
    have text := known.conversation there
    exact ⟨kept.senderUuid ▸ text.senderUuid, kept.body ▸ text.body⟩
  · obtain ⟨now, inside, same⟩ := preserved.teams.exists_mem member
    have known := texts.teams now inside
    refine ⟨same.uuid ▸ known.uuid, same.name ▸ known.name, same.description ▸ known.description,
      fun channel listed => ?_⟩
    obtain ⟨later, there, kept⟩ := same.channels.exists_mem listed
    exact channels kept (known.channels later there)

end Earlier

end MyTeams
