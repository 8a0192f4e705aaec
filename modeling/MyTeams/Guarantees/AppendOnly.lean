/-
**What a step may change in the database.**

`Database.Change` lists the changes: one connection count, the subscribers of one team, one new element
behind a list that the context of the requester selects, or a message between two users. Everything
else stays as it is, in its place.

* `serves_change`, `step_change` — every step of a client is one of these changes;
* `Database.Preserved` — what is there stays there, so the lists of the database only grow at their end
  (`Preserved.listsGrow`), and with them the answers to LIST and USERS (`ListsGrow.answersGrow`);
* `append_only` — both, for every run.
-/

import MyTeams.Invariants.WellFormed
import MyTeams.Server.Answers

namespace MyTeams

open Transition FirstMatch

/-! ### One step -/

/-- A message goes to the lists that the sender and the receiver keep for each other. -/
def User.exchange (senderUuid receiverUuid : Bytes) (message : Message) (user : User) : User :=
  let user := if user.uuid = senderUuid then user.addMessage receiverUuid message else user
  if user.uuid = receiverUuid then user.addMessage senderUuid message else user

@[simp] theorem User.exchange_uuid (senderUuid receiverUuid : Bytes) (message : Message) (user : User) :
    (user.exchange senderUuid receiverUuid message).uuid = user.uuid := by
  unfold User.exchange
  simp only
  split_ifs <;> rfl

/-- **The changes of the database** that a step for the session `actor` makes. -/
inductive Database.Change (actor : Session) (db : Database) : Database → Prop
  | kept : Change actor db db
  | count {before after : List User} {user : User} (count : Nat) :
      db.users = before ++ user :: after →
      Change actor db { db with users := before ++ { user with connectedCount := count } :: after }
  | subscribers {before after : List Team} {team : Team} (uuids : List Bytes) :
      db.teams = before ++ team :: after →
      Change actor db { db with teams := before ++ { team with subscriberUuids := uuids } :: after }
  | user {user : User} : user.messages = SortedMap.empty →
      Change actor db { db with users := db.users ++ [user] }
  | team {team : Team} : team.channels = [] → Change actor db { db with teams := db.teams ++ [team] }
  | channel {before after : List Team} {team : Team} {channel : Channel} :
      db.teams = before ++ team :: after → team.uuid = actor.context.teamUuid →
      channel.threads = [] →
      Change actor db { db with
        teams := before ++ { team with channels := team.channels ++ [channel] } :: after }
  | thread {before after : List Team} {team : Team} {front back : List Channel} {channel : Channel}
      {thread : Thread} :
      db.teams = before ++ team :: after → team.uuid = actor.context.teamUuid →
      team.channels = front ++ channel :: back → channel.uuid = actor.context.channelUuid →
      thread.replies = [] →
      Change actor db { db with
        teams := before ++ { team with
          channels := front ++ { channel with threads := channel.threads ++ [thread] } :: back }
          :: after }
  | reply {before after : List Team} {team : Team} {front back : List Channel} {channel : Channel}
      {first last : List Thread} {thread : Thread} (reply : Reply) :
      db.teams = before ++ team :: after → team.uuid = actor.context.teamUuid →
      team.channels = front ++ channel :: back → channel.uuid = actor.context.channelUuid →
      channel.threads = first ++ thread :: last → thread.uuid = actor.context.threadUuid →
      Change actor db { db with
        teams := before ++ { team with
          channels := front ++ { channel with
            threads := first ++ { thread with replies := thread.replies ++ [reply] } :: last } :: back }
          :: after }
  | message (message : Message) : message.senderUuid = actor.userUuid →
      message.senderUuid ∈ db.userUuids → message.receiverUuid ∈ db.userUuids →
      Change actor db { db with
        users := db.users.map (User.exchange message.senderUuid message.receiverUuid message) }

section Step

variable {env : Env} {fd : Int} {client : Client} {server after : Server} {verb : Verb}
  {outcome : Outcome}

/-- A write to the count of the user that a search finds. -/
theorem change_count (actor : Session) {db : Database} {p : User → Bool} {f : User → User}
    {user : User} (found : db.users.find? p = some user) (count : Nat)
    (counts : f user = { user with connectedCount := count }) :
    db.Change actor { db with users := modifyFirst p f db.users } := by
  obtain ⟨before, after, split, -, update⟩ := modifyFirst_split found
  rw [update f, counts]
  exact .count count split

theorem change_decrement (actor : Session) {db : Database} {uuid : Bytes} {user : User}
    (found : db.findUser uuid = some user) :
    db.Change actor (db.modifyUser uuid User.decrementConnection) := by
  refine change_count actor found (user.connectedCount - 1) ?_
  unfold User.decrementConnection
  split_ifs with positive
  · rfl
  · have zero := Nat.eq_zero_of_not_pos positive
    rw [zero, Nat.zero_sub, ← zero]

theorem change_subscribers (actor : Session) {db : Database} {uuid : Bytes} {f : Team → Team}
    {team : Team} (found : db.findTeam uuid = some team)
    (lists : { team with subscriberUuids := (f team).subscriberUuids } = f team) :
    db.Change actor (db.modifyTeam uuid f) := by
  obtain ⟨before, after, split, -, update⟩ := modifyFirst_split found
  rw [Database.modifyTeam, update f, ← lists]
  exact .subscribers _ split

/-- The two writes of SEND, where no uuid is repeated. -/
theorem modifyUser_exchange {db : Database} (distinct : db.userUuids.Nodup)
    (senderUuid receiverUuid : Bytes) (message : Message) :
    (db.modifyUser senderUuid (User.addMessage receiverUuid message)).modifyUser receiverUuid
        (User.addMessage senderUuid message)
      = { db with users := db.users.map (User.exchange senderUuid receiverUuid message) } := by
  have first : modifyFirst (fun user => user.uuid = senderUuid) (User.addMessage receiverUuid message)
      db.users = db.users.map fun user =>
        if user.uuid = senderUuid then user.addMessage receiverUuid message else user :=
    modifyFirst_eq_map distinct senderUuid
  have still : ((db.users.map fun user =>
      if user.uuid = senderUuid then user.addMessage receiverUuid message else user).map
        User.uuid).Nodup := by
    rw [← first, map_modifyFirst (User.addMessage_uuid _ _)]
    exact distinct
  unfold Database.modifyUser
  simp only
  rw [first, modifyFirst_eq_map still, List.map_map]
  rfl

/-- **A command makes one of the changes**, if no uuid is repeated. -/
theorem serves_change (distinct : server.db.uuids.Nodup)
    (serves : Serves env fd client server verb outcome) :
    server.db.Change client.session outcome.db := by
  cases serves with
  | loginNew _ _ _ _ _ made =>
    subst made
    exact .user rfl
  | loginAgain _ _ _ _ present => exact change_count _ present _ rfl
  | logout _ present => exact change_decrement _ present
  | logoutLast _ present => exact change_decrement _ present
  | createTeam _ _ _ _ _ _ made =>
    subst made
    exact .team rfl
  | createChannel _ _ _ present _ _ _ _ made =>
    subst made
    obtain ⟨before, after, split, -, update⟩ := modifyFirst_split present
    simp only [Database.modifyTeam, update]
    exact .channel split (find?_key present).2 rfl
  | createThread _ _ _ _ _ inside _ _ _ _ made =>
    subst made
    obtain ⟨team, present, within⟩ := Database.findChannel_eq_some_iff.mp inside
    obtain ⟨before, after, split, -, update⟩ := modifyFirst_split present
    obtain ⟨front, back, channels, -, deeper⟩ := modifyFirst_split within
    simp only [Database.modifyChannel, Database.modifyTeam, update, Team.modifyChannel, deeper]
    exact .thread split (find?_key present).2 channels (find?_key within).2 rfl
  | createReply _ _ _ _ _ inside found _ _ made =>
    subst made
    -- the lookup of the thread ignores the team, but finds it there
    obtain ⟨team, present, within⟩ := Database.findChannel_eq_some_iff.mp inside
    rw [Database.findThread_of_findChannel distinct inside] at found
    obtain ⟨before, after, split, -, update⟩ := modifyFirst_split present
    obtain ⟨front, back, channels, -, deeper⟩ := modifyFirst_split within
    obtain ⟨first, last, threads, -, deepest⟩ := modifyFirst_split found
    simp only [Database.modifyThread_of_findChannel distinct inside, Database.modifyChannel,
      Database.modifyTeam, update, Team.modifyChannel, deeper, Channel.modifyThread, deepest]
    exact .reply _ split (find?_key present).2 channels (find?_key within).2 threads
      (find?_key found).2
  | subscribe _ _ _ present =>
    refine change_subscribers _ present ?_
    unfold Team.addSubscriber
    split_ifs <;> rfl
  | unsubscribe _ _ _ present =>
    refine change_subscribers _ present ?_
    unfold Team.removeSubscriber
    split_ifs <;> rfl
  | @send sender receiver message _ _ _ _ sending receiving made =>
    obtain ⟨senderKnown, senderKey⟩ := userUuid_known sending
    obtain ⟨receiverKnown, receiverKey⟩ := userUuid_known receiving
    simp only
    rw [← senderKey, ← receiverKey, modifyUser_exchange distinct.of_append_left]
    have ends : message.senderUuid = sender.uuid ∧ message.receiverUuid = receiver.uuid := by
      rw [made]
      exact ⟨rfl, rfl⟩
    rw [← ends.1, ← ends.2]
    rw [← ends.1] at senderKey senderKnown
    rw [← ends.2] at receiverKnown
    exact .message message senderKey senderKnown receiverKnown
  | _ => exact .kept

/-- The session for which a step is made. -/
def Server.actor (server : Server) : Event → Session
  | .line fd _ => (server.session fd).getD {}
  | _ => {}

/-- **So does every step of a client.** -/
theorem step_change {event : Event} (distinct : server.db.uuids.Nodup)
    (steps : Steps env server event after) (running : event ≠ .restart) :
    server.db.Change (server.actor event) after.db := by
  cases steps with
  | served found _ serves =>
    have change := serves_change (by exact distinct) serves
    rw [Server.actor, Server.session, found]
    exact change
  | leftUser _ _ present => exact change_decrement _ present
  | leftLast _ _ present => exact change_decrement _ present
  | restarted => exact absurd rfl running
  | _ => exact .kept

end Step

/-! ### Runs -/

/-- What a run may do to a timestamp: only a restart touches it, and only one that a `double` cannot
hold. -/
def Steady (events : List Event) (before after : Int) : Prop :=
  .restart ∉ events ∨ |before| ≤ 2 ^ 53 → after = before

section Preservation

variable {env : Env} {events : List Event} {db after : Database}

theorem steady_refl (time : Int) : Steady events time time := fun _ => rfl

theorem steady_trans (first second third : Int) (early : Steady events first second)
    (late : Steady events second third) : Steady events first third := by
  intro spared
  have same := early spared
  rw [same] at late
  exact late spared

theorem steady_reload (present : .restart ∈ events) (time : Int) :
    Steady events time (reloadTime env.fp time) := by
  rintro (absent | small)
  · exact absurd present absent
  · exact env.fp.toTime_ofInt time small

/-- **A run preserves what is there.** -/
theorem run_preserved (server : Server) {late : List Event} (part : ∀ event ∈ late, event ∈ events) :
    server.db.Preserved (Steady events) (run (Server.step env) server late).db := by
  induction late generalizing server with
  | nil =>
    exact ⟨.refl (User.Archived.refl steady_refl) _, .refl (Team.Kept.refl steady_refl) _⟩
  | cons event rest ih =>
    have step := step_preserved steady_refl steady_trans
      (fun restarts => steady_reload (restarts ▸ part event List.mem_cons_self))
      (step_steps env server event)
    exact step.trans steady_trans
      (ih (server.step env event) fun later member => part later (List.mem_cons_of_mem _ member))

theorem Database.Preserved.kept {clock : Int → Int → Prop} (preserved : db.Preserved clock after) :
    db.Kept clock after :=
  ⟨preserved.users.mono fun _ _ _ same => ⟨same.uuid, same.name⟩, preserved.teams⟩

/-! ### What LIST and USERS show -/

/-- The lists of `db`, with all that LIST shows and the uuids and names that USERS shows, come first in
those of `after`. The status of a user, which USERS shows too, may change. -/
structure Database.ListsGrow (db after : Database) : Prop where
  users : (db.users.map fun user => (user.uuid, user.name))
    <+: after.users.map fun user => (user.uuid, user.name)
  teams : (db.teams.map fun team => Frame.namedFields team.uuid team.name team.description)
    <+: after.teams.map fun team => Frame.namedFields team.uuid team.name team.description
  channels : ∀ uuid team, db.findTeam uuid = some team → ∃ now, after.findTeam uuid = some now ∧
    (team.channels.map fun channel =>
        Frame.namedFields channel.uuid channel.name channel.description)
      <+: now.channels.map fun channel =>
        Frame.namedFields channel.uuid channel.name channel.description
  threads : ∀ teamUuid channelUuid channel, db.findChannel teamUuid channelUuid = some channel →
    ∃ now, after.findChannel teamUuid channelUuid = some now ∧
      channel.threads.map Frame.threadFields <+: now.threads.map Frame.threadFields
  replies : ∀ teamUuid channelUuid threadUuid channel thread,
    db.findChannel teamUuid channelUuid = some channel →
    db.findThread channelUuid threadUuid = some thread →
    ∃ now, after.findThread channelUuid threadUuid = some now ∧
      thread.replies.map (Frame.replyFields thread.uuid)
        <+: now.replies.map (Frame.replyFields now.uuid)

/-- The uuid and the name in a line of USERS. -/
def Frame.listedUser (frame : Frame) : Option (Bytes × Bytes) :=
  match frame.keywords, frame.fields with
  | [.code210], [.quoted uuid, .quoted name, _] => some (uuid, name)
  | _, _ => none

/-- What USERS answers at first comes first in what it answers later, but for the status of the users; and
so does what LIST answers in the same context, if it answers a list both times. -/
structure Server.AnswersGrow (env : Env) (server later : Server) : Prop where
  users : ∀ {fd other : Int} {first last : Bytes}, server.Asks fd .users first →
    later.Asks other .users last → (server.reply env fd first).filterMap Frame.listedUser
      <+: (later.reply env other last).filterMap Frame.listedUser
  lists : ∀ {fd other : Int} {first last : Bytes} {context : Context} {type type' : Keyword}
    {items items' : List (List Field)}, server.Asks fd .list first → later.Asks other .list last →
    (server.session fd).map Session.context = some context →
    (later.session other).map Session.context = some context →
    server.reply env fd first = Frame.listing type items →
    later.reply env other last = Frame.listing type' items' → type' = type ∧ items <+: items'

/-- The list of one level grows. -/
theorem Database.ListsGrow.lists (grow : db.ListsGrow after) (distinct : db.uuids.Nodup) {context : Context}
    {type type' : Keyword} {items items' : List (List Field)} (first : db.Lists context type items)
    (last : after.Lists context type' items') : type' = type ∧ items <+: items' := by
  cases first with
  | teams top =>
    cases last with
    | teams => exact ⟨rfl, grow.teams⟩
    | channels inside | threads inside | replies inside => exact absurd top inside
  | channels inside top found =>
    obtain ⟨now, present, longer⟩ := grow.channels _ _ found
    cases last with
    | teams outside => exact absurd outside inside
    | channels _ _ found' =>
      obtain rfl := Option.some.inj (present.symm.trans found')
      exact ⟨rfl, longer⟩
    | threads _ deeper | replies _ deeper => exact absurd top deeper
  | threads inside deeper top found =>
    obtain ⟨now, present, longer⟩ := grow.threads _ _ _ found
    cases last with
    | teams outside => exact absurd outside inside
    | channels _ above => exact absurd above deeper
    | threads _ _ _ found' =>
      obtain rfl := Option.some.inj (present.symm.trans found')
      exact ⟨rfl, longer⟩
    | replies _ _ deepest => exact absurd top deepest
  | replies inside deeper deepest found =>
    obtain ⟨team, channel, owner, within, -⟩ := Database.findThread_split found
    have home : db.findTeam team.uuid = some team :=
      find?_of_nodup (Database.teams_nodup distinct) (List.mem_of_find?_eq_some owner)
    have around := Database.findChannel_eq_some_iff.mpr ⟨team, home, within⟩
    obtain ⟨now, present, longer⟩ := grow.replies _ _ _ _ _ around found
    cases last with
    | teams outside => exact absurd outside inside
    | channels _ above => exact absurd above deeper
    | threads _ _ above => exact absurd above deepest
    | replies _ _ _ found' =>
      obtain rfl := Option.some.inj (present.symm.trans found')
      exact ⟨rfl, longer⟩

/-- **So do the answers to USERS and LIST.** -/
theorem Database.ListsGrow.answersGrow {server later : Server} (grow : server.db.ListsGrow later.db)
    (distinct : server.db.uuids.Nodup) : server.AnswersGrow env later where
  users asked again := by
    have shown : ∀ db : Database, (Frame.listing .users (db.users.map Frame.userFields)).filterMap
        Frame.listedUser = db.users.map fun user => (user.uuid, user.name) :=
      fun db => Frame.filterMap_listing rfl (fun _ _ => rfl) rfl
    rw [reply_users asked, reply_users again, shown, shown]
    exact grow.users
  lists asked again selected still answer answer' :=
    grow.lists distinct (lists_of_reply asked selected answer) (lists_of_reply again still answer')

/-- The timestamps of a thread that is found are timestamps of the database. -/
theorem mem_timestamps {team : Team} {channel : Channel} {thread : Thread} (teams : team ∈ db.teams)
    (channels : channel ∈ team.channels) (threads : thread ∈ channel.threads) {time : Int}
    (member : time ∈ thread.timestamps) : time ∈ db.timestamps :=
  List.mem_append_right _ (List.mem_flatMap.mpr ⟨team, teams, List.mem_flatMap.mpr
    ⟨channel, channels, List.mem_flatMap.mpr ⟨thread, threads, member⟩⟩⟩)

/-- **Lists only grow at their end**, where the timestamps are spared. -/
theorem Database.Preserved.listsGrow (preserved : db.Preserved (Steady events) after)
    (distinct : db.uuids.Nodup) (later : after.uuids.Nodup)
    (spared : .restart ∉ events ∨ ∀ time ∈ db.timestamps, |time| ≤ 2 ^ 53) :
    db.ListsGrow after := by
  have kept := preserved.kept
  have exact : ∀ {before now : Int}, before ∈ db.timestamps → Steady events before now →
      now = before := fun member steady => steady (spared.imp_right fun small => small _ member)
  refine ⟨?_, ?_, fun uuid team present => ?_, fun teamUuid channelUuid channel present => ?_,
    fun teamUuid channelUuid threadUuid channel thread present inside => ?_⟩
  · exact preserved.users.map_prefix fun user _ now same => by rw [same.uuid, same.name]
  · exact preserved.teams.map_prefix fun team _ now same => by
      rw [same.uuid, same.name, same.description]
  · obtain ⟨now, found, same⟩ := kept.findTeam present
    refine ⟨now, found, same.channels.map_prefix fun channel _ next same => ?_⟩
    rw [same.uuid, same.name, same.description]
  · obtain ⟨team, teamFound, within⟩ := Database.findChannel_eq_some_iff.mp present
    obtain ⟨teamNow, teamLater, teamKept⟩ := kept.findTeam teamFound
    obtain ⟨now, found, same⟩ := teamKept.findChannel within
    refine ⟨now, Database.findChannel_eq_some_iff.mpr ⟨teamNow, teamLater, found⟩,
      same.threads.map_prefix fun thread member next same => ?_⟩
    have time := exact (mem_timestamps (List.mem_of_find?_eq_some teamFound)
      (List.mem_of_find?_eq_some within) member List.mem_cons_self) same.timestamp
    unfold Frame.threadFields
    rw [same.uuid, same.userUuid, time, same.title, same.body]
  · rw [Database.findThread_of_findChannel distinct present] at inside
    obtain ⟨team, teamFound, within⟩ := Database.findChannel_eq_some_iff.mp present
    obtain ⟨teamNow, teamLater, teamKept⟩ := kept.findTeam teamFound
    obtain ⟨channelNow, channelFound, channelKept⟩ := teamKept.findChannel within
    obtain ⟨now, found, same⟩ := channelKept.findThread inside
    have still := Database.findChannel_eq_some_iff.mpr ⟨teamNow, teamLater, channelFound⟩
    refine ⟨now, (Database.findThread_of_findChannel later still threadUuid).trans found, ?_⟩
    rw [same.uuid]
    refine same.replies.map_prefix fun reply member next same => ?_
    have time := exact (mem_timestamps (List.mem_of_find?_eq_some teamFound)
      (List.mem_of_find?_eq_some within) (List.mem_of_find?_eq_some inside)
      (List.mem_cons_of_mem _ (List.mem_map_of_mem member))) same.timestamp
    unfold Frame.replyFields
    rw [same.userUuid, time, same.body]

end Preservation

/-- **The append-only law**, for every run from a database that a server process can load. A step of a
client makes one of the changes. Over any later part of the run, what is there is preserved, and the
lists of the database and the answers to LIST and USERS only grow at their end; a restart keeps the
timestamps that a `double` can hold. -/
theorem append_only (env : Env) {db : Database} (start : SelfSaved db) (early : List Event)
    (fresh : env.Fresh db.uuids (run (Server.step env) { db := db } early).uuidCalls) :
    let server := run (Server.step env) { db := db } early
    (∀ event, event ≠ .restart →
      server.db.Change (server.actor event) (server.step env event).db) ∧
    ∀ late, env.Fresh db.uuids (run (Server.step env) { db := db } (early ++ late)).uuidCalls →
      let later := run (Server.step env) { db := db } (early ++ late)
      server.db.Preserved (Steady late) later.db ∧
      (.restart ∉ late ∨ (∀ time ∈ server.db.timestamps, |time| ≤ 2 ^ 53) →
        server.db.ListsGrow later.db ∧ server.AnswersGrow env later) := by
  intro server
  have distinct : Distinct server.db.uuids := run_distinct start.distinct early fresh
  refine ⟨fun event running => step_change distinct.nodup (step_steps env server event) running,
    fun late still => ?_⟩
  intro later
  have split : later = run (Server.step env) server late := run_append _ _ _
  have preserved : server.db.Preserved (Steady late) later.db := by
    rw [split]
    exact run_preserved server fun _ => id
  have after : Distinct later.db.uuids := run_distinct start.distinct (early ++ late) still
  refine ⟨preserved, fun spared => ?_⟩
  have grow := preserved.listsGrow distinct.nodup after.nodup spared
  exact ⟨grow, grow.answersGrow distinct.nodup⟩

/-- A team is created behind another one. -/
theorem append_only_sample :
    let early := Input.trace sampleEnv { db := {} } [.accept 4,
      .read 4 (ascii "/login \"ann\"\n/create \"red\" \"first\"\n")]
    let server := run (Server.step sampleEnv) { db := {} } early
    let event := Event.line 4 (ascii "/create \"blue\" \"second\"")
    server.db.teams.length = 1 ∧ (server.step sampleEnv event).db.teams.length = 2 ∧
      server.db.Change (server.actor event) (server.step sampleEnv event).db := by
  refine ⟨by decide, by decide, ?_⟩
  exact (append_only sampleEnv .empty _ (sampleEnv_fresh.of_le (by decide))).1 _ (by simp)

end MyTeams
