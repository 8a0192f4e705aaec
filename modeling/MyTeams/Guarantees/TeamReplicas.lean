/-
**A subscriber can follow the subscribers of a team and the replies of a thread.**

The events of a team go to its subscribers only, so a copy is right as long as its holder is one of them:

* `subscribers_replica` — the subscribers of a team, as SUBSCRIBED lists them;
* `replies_replica` — the replies of a thread, as LIST shows them, each with its author and its text.

The lists of channels and of threads cannot be followed in this way: their events do not name the team, or the
channel, that has grown. A REPLY_CREATED event names the thread, and no two threads have one uuid
(`Database.same_path`).
-/

import MyTeams.Guarantees.Replicas
import MyTeams.Guarantees.SubscriptionHistory

namespace MyTeams

open Transition Replica FirstMatch Letters

/-! ### The subscribers of a team -/

/-- The subscribers of the team that has this uuid. -/
def Database.subscribersOfTeam (teamUuid : Bytes) (db : Database) : List Bytes :=
  ((db.findTeam teamUuid).map Team.subscriberUuids).getD []

/-- What a client does with a message. -/
def hearSubscriber (teamUuid : Bytes) (uuids : List Bytes) (frame : Frame) : List Bytes :=
  match frame.keywords, frame.fields with
  | [.userSubscribed], [.plain team, .plain user] => if team = teamUuid then uuids ++ [user] else uuids
  | [.userUnsubscribed], [.plain team, .plain user] =>
    if team = teamUuid then uuids.filter (· ≠ user) else uuids
  | _, _ => uuids

section Subscribers

variable {env : Env} {fd other : Int} {client : Client} {server after : Server} {verb : Verb}
  {outcome : Outcome} {teamUuid userUuid : Bytes} {db : Database}

theorem subscriber_deaf {frame : Frame} (joined : frame.keywords ≠ [.userSubscribed])
    (left : frame.keywords ≠ [.userUnsubscribed]) : frame.Deaf (hearSubscriber teamUuid) := by
  intro uuids
  unfold hearSubscriber
  split
  · exact absurd ‹_› joined
  · exact absurd ‹_› left
  · rfl

theorem subscriber_deaf_of_reply {frame : Frame} (reply : frame.isNotice = false) :
    frame.Deaf (hearSubscriber teamUuid) :=
  subscriber_deaf (Frame.keywords_ne_of_reply reply rfl) (Frame.keywords_ne_of_reply reply rfl)

theorem subscriber_deaf_of_event {frame : Frame} (event : frame.keywords.head? = some .event) :
    frame.Deaf (hearSubscriber teamUuid) := by
  refine subscriber_deaf (fun same => ?_) fun same => ?_ <;>
  · rw [same] at event
    cases event

/-- A notice about another team. -/
theorem subscribed_deaf {other : Bytes} (different : other ≠ teamUuid) (user : Bytes) :
    (Frame.userSubscribed other user).Deaf (hearSubscriber teamUuid) := fun _ => if_neg different

theorem unsubscribed_deaf {other : Bytes} (different : other ≠ teamUuid) (user : Bytes) :
    (Frame.userUnsubscribed other user).Deaf (hearSubscriber teamUuid) := fun _ => if_neg different

/-- Writes that keep the uuids and the subscribers of all teams. -/
theorem subscribersOfTeam_modifyFirst {p : Team → Bool} {f : Team → Team}
    (uuids : ∀ team, (f team).uuid = team.uuid)
    (keeps : ∀ team, (f team).subscriberUuids = team.subscriberUuids) :
    Database.subscribersOfTeam teamUuid { db with teams := modifyFirst p f db.teams }
      = db.subscribersOfTeam teamUuid := by
  unfold Database.subscribersOfTeam Database.findTeam
  rw [find?_map_modifyFirst (fun team => by rw [uuids]) keeps]

/-- A write to another team. -/
theorem subscribersOfTeam_modifyTeam_of_ne {uuid : Bytes} (different : uuid ≠ teamUuid) {f : Team → Team}
    (uuids : ∀ team, (f team).uuid = team.uuid) :
    (db.modifyTeam uuid f).subscribersOfTeam teamUuid = db.subscribersOfTeam teamUuid := by
  unfold Database.subscribersOfTeam Database.findTeam Database.modifyTeam
  rw [find?_modifyFirst_of_disjoint (fun team hit => ?_) fun team => by rw [uuids]]
  exact decide_eq_false fun same => different ((of_decide_eq_true hit).symm.trans same)

/-- A write to the team. -/
theorem subscribersOfTeam_modifyTeam {f : Team → Team} {team : Team} (found : db.findTeam teamUuid = some team)
    (uuids : ∀ team, (f team).uuid = team.uuid) :
    (db.modifyTeam teamUuid f).subscribersOfTeam teamUuid = (f team).subscriberUuids := by
  unfold Database.subscribersOfTeam
  rw [findTeam_modifyTeam db uuids found]
  rfl

theorem subscribersOfTeam_of_found {team : Team} (found : db.findTeam teamUuid = some team) :
    db.subscribersOfTeam teamUuid = team.subscriberUuids := by
  unfold Database.subscribersOfTeam
  rw [found]
  rfl

theorem hasSubscriber_iff_mem :
    db.HasSubscriber userUuid teamUuid ↔ userUuid ∈ db.subscribersOfTeam teamUuid := by
  constructor
  · rintro ⟨team, found, listed⟩
    rwa [subscribersOfTeam_of_found found]
  · intro listed
    unfold Database.subscribersOfTeam at listed
    cases found : db.findTeam teamUuid with
    | none =>
      rw [found] at listed
      cases listed
    | some team =>
      rw [found] at listed
      exact ⟨team, found, listed⟩

instance (userUuid teamUuid : Bytes) (db : Database) : Decidable (db.HasSubscriber userUuid teamUuid) :=
  decidable_of_iff ((db.subscribersOfTeam teamUuid).any (· = userUuid) = true) <| by
    rw [hasSubscriber_iff_mem, List.any_eq_true]
    simp only [decide_eq_true_eq, exists_eq_right]

/-- What a subscriber hears of a notice to the subscribers. -/
theorem toSubscribers_of_member {team : Team} (frame : Frame) (nonempty : userUuid ≠ [])
    (member : userUuid ∈ team.subscriberUuids) : toSubscribers team frame other userUuid = [frame] :=
  if_pos ⟨nonempty, member⟩

/-- **The letters of a command say what it does to the subscribers**, to a user who is one before and after. -/
theorem serves_subscribers (nonempty : userUuid ≠ []) (member : server.db.HasSubscriber userUuid teamUuid)
    (still : outcome.db.HasSubscriber userUuid teamUuid)
    (serves : Serves env fd client server verb outcome) :
    outcome.db.subscribersOfTeam teamUuid = (outcome.letters other userUuid).foldl (hearSubscriber teamUuid)
      (server.db.subscribersOfTeam teamUuid) := by
  cases serves with
  | refused refusal => exact heard_nothing rfl (all_answer fd (subscriber_deaf_of_reply (by cases refusal <;> rfl)))
  | shown shown => exact heard_nothing rfl (all_replies_deaf subscriber_deaf_of_reply (shown_replies shown))
  | loginNew | loginAgain =>
    exact heard_nothing rfl ((all_answer fd (subscriber_deaf_of_reply rfl)).followedBy
      (all_toAll (subscriber_deaf_of_event rfl)))
  | logoutLast =>
    exact heard_nothing rfl ((all_toAll (subscriber_deaf_of_event rfl)).followedBy
      (all_answer fd (subscriber_deaf_of_reply rfl)))
  | logout | logoutUnknown | useNothing | useTeam =>
    exact heard_nothing rfl (all_answer fd (subscriber_deaf_of_reply rfl))
  | useChannel | useThread | useNoChannel | useNoThread =>
    exact heard_nothing rfl (all_replies_deaf subscriber_deaf_of_reply
      (by simp [Frame.isNotice, Frame.ok, Frame.notFoundKind]))
  | createTeam =>
    refine heard_nothing ?_
      ((all_answer fd (subscriber_deaf_of_reply rfl)).followedBy (all_toAll (subscriber_deaf_of_event rfl)))
    -- the team of the copy is there, in front of the new one
    obtain ⟨team, found, -⟩ := member
    unfold Database.findTeam at found
    unfold Database.subscribersOfTeam Database.findTeam
    rw [List.find?_append, found, Option.some_or]
  | createChannel =>
    refine heard_nothing (subscribersOfTeam_modifyFirst (fun _ => rfl) fun _ => rfl) ?_
    exact (all_answer fd (subscriber_deaf_of_reply rfl)).followedBy
      (all_toSubscribers _ (subscriber_deaf_of_event rfl))
  | createThread =>
    refine heard_nothing (subscribersOfTeam_modifyFirst (fun _ => rfl) fun _ => rfl) ?_
    exact (all_answer fd (subscriber_deaf_of_reply rfl)).followedBy
      (all_toSubscribers _ (subscriber_deaf_of_event rfl))
  | createReply =>
    refine heard_nothing (subscribersOfTeam_modifyFirst (fun _ => rfl) fun _ => rfl) ?_
    exact (all_answer fd (subscriber_deaf_of_reply rfl)).followedBy
      (all_toSubscribers _ (subscriber_deaf_of_event rfl))
  | @subscribe team _ _ _ found absent =>
    by_cases same : client.arg 1 = teamUuid
    · subst same
      have uuids := Team.addSubscriber_uuid client.userUuid
      have listed := hasSubscriber_iff_mem.mp still
      rw [subscribersOfTeam_modifyTeam found uuids] at listed
      rw [subscribersOfTeam_modifyTeam found uuids, foldl_followedBy_answer (subscriber_deaf_of_reply rfl),
        toSubscribers_of_member _ nonempty listed, subscribersOfTeam_of_found found,
        Team.addSubscriber_of_absent fun subscribed => absent (Team.isUserSubscribed_iff.mp subscribed)]
      exact (if_pos rfl).symm
    · refine heard_nothing (subscribersOfTeam_modifyTeam_of_ne same (Team.addSubscriber_uuid _)) ?_
      exact (all_toSubscribers _ (subscribed_deaf same _)).followedBy (all_answer fd (subscriber_deaf_of_reply rfl))
  | @unsubscribe team _ _ _ found present =>
    by_cases same : client.arg 1 = teamUuid
    · subst same
      have uuids := Team.removeSubscriber_uuid client.userUuid
      have listed := hasSubscriber_iff_mem.mp still
      rw [subscribersOfTeam_modifyTeam found uuids] at listed
      rw [subscribersOfTeam_modifyTeam found uuids, foldl_followedBy_answer (subscriber_deaf_of_reply rfl),
        toSubscribers_of_member _ nonempty listed, subscribersOfTeam_of_found found,
        Team.removeSubscriber_of_present (Team.isUserSubscribed_iff.mpr present)]
      exact (if_pos rfl).symm
    · refine heard_nothing (subscribersOfTeam_modifyTeam_of_ne same (Team.removeSubscriber_uuid _)) ?_
      exact (all_toSubscribers _ (unsubscribed_deaf same _)).followedBy (all_answer fd (subscriber_deaf_of_reply rfl))
  | send =>
    exact heard_nothing rfl ((all_toUser _ (subscriber_deaf_of_event rfl)).followedBy
      (all_answer fd (subscriber_deaf_of_reply rfl)))

/-- **So do those of every step**, to a connection that belongs to such a user after it. -/
theorem step_subscribers {event : Event} (nonempty : userUuid ≠ [])
    (member : server.db.HasSubscriber userUuid teamUuid) (still : after.db.HasSubscriber userUuid teamUuid)
    (session : after.IsSessionOf fd userUuid) (steps : Steps env server event after) :
    Follows (fun server : Server => server.db.subscribersOfTeam teamUuid) (Server.appendedTo fd)
      (hearSubscriber teamUuid) server after := by
  obtain ⟨holder, present, user⟩ := session.exists_client
  refine step_follows steps present (fun _ _ stored _ outcome _ db _ serves committed _ => ?_)
    (fun _ _ _ _ => rfl) fun _ _ _ _ => ?_
  · rw [user]
    exact serves_subscribers nonempty (db ▸ member) (committed ▸ still) serves
  · exact (subscriber_deaf_of_event rfl _).symm

/-- The lines of SUBSCRIBED name the subscribers, where these are users of the database. -/
theorem listing_subscribers (proper : db.WellFormed) {team : Team} (found : db.findTeam teamUuid = some team) :
    ((Frame.listing .users ((team.subscriberUuids.filterMap db.findUser).map Frame.userFields)).filterMap
      Frame.rosterEntry).map RosterEntry.uuid = db.subscribersOfTeam teamUuid := by
  have known := (proper.teams team (find?_key found).1).subscribers
  have each : ∀ uuid ∈ team.subscriberUuids, (db.findUser uuid).map User.uuid = some uuid := by
    intro uuid member
    obtain ⟨user, present⟩ := exists_findUser (known uuid member)
    rw [present, Option.map_some, (find?_key present).2]
  rw [listing_roster, List.map_map, subscribersOfTeam_of_found found]
  show (team.subscriberUuids.filterMap db.findUser).map User.uuid = team.subscriberUuids
  rw [List.map_filterMap, List.filterMap_congr each, List.filterMap_some]

/-- A subscriber is a user of the database, so it has a uuid. -/
theorem Database.HasSubscriber.ne_nil (member : db.HasSubscriber userUuid teamUuid) (proper : db.WellFormed) :
    userUuid ≠ [] := by
  obtain ⟨team, found, listed⟩ := member
  have known := (proper.teams team (find?_key found).1).subscribers userUuid listed
  exact fun empty => proper.distinct.named (empty ▸ List.mem_append_left _ known)

/-- A connection belongs to a subscriber of the team at every moment of a run. -/
def Server.StaysSubscribed (env : Env) (fd : Int) (userUuid teamUuid : Bytes) (server : Server)
    (events : List Event) : Prop :=
  ∀ early, early <+: events → (run (Server.step env) server early).IsSessionOf fd userUuid ∧
    (run (Server.step env) server early).db.HasSubscriber userUuid teamUuid

/-- What SUBSCRIBED answers to a logged-in user. -/
theorem reply_subscribers {rawCommand : Bytes} (named : [] ∉ server.db.uuids) (nonempty : userUuid ≠ [])
    (session : server.IsSessionOf fd userUuid) {team : Team} (found : server.db.findTeam teamUuid = some team)
    (asks : CommandHandling.parseArgs rawCommand = [Verb.subscribed.text, teamUuid]) :
    server.reply env fd rawCommand = Frame.listing .users
      ((team.subscriberUuids.filterMap server.db.findUser).map Frame.userFields) := by
  obtain ⟨client, present, rfl⟩ := session.exists_client
  have team : teamUuid ≠ [] := fun empty => named (empty ▸ mem_uuids_of_findTeam found)
  have verb : (CommandHandling.parseArgs rawCommand).head? = some Verb.subscribed.text := by
    rw [asks]
    rfl
  have answers := (subscribed_answers env present verb nonempty).2 (by rw [asks]; rfl)
    (by rw [asks]; exact team)
  rw [asks] at answers
  show server.newFrames fd (server.step env (.line fd rawCommand)) = _
  rw [answers]
  show Database.subscribersOf teamUuid server.db = _
  unfold Database.subscribersOf
  rw [found]

end Subscribers

/-- **A copy of the subscribers of a team.** A client of a subscriber asks for the subscribers of the team. If it
adds and removes the users that the notices about the team name, it has what the server replies when it asks
again, as long as it is logged in as this user and the user stays a subscriber. -/
theorem subscribers_replica (env : Env) {db : Database} (start : SelfSaved db) (before between : List Event)
    (fd : Int) (userUuid teamUuid first last : Bytes)
    (fresh : env.Fresh db.uuids
      (run (Server.step env) { db := db } (before ++ .line fd first :: between)).uuidCalls)
    (stays : (run (Server.step env) { db := db } before).StaysSubscribed env fd userUuid teamUuid
      (.line fd first :: between))
    (asks : CommandHandling.parseArgs first = [Verb.subscribed.text, teamUuid])
    (again : CommandHandling.parseArgs last = [Verb.subscribed.text, teamUuid]) :
    let server := run (Server.step env) { db := db } before
    let now := run (Server.step env) { db := db } (before ++ .line fd first :: between)
    ((now.reply env fd last).filterMap Frame.rosterEntry).map RosterEntry.uuid
      = (server.newFrames fd now).foldl (hearSubscriber teamUuid)
        (((server.reply env fd first).filterMap Frame.rosterEntry).map RosterEntry.uuid) := by
  intro server now
  have proper : server.db.WellFormed :=
    run_wellFormed start.loaded before (fresh_of_before (List.prefix_append _ _) fresh)
  have later : now.db.WellFormed := run_wellFormed start.loaded _ fresh
  have loggedIn := (stays [] List.nil_prefix).2.ne_nil proper
  have reached : run (Server.step env) server (.line fd first :: between) = now := (run_append _ _ _).symm
  have follows : Follows (fun server : Server => server.db.subscribersOfTeam teamUuid) (Server.appendedTo fd)
      (hearSubscriber teamUuid) server (run (Server.step env) server (.line fd first :: between)) := by
    refine run_follows fun early event initial => ?_
    obtain ⟨-, member⟩ := stays early ((List.prefix_append _ _).trans initial)
    obtain ⟨session, still⟩ := stays (early ++ [event]) initial
    rw [run_concat] at session still
    exact step_subscribers loggedIn member still session (step_steps env _ event)
  obtain ⟨session, team, found, -⟩ := stays [] List.nil_prefix
  obtain ⟨final, grown, present, -⟩ := stays _ (List.prefix_refl _)
  rw [reached] at follows final present
  rw [reply_subscribers proper.distinct.named loggedIn session found asks,
    reply_subscribers later.distinct.named loggedIn final present again, listing_subscribers proper found,
    listing_subscribers later present]
  exact follows.observe_eq

/-- Another user subscribes, leaves and comes back. -/
theorem subscribers_replica_sample :
    let asks := ascii "/subscribed \"" ++ (digitUuid 1).1 ++ ascii "\""
    let joins := ascii "/subscribe \"" ++ (digitUuid 1).1 ++ ascii "\""
    let leaves := ascii "/unsubscribe \"" ++ (digitUuid 1).1 ++ ascii "\""
    let before := [Event.accept 4, .accept 5, .line 4 (ascii "/login \"ann\""),
      .line 4 (ascii "/create \"red\" \"first\""), .line 5 (ascii "/login \"bob\"")]
    let between := [Event.line 5 joins, .line 5 leaves, .line 5 joins]
    let server := run (Server.step sampleEnv) {} before
    let now := run (Server.step sampleEnv) {} (before ++ .line 4 asks :: between)
    ((now.reply sampleEnv 4 asks).filterMap Frame.rosterEntry).map RosterEntry.uuid
        = (server.newFrames 4 now).foldl (hearSubscriber (digitUuid 1).1)
          (((server.reply sampleEnv 4 asks).filterMap Frame.rosterEntry).map RosterEntry.uuid) ∧
      ((now.reply sampleEnv 4 asks).filterMap Frame.rosterEntry).length = 2 := by
  intro asks joins leaves before between server now
  refine ⟨subscribers_replica sampleEnv .empty before between 4 (digitUuid 0).1 (digitUuid 1).1 asks asks
    (sampleEnv_fresh.of_le (by decide)) (fun early initial => ?_) (by decide) (by decide), by decide⟩
  have each : ∀ prior ∈ List.inits (.line 4 asks :: between),
      (run (Server.step sampleEnv) server prior).IsSessionOf 4 (digitUuid 0).1 ∧
        (run (Server.step sampleEnv) server prior).db.HasSubscriber (digitUuid 0).1 (digitUuid 1).1 := by decide
  exact each early ((List.mem_inits _ _).mpr initial)

/-! ### The replies of a thread -/

/-- What a client keeps of a reply: its author and its text. -/
abbrev ReplyEntry := Bytes × Bytes

/-- What a 210 line of the list says. -/
def Frame.replyEntry (frame : Frame) : Option ReplyEntry :=
  match frame.keywords, frame.fields with
  | [.code210], [.quoted _, .quoted user, .number _, .quoted body] => some (user, body)
  | _, _ => none

/-- What a client does with a message: a reply to the thread is added. -/
def hearReply (threadUuid : Bytes) (entries : List ReplyEntry) (frame : Frame) : List ReplyEntry :=
  match frame.keywords, frame.fields with
  | [.event, .replyCreated], [.quoted _, .quoted thread, .quoted user, .quoted body] =>
    if thread = threadUuid then entries ++ [(user, body)] else entries
  | _, _ => entries

def Thread.entries (thread : Thread) : List ReplyEntry :=
  thread.replies.map fun reply => (reply.userUuid, reply.body)

/-- The replies of the thread that a channel has under this uuid. -/
def Channel.entriesOf (threadUuid : Bytes) (channel : Channel) : List ReplyEntry :=
  ((channel.threads.find? (·.uuid = threadUuid)).map Thread.entries).getD []

/-- The replies of a thread, in the channel that `findThread` looks at. -/
def Database.entriesOf (channelUuid threadUuid : Bytes) (db : Database) : List ReplyEntry :=
  ((db.findThread channelUuid threadUuid).map Thread.entries).getD []

section Replies

variable {env : Env} {fd other : Int} {client : Client} {server after : Server} {verb : Verb}
  {outcome : Outcome} {teamUuid channelUuid threadUuid userUuid : Bytes} {db : Database} {past : List Bytes}

/-- **No two threads have one uuid**, so it names one team and one channel. -/
theorem Database.same_path (distinct : db.uuids.Nodup) {team other : Team} {channel stray : Channel}
    {thread double : Thread} (stored : team ∈ db.teams) (inside : channel ∈ team.channels)
    (listed : thread ∈ channel.threads) (stored' : other ∈ db.teams) (inside' : stray ∈ other.channels)
    (listed' : double ∈ stray.threads) (same : thread.uuid = double.uuid) :
    team = other ∧ channel = stray := by
  have teams : (db.teams.flatMap Team.uuids).Nodup := List.Nodup.of_append_right distinct
  have inChannel : ∀ {channel : Channel} {thread : Thread}, thread ∈ channel.threads →
      thread.uuid ∈ channel.uuids := fun member =>
    List.mem_cons_of_mem _ (List.mem_flatMap.mpr ⟨_, member, List.mem_cons_self⟩)
  have inTeam : ∀ {team : Team} {channel : Channel} {uuid : Bytes}, channel ∈ team.channels →
      uuid ∈ channel.uuids → uuid ∈ team.uuids := fun member held =>
    List.mem_cons_of_mem _ (List.mem_flatMap.mpr ⟨_, member, held⟩)
  have left := inChannel listed
  have right := same ▸ inChannel listed'
  obtain rfl := eq_of_mem_parts teams stored stored' (inTeam inside left) (inTeam inside' right)
  have channels : (team.channels.flatMap Channel.uuids).Nodup :=
    (List.nodup_cons.mp ((List.nodup_flatMap.mp teams).1 team stored)).2
  exact ⟨rfl, eq_of_mem_parts channels inside inside' left right⟩

theorem entriesOf_eq : db.entriesOf channelUuid threadUuid
    = (((db.teams.flatMap Team.channels).find? (·.uuid = channelUuid)).map
      (Channel.entriesOf threadUuid)).getD [] := by
  unfold Database.entriesOf Database.findThread
  cases (db.teams.flatMap Team.channels).find? (·.uuid = channelUuid) <;> rfl

/-- Writes to a team that keep the replies. -/
theorem entriesOf_modifyTeam {p : Team → Bool} {f : Team → Team}
    (same : ∀ team : Team, ((f team).channels.find? (·.uuid = channelUuid)).map (Channel.entriesOf threadUuid)
      = (team.channels.find? (·.uuid = channelUuid)).map (Channel.entriesOf threadUuid)) :
    Database.entriesOf channelUuid threadUuid { db with teams := modifyFirst p f db.teams }
      = db.entriesOf channelUuid threadUuid := by
  rw [entriesOf_eq, entriesOf_eq]
  exact congrArg (Option.getD · []) (find?_flatMap_modifyFirst same)

/-- Writes to a channel that keep the replies. -/
theorem entriesOf_modifyChannel {uuid : Bytes} {p : Team → Bool} {f : Channel → Channel}
    (uuids : ∀ channel, (f channel).uuid = channel.uuid)
    (same : ∀ channel, (f channel).entriesOf threadUuid = channel.entriesOf threadUuid) :
    Database.entriesOf channelUuid threadUuid
        { db with teams := modifyFirst p (Team.modifyChannel uuid f) db.teams }
      = db.entriesOf channelUuid threadUuid :=
  entriesOf_modifyTeam fun _ => find?_map_modifyFirst (fun channel => by rw [uuids]) same

/-- A write to the thread. -/
theorem findThread_modifyThread {f : Thread → Thread} (uuids : ∀ thread, (f thread).uuid = thread.uuid) :
    (db.modifyThread channelUuid threadUuid f).findThread channelUuid threadUuid
      = (db.findThread channelUuid threadUuid).map f := by
  have channels : (db.modifyThread channelUuid threadUuid f).teams.flatMap Team.channels
      = modifyFirst (·.uuid = channelUuid) (Channel.modifyThread threadUuid f)
        (db.teams.flatMap Team.channels) := flatMap_modifyFirst_any fun _ => rfl
  unfold Database.findThread
  rw [channels, find?_modifyFirst (f := Channel.modifyThread threadUuid f) fun _ => rfl]
  cases (db.teams.flatMap Team.channels).find? (·.uuid = channelUuid) with
  | none => rfl
  | some channel => exact find?_modifyFirst fun thread => by rw [uuids]

theorem reply_deaf {frame : Frame} (other : frame.keywords ≠ [.event, .replyCreated]) :
    frame.Deaf (hearReply threadUuid) := by
  intro entries
  unfold hearReply
  split
  · exact absurd ‹_› other
  · rfl

theorem reply_deaf_of_reply {frame : Frame} (reply : frame.isNotice = false) :
    frame.Deaf (hearReply threadUuid) :=
  reply_deaf (Frame.keywords_ne_of_reply reply rfl)

/-- A thread of the database, with the channel and the team around it. -/
structure Database.Path (db : Database) (teamUuid channelUuid threadUuid : Bytes) (team : Team)
    (channel : Channel) (thread : Thread) : Prop where
  inTeams : db.findTeam teamUuid = some team
  inTeam : team.channels.find? (·.uuid = channelUuid) = some channel
  inChannel : channel.threads.find? (·.uuid = threadUuid) = some thread

/-- The path to a thread is read off its uuid. -/
theorem Database.Path.unique {db : Database} (distinct : db.uuids.Nodup) {other stray : Bytes}
    {team found : Team} {channel double : Channel} {thread third : Thread}
    (path : db.Path teamUuid channelUuid threadUuid team channel thread)
    (second : db.Path other stray threadUuid found double third) :
    teamUuid = other ∧ channelUuid = stray ∧ team = found := by
  obtain ⟨stored, name⟩ := find?_key path.inTeams
  obtain ⟨inside, key⟩ := find?_key path.inTeam
  obtain ⟨listed, uuid⟩ := find?_key path.inChannel
  obtain ⟨stored', name'⟩ := find?_key second.inTeams
  obtain ⟨inside', key'⟩ := find?_key second.inTeam
  obtain ⟨listed', uuid'⟩ := find?_key second.inChannel
  obtain ⟨rfl, rfl⟩ := same_path distinct stored inside listed stored' inside' listed' (uuid.trans uuid'.symm)
  exact ⟨name.symm.trans name', key.symm.trans key', rfl⟩

/-- The uuids on a path are uuids of the database. -/
theorem Database.Path.mem_uuids {team : Team} {channel : Channel} {thread : Thread}
    (path : db.Path teamUuid channelUuid threadUuid team channel thread) :
    teamUuid ∈ db.uuids ∧ channelUuid ∈ db.uuids ∧ threadUuid ∈ db.uuids := by
  have stored := (find?_key path.inTeams).1
  obtain ⟨inside, named⟩ := find?_key path.inTeam
  obtain ⟨listed, uuid⟩ := find?_key path.inChannel
  have held : ∀ uuid ∈ channel.uuids, uuid ∈ db.uuids := fun uuid member =>
    List.mem_append_right _ (List.mem_flatMap.mpr ⟨team, stored,
      List.mem_cons_of_mem _ (List.mem_flatMap.mpr ⟨channel, inside, member⟩)⟩)
  exact ⟨mem_uuids_of_findTeam path.inTeams, held _ (named ▸ List.mem_cons_self),
    held _ (uuid ▸ List.mem_cons_of_mem _ (List.mem_flatMap.mpr ⟨thread, listed, List.mem_cons_self⟩))⟩

theorem Database.Path.findThread {team : Team} {channel : Channel} {thread : Thread}
    (distinct : db.uuids.Nodup) (path : db.Path teamUuid channelUuid threadUuid team channel thread) :
    db.findThread channelUuid threadUuid = some thread := by
  have found := findChannel_eq_some_iff.mpr ⟨team, path.inTeams, path.inTeam⟩
  rw [findThread_of_findChannel distinct found, path.inChannel]

theorem entriesOf_addReply {thread : Thread} (found : db.findThread channelUuid threadUuid = some thread)
    (reply : Reply) :
    (db.modifyThread channelUuid threadUuid fun thread =>
        { thread with replies := thread.replies ++ [reply] }).entriesOf channelUuid threadUuid
      = db.entriesOf channelUuid threadUuid ++ [(reply.userUuid, reply.body)] := by
  have grown := @findThread_modifyThread channelUuid threadUuid db
    (fun thread => { thread with replies := thread.replies ++ [reply] }) fun _ => rfl
  unfold Database.entriesOf
  rw [grown, found]
  exact List.map_append

/-- The path on which `findTeam`, `findChannel` and `findThread` go. -/
theorem path_of_found (distinct : db.uuids.Nodup) {team : Team} {channel : Channel} {thread : Thread}
    (found : db.findTeam teamUuid = some team) (within : db.findChannel teamUuid channelUuid = some channel)
    (deeper : db.findThread channelUuid threadUuid = some thread) :
    db.Path teamUuid channelUuid threadUuid team channel thread := by
  rw [Database.findThread_of_findChannel distinct within] at deeper
  obtain ⟨owner, present, inside⟩ := Database.findChannel_eq_some_iff.mp within
  obtain rfl := Option.some.inj (found.symm.trans present)
  exact ⟨found, inside, deeper⟩

/-- A write to another thread. -/
theorem entriesOf_modifyThread_of_ne {other : Bytes} (different : other ≠ threadUuid) {f : Thread → Thread}
    (uuids : ∀ thread, (f thread).uuid = thread.uuid) (channel : Channel) :
    (channel.modifyThread other f).entriesOf threadUuid = channel.entriesOf threadUuid := by
  have same : (modifyFirst (·.uuid = other) f channel.threads).find? (·.uuid = threadUuid)
      = channel.threads.find? (·.uuid = threadUuid) := by
    refine find?_modifyFirst_of_disjoint (fun thread hit => ?_) fun thread => by rw [uuids]
    exact decide_eq_false fun key => different ((of_decide_eq_true hit).symm.trans key)
  unfold Channel.entriesOf Channel.modifyThread
  rw [same]

/-- **The letters of a command say what it does to the replies**, to a subscriber of the team. -/
theorem serves_replies {team : Team} {channel : Channel} {thread : Thread}
    (supplied : Supplied env past server.uuidCalls server.db.uuids) (fresh : env.Fresh past outcome.uuidCalls)
    (nonempty : userUuid ≠ []) (path : server.db.Path teamUuid channelUuid threadUuid team channel thread)
    (member : userUuid ∈ team.subscriberUuids) (serves : Serves env fd client server verb outcome) :
    outcome.db.entriesOf channelUuid threadUuid = (outcome.letters other userUuid).foldl (hearReply threadUuid)
      (server.db.entriesOf channelUuid threadUuid) := by
  have ⟨_, oldChannel, oldThread⟩ := path.mem_uuids
  cases serves with
  | refused refusal => exact heard_nothing rfl (all_answer fd (reply_deaf_of_reply (by cases refusal <;> rfl)))
  | shown shown => exact heard_nothing rfl (all_replies_deaf reply_deaf_of_reply (shown_replies shown))
  | loginNew | loginAgain =>
    exact heard_nothing rfl ((all_answer fd (reply_deaf_of_reply rfl)).followedBy
      (all_toAll (reply_deaf (by rintro ⟨⟩))))
  | logoutLast =>
    exact heard_nothing rfl ((all_toAll (reply_deaf (by rintro ⟨⟩))).followedBy
      (all_answer fd (reply_deaf_of_reply rfl)))
  | logout | logoutUnknown | useNothing | useTeam => exact heard_nothing rfl (all_answer fd (reply_deaf_of_reply rfl))
  | useChannel | useThread | useNoChannel | useNoThread =>
    exact heard_nothing rfl (all_replies_deaf reply_deaf_of_reply
      (by simp [Frame.isNotice, Frame.ok, Frame.notFoundKind]))
  | createTeam _ _ _ _ _ _ made =>
    subst made
    refine heard_nothing ?_ ((all_answer fd (reply_deaf_of_reply rfl)).followedBy
      (all_toAll (reply_deaf (by rintro ⟨⟩))))
    rw [entriesOf_eq, entriesOf_eq]
    simp only [List.flatMap_append, List.flatMap_cons, List.flatMap_nil, List.append_nil]
  | createChannel _ _ _ _ _ _ _ _ made =>
    subst made
    refine heard_nothing (entriesOf_modifyTeam fun team => ?_)
      ((all_answer fd (reply_deaf_of_reply rfl)).followedBy (all_toSubscribers _ (reply_deaf (by rintro ⟨⟩))))
    have different : server.nextUuid env ≠ channelUuid := fun same =>
      supplied.next_not_mem fresh (same.symm ▸ oldChannel : server.nextUuid env ∈ server.db.uuids)
    simp [List.find?_append, different]
  | createThread _ _ _ _ _ _ _ _ _ _ made =>
    subst made
    refine heard_nothing (entriesOf_modifyChannel (fun _ => rfl) fun channel => ?_)
      ((all_answer fd (reply_deaf_of_reply rfl)).followedBy (all_toSubscribers _ (reply_deaf (by rintro ⟨⟩))))
    have different : server.nextUuid env ≠ threadUuid := fun same =>
      supplied.next_not_mem fresh (same.symm ▸ oldThread : server.nextUuid env ∈ server.db.uuids)
    simp [Channel.entriesOf, List.find?_append, different]
  | @createReply owner holder target newReply _ _ _ _ found within deeper =>
    by_cases same : client.context.threadUuid = threadUuid
    · -- the requester is at the end of the same path
      subst same
      have second := path_of_found supplied.nodup found within deeper
      obtain ⟨-, rfl, rfl⟩ := path.unique supplied.nodup second
      rw [foldl_answer_followedBy (reply_deaf_of_reply rfl), toSubscribers_of_member _ nonempty member]
      exact (entriesOf_addReply deeper newReply).trans (if_pos rfl).symm
    · refine heard_nothing (entriesOf_modifyChannel (fun _ => rfl) fun channel => ?_)
        ((all_answer fd (reply_deaf_of_reply rfl)).followedBy (all_toSubscribers _ fun _ => if_neg same))
      exact entriesOf_modifyThread_of_ne same
        (f := fun thread => { thread with replies := thread.replies ++ [newReply] }) (fun _ => rfl) channel
  | subscribe =>
    refine heard_nothing (entriesOf_modifyTeam fun team => ?_)
      ((all_toSubscribers _ (reply_deaf (by rintro ⟨⟩))).followedBy (all_answer fd (reply_deaf_of_reply rfl)))
    rw [Team.addSubscriber_channels]
  | unsubscribe =>
    refine heard_nothing (entriesOf_modifyTeam fun team => ?_)
      ((all_toSubscribers _ (reply_deaf (by rintro ⟨⟩))).followedBy (all_answer fd (reply_deaf_of_reply rfl)))
    rw [Team.removeSubscriber_channels]
  | send =>
    exact heard_nothing rfl ((all_toUser _ (reply_deaf (by rintro ⟨⟩))).followedBy
      (all_answer fd (reply_deaf_of_reply rfl)))

/-- **So do those of every step**, to a connection that belongs to a subscriber after it. -/
theorem step_replies {event : Event} {team : Team} {channel : Channel} {thread : Thread}
    (supplied : Supplied env past server.uuidCalls server.db.uuids) (fresh : env.Fresh past after.uuidCalls)
    (nonempty : userUuid ≠ []) (path : server.db.Path teamUuid channelUuid threadUuid team channel thread)
    (member : userUuid ∈ team.subscriberUuids) (session : after.IsSessionOf fd userUuid)
    (steps : Steps env server event after) :
    Follows (fun server : Server => server.db.entriesOf channelUuid threadUuid) (Server.appendedTo fd)
      (hearReply threadUuid) server after := by
  obtain ⟨holder, present, user⟩ := session.exists_client
  refine step_follows steps present (fun _ _ stored _ outcome _ db calls serves _ called => ?_)
    (fun _ _ _ _ => rfl) fun _ _ _ _ => ?_
  · rw [user]
    rw [← db, ← calls] at supplied
    exact serves_replies supplied (called ▸ fresh) nonempty (db ▸ path) member serves
  · exact (reply_deaf (by rintro ⟨⟩) _).symm

/-- The lines of LIST in the context of a thread say its replies. -/
theorem listing_replies (thread : Thread) :
    (Frame.listing .replies (thread.replies.map (Frame.replyFields thread.uuid))).filterMap Frame.replyEntry
      = thread.entries :=
  Frame.filterMap_listing rfl (fun _ _ => rfl) rfl

/-- What LIST does for a subscriber in the context of a thread. -/
theorem execute_replies {team : Team} {channel : Channel} {thread : Thread} (distinct : Distinct server.db.uuids)
    (path : server.db.Path client.context.teamUuid client.context.channelUuid client.context.threadUuid team
      channel thread)
    (nonempty : client.userUuid ≠ []) (member : client.userUuid ∈ team.subscriberUuids) :
    ListCommand.execute fd client server = server.sendAllToClient
      (Frame.listing .replies (thread.replies.map (Frame.replyFields thread.uuid))) fd := by
  obtain ⟨inside, within, deep⟩ := path.mem_uuids
  have filled : client.context.channelUuid ≠ [] ∧ client.context.threadUuid ≠ [] ∧ client.context.teamUuid ≠ [] :=
    ⟨fun empty => distinct.named (empty ▸ within), fun empty => distinct.named (empty ▸ deep),
      fun empty => distinct.named (empty ▸ inside)⟩
  have allowed : ListCommand.checkTeam client server.db = .ok () := by
    unfold ListCommand.checkTeam
    rw [if_neg filled.2.2, path.inTeams]
    exact if_pos (Team.isUserSubscribed_iff.mpr member)
  rw [ListCommand.execute, if_neg nonempty, allowed]
  show (if _ then _ else _) = _
  rw [if_pos filled, ListCommand.executeReply, path.findThread distinct.nodup]

/-- What a line with LIST is answered. -/
theorem reply_replies {rawCommand : Bytes} {context : Context} {team : Team} {channel : Channel} {thread : Thread}
    (distinct : Distinct server.db.uuids)
    (path : server.db.Path context.teamUuid context.channelUuid context.threadUuid team channel thread)
    (nonempty : userUuid ≠ []) (member : userUuid ∈ team.subscriberUuids)
    (session : server.session fd = some ⟨userUuid, context⟩)
    (named : (CommandHandling.parseArgs rawCommand).head? = some Verb.list.text) :
    server.reply env fd rawCommand = Frame.listing .replies
      (thread.replies.map (Frame.replyFields thread.uuid)) := by
  obtain ⟨client, present, shown⟩ := Option.map_eq_some_iff.mp session
  cases shown
  have handled : server.step env (.line fd rawCommand) = ListCommand.execute fd
      (client.setArgs (CommandHandling.parseArgs rawCommand))
      (server.modifyClient fd (Client.setArgs (CommandHandling.parseArgs rawCommand))) :=
    handleCommand_of_named env present named
  have listed : ListCommand.execute fd (client.setArgs (CommandHandling.parseArgs rawCommand))
      (server.modifyClient fd (Client.setArgs (CommandHandling.parseArgs rawCommand)))
        = (server.modifyClient fd (Client.setArgs (CommandHandling.parseArgs rawCommand))).sendAllToClient
          (Frame.listing .replies (thread.replies.map (Frame.replyFields thread.uuid))) fd :=
    execute_replies distinct path nonempty member
  rw [Server.reply, handled, listed]
  exact newFrames_answered _ _ present

end Replies

/-- A context below a channel, when it is valid, has a path. -/
theorem Context.Within.exists_path {db : Database} {context : Context} (within : context.Within db)
    (inside : context.threadUuid ≠ []) :
    ∃ team channel thread,
      db.Path context.teamUuid context.channelUuid context.threadUuid team channel thread := by
  cases within with
  | nothing | team | channel => exact absurd rfl inside
  | thread present within deeper => exact ⟨_, _, _, present, within, deeper⟩

/-- **A copy of the replies of a thread.** A client in the context of a thread lists its replies. If it adds those
that REPLY_CREATED events give for the uuid of the thread, it has, reply by reply and with its author, what the
server lists when it asks in this context again, as long as it is logged in as a subscriber of the team. -/
theorem replies_replica (env : Env) {db : Database} (start : SelfSaved db) (before between : List Event)
    (fd : Int) (userUuid : Bytes) (context : Context) (first last : Bytes)
    (fresh : env.Fresh db.uuids
      (run (Server.step env) { db := db } (before ++ .line fd first :: between)).uuidCalls)
    (stays : (run (Server.step env) { db := db } before).StaysSubscribed env fd userUuid context.teamUuid
      (.line fd first :: between))
    (inside : context.threadUuid ≠ [])
    (entered : (run (Server.step env) { db := db } before).session fd = some ⟨userUuid, context⟩)
    (asks : (CommandHandling.parseArgs first).head? = some Verb.list.text)
    (back : (run (Server.step env) { db := db } (before ++ .line fd first :: between)).session fd
      = some ⟨userUuid, context⟩)
    (again : (CommandHandling.parseArgs last).head? = some Verb.list.text) :
    let server := run (Server.step env) { db := db } before
    let now := run (Server.step env) { db := db } (before ++ .line fd first :: between)
    (now.reply env fd last).filterMap Frame.replyEntry
      = (server.newFrames fd now).foldl (hearReply context.threadUuid)
        ((server.reply env fd first).filterMap Frame.replyEntry) := by
  intro server now
  have supplied : Supplied env db.uuids 0 db.uuids := ⟨start.distinct.nodup, fun _ => Or.inl⟩
  have earlier := fresh_of_before (List.prefix_append before (.line fd first :: between)) fresh
  have distinct := run_distinct start.distinct before earlier
  have loggedIn := (stays [] List.nil_prefix).2.ne_nil (run_wellFormed start.loaded before earlier)
  have within : context.Within server.db := run_within start.distinct before earlier fd _ entered
  have reached : run (Server.step env) server (.line fd first :: between) = now := (run_append _ _ _).symm
  -- the levels of the context stay where they are
  have still : ∀ events, context.Within (run (Server.step env) server events).db := fun events =>
    run_invariant (fun server : Server => context.Within server.db)
      (fun _ event kept => kept.kept (step_kept (step_steps env _ event))) within events
  have follows : Follows (fun server : Server => server.db.entriesOf context.channelUuid context.threadUuid)
      (Server.appendedTo fd) (hearReply context.threadUuid) server
      (run (Server.step env) server (.line fd first :: between)) := by
    refine run_follows fun early event initial => ?_
    obtain ⟨-, owner, found, member⟩ := stays early ((List.prefix_append _ _).trans initial)
    obtain ⟨session, -⟩ := stays (early ++ [event]) initial
    obtain ⟨team, channel, thread, path⟩ := (still early).exists_path inside
    obtain rfl := Option.some.inj (found.symm.trans path.inTeams)
    have used : env.Fresh db.uuids (run (Server.step env) { db := db } (before ++ (early ++ [event]))).uuidCalls :=
      fresh_of_before ((List.prefix_append_right_inj before).mpr initial) fresh
    rw [run_append, run_concat] at used
    have owned : Supplied env db.uuids _ (run (Server.step env) server early).db.uuids :=
      run_supplied (run_supplied supplied before earlier) early (fresh_earlier _ event used)
    rw [run_concat] at session
    exact step_replies owned used loggedIn path member session (step_steps env _ event)
  obtain ⟨-, owner, found, member⟩ := stays [] List.nil_prefix
  obtain ⟨-, grown, present, listed⟩ := stays _ (List.prefix_refl _)
  obtain ⟨team, channel, thread, path⟩ := within.exists_path inside
  obtain ⟨late, wide, long, deeper⟩ := (still (.line fd first :: between)).exists_path inside
  obtain rfl := Option.some.inj (found.symm.trans path.inTeams)
  obtain rfl := Option.some.inj (present.symm.trans deeper.inTeams)
  have final : Distinct now.db.uuids := run_distinct start.distinct _ fresh
  rw [reached] at follows deeper
  have opening : server.db.entriesOf context.channelUuid context.threadUuid = thread.entries := by
    rw [Database.entriesOf, path.findThread distinct.nodup]
    rfl
  have ending : now.db.entriesOf context.channelUuid context.threadUuid = long.entries := by
    rw [Database.entriesOf, deeper.findThread final.nodup]
    rfl
  rw [reply_replies distinct path loggedIn member entered asks,
    reply_replies final deeper loggedIn listed back again, listing_replies, listing_replies, ← opening, ← ending]
  exact follows.observe_eq

/-- Two subscribers reply in two threads; the copy is of the second one. -/
theorem replies_replica_sample :
    let use := fun level => ascii "/use \"" ++ (digitUuid 1).1 ++ ascii "\"" ++
      (if level = 1 then [] else ascii " \"" ++ (digitUuid 2).1 ++ ascii "\"") ++
      (if level < 3 then [] else ascii " \"" ++ (digitUuid level).1 ++ ascii "\"")
    let before := [Event.accept 4, .line 4 (ascii "/login \"ann\""),
      .line 4 (ascii "/create \"red\" \"first\""), .line 4 (use 1), .line 4 (ascii "/create \"hall\" \"big\""),
      .line 4 (use 2), .line 4 (ascii "/create \"one\" \"more\""), .line 4 (ascii "/create \"two\" \"less\""),
      .line 4 (use 4), .accept 5, .line 5 (ascii "/login \"ann\""), .line 5 (use 3)]
    let between := [Event.line 5 (ascii "/create \"elsewhere\""), .line 4 (ascii "/create \"yes\""),
      .line 5 (use 4), .line 5 (ascii "/create \"no\"")]
    let server := run (Server.step sampleEnv) {} before
    let now := run (Server.step sampleEnv) {} (before ++ .line 4 (ascii "/list") :: between)
    (now.reply sampleEnv 4 (ascii "/list")).filterMap Frame.replyEntry
        = (server.newFrames 4 now).foldl (hearReply (digitUuid 4).1)
          ((server.reply sampleEnv 4 (ascii "/list")).filterMap Frame.replyEntry) ∧
      ((now.reply sampleEnv 4 (ascii "/list")).filterMap Frame.replyEntry).map Prod.snd
        = [ascii "yes", ascii "no"] := by
  intro use before between server now
  refine ⟨replies_replica sampleEnv .empty before between 4 (digitUuid 0).1
    ⟨(digitUuid 1).1, (digitUuid 2).1, (digitUuid 4).1⟩ (ascii "/list") (ascii "/list")
    (sampleEnv_fresh.of_le (by decide)) (fun early initial => ?_) (by decide) (by decide) (by decide) (by decide)
    (by decide), by decide⟩
  have each : ∀ prior ∈ List.inits (.line 4 (ascii "/list") :: between),
      (run (Server.step sampleEnv) server prior).IsSessionOf 4 (digitUuid 0).1 ∧
        (run (Server.step sampleEnv) server prior).db.HasSubscriber (digitUuid 0).1 (digitUuid 1).1 := by decide
  exact each early ((List.mem_inits _ _).mpr initial)

end MyTeams
