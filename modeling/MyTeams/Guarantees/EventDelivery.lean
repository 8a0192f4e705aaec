/-
**Who gets an event.**

`Delivers` says for every connected client which messages a line appends to its write buffer, in order
and with their number. What a CREATE, a SEND or a change of a subscription delivers is the answer to
the requester and one copy of the event to each recipient; the recipients are read off the sessions and
the database after the line.

* `line_delivers` — a line delivers the letters of its command;
* `exact_delivery` — the recipients of every kind of event.
-/

import MyTeams.Invariants.Identities
import MyTeams.Server.Session

namespace MyTeams

/-- Every client that was connected still is, for the same user, and `frames` are the messages that
were appended for it. -/
def Delivers (server after : Server) (frames : Int → Client → List Frame) : Prop :=
  ∀ fd before, server.clients.find? fd = some before → ∃ holder, after.clients.find? fd = some holder ∧
    holder.userUuid = before.userUuid ∧ server.newFrames fd after = frames fd holder ∧
    holder.writeBuffer = before.writeBuffer ++ (frames fd holder).flatMap Frame.render

/-- An answer to the requester, then an event for the recipients. -/
def announced (fd : Int) (answer event : Frame) (recipient : Client → Bool) :
    Int → Client → List Frame := fun other holder =>
  (if other = fd then [answer] else []) ++ if recipient holder then [event] else []

/-- An event for the recipients, then an answer to the requester. -/
def confirmed (fd : Int) (event answer : Frame) (recipient : Client → Bool) :
    Int → Client → List Frame := fun other holder =>
  (if recipient holder then [event] else []) ++ if other = fd then [answer] else []

/-- A client is logged in as a subscriber of a team. -/
def Server.isSubscriber (teamUuid : Bytes) (server : Server) (client : Client) : Bool :=
  match server.db.findTeam teamUuid with
  | none => false
  | some team => !client.userUuid.isEmpty && team.subscriberUuids.contains client.userUuid

section Line

variable {env : Env} {fd : Int} {client : Client} {server after : Server} {rawCommand : Bytes}

/-- A line runs a command, or appends nothing and keeps the database. -/
theorem line_cases (env : Env) (rawCommand : Bytes) (found : server.clients.find? fd = some client) :
    ((CommandHandling.handleCommand env rawCommand fd server).db = server.db ∧
      server.newFrames fd (CommandHandling.handleCommand env rawCommand fd server) = []) ∨
    ∃ verb outcome, (CommandHandling.parseArgs rawCommand).head? = some (Verb.text verb) ∧
      Serves env fd (client.setArgs (CommandHandling.parseArgs rawCommand))
        (server.modifyClient fd (Client.setArgs (CommandHandling.parseArgs rawCommand))) verb outcome ∧
      CommandHandling.handleCommand env rawCommand fd server = outcome.commit fd
        (server.modifyClient fd (Client.setArgs (CommandHandling.parseArgs rawCommand))) := by
  rcases handleCommand_serves env rawCommand found with
    ⟨-, still⟩ | ⟨name, rest, parsed, ⟨-, kept⟩ | ⟨verb, rfl, outcome, serves, committed⟩⟩
  · refine Or.inl ⟨congrArg Server.db still, ?_⟩
    rw [still, Server.newFrames, List.drop_length]
  · rw [kept]
    exact Or.inl ⟨rfl, newFrames_quiet (quiet_at (quiet_setArgs _) fd) fd⟩
  · rw [← parsed] at serves committed
    exact Or.inr ⟨verb, outcome, by rw [parsed]; rfl, serves, committed⟩

/-- **A line delivers the letters of its command**, if the command keeps the session. -/
theorem line_delivers {outcome : Outcome} (found : server.clients.find? fd = some client)
    (session : outcome.userUuid = client.userUuid)
    (committed : CommandHandling.handleCommand env rawCommand fd server = outcome.commit fd
      (server.modifyClient fd (Client.setArgs (CommandHandling.parseArgs rawCommand)))) :
    Delivers server (CommandHandling.handleCommand env rawCommand fd server)
      fun other holder => outcome.letters other holder.userUuid := by
  intro other before present
  obtain ⟨holder, here, written⟩ := line_writes env rawCommand fd present
  have stored := find?_setArgs found (CommandHandling.parseArgs rawCommand)
  have user : holder.userUuid = before.userUuid := by
    rw [committed] at here
    by_cases requester : other = fd
    · subst requester
      rw [found] at present
      cases present
      rw [outcome.find?_commit_self stored] at here
      cases here
      exact session
    · rw [outcome.find?_commit_of_ne requester, Server.modifyClient,
        SortedMap.find?_modify_of_ne requester, present] at here
      cases here
      rfl
  have letters : server.newFrames other (CommandHandling.handleCommand env rawCommand fd server)
      = outcome.letters other holder.userUuid := by
    rw [committed, newFrames_letters outcome _ found present, user]
    split_ifs with requester
    · subst requester
      rw [found] at present
      cases present
      rw [session]
    · rfl
  exact ⟨holder, here, user, letters, by rw [written, letters]⟩

/-- The subscribers to whom a notice goes, as the sessions after the line show them. -/
theorem toSubscribers_eq {teamUuid : Bytes} {team now : Team}
    (present : after.db.findTeam teamUuid = some now)
    (same : now.subscriberUuids = team.subscriberUuids) (frame : Frame) (other : Int) (holder : Client) :
    Letters.toSubscribers team frame other holder.userUuid
      = if after.isSubscriber teamUuid holder then [frame] else [] := by
  unfold Letters.toSubscribers Server.isSubscriber
  rw [present, ← same]
  simp only [Bool.and_eq_true, Bool.not_eq_true', List.isEmpty_eq_false_iff, List.contains_iff_mem]

/-- The replies that are read off the database are not 201 lines. -/
theorem shown_not_created {db : Database} {verb : Verb} {frames : List Frame}
    (shown : Shown client db verb frames) : ∀ frame ∈ frames, frame.keywords.head? ≠ some .code201 :=
  shown.forall_frames (fun _ _ _ => nofun) (fun _ => nofun) (fun _ => nofun) fun _ => nofun

open Letters in
/-- A command that answers 201: its change of the database, its letters, and the team after it. -/
inductive Created (fd : Int) (client : Client) (db : Database) (outcome : Outcome) : Frame → Prop
  | team {team : Team} : outcome.db = { db with teams := db.teams ++ [team] } →
      outcome.letters = (toClient fd [Frame.createdTeam team]).followedBy
        (toAll (Frame.eventTeamCreated team)) →
      Created fd client db outcome (Frame.createdTeam team)
  | channel {team now : Team} {channel : Channel} :
      outcome.db = db.modifyTeam client.context.teamUuid
        (fun team => { team with channels := team.channels ++ [channel] }) →
      outcome.db.findTeam client.context.teamUuid = some now →
      now.subscriberUuids = team.subscriberUuids →
      outcome.letters = (toClient fd [Frame.createdChannel channel]).followedBy
        (toSubscribers team (Frame.eventChannelCreated channel)) →
      Created fd client db outcome (Frame.createdChannel channel)
  | thread {team now : Team} {thread : Thread} :
      outcome.db = db.modifyChannel client.context.teamUuid client.context.channelUuid
        (fun channel => { channel with threads := channel.threads ++ [thread] }) →
      outcome.db.findTeam client.context.teamUuid = some now →
      now.subscriberUuids = team.subscriberUuids →
      outcome.letters = (toClient fd [Frame.createdThread thread]).followedBy
        (toSubscribers team (Frame.eventThreadCreated thread)) →
      Created fd client db outcome (Frame.createdThread thread)
  | reply {team now : Team} {reply : Reply} :
      outcome.db = db.modifyThread client.context.channelUuid client.context.threadUuid
        (fun thread => { thread with replies := thread.replies ++ [reply] }) →
      outcome.db.findTeam client.context.teamUuid = some now →
      now.subscriberUuids = team.subscriberUuids →
      outcome.letters = (toClient fd [Frame.createdReply client.context.threadUuid reply]).followedBy
        (toSubscribers team (Frame.eventReplyCreated client.context.teamUuid
          client.context.threadUuid reply)) →
      Created fd client db outcome (Frame.createdReply client.context.threadUuid reply)

/-- Letters without 201 lines. -/
def Letters.CreateNothing (letters : Letters) : Prop :=
  letters.All fun frame => frame.keywords.head? ≠ some .code201

open Letters in
/-- **A 201 line comes from a CREATE that created something.** -/
theorem serves_created {verb : Verb} {outcome : Outcome}
    (serves : Serves env fd client server verb outcome) {session : Bytes} {frame : Frame}
    (member : frame ∈ outcome.letters fd session) (created : frame.keywords.head? = some .code201) :
    outcome.userUuid = client.userUuid ∧ Created fd client server.db outcome frame := by
  have none : ∀ {letters : Letters}, letters.CreateNothing → frame ∉ letters fd session :=
    fun nothing inside => nothing fd session frame inside created
  have oks : ∀ count : Nat, (toClient fd (List.replicate count Frame.ok)).CreateNothing :=
    fun count => all_toClient fd fun _ inside => List.eq_of_mem_replicate inside ▸ nofun
  -- the 201 line of a CREATE is its answer, not its event
  have answer : ∀ {sent : Frame} {others : Letters},
      frame ∈ ((toClient fd [sent]).followedBy others) fd session → others.CreateNothing →
      frame = sent := by
    intro sent others inside nothing
    rcases List.mem_append.mp inside with own | other
    · exact List.mem_singleton.mp (mem_toClient own).2
    · exact absurd other (none nothing)
  cases serves with
  | refused refusal => exact absurd member (none (all_answer fd (by cases refusal <;> nofun)))
  | shown shown => exact absurd member (none (all_toClient fd (shown_not_created shown)))
  | loginNew | loginAgain =>
    exact absurd member (none (All.followedBy (all_answer fd nofun) (all_toAll nofun)))
  | logout | logoutUnknown | useNothing | useTeam => exact absurd member (none (oks 1))
  | logoutLast => exact absurd member (none (All.followedBy (all_toAll nofun) (oks 1)))
  | useChannel => exact absurd member (none (oks 2))
  | useThread => exact absurd member (none (oks 3))
  | useNoChannel | useNoThread =>
    exact absurd member (none (all_toClient fd (by simp [Frame.ok, Frame.notFoundKind])))
  | createTeam =>
    rw [answer member (all_toAll nofun)]
    exact ⟨rfl, .team rfl rfl⟩
  | createChannel _ _ _ present =>
    rw [answer member (all_toSubscribers _ nofun)]
    exact ⟨rfl, .channel rfl (findTeam_addChannel present) rfl rfl⟩
  | createThread _ _ _ _ present =>
    rw [answer member (all_toSubscribers _ nofun)]
    exact ⟨rfl, .thread rfl (findTeam_modifyChannel present) rfl rfl⟩
  | createReply _ _ _ _ present =>
    rw [answer member (all_toSubscribers _ nofun)]
    obtain ⟨now, still, same⟩ := findTeam_modifyThread present
    exact ⟨rfl, .reply rfl still same rfl⟩
  | subscribe | unsubscribe =>
    exact absurd member (none (All.followedBy (all_toSubscribers _ nofun) (all_answer fd nofun)))
  | send => exact absurd member (none (All.followedBy (all_toUser _ nofun) (oks 1)))

/-- An answer and then a notice to the subscribers, as `announced`. -/
theorem announced_subscribers {teamUuid : Bytes} {team now : Team} (answer event : Frame)
    (present : after.db.findTeam teamUuid = some now)
    (same : now.subscriberUuids = team.subscriberUuids) :
    (fun other (holder : Client) => ((Letters.toClient fd [answer]).followedBy
        (.toSubscribers team event)) other holder.userUuid)
      = announced fd answer event (after.isSubscriber teamUuid) := by
  funext other holder
  rw [Letters.followedBy, toSubscribers_eq present same, announced, Letters.toClient]

theorem confirmed_subscribers {teamUuid : Bytes} {team now : Team} (event answer : Frame)
    (present : after.db.findTeam teamUuid = some now)
    (same : now.subscriberUuids = team.subscriberUuids) :
    (fun other (holder : Client) => ((Letters.toSubscribers team event).followedBy
        (.toClient fd [answer])) other holder.userUuid)
      = confirmed fd event answer (after.isSubscriber teamUuid) := by
  funext other holder
  rw [Letters.followedBy, toSubscribers_eq present same, confirmed, Letters.toClient]

end Line

/-! ### Every kind of event -/

section Delivery

variable {env : Env} {fd : Int} {client : Client} {server : Server} {rawCommand : Bytes}

/-- What a line with a 201 reply adds to the database and delivers. -/
inductive DeliversCreated (fd : Int) (client : Client) (server after : Server) : Frame → Prop
  | team {team : Team} : after.db.teams = server.db.teams ++ [team] →
      Delivers server after (announced fd (Frame.createdTeam team) (Frame.eventTeamCreated team)
        fun _ => true) →
      DeliversCreated fd client server after (Frame.createdTeam team)
  | channel {channel : Channel} :
      after.db = server.db.modifyTeam client.context.teamUuid
        (fun team => { team with channels := team.channels ++ [channel] }) →
      Delivers server after (announced fd (Frame.createdChannel channel)
        (Frame.eventChannelCreated channel) (after.isSubscriber client.context.teamUuid)) →
      DeliversCreated fd client server after (Frame.createdChannel channel)
  | thread {thread : Thread} :
      after.db = server.db.modifyChannel client.context.teamUuid client.context.channelUuid
        (fun channel => { channel with threads := channel.threads ++ [thread] }) →
      Delivers server after (announced fd (Frame.createdThread thread)
        (Frame.eventThreadCreated thread) (after.isSubscriber client.context.teamUuid)) →
      DeliversCreated fd client server after (Frame.createdThread thread)
  | reply {reply : Reply} :
      after.db = server.db.modifyThread client.context.channelUuid client.context.threadUuid
        (fun thread => { thread with replies := thread.replies ++ [reply] }) →
      Delivers server after (announced fd (Frame.createdReply client.context.threadUuid reply)
        (Frame.eventReplyCreated client.context.teamUuid client.context.threadUuid reply)
        (after.isSubscriber client.context.teamUuid)) →
      DeliversCreated fd client server after (Frame.createdReply client.context.threadUuid reply)

/-- **CREATE**: a 201 line is followed by its event for the right clients. -/
theorem create_delivers (found : server.clients.find? fd = some client) {frame : Frame}
    (member : frame ∈ server.newFrames fd (CommandHandling.handleCommand env rawCommand fd server))
    (created : frame.keywords.head? = some .code201) :
    DeliversCreated fd client server (CommandHandling.handleCommand env rawCommand fd server) frame := by
  rcases line_cases env rawCommand found with ⟨-, nothing⟩ | ⟨verb, outcome, -, serves, committed⟩
  · rw [nothing] at member
    cases member
  have letters := member
  rw [committed, newFrames_served found] at letters
  obtain ⟨session, made⟩ := serves_created serves letters created
  have delivers := line_delivers found session committed
  have db : (CommandHandling.handleCommand env rawCommand fd server).db = outcome.db := by
    rw [committed]
    rfl
  cases made with
  | team stored sent =>
    rw [sent] at delivers
    exact .team (congrArg Database.teams (db.trans stored)) delivers
  | channel stored now same sent =>
    rw [← db] at now
    rw [sent, announced_subscribers _ _ now same] at delivers
    exact .channel (db.trans stored) delivers
  | thread stored now same sent =>
    rw [← db] at now
    rw [sent, announced_subscribers _ _ now same] at delivers
    exact .thread (db.trans stored) delivers
  | reply stored now same sent =>
    rw [← db] at now
    rw [sent, announced_subscribers _ _ now same] at delivers
    exact .reply (db.trans stored) delivers

/-- **SEND**: an OK goes with a message to the sessions of the receiver. -/
theorem send_delivers (found : server.clients.find? fd = some client)
    (named : (CommandHandling.parseArgs rawCommand).head? = some Verb.send.text)
    (member : Frame.ok ∈ server.newFrames fd
      (CommandHandling.handleCommand env rawCommand fd server)) :
    ∃ sender receiver, server.db.findUser client.userUuid = some sender ∧
      server.db.findUser ((CommandHandling.parseArgs rawCommand).getD 1 []) = some receiver ∧
      Delivers server (CommandHandling.handleCommand env rawCommand fd server)
        (confirmed fd (Frame.eventPrivateMessage sender.uuid
          ((CommandHandling.parseArgs rawCommand).getD 2 [])) Frame.ok
          fun holder => holder.userUuid = receiver.uuid) := by
  rcases line_cases env rawCommand found with ⟨-, nothing⟩ | ⟨verb, outcome, same, serves, committed⟩
  · rw [nothing] at member
    cases member
  rw [named] at same
  obtain rfl := Verb.text_injective (Option.some.inj same)
  rw [committed, newFrames_served found] at member
  cases serves with
  | @refused _ frame refusal =>
    have inside : Frame.ok ∈ Letters.toClient fd [frame] fd client.userUuid := member
    rw [← List.mem_singleton.mp (Letters.mem_toClient inside).2] at refusal
    cases refusal
  | shown shown => cases shown
  | @send sender receiver message _ _ _ _ sending receiving =>
    have delivers := line_delivers found rfl committed
    refine ⟨sender, receiver, sending, receiving, ?_⟩
    have recipients : confirmed fd (Frame.eventPrivateMessage sender.uuid
        ((CommandHandling.parseArgs rawCommand).getD 2 [])) Frame.ok
          (fun holder => holder.userUuid = receiver.uuid)
        = fun other holder => ((Letters.toUser receiver.uuid (Frame.eventPrivateMessage sender.uuid
          ((CommandHandling.parseArgs rawCommand).getD 2 []))).followedBy
          (.toClient fd [Frame.ok])) other holder.userUuid := by
      funext other holder
      simp only [confirmed, Letters.followedBy, Letters.toUser, Letters.toClient, decide_eq_true_eq]
    rw [recipients]
    exact delivers

/-- A command that changed the subscribers of a team: the notice goes to those of the changed team. -/
theorem subscription_delivers (found : server.clients.find? fd = some client) {outcome : Outcome}
    {teamUuid : Bytes} {team : Team} {f : Team → Team} {notice answer : Frame}
    (keeps : ∀ team, (f team).uuid = team.uuid) (present : server.db.findTeam teamUuid = some team)
    (session : outcome.userUuid = client.userUuid) (stored : outcome.db = server.db.modifyTeam teamUuid f)
    (letters : outcome.letters = (Letters.toSubscribers (f team) notice).followedBy
      (.toClient fd [answer]))
    (committed : CommandHandling.handleCommand env rawCommand fd server = outcome.commit fd
      (server.modifyClient fd (Client.setArgs (CommandHandling.parseArgs rawCommand)))) :
    Delivers server (CommandHandling.handleCommand env rawCommand fd server)
      (confirmed fd notice answer
        ((CommandHandling.handleCommand env rawCommand fd server).isSubscriber teamUuid)) := by
  have delivers := line_delivers found session committed
  have db : (CommandHandling.handleCommand env rawCommand fd server).db = outcome.db := by
    rw [committed]
    rfl
  have now : (CommandHandling.handleCommand env rawCommand fd server).db.findTeam teamUuid
      = some (f team) := by
    rw [db, stored]
    exact findTeam_modifyTeam server.db keeps present
  rwa [letters, confirmed_subscribers _ _ now rfl] at delivers

/-- **SUBSCRIBE**: a new subscriber is announced to the subscribers, itself included. -/
theorem subscribe_delivers (found : server.clients.find? fd = some client)
    (named : (CommandHandling.parseArgs rawCommand).head? = some Verb.subscribe.text)
    (changed : (CommandHandling.handleCommand env rawCommand fd server).db ≠ server.db) :
    Delivers server (CommandHandling.handleCommand env rawCommand fd server)
      (confirmed fd
        (Frame.userSubscribed ((CommandHandling.parseArgs rawCommand).getD 1 []) client.userUuid)
        (Frame.okSubscribe client.userUuid ((CommandHandling.parseArgs rawCommand).getD 1 []))
        ((CommandHandling.handleCommand env rawCommand fd server).isSubscriber
          ((CommandHandling.parseArgs rawCommand).getD 1 []))) := by
  rcases line_cases env rawCommand found with ⟨kept, -⟩ | ⟨verb, outcome, same, serves, committed⟩
  · exact absurd kept changed
  rw [named] at same
  obtain rfl := Verb.text_injective (Option.some.inj same)
  cases serves with
  | refused => exact absurd (congrArg Server.db committed) changed
  | shown => exact absurd (congrArg Server.db committed) changed
  | subscribe _ _ _ present =>
    exact subscription_delivers found (Team.addSubscriber_uuid _) present rfl rfl rfl committed

/-- **UNSUBSCRIBE**: the remaining subscribers are told. -/
theorem unsubscribe_delivers (found : server.clients.find? fd = some client)
    (named : (CommandHandling.parseArgs rawCommand).head? = some Verb.unsubscribe.text)
    (changed : (CommandHandling.handleCommand env rawCommand fd server).db ≠ server.db) :
    Delivers server (CommandHandling.handleCommand env rawCommand fd server)
      (confirmed fd
        (Frame.userUnsubscribed ((CommandHandling.parseArgs rawCommand).getD 1 []) client.userUuid)
        (Frame.okUnsubscribe client.userUuid ((CommandHandling.parseArgs rawCommand).getD 1 []))
        ((CommandHandling.handleCommand env rawCommand fd server).isSubscriber
          ((CommandHandling.parseArgs rawCommand).getD 1 []))) := by
  rcases line_cases env rawCommand found with ⟨kept, -⟩ | ⟨verb, outcome, same, serves, committed⟩
  · exact absurd kept changed
  rw [named] at same
  obtain rfl := Verb.text_injective (Option.some.inj same)
  cases serves with
  | refused => exact absurd (congrArg Server.db committed) changed
  | shown => exact absurd (congrArg Server.db committed) changed
  | unsubscribe _ _ _ present =>
    exact subscription_delivers found (Team.removeSubscriber_uuid _) present rfl rfl rfl committed

end Delivery

/-- **Exact event delivery**, in any state. A line with a 201 reply adds a team, channel, thread or reply to the
database and delivers this reply and then one copy of its event: of a new team to every client, of a new channel,
thread or reply to the sessions of the subscribers of the team in the context. A SEND that is confirmed delivers the message to the sessions of
the receiver, then the OK. A SUBSCRIBE or UNSUBSCRIBE that changes the database delivers the notice to
the sessions of those who are subscribers after it, then the OK. Nothing else is appended. -/
theorem exact_delivery (env : Env) (server : Server) (fd : Int) (rawCommand : Bytes) {client : Client}
    (found : server.clients.find? fd = some client) :
    let args := CommandHandling.parseArgs rawCommand
    let after := CommandHandling.handleCommand env rawCommand fd server
    (∀ frame ∈ server.newFrames fd after, frame.keywords.head? = some .code201 →
      DeliversCreated fd client server after frame) ∧
    (args.head? = some Verb.send.text → Frame.ok ∈ server.newFrames fd after →
      ∃ sender receiver, server.db.findUser client.userUuid = some sender ∧
        server.db.findUser (args.getD 1 []) = some receiver ∧
        Delivers server after (confirmed fd
          (Frame.eventPrivateMessage sender.uuid (args.getD 2 [])) Frame.ok
          fun holder => holder.userUuid = receiver.uuid)) ∧
    (args.head? = some Verb.subscribe.text → after.db ≠ server.db →
      Delivers server after (confirmed fd
        (Frame.userSubscribed (args.getD 1 []) client.userUuid)
        (Frame.okSubscribe client.userUuid (args.getD 1 [])) (after.isSubscriber (args.getD 1 [])))) ∧
    (args.head? = some Verb.unsubscribe.text → after.db ≠ server.db →
      Delivers server after (confirmed fd
        (Frame.userUnsubscribed (args.getD 1 []) client.userUuid)
        (Frame.okUnsubscribe client.userUuid (args.getD 1 []))
        (after.isSubscriber (args.getD 1 [])))) :=
  ⟨fun _ member created => create_delivers found member created, send_delivers found,
    subscribe_delivers found, unsubscribe_delivers found⟩

/-- A private message to a user with two sessions. -/
theorem exact_delivery_sample :
    let server := Transition.run (Server.handle sampleEnv) { db := {} } [.accept 4, .accept 5, .accept 6,
      .read 4 (ascii "/login \"ann\"\n"), .read 5 (ascii "/login \"bob\"\n"),
      .read 6 (ascii "/login \"bob\"\n")]
    let line := ascii "/send \"" ++ (digitUuid 1).1 ++ ascii "\" \"hi\""
    let after := CommandHandling.handleCommand sampleEnv line 4 server
    (after.clients.find? 6).map Client.userUuid = some (digitUuid 1).1 ∧
      ∃ sender receiver, Delivers server after (confirmed 4
        (Frame.eventPrivateMessage sender (ascii "hi")) Frame.ok
        fun holder => holder.userUuid = receiver) := by
  intro server line after
  obtain ⟨client, found⟩ : ∃ client, server.clients.find? 4 = some client :=
    Option.isSome_iff_exists.mp (by decide)
  obtain ⟨sender, receiver, -, -, delivers⟩ :=
    (exact_delivery sampleEnv server 4 line found).2.1 (by decide) (by decide)
  have body : (CommandHandling.parseArgs line).getD 2 [] = ascii "hi" := by decide
  exact ⟨by decide, sender.uuid, receiver.uuid, body ▸ delivers⟩

end MyTeams
