/-
**What one command can do.**

`Outcome` is what a command leaves behind: the database, the session and the context of the
requester, the calls made to the environment, and the messages delivered to the clients. `Serves`
lists the outcomes that the thirteen commands have, each with the checks that led to it.

* `Refusal`, `Shown` — the outcomes that change nothing: an error line, or a reply that is read off
  the database;
* `commands_serve` — every command of the table has one of the outcomes;
* `handleCommand_serves` — so has a line.

Every statement about what the server does on a line is a case analysis on `Serves`.
-/

import MyTeams.Commands.Dispatch

namespace MyTeams

/-- What a command leaves behind. -/
structure Outcome where
  db : Database
  userUuid : Bytes
  context : Context
  uuidCalls : Nat
  timeCalls : Nat
  letters : Letters

namespace Outcome

/-- The server after a command of the client behind `fd`. -/
def commit (outcome : Outcome) (fd : Int) (server : Server) : Server :=
  Server.deliver outcome.letters
    { clients := server.clients.modify fd fun client =>
        { client with userUuid := outcome.userUuid, context := outcome.context }
      db := outcome.db
      uuidCalls := outcome.uuidCalls
      timeCalls := outcome.timeCalls }

/-- Nothing happens. -/
def idle (client : Client) (server : Server) : Outcome where
  db := server.db
  userUuid := client.userUuid
  context := client.context
  uuidCalls := server.uuidCalls
  timeCalls := server.timeCalls
  letters := fun _ _ => []

/-- The requester gets an answer, and nothing else happens. -/
def answer (fd : Int) (client : Client) (server : Server) (frames : List Frame) : Outcome :=
  { idle client server with letters := .toClient fd frames }

end Outcome

/-! ### Outcomes that change nothing -/

/-- The strings that a requester brings along: arguments, user and context. -/
def Client.known (client : Client) : List Bytes :=
  client.args ++ [client.userUuid, client.context.teamUuid, client.context.channelUuid,
    client.context.threadUuid]

/-- The error lines. -/
inductive Refusal (client : Client) : Frame → Prop
  | badRequest : Refusal client Frame.badRequest
  | unauthorized : Refusal client Frame.unauthorized
  | forbidden : Refusal client Frame.forbidden
  | alreadyExists : Refusal client Frame.alreadyExists
  | notFound : Refusal client Frame.notFound
  | notFoundUuid {uuid : Bytes} : uuid ∈ client.known → Refusal client (Frame.notFoundUuid uuid)
  | notFoundKind (kind : Keyword) {uuid : Bytes} : uuid ∈ client.known →
      Refusal client (Frame.notFoundKind kind uuid)

/-- The requester is logged in, and a subscriber of the team in its context if there is one. -/
structure Allowed (client : Client) (db : Database) : Prop where
  loggedIn : client.userUuid ≠ []
  subscribed : client.context.teamUuid ≠ [] → ∃ team, db.findTeam client.context.teamUuid = some team ∧
    client.userUuid ∈ team.subscriberUuids

/-- The replies that are read off the database. -/
inductive Shown (client : Client) (db : Database) : Verb → List Frame → Prop
  | infoUser {user : User} : Allowed client db → db.findUser client.userUuid = some user →
      Shown client db .info [Frame.infoUser user]
  | infoTeam {team : Team} : Allowed client db → client.context.teamUuid ≠ [] →
      db.findTeam client.context.teamUuid = some team → Shown client db .info [Frame.infoTeam team]
  | infoChannel {channel : Channel} : Allowed client db → client.context.channelUuid ≠ [] →
      db.findChannel client.context.teamUuid client.context.channelUuid = some channel →
      Shown client db .info [Frame.infoChannel channel]
  | infoThread {thread : Thread} : Allowed client db → client.context.threadUuid ≠ [] →
      db.findThread client.context.channelUuid client.context.threadUuid = some thread →
      Shown client db .info [Frame.infoThread thread]
  | listTeams : Allowed client db →
      Shown client db .list (Frame.listing .teams (db.teams.map fun team =>
        Frame.namedFields team.uuid team.name team.description))
  | listChannels {team : Team} : Allowed client db → client.context.teamUuid ≠ [] →
      db.findTeam client.context.teamUuid = some team →
      Shown client db .list (Frame.listing .channels (team.channels.map fun channel =>
        Frame.namedFields channel.uuid channel.name channel.description))
  | listThreads {channel : Channel} : Allowed client db → client.context.teamUuid ≠ [] →
      client.context.channelUuid ≠ [] →
      db.findChannel client.context.teamUuid client.context.channelUuid = some channel →
      Shown client db .list (Frame.listing .threads (channel.threads.map Frame.threadFields))
  | listReplies {thread : Thread} : Allowed client db → client.context.teamUuid ≠ [] →
      client.context.channelUuid ≠ [] → client.context.threadUuid ≠ [] →
      db.findThread client.context.channelUuid client.context.threadUuid = some thread →
      Shown client db .list (Frame.listing .replies (thread.replies.map (Frame.replyFields thread.uuid)))
  | subscribedTeams : client.userUuid ≠ [] →
      Shown client db .subscribed
        (Frame.listing .teams ((db.teams.filter (·.isUserSubscribed client.userUuid)).map
          fun team => Frame.namedFields team.uuid team.name team.description))
  | subscribers {team : Team} : client.userUuid ≠ [] → db.findTeam (client.arg 1) = some team →
      Shown client db .subscribed
        (Frame.listing .users ((team.subscriberUuids.filterMap db.findUser).map Frame.userFields))
  | alreadySubscribed {team : Team} : client.userUuid ≠ [] → 2 ≤ client.args.length →
      db.findTeam (client.arg 1) = some team → client.userUuid ∈ team.subscriberUuids →
      Shown client db .subscribe [Frame.okSubscribe client.userUuid (client.arg 1)]
  | user {user : User} : client.userUuid ≠ [] → db.findUser (client.arg 1) = some user →
      Shown client db .user [Frame.okUser user]
  | users : client.userUuid ≠ [] →
      Shown client db .users (Frame.listing .users (db.users.map Frame.userFields))
  | messages {user : User} : client.userUuid ≠ [] → db.findUser client.userUuid = some user →
      Shown client db .messages (Frame.listing .messages
        (((user.messages.find? (client.arg 1)).getD []).map Messages.messageFields))

/-- **What is read off the database goes out as one 200 line or as a list.** -/
theorem Shown.form {client : Client} {db : Database} {verb : Verb} {frames : List Frame}
    (shown : Shown client db verb frames) :
    (∃ word rest fields, frames = [⟨.code200 :: word :: rest, fields⟩]) ∨
      ∃ type items, frames = Frame.listing type items := by
  cases shown with
  | infoUser | infoTeam | infoChannel | infoThread | alreadySubscribed | user => exact Or.inl ⟨_, _, _, rfl⟩
  | _ => exact Or.inr ⟨_, _, rfl⟩

/-- What holds of 200 lines and of the three kinds of lines of a list holds of all of it. -/
theorem Shown.forall_frames {client : Client} {db : Database} {verb : Verb} {frames : List Frame}
    {P : Frame → Prop} (shown : Shown client db verb frames)
    (status : ∀ word rest fields, P ⟨.code200 :: word :: rest, fields⟩)
    (begins : ∀ type, P (Frame.listBegin type)) (each : ∀ fields, P (Frame.item fields))
    (ends : ∀ type, P (Frame.listEnd type)) : ∀ frame ∈ frames, P frame := by
  rcases shown.form with ⟨word, rest, fields, rfl⟩ | ⟨type, items, rfl⟩
  · exact List.forall_mem_singleton.mpr (status word rest fields)
  · exact Frame.forall_listing (begins type) (fun fields _ => each fields) (ends type)

/-! ### All outcomes -/

open Outcome Letters in
/-- **What a command does**, with the checks that it made. -/
inductive Serves (env : Env) (fd : Int) (client : Client) (server : Server) :
    Verb → Outcome → Prop
  | refused {verb : Verb} {frame : Frame} : Refusal client frame →
      Serves env fd client server verb (answer fd client server [frame])
  | shown {verb : Verb} {frames : List Frame} : Shown client server.db verb frames →
      Serves env fd client server verb (answer fd client server frames)
  | loginNew {newUser : User} : 2 ≤ client.args.length → client.userUuid = [] →
      client.arg 1 ≠ [] → (client.arg 1).length ≤ 32 → server.db.findUserByName (client.arg 1) = none →
      newUser = { uuid := server.nextUuid env, name := client.arg 1, connectedCount := 1 } →
      Serves env fd client server .login { idle client server with
        db := { server.db with users := server.db.users ++ [newUser] }
        userUuid := newUser.uuid
        uuidCalls := server.uuidCalls + 1
        letters := (toClient fd [Frame.okLogin newUser.uuid newUser.name]).followedBy
          (toAll (Frame.eventLoggedIn newUser)) }
  | loginAgain {user : User} : 2 ≤ client.args.length → client.userUuid = [] →
      client.arg 1 ≠ [] → (client.arg 1).length ≤ 32 →
      server.db.findUserByName (client.arg 1) = some user →
      Serves env fd client server .login { idle client server with
        db := server.db.modifyUserByName (client.arg 1) User.incrementConnection
        userUuid := user.uuid
        letters := (toClient fd [Frame.okLogin user.uuid user.name]).followedBy
          (toAll (Frame.eventLoggedIn user)) }
  | logout {user : User} : client.userUuid ≠ [] → server.db.findUser client.userUuid = some user →
      user.decrementConnection.isConnected = true →
      Serves env fd client server .logout { idle client server with
        db := server.db.modifyUser client.userUuid User.decrementConnection
        userUuid := []
        letters := toClient fd [Frame.ok] }
  | logoutLast {user : User} : client.userUuid ≠ [] →
      server.db.findUser client.userUuid = some user →
      user.decrementConnection.isConnected = false →
      Serves env fd client server .logout { idle client server with
        db := server.db.modifyUser client.userUuid User.decrementConnection
        userUuid := []
        letters := (toAll (Frame.eventLoggedOut user)).followedBy (toClient fd [Frame.ok]) }
  | logoutUnknown : client.userUuid ≠ [] → server.db.findUser client.userUuid = none →
      Serves env fd client server .logout { idle client server with
        userUuid := []
        letters := toClient fd [Frame.ok] }
  | useNothing : client.userUuid ≠ [] → client.args.length < 2 →
      Serves env fd client server .use { idle client server with
        context := {}
        letters := toClient fd [Frame.ok] }
  | useTeam {team : Team} : client.userUuid ≠ [] → client.args.length = 2 →
      server.db.findTeam (client.arg 1) = some team → client.userUuid ∈ team.subscriberUuids →
      Serves env fd client server .use { idle client server with
        context := { teamUuid := client.arg 1 }
        letters := toClient fd [Frame.ok] }
  | useChannel {team : Team} {channel : Channel} : client.userUuid ≠ [] → client.args.length = 3 →
      server.db.findTeam (client.arg 1) = some team → client.userUuid ∈ team.subscriberUuids →
      server.db.findChannel (client.arg 1) (client.arg 2) = some channel →
      Serves env fd client server .use { idle client server with
        context := { teamUuid := client.arg 1, channelUuid := client.arg 2 }
        letters := toClient fd [Frame.ok, Frame.ok] }
  | useThread {team : Team} {channel : Channel} {thread : Thread} : client.userUuid ≠ [] →
      client.args.length = 4 →
      server.db.findTeam (client.arg 1) = some team → client.userUuid ∈ team.subscriberUuids →
      server.db.findChannel (client.arg 1) (client.arg 2) = some channel →
      server.db.findThread (client.arg 2) (client.arg 3) = some thread →
      Serves env fd client server .use { idle client server with
        context :=
          { teamUuid := client.arg 1, channelUuid := client.arg 2, threadUuid := client.arg 3 }
        letters := toClient fd [Frame.ok, Frame.ok, Frame.ok] }
  | useNoChannel {team : Team} : client.userUuid ≠ [] → 3 ≤ client.args.length →
      client.args.length ≤ 4 →
      server.db.findTeam (client.arg 1) = some team → client.userUuid ∈ team.subscriberUuids →
      server.db.findChannel (client.arg 1) (client.arg 2) = none →
      Serves env fd client server .use (answer fd client server
        [Frame.ok, Frame.notFoundKind .channel (client.arg 2)])
  | useNoThread {team : Team} {channel : Channel} : client.userUuid ≠ [] → client.args.length = 4 →
      server.db.findTeam (client.arg 1) = some team → client.userUuid ∈ team.subscriberUuids →
      server.db.findChannel (client.arg 1) (client.arg 2) = some channel →
      server.db.findThread (client.arg 2) (client.arg 3) = none →
      Serves env fd client server .use (answer fd client server
        [Frame.ok, Frame.ok, Frame.notFoundKind .thread (client.arg 3)])
  | createTeam {newTeam : Team} : client.userUuid ≠ [] → client.context.teamUuid = [] →
      3 ≤ client.args.length → Create.isInvalidLength (client.arg 1) Create.maxNameLength = false →
      Create.isInvalidLength (client.arg 2) Create.maxDescriptionLength = false →
      (∀ team ∈ server.db.teams, team.name ≠ client.arg 1) →
      newTeam =
        { uuid := server.nextUuid env, name := client.arg 1, description := client.arg 2,
          subscriberUuids := [client.userUuid] } →
      Serves env fd client server .create { idle client server with
        db := { server.db with teams := server.db.teams ++ [newTeam] }
        uuidCalls := server.uuidCalls + 1
        letters := (toClient fd [Frame.createdTeam newTeam]).followedBy
          (toAll (Frame.eventTeamCreated newTeam)) }
  | createChannel {team : Team} {channel : Channel} : Allowed client server.db →
      client.context.teamUuid ≠ [] → client.context.channelUuid = [] →
      server.db.findTeam client.context.teamUuid = some team →
      3 ≤ client.args.length → Create.isInvalidLength (client.arg 1) Create.maxNameLength = false →
      Create.isInvalidLength (client.arg 2) Create.maxDescriptionLength = false →
      (∀ other ∈ team.channels, other.name ≠ client.arg 1) →
      channel = { uuid := server.nextUuid env, name := client.arg 1, description := client.arg 2 } →
      Serves env fd client server .create { idle client server with
        db := server.db.modifyTeam client.context.teamUuid fun team =>
          { team with channels := team.channels ++ [channel] }
        uuidCalls := server.uuidCalls + 1
        letters := (toClient fd [Frame.createdChannel channel]).followedBy
          (toSubscribers team (Frame.eventChannelCreated channel)) }
  | createThread {team : Team} {channel : Channel} {newThread : Thread} :
      Allowed client server.db → client.context.teamUuid ≠ [] → client.context.channelUuid ≠ [] →
      client.context.threadUuid = [] →
      server.db.findTeam client.context.teamUuid = some team →
      server.db.findChannel client.context.teamUuid client.context.channelUuid = some channel →
      3 ≤ client.args.length → Create.isInvalidLength (client.arg 1) Create.maxNameLength = false →
      Create.isInvalidLength (client.arg 2) Create.maxBodyLength = false →
      (∀ other ∈ channel.threads, other.title ≠ client.arg 1) →
      newThread =
        { uuid := server.nextUuid env, userUuid := client.userUuid,
          title := client.arg 1, body := client.arg 2, timestamp := server.nextTime env } →
      Serves env fd client server .create { idle client server with
        db := server.db.modifyChannel client.context.teamUuid client.context.channelUuid
          fun channel => { channel with threads := channel.threads ++ [newThread] }
        uuidCalls := server.uuidCalls + 1
        timeCalls := server.timeCalls + 1
        letters := (toClient fd [Frame.createdThread newThread]).followedBy
          (toSubscribers team (Frame.eventThreadCreated newThread)) }
  | createReply {team : Team} {channel : Channel} {thread : Thread} {newReply : Reply} :
      Allowed client server.db → client.context.teamUuid ≠ [] → client.context.channelUuid ≠ [] →
      client.context.threadUuid ≠ [] →
      server.db.findTeam client.context.teamUuid = some team →
      server.db.findChannel client.context.teamUuid client.context.channelUuid = some channel →
      server.db.findThread client.context.channelUuid client.context.threadUuid = some thread →
      2 ≤ client.args.length → Create.isInvalidLength (client.arg 1) Create.maxBodyLength = false →
      newReply =
        { uuid := server.nextUuid env, userUuid := client.userUuid, body := client.arg 1,
          timestamp := server.nextTime env } →
      Serves env fd client server .create { idle client server with
        db := server.db.modifyThread client.context.channelUuid client.context.threadUuid
          fun thread => { thread with replies := thread.replies ++ [newReply] }
        uuidCalls := server.uuidCalls + 1
        timeCalls := server.timeCalls + 1
        letters := (toClient fd [Frame.createdReply client.context.threadUuid newReply]).followedBy
          (toSubscribers team (Frame.eventReplyCreated client.context.teamUuid
            client.context.threadUuid newReply)) }
  | subscribe {team : Team} : client.userUuid ≠ [] → 2 ≤ client.args.length → client.arg 1 ≠ [] →
      server.db.findTeam (client.arg 1) = some team → client.userUuid ∉ team.subscriberUuids →
      Serves env fd client server .subscribe { idle client server with
        db := server.db.modifyTeam (client.arg 1) fun team =>
          (team.addSubscriber client.userUuid).2
        letters := (toSubscribers (team.addSubscriber client.userUuid).2
          (Frame.userSubscribed (client.arg 1) client.userUuid)).followedBy
          (toClient fd [Frame.okSubscribe client.userUuid (client.arg 1)]) }
  | unsubscribe {team : Team} : client.userUuid ≠ [] → 2 ≤ client.args.length → client.arg 1 ≠ [] →
      server.db.findTeam (client.arg 1) = some team → client.userUuid ∈ team.subscriberUuids →
      Serves env fd client server .unsubscribe { idle client server with
        db := server.db.modifyTeam (client.arg 1) fun team =>
          (team.removeSubscriber client.userUuid).2
        letters := (toSubscribers (team.removeSubscriber client.userUuid).2
          (Frame.userUnsubscribed (client.arg 1) client.userUuid)).followedBy
          (toClient fd [Frame.okUnsubscribe client.userUuid (client.arg 1)]) }
  | send {sender receiver : User} {message : Message} : 3 ≤ client.args.length →
      client.arg 1 ≠ [] → client.arg 2 ≠ [] → (client.arg 2).length ≤ 512 →
      server.db.findUser client.userUuid = some sender →
      server.db.findUser (client.arg 1) = some receiver →
      message =
        { senderUuid := sender.uuid, receiverUuid := receiver.uuid,
          timestamp := server.nextTime env, body := client.arg 2 } →
      Serves env fd client server .send { idle client server with
        db := (server.db.modifyUser client.userUuid (User.addMessage receiver.uuid message)).modifyUser
          (client.arg 1) (User.addMessage sender.uuid message)
        timeCalls := server.timeCalls + 1
        letters := (toUser receiver.uuid
          (Frame.eventPrivateMessage sender.uuid (client.arg 2))).followedBy
          (toClient fd [Frame.ok]) }

namespace Outcome

/-- A command whose session update is `f` commits the outcome with this session. -/
theorem commit_eq (outcome : Outcome) {fd : Int} {server : Server} {client : Client}
    (found : server.clients.find? fd = some client) (f : Client → Client)
    (session : f client
      = { client with userUuid := outcome.userUuid, context := outcome.context }) :
    outcome.commit fd server = Server.deliver outcome.letters
      { clients := server.clients.modify fd f
        db := outcome.db
        uuidCalls := outcome.uuidCalls
        timeCalls := outcome.timeCalls } := by
  rw [commit, SortedMap.modify_congr found session.symm]

/-- A command that keeps the session commits a delivery. -/
theorem commit_of_session {outcome : Outcome} {fd : Int} {server : Server} {client : Client}
    (found : server.clients.find? fd = some client) (user : outcome.userUuid = client.userUuid)
    (context : outcome.context = client.context) :
    outcome.commit fd server = Server.deliver outcome.letters
      { server with
        db := outcome.db
        uuidCalls := outcome.uuidCalls
        timeCalls := outcome.timeCalls } := by
  rw [commit, SortedMap.modify_eq_self found (by rw [user, context])]

/-- The requester after a command. -/
theorem find?_commit_self (outcome : Outcome) {fd : Int} {server : Server} {client : Client}
    (found : server.clients.find? fd = some client) :
    (outcome.commit fd server).clients.find? fd
      = some (({ client with userUuid := outcome.userUuid, context := outcome.context } : Client).receive
          (outcome.letters fd outcome.userUuid)) := by
  rw [commit, Server.find?_deliver, SortedMap.find?_modify_self, found]
  rfl

/-- Another client after a command: it received its letters. -/
theorem find?_commit_of_ne (outcome : Outcome) {fd other : Int} (different : other ≠ fd)
    (server : Server) :
    (outcome.commit fd server).clients.find? other
      = (server.clients.find? other).map fun client =>
          client.receive (outcome.letters other client.userUuid) := by
  rw [commit, Server.find?_deliver, SortedMap.find?_modify_of_ne different]

theorem commit_answer {fd : Int} {server : Server} {client : Client}
    (found : server.clients.find? fd = some client) (frames : List Frame) :
    (answer fd client server frames).commit fd server = server.sendAllToClient frames fd := by
  rw [commit_of_session found rfl rfl, Server.sendAllToClient_eq]
  rfl

end Outcome

/-! ### Every command has one of the outcomes -/

/-- A server that a command of `client` leaves behind. -/
def Served (env : Env) (fd : Int) (client : Client) (server : Server) (verb : Verb)
    (after : Server) : Prop :=
  ∃ outcome, Serves env fd client server verb outcome ∧ after = outcome.commit fd server

section Commands

variable {env : Env} {fd : Int} {client : Client} {server : Server} {verb : Verb}

theorem served_answer (found : server.clients.find? fd = some client) {frames : List Frame}
    (serves : Serves env fd client server verb (Outcome.answer fd client server frames)) :
    Served env fd client server verb (server.sendAllToClient frames fd) :=
  ⟨_, serves, (Outcome.commit_answer found frames).symm⟩

theorem served_refused (found : server.clients.find? fd = some client) {frame : Frame}
    (refusal : Refusal client frame) :
    Served env fd client server verb (server.sendToClient frame fd) :=
  served_answer found (.refused refusal)

theorem served_shown (found : server.clients.find? fd = some client) {frames : List Frame}
    (shown : Shown client server.db verb frames) :
    Served env fd client server verb (server.sendAllToClient frames fd) :=
  served_answer found (.shown shown)

theorem arg_known {index : Nat} (inside : index < client.args.length) :
    client.arg index ∈ client.known := by
  refine List.mem_append_left _ ?_
  rw [Client.arg, List.getD_eq_getElem?_getD, List.getElem?_eq_getElem inside]
  exact List.getElem_mem inside

/-- LOGIN with a proper name enters a session and announces it to everybody. -/
theorem Login.execute_enters (env : Env) (found : server.clients.find? fd = some client)
    (session : client.userUuid = []) (enough : 2 ≤ client.args.length) (named : client.arg 1 ≠ [])
    (fits : (client.arg 1).length ≤ Login.maxNameLength) :
    ∃ outcome user, Serves env fd client server .login outcome ∧
      Login.execute env fd client server = outcome.commit fd server ∧
      outcome.letters = (Letters.toClient fd [Frame.okLogin user.uuid user.name]).followedBy
        (.toAll (Frame.eventLoggedIn user)) := by
  have valid : ¬ (client.arg 1 = [] ∨ Login.maxNameLength < (client.arg 1).length) :=
    not_or.mpr ⟨named, not_lt.mpr fits⟩
  unfold Login.execute
  rw [if_neg (not_lt.mpr enough), if_neg (not_not.mpr session), if_neg valid]
  by_cases missing : server.db.findUserByName (client.arg 1) = none
  · rw [if_pos missing]
    refine ⟨_, _, .loginNew enough session named fits missing rfl, ?_, rfl⟩
    rw [Outcome.commit_eq _ found (fun client => { client with userUuid := server.nextUuid env }) rfl]
    unfold Login.createNewUser
    rw [Server.broadcast_eq, Server.sendToClient_eq, Server.deliver_deliver]
    rfl
  · rw [if_neg missing]
    obtain ⟨user, present⟩ := Option.ne_none_iff_exists'.mp missing
    refine ⟨_, _, .loginAgain enough session named fits present, ?_, rfl⟩
    rw [Outcome.commit_eq _ found (fun client => { client with userUuid := user.uuid }) rfl]
    unfold Login.logUserIn
    rw [present]
    simp only
    rw [Server.broadcast_eq, Server.sendToClient_eq, Server.deliver_deliver]
    rfl

theorem Login.execute_serves (found : server.clients.find? fd = some client) :
    Served env fd client server .login (Login.execute env fd client server) := by
  by_cases enough : 2 ≤ client.args.length
  · by_cases session : client.userUuid = []
    · by_cases valid : client.arg 1 = [] ∨ Login.maxNameLength < (client.arg 1).length
      · unfold Login.execute
        rw [if_neg (not_lt.mpr enough), if_neg (not_not.mpr session), if_pos valid]
        exact served_refused found .badRequest
      · obtain ⟨named, fits⟩ := not_or.mp valid
        obtain ⟨outcome, -, serves, committed, -⟩ :=
          Login.execute_enters env found session enough named (not_lt.mp fits)
        exact ⟨outcome, serves, committed⟩
    · unfold Login.execute
      rw [if_neg (not_lt.mpr enough), if_pos session]
      exact served_refused found .unauthorized
  · unfold Login.execute
    rw [if_pos (not_le.mp enough)]
    exact served_refused found .badRequest

/-- A session update after a broadcast is one before it. -/
theorem modifyClient_broadcast (fd : Int) {f : Client → Client} (frame : Frame) (server : Server)
    (commutes : ∀ client frames, f (client.receive frames) = (f client).receive frames) :
    (server.broadcast frame).modifyClient fd f
      = (server.modifyClient fd f).deliver (.toAll frame) := by
  rw [Server.broadcast_eq]
  unfold Server.modifyClient Server.deliver
  congr 1
  refine SortedMap.ext_entries ?_
  simp only [SortedMap.modify, SortedMap.mapWithKey, List.map_map]
  refine List.map_congr_left fun entry _ => ?_
  by_cases hit : entry.1 = fd
  · simp [hit, Letters.toAll, commutes]
  · simp [hit, Letters.toAll]

/-- LOGOUT of a client that is logged in ends the session and keeps the context. It is announced if
the user has no other session. -/
theorem Logout.execute_leaves (env : Env) (found : server.clients.find? fd = some client)
    (session : client.userUuid ≠ []) :
    ∃ outcome, Serves env fd client server .logout outcome ∧
      Logout.execute fd client server = outcome.commit fd server ∧
      outcome.userUuid = [] ∧ outcome.context = client.context ∧
      ∀ user, server.db.findUser client.userUuid = some user →
        user.decrementConnection.isConnected = false →
        outcome.letters = (Letters.toAll (Frame.eventLoggedOut user)).followedBy
          (.toClient fd [Frame.ok]) := by
  unfold Logout.execute
  rw [if_neg session]
  cases present : server.db.findUser client.userUuid with
  | none =>
    refine ⟨_, .logoutUnknown session present, ?_, rfl, rfl, fun user known => by cases known⟩
    rw [Outcome.commit_eq _ found (fun client => { client with userUuid := [] }) rfl]
    exact Server.sendToClient_eq _ _ _
  | some user =>
    cases connected : user.decrementConnection.isConnected with
    | true =>
      refine ⟨_, .logout session present connected, ?_, rfl, rfl, fun other known gone => ?_⟩
      swap
      · cases known
        rw [connected] at gone
        cases gone
      rw [Outcome.commit_eq _ found (fun client => { client with userUuid := [] }) rfl]
      simp only [connected, if_true]
      exact Server.sendToClient_eq _ _ _
    | false =>
      refine ⟨_, .logoutLast session present connected, ?_, rfl, rfl, fun other known _ => ?_⟩
      swap
      · cases known
        rfl
      rw [Outcome.commit_eq _ found (fun client => { client with userUuid := [] }) rfl]
      simp only [connected, Bool.false_eq_true, if_false]
      rw [modifyClient_broadcast fd _ _ fun _ _ => rfl, Server.sendToClient_eq,
        Server.deliver_deliver]
      rfl

theorem Logout.execute_serves (found : server.clients.find? fd = some client) :
    Served env fd client server .logout (Logout.execute fd client server) := by
  by_cases session : client.userUuid = []
  · unfold Logout.execute
    rw [if_pos session]
    exact served_refused found .unauthorized
  · obtain ⟨outcome, serves, committed, -⟩ := Logout.execute_leaves env found session
    exact ⟨outcome, serves, committed⟩

/-- The replies of USE come before its session update. -/
theorem modifyClient_sendAllToClient (frames : List Frame) (context : Context) :
    (server.sendAllToClient frames fd).modifyClient fd (fun client => { client with context := context })
      = (server.modifyClient fd fun client => { client with context := context }).deliver
          (.toClient fd frames) := by
  rw [Server.sendAllToClient_eq]
  unfold Server.modifyClient Server.deliver
  congr 1
  refine SortedMap.ext_entries ?_
  simp only [SortedMap.modify, SortedMap.mapWithKey, List.map_map]
  refine List.map_congr_left fun entry _ => ?_
  by_cases hit : entry.1 = fd
  · simp [hit, Letters.toClient, Client.receive]
  · simp [hit, Letters.toClient]

/-- USE that reached its last level sets the context. -/
theorem commit_use (found : server.clients.find? fd = some client) (frames : List Frame)
    (context : Context) :
    (server.sendAllToClient frames fd).modifyClient fd (fun client => { client with context := context })
      = Outcome.commit { Outcome.idle client server with
          context := context
          letters := .toClient fd frames } fd server := by
  rw [modifyClient_sendAllToClient,
    Outcome.commit_eq _ found (fun client => { client with context := context }) rfl]
  rfl

/-- **USE below the level of the team**: the team was found, and its reply is followed by another one
for the next level. -/
theorem Use.execute_levels (env : Env) (found : server.clients.find? fd = some client)
    (session : client.userUuid ≠ []) (enough : 3 ≤ client.args.length)
    (bounded : client.args.length ≤ 4) {team : Team}
    (present : server.db.findTeam (client.arg 1) = some team)
    (subscribed : client.userUuid ∈ team.subscriberUuids) :
    ∃ outcome next rest, Serves env fd client server .use outcome ∧
      Use.execute fd client server = outcome.commit fd server ∧
      outcome.userUuid = client.userUuid ∧
      outcome.letters = .toClient fd (Frame.ok :: next :: rest) ∧ next.isNotice = false := by
  have one : ¬ client.args.length < 2 := by omega
  have two : ¬ client.args.length < 3 := by omega
  have long : ¬ 4 < client.args.length := by omega
  have member := Team.isUserSubscribed_iff.mpr subscribed
  unfold Use.execute
  rw [if_neg session, if_neg long]
  simp only [validateAndSetTeam, if_neg one, present, member, if_true, validateAndSetChannel,
    if_neg two, Server.sendToClient_db]
  cases channel : server.db.findChannel (client.arg 1) (client.arg 2) with
  | none =>
    have answered := Outcome.commit_answer found
      [Frame.ok, Frame.notFoundKind .channel (client.arg 2)]
    exact ⟨_, _, _, .useNoChannel session enough bounded present subscribed channel,
      answered.symm, rfl, rfl, rfl⟩
  | some foundChannel =>
    by_cases three : client.args.length < 4
    · simp only [validateAndSetThread, if_pos three]
      exact ⟨_, _, _, .useChannel session (by omega) present subscribed channel,
        commit_use found [Frame.ok, Frame.ok] _, rfl, rfl, rfl⟩
    simp only [validateAndSetThread, if_neg three, Server.sendToClient_db]
    cases thread : server.db.findThread (client.arg 2) (client.arg 3) with
    | none =>
      have answered := Outcome.commit_answer found
        [Frame.ok, Frame.ok, Frame.notFoundKind .thread (client.arg 3)]
      exact ⟨_, _, _, .useNoThread session (by omega) present subscribed channel thread,
        answered.symm, rfl, rfl, rfl⟩
    | some foundThread =>
      exact ⟨_, _, _, .useThread session (by omega) present subscribed channel thread,
        commit_use found [Frame.ok, Frame.ok, Frame.ok] _, rfl, rfl, rfl⟩

theorem Use.execute_serves (found : server.clients.find? fd = some client) :
    Served env fd client server .use (Use.execute fd client server) := by
  by_cases levels : client.userUuid ≠ [] ∧ 3 ≤ client.args.length ∧ client.args.length ≤ 4 ∧
      ∃ team, server.db.findTeam (client.arg 1) = some team ∧
        client.userUuid ∈ team.subscriberUuids
  · obtain ⟨session, enough, bounded, team, present, subscribed⟩ := levels
    obtain ⟨outcome, -, -, serves, committed, -⟩ :=
      Use.execute_levels env found session enough bounded present subscribed
    exact ⟨outcome, serves, committed⟩
  unfold Use.execute
  split_ifs with session long
  · exact served_refused found .unauthorized
  · exact served_refused found .badRequest
  by_cases one : client.args.length < 2
  · have two : client.args.length < 3 := by omega
    have three : client.args.length < 4 := by omega
    simp only [validateAndSetTeam, validateAndSetChannel, validateAndSetThread, if_pos one, if_pos two,
      if_pos three]
    exact ⟨_, .useNothing session one, commit_use found [Frame.ok] _⟩
  cases present : server.db.findTeam (client.arg 1) with
  | none =>
    simp only [validateAndSetTeam, if_neg one, present]
    exact served_refused found (.notFoundKind .team (arg_known (by omega)))
  | some team =>
    cases member : team.isUserSubscribed client.userUuid with
    | false =>
      simp only [validateAndSetTeam, if_neg one, present, member, Bool.false_eq_true, if_false]
      exact served_refused found .forbidden
    | true =>
      have subscribed := Team.isUserSubscribed_iff.mp member
      have two : client.args.length < 3 := by
        by_contra enough
        exact levels ⟨session, not_lt.mp enough, not_lt.mp long, team, present, subscribed⟩
      have three : client.args.length < 4 := by omega
      simp only [validateAndSetTeam, if_neg one, present, member, if_true, validateAndSetChannel,
        if_pos two, validateAndSetThread, if_pos three]
      exact ⟨_, .useTeam session (by omega) present subscribed, commit_use found [Frame.ok] _⟩

/-! ### CREATE -/

/-- A command that keeps the session, answers the requester and then informs others. -/
theorem Outcome.commit_announced (found : server.clients.find? fd = some client) (db : Database)
    (uuidCalls timeCalls : Nat) (frame : Frame) (others : Letters) :
    Outcome.commit { Outcome.idle client server with
      db := db
      uuidCalls := uuidCalls
      timeCalls := timeCalls
      letters := (Letters.toClient fd [frame]).followedBy others } fd server
    = (Server.sendToClient frame fd
        { server with db := db, uuidCalls := uuidCalls, timeCalls := timeCalls }).deliver others := by
  rw [Outcome.commit_of_session found rfl rfl, Server.sendToClient_eq, Server.deliver_deliver]

theorem served_announced (env : Env) (found : server.clients.find? fd = some client) {db : Database}
    {uuidCalls timeCalls : Nat} {frame : Frame} {others : Letters}
    (serves : Serves env fd client server verb { Outcome.idle client server with
      db := db
      uuidCalls := uuidCalls
      timeCalls := timeCalls
      letters := (Letters.toClient fd [frame]).followedBy others }) :
    Served env fd client server verb
      ((Server.sendToClient frame fd
        { server with db := db, uuidCalls := uuidCalls, timeCalls := timeCalls }).deliver others) :=
  ⟨_, serves, (Outcome.commit_announced found db uuidCalls timeCalls frame others).symm⟩

theorem not_any_iff {α : Type} {items : List α} {p : α → Prop} [DecidablePred p] :
    ¬ items.any (fun item => decide (p item)) = true ↔ ∀ item ∈ items, ¬ p item := by
  simp

theorem checked_lengths {first second : Bytes} {long wide : Nat}
    (valid : ¬ (Create.isInvalidLength first long || Create.isInvalidLength second wide) = true) :
    Create.isInvalidLength first long = false ∧ Create.isInvalidLength second wide = false := by
  rwa [Bool.not_eq_true, Bool.or_eq_false_iff] at valid

/-- The team in the context after the check of CREATE, or the answer. -/
theorem findAccessibleTeam_cases (teamUuid : Bytes) (known : teamUuid ∈ client.known) :
    (∃ frame, Create.findAccessibleTeam client server.db teamUuid = .error frame ∧
      Refusal client frame) ∨
    ∃ team, Create.findAccessibleTeam client server.db teamUuid = .ok team ∧
      server.db.findTeam teamUuid = some team ∧ client.userUuid ∈ team.subscriberUuids := by
  unfold Create.findAccessibleTeam
  cases present : server.db.findTeam teamUuid with
  | none => exact Or.inl ⟨_, rfl, .notFoundUuid known⟩
  | some team =>
    cases member : team.isUserSubscribed client.userUuid with
    | false => exact Or.inl ⟨_, by simp [member], .forbidden⟩
    | true => exact Or.inr ⟨team, by simp [member], rfl, Team.isUserSubscribed_iff.mp member⟩

theorem findChannelOrSend404_cases (teamUuid channelUuid : Bytes)
    (known : channelUuid ∈ client.known) :
    (∃ frame, Create.findChannelOrSend404 server.db teamUuid channelUuid = .error frame ∧
      Refusal client frame) ∨
    ∃ channel, Create.findChannelOrSend404 server.db teamUuid channelUuid = .ok channel ∧
      server.db.findChannel teamUuid channelUuid = some channel := by
  unfold Create.findChannelOrSend404
  cases present : server.db.findChannel teamUuid channelUuid with
  | none => exact Or.inl ⟨_, rfl, .notFoundUuid known⟩
  | some channel => exact Or.inr ⟨channel, rfl, rfl⟩

theorem findThreadOrSend404_cases (channelUuid threadUuid : Bytes)
    (known : threadUuid ∈ client.known) :
    (∃ frame, Create.findThreadOrSend404 server.db channelUuid threadUuid = .error frame ∧
      Refusal client frame) ∨
    ∃ thread, Create.findThreadOrSend404 server.db channelUuid threadUuid = .ok thread ∧
      server.db.findThread channelUuid threadUuid = some thread := by
  unfold Create.findThreadOrSend404
  cases present : server.db.findThread channelUuid threadUuid with
  | none => exact Or.inl ⟨_, rfl, .notFoundUuid known⟩
  | some thread => exact Or.inr ⟨thread, rfl, rfl⟩

theorem teamUuid_known : client.context.teamUuid ∈ client.known :=
  List.mem_append_right _ (by simp)

theorem channelUuid_known : client.context.channelUuid ∈ client.known :=
  List.mem_append_right _ (by simp)

theorem threadUuid_known : client.context.threadUuid ∈ client.known :=
  List.mem_append_right _ (by simp)

/-- CREATE of a team with a new name is announced to everybody. -/
theorem Create.executeTeam_creates (env : Env) (found : server.clients.find? fd = some client)
    (session : client.userUuid ≠ []) (chosen : client.context.teamUuid = [])
    (enough : 3 ≤ client.args.length)
    (name : Create.isInvalidLength (client.arg 1) Create.maxNameLength = false)
    (description : Create.isInvalidLength (client.arg 2) Create.maxDescriptionLength = false)
    (new : ∀ team ∈ server.db.teams, team.name ≠ client.arg 1) :
    ∃ outcome team, Serves env fd client server .create outcome ∧
      Create.executeTeam env fd client server = outcome.commit fd server ∧
      outcome.letters = (Letters.toClient fd [Frame.createdTeam team]).followedBy
        (.toAll (Frame.eventTeamCreated team)) := by
  have valid : ¬ (Create.isInvalidLength (client.arg 1) Create.maxNameLength ||
      Create.isInvalidLength (client.arg 2) Create.maxDescriptionLength) = true := by
    rw [name, description]
    exact Bool.false_ne_true
  unfold Create.executeTeam
  rw [if_neg (not_lt.mpr enough), if_neg valid, if_neg (not_any_iff.mpr new)]
  simp only [if_neg session]
  refine ⟨_, _, .createTeam session chosen enough name description new rfl, ?_, rfl⟩
  rw [Outcome.commit_announced found, ← Server.broadcast_eq]
  rfl

theorem Create.executeTeam_serves (found : server.clients.find? fd = some client)
    (session : client.userUuid ≠ []) (chosen : client.context.teamUuid = []) :
    Served env fd client server .create (Create.executeTeam env fd client server) := by
  by_cases short : client.args.length < 3
  · unfold Create.executeTeam
    rw [if_pos short]
    exact served_refused found .badRequest
  by_cases invalid : (Create.isInvalidLength (client.arg 1) Create.maxNameLength ||
      Create.isInvalidLength (client.arg 2) Create.maxDescriptionLength) = true
  · unfold Create.executeTeam
    rw [if_neg short, if_pos invalid]
    exact served_refused found .badRequest
  by_cases taken : server.db.teams.any (·.name = client.arg 1) = true
  · unfold Create.executeTeam
    rw [if_neg short, if_neg invalid, if_pos taken]
    exact served_refused found .alreadyExists
  obtain ⟨name, description⟩ := checked_lengths invalid
  obtain ⟨outcome, -, serves, committed, -⟩ := Create.executeTeam_creates env found session chosen
    (not_lt.mp short) name description (not_any_iff.mp taken)
  exact ⟨outcome, serves, committed⟩

/-- `findTeam` after an update of this team that keeps its uuid. -/
theorem findTeam_modifyTeam (db : Database) {uuid : Bytes} {f : Team → Team} {team : Team}
    (keeps : ∀ team, (f team).uuid = team.uuid) (present : db.findTeam uuid = some team) :
    (db.modifyTeam uuid f).findTeam uuid = some (f team) := by
  unfold Database.findTeam at present
  unfold Database.findTeam Database.modifyTeam
  rw [FirstMatch.find?_modifyFirst fun team => by rw [keeps], present]
  rfl

theorem findTeam_addChannel {db : Database} {uuid : Bytes} {channel : Channel} {team : Team}
    (present : db.findTeam uuid = some team) :
    (db.modifyTeam uuid fun team => { team with channels := team.channels ++ [channel] }).findTeam uuid
      = some { team with channels := team.channels ++ [channel] } :=
  findTeam_modifyTeam db (fun _ => rfl) present

theorem Create.executeChannel_serves (found : server.clients.find? fd = some client)
    (session : client.userUuid ≠ []) (chosen : client.context.teamUuid ≠ [])
    (level : client.context.channelUuid = []) :
    Served env fd client server .create (Create.executeChannel env fd client server) := by
  unfold Create.executeChannel
  rcases findAccessibleTeam_cases client.context.teamUuid teamUuid_known with
    ⟨frame, refused, refusal⟩ | ⟨team, accessible, present, member⟩
  · rw [refused]
    exact served_refused found refusal
  rw [accessible]
  simp only [Server.orSend]
  split_ifs with short invalid taken
  · exact served_refused found .badRequest
  · exact served_refused found .badRequest
  · exact served_refused found .alreadyExists
  · obtain ⟨name, description⟩ := checked_lengths invalid
    have serves := served_announced env found (.createChannel
      ⟨session, fun _ => ⟨team, present, member⟩⟩ chosen level present (not_lt.mp short) name
      description (not_any_iff.mp taken) rfl)
    unfold Create.emitChannelCreated
    rw [Server.notifySubscribers_eq chosen _ (findTeam_addChannel present)]
    exact serves

/-- `findTeam` after a write to a channel of this team. -/
theorem findTeam_modifyChannel {db : Database} {teamUuid channelUuid : Bytes}
    {f : Channel → Channel} {team : Team} (present : db.findTeam teamUuid = some team) :
    (db.modifyChannel teamUuid channelUuid f).findTeam teamUuid
      = some (team.modifyChannel channelUuid f) :=
  findTeam_modifyTeam db (fun _ => rfl) present

theorem Create.executeThread_serves (found : server.clients.find? fd = some client)
    (session : client.userUuid ≠ []) (chosen : client.context.teamUuid ≠ [])
    (entered : client.context.channelUuid ≠ []) (level : client.context.threadUuid = []) :
    Served env fd client server .create (Create.executeThread env fd client server) := by
  unfold Create.executeThread
  rcases findAccessibleTeam_cases client.context.teamUuid teamUuid_known with
    ⟨frame, refused, refusal⟩ | ⟨team, accessible, present, member⟩
  · rw [refused]
    exact served_refused found refusal
  rw [accessible]
  rcases findChannelOrSend404_cases client.context.teamUuid
    client.context.channelUuid channelUuid_known with
    ⟨frame, refused, refusal⟩ | ⟨channel, reached, inside⟩
  · rw [refused]
    exact served_refused found refusal
  rw [reached]
  simp only [Server.orSend]
  split_ifs with short invalid taken
  · exact served_refused found .badRequest
  · exact served_refused found .badRequest
  · exact served_refused found .alreadyExists
  · obtain ⟨title, body⟩ := checked_lengths invalid
    have serves := served_announced env found (.createThread
      ⟨session, fun _ => ⟨team, present, member⟩⟩ chosen entered level present inside
      (not_lt.mp short) title body (not_any_iff.mp taken) rfl)
    unfold Create.emitThreadCreated
    rw [Server.notifySubscribers_eq chosen _ (findTeam_modifyChannel present)]
    exact serves

/-- `findTeam` after a write to a thread: the team is found again, with its subscribers. -/
theorem findTeam_modifyThread {db : Database} {teamUuid channelUuid threadUuid : Bytes}
    {f : Thread → Thread} {team : Team} (present : db.findTeam teamUuid = some team) :
    ∃ after, (db.modifyThread channelUuid threadUuid f).findTeam teamUuid = some after ∧
      after.subscriberUuids = team.subscriberUuids := by
  unfold Database.findTeam at present
  unfold Database.findTeam Database.modifyThread
  rcases FirstMatch.find?_modifyFirst_cases (p := fun team => team.channels.any (·.uuid = channelUuid))
    (f := Team.modifyChannel channelUuid (Channel.modifyThread threadUuid f)) (fun _ => rfl) present
    with kept | ⟨-, updated⟩
  · exact ⟨team, kept, rfl⟩
  · exact ⟨_, updated, rfl⟩

/-- The recipients of a notice are the subscribers. -/
theorem toSubscribers_congr {first second : Team} (same : first.subscriberUuids = second.subscriberUuids)
    (frame : Frame) : Letters.toSubscribers first frame = Letters.toSubscribers second frame := by
  unfold Letters.toSubscribers
  rw [same]

theorem Create.executeReply_serves (found : server.clients.find? fd = some client)
    (session : client.userUuid ≠ []) (chosen : client.context.teamUuid ≠ [])
    (entered : client.context.channelUuid ≠ []) (level : client.context.threadUuid ≠ []) :
    Served env fd client server .create (Create.executeReply env fd client server) := by
  unfold Create.executeReply
  rcases findAccessibleTeam_cases client.context.teamUuid teamUuid_known with
    ⟨frame, refused, refusal⟩ | ⟨team, accessible, present, member⟩
  · rw [refused]
    exact served_refused found refusal
  rw [accessible]
  rcases findChannelOrSend404_cases client.context.teamUuid
    client.context.channelUuid channelUuid_known with
    ⟨frame, refused, refusal⟩ | ⟨channel, reached, inside⟩
  · rw [refused]
    exact served_refused found refusal
  rw [reached]
  rcases findThreadOrSend404_cases client.context.channelUuid
    client.context.threadUuid threadUuid_known with
    ⟨frame, refused, refusal⟩ | ⟨thread, opened, within⟩
  · rw [refused]
    exact served_refused found refusal
  rw [opened]
  simp only [Server.orSend]
  split_ifs with short invalid
  · exact served_refused found .badRequest
  · exact served_refused found .badRequest
  · have serves := served_announced env found (.createReply
      ⟨session, fun _ => ⟨team, present, member⟩⟩ chosen entered level present inside within
      (not_lt.mp short) (Bool.not_eq_true _ ▸ invalid) rfl)
    unfold Create.emitReplyCreated
    obtain ⟨after, still, same⟩ := findTeam_modifyThread present
    rw [Server.notifySubscribers_eq chosen _ still, toSubscribers_congr same]
    exact serves

theorem Create.execute_serves (found : server.clients.find? fd = some client) :
    Served env fd client server .create (Create.execute env fd client server) := by
  unfold Create.execute
  split_ifs with session team channel thread
  · exact served_refused found .unauthorized
  · exact Create.executeTeam_serves found session team
  · exact Create.executeChannel_serves found session team channel
  · exact Create.executeThread_serves found session team channel thread
  · exact Create.executeReply_serves found session team channel thread

/-! ### LIST and INFO -/

theorem checkTeam_cases (session : client.userUuid ≠ []) :
    (∃ frame, ListCommand.checkTeam client server.db = .error frame ∧ Refusal client frame) ∨
    ListCommand.checkTeam client server.db = .ok () ∧ Allowed client server.db := by
  unfold ListCommand.checkTeam
  by_cases chosen : client.context.teamUuid = []
  · exact Or.inr ⟨if_pos chosen, session, fun named => absurd chosen named⟩
  · rw [if_neg chosen]
    cases present : server.db.findTeam client.context.teamUuid with
    | none => exact Or.inl ⟨_, rfl, .notFoundKind .team teamUuid_known⟩
    | some team =>
      cases member : team.isUserSubscribed client.userUuid with
      | false => exact Or.inl ⟨_, by simp [member], .forbidden⟩
      | true =>
        exact Or.inr ⟨by simp [member], session,
          fun _ => ⟨team, present, Team.isUserSubscribed_iff.mp member⟩⟩

theorem ListCommand.execute_serves (found : server.clients.find? fd = some client) :
    Served env fd client server .list (ListCommand.execute fd client server) := by
  unfold ListCommand.execute
  by_cases session : client.userUuid = []
  · rw [if_pos session]
    exact served_refused found .unauthorized
  rw [if_neg session]
  rcases checkTeam_cases session with ⟨frame, refused, refusal⟩ | ⟨passed, allowed⟩
  · rw [refused]
    exact served_refused found refusal
  rw [passed]
  simp only [Server.orSend]
  split_ifs with reply thread channel
  · unfold ListCommand.executeReply
    cases present : server.db.findThread client.context.channelUuid client.context.threadUuid with
    | none => exact served_refused found (.notFoundKind .thread threadUuid_known)
    | some foundThread =>
      exact served_shown found (.listReplies allowed reply.2.2 reply.1 reply.2.1 present)
  · unfold ListCommand.executeThread
    cases present : server.db.findChannel client.context.teamUuid client.context.channelUuid with
    | none => exact served_refused found (.notFoundKind .channel channelUuid_known)
    | some foundChannel =>
      exact served_shown found (.listThreads allowed thread.2 thread.1 present)
  · unfold ListCommand.executeChannel
    cases present : server.db.findTeam client.context.teamUuid with
    | none => exact served_refused found (.notFoundKind .team teamUuid_known)
    | some foundTeam => exact served_shown found (.listChannels allowed channel present)
  · exact served_shown found (.listTeams allowed)

theorem Info.execute_serves (found : server.clients.find? fd = some client) :
    Served env fd client server .info (Info.execute fd client server) := by
  unfold Info.execute
  by_cases session : client.userUuid = []
  · rw [if_pos session]
    exact served_refused found .unauthorized
  rw [if_neg session]
  rcases checkTeam_cases session with ⟨frame, refused, refusal⟩ | ⟨passed, allowed⟩
  · rw [refused]
    exact served_refused found refusal
  rw [passed]
  simp only [Server.orSend]
  split_ifs with thread channel team
  · unfold Info.executeThread
    cases present : server.db.findThread client.context.channelUuid client.context.threadUuid with
    | none => exact served_refused found (.notFoundKind .thread threadUuid_known)
    | some foundThread => exact served_shown found (.infoThread allowed thread present)
  · unfold Info.executeChannel
    cases present : server.db.findChannel client.context.teamUuid client.context.channelUuid with
    | none => exact served_refused found (.notFoundKind .channel channelUuid_known)
    | some foundChannel => exact served_shown found (.infoChannel allowed channel present)
  · unfold Info.executeTeam
    cases present : server.db.findTeam client.context.teamUuid with
    | none => exact served_refused found (.notFoundKind .team teamUuid_known)
    | some foundTeam => exact served_shown found (.infoTeam allowed team present)
  · unfold Info.executeUser
    rw [if_neg session]
    cases present : server.db.findUser client.userUuid with
    | none =>
      exact served_refused found (.notFoundKind .user (List.mem_append_right _ (by simp)))
    | some user => exact served_shown found (.infoUser allowed present)

/-! ### Subscriptions, users and messages -/

/-- A command that keeps the session, informs others and then answers the requester. -/
theorem served_confirmed (env : Env) (found : server.clients.find? fd = some client) {db : Database}
    {timeCalls : Nat} {frame : Frame} {others : Letters}
    (serves : Serves env fd client server verb { Outcome.idle client server with
      db := db
      timeCalls := timeCalls
      letters := others.followedBy (Letters.toClient fd [frame]) }) :
    Served env fd client server verb
      (Server.sendToClient frame fd
        (Server.deliver others { server with db := db, timeCalls := timeCalls })) := by
  refine ⟨_, serves, ?_⟩
  rw [Outcome.commit_of_session found rfl rfl, Server.sendToClient_eq, Server.deliver_deliver]
  rfl

theorem Subscribe.execute_serves (found : server.clients.find? fd = some client) :
    Served env fd client server .subscribe (Subscribe.execute fd client server) := by
  unfold Subscribe.execute
  by_cases session : client.userUuid = []
  · rw [if_pos session]
    exact served_refused found .unauthorized
  rw [if_neg session]
  by_cases bad : client.args.length < 2 ∨ client.arg 1 = []
  · rw [if_pos bad]
    exact served_refused found .badRequest
  rw [if_neg bad]
  obtain ⟨short, named⟩ := not_or.mp bad
  cases present : server.db.findTeam (client.arg 1) with
  | none => exact served_refused found (.notFoundKind .team (arg_known (not_lt.mp short)))
  | some team =>
    by_cases member : team.isUserSubscribed client.userUuid = true
    · simp only [member, if_true]
      exact served_shown found
        (.alreadySubscribed session (not_lt.mp short) present (Team.isUserSubscribed_iff.mp member))
    · have added : (team.addSubscriber client.userUuid).1 = true := by
        rw [Team.addSubscriber_of_absent member]
      have absent := fun inside => member (Team.isUserSubscribed_iff.mpr inside)
      have serves := served_confirmed env found
        (.subscribe session (not_lt.mp short) named present absent)
      have still := findTeam_modifyTeam (f := fun team => (team.addSubscriber client.userUuid).2)
        server.db (Team.addSubscriber_uuid _) present
      simp only [member, added, Bool.true_eq_false, Bool.false_eq_true, if_false]
      rw [Server.notifySubscribers_eq named _ still]
      exact serves

theorem Unsubscribe.execute_serves (found : server.clients.find? fd = some client) :
    Served env fd client server .unsubscribe (Unsubscribe.execute fd client server) := by
  unfold Unsubscribe.execute
  by_cases session : client.userUuid = []
  · rw [if_pos session]
    exact served_refused found .unauthorized
  rw [if_neg session]
  by_cases bad : client.args.length < 2 ∨ client.arg 1 = []
  · rw [if_pos bad]
    exact served_refused found .badRequest
  rw [if_neg bad]
  obtain ⟨short, named⟩ := not_or.mp bad
  cases present : server.db.findTeam (client.arg 1) with
  | none => exact served_refused found (.notFoundKind .team (arg_known (not_lt.mp short)))
  | some team =>
    by_cases member : team.isUserSubscribed client.userUuid = true
    · have removed : (team.removeSubscriber client.userUuid).1 = true := by
        rw [Team.removeSubscriber_of_present member]
      have serves := served_confirmed env found
        (.unsubscribe session (not_lt.mp short) named present (Team.isUserSubscribed_iff.mp member))
      have still := findTeam_modifyTeam (f := fun team => (team.removeSubscriber client.userUuid).2)
        server.db (Team.removeSubscriber_uuid _) present
      simp only [member, removed, Bool.true_eq_false, if_false]
      rw [Server.notifySubscribers_eq named _ still]
      exact serves
    · simp only [member, if_true]
      exact served_refused found .forbidden

theorem Subscribed.execute_serves (found : server.clients.find? fd = some client) :
    Served env fd client server .subscribed (Subscribed.execute fd client server) := by
  unfold Subscribed.execute
  split_ifs with session short two empty
  · exact served_refused found .unauthorized
  · exact served_shown found (.subscribedTeams session)
  · exact served_refused found .badRequest
  · unfold Subscribed.listSubscribedUsers
    cases present : server.db.findTeam (client.arg 1) with
    | none => exact served_refused found (.notFoundKind .team (arg_known (by omega)))
    | some team => exact served_shown found (.subscribers session present)
  · exact served_refused found .badRequest

theorem UserCommand.execute_serves (found : server.clients.find? fd = some client) :
    Served env fd client server .user (UserCommand.execute fd client server) := by
  unfold UserCommand.execute
  split_ifs with session short
  · exact served_refused found .unauthorized
  · exact served_refused found .badRequest
  · cases present : server.db.findUser (client.arg 1) with
    | none => exact served_refused found (.notFoundUuid (arg_known (not_lt.mp short)))
    | some user => exact served_shown found (.user session present)

theorem UsersCommand.execute_serves (found : server.clients.find? fd = some client) :
    Served env fd client server .users (UsersCommand.execute fd client server) := by
  unfold UsersCommand.execute
  split_ifs with session
  · exact served_refused found .unauthorized
  · exact served_shown found (.users session)

theorem Send.execute_serves (found : server.clients.find? fd = some client) :
    Served env fd client server .send (Send.execute env fd client server) := by
  unfold Send.execute
  by_cases short : client.args.length < 3
  · rw [if_pos short]
    exact served_refused found .badRequest
  rw [if_neg short]
  by_cases bad : client.arg 1 = [] ∨ client.arg 2 = [] ∨ maxBodyLength < (client.arg 2).length
  · rw [if_pos bad]
    exact served_refused found .badRequest
  rw [if_neg bad]
  obtain ⟨named, rest⟩ := not_or.mp bad
  obtain ⟨nonempty, fits⟩ := not_or.mp rest
  cases sender : server.db.findUser client.userUuid with
  | none => exact served_refused found .unauthorized
  | some senderUser =>
    cases receiver : server.db.findUser (client.arg 1) with
    | none => exact served_refused found (.notFoundKind .user (arg_known (by omega)))
    | some receiverUser =>
      have serves := served_confirmed env found
        (.send (not_lt.mp short) named nonempty (not_lt.mp fits) sender receiver rfl)
      simp only [Server.sendToUser_eq]
      exact serves

theorem Messages.execute_serves (found : server.clients.find? fd = some client) :
    Served env fd client server .messages (Messages.execute fd client server) := by
  unfold Messages.execute
  split_ifs with session short empty
  · exact served_refused found .unauthorized
  · exact served_refused found .badRequest
  · exact served_refused found .badRequest
  · cases sender : server.db.findUser client.userUuid with
    | none => exact served_refused found .unauthorized
    | some senderUser =>
      cases receiver : server.db.findUser (client.arg 1) with
      | none =>
        exact served_refused found (.notFoundKind .user (arg_known (not_lt.mp short)))
      | some receiverUser =>
        have shown : Served env fd client server .messages _ := served_shown found (.messages session sender)
        cases conversation : senderUser.messages.find? (client.arg 1) with
        | none =>
          simp only [conversation] at shown ⊢
          exact shown
        | some messages =>
          simp only [conversation] at shown ⊢
          exact shown

/-! ### One line -/

/-- **Every command of the table has one of the outcomes.** -/
theorem commands_serve (verb : Verb) (found : server.clients.find? fd = some client) :
    Served env fd client server verb (verb.command env fd client server) := by
  cases verb with
  | create => exact Create.execute_serves found
  | list => exact ListCommand.execute_serves found
  | use => exact Use.execute_serves found
  | info => exact Info.execute_serves found
  | subscribe => exact Subscribe.execute_serves found
  | unsubscribe => exact Unsubscribe.execute_serves found
  | subscribed => exact Subscribed.execute_serves found
  | login => exact Login.execute_serves found
  | logout => exact Logout.execute_serves found
  | send => exact Send.execute_serves found
  | messages => exact Messages.execute_serves found
  | user => exact UserCommand.execute_serves found
  | users => exact UsersCommand.execute_serves found

end Commands

/-- The client and the server that a command starts with: the arguments are stored. -/
def Client.setArgs (args : List Bytes) (client : Client) : Client := { client with args := args }

/-- The messages that were appended for a client so far. -/
def Server.appendedTo (fd : Int) (server : Server) : List Frame :=
  ((server.clients.find? fd).map Client.appended).getD []

/-- The messages that were appended for a client between two moments. -/
def Server.newFrames (fd : Int) (before after : Server) : List Frame :=
  (after.appendedTo fd).drop (before.appendedTo fd).length

/-- A command appends the letters of its outcome. -/
theorem newFrames_commit (outcome : Outcome) {fd : Int} {server : Server} {client : Client}
    (found : server.clients.find? fd = some client) (other : Int) {holder : Client}
    (present : server.clients.find? other = some holder) :
    server.newFrames other (outcome.commit fd server)
      = outcome.letters other (if other = fd then outcome.userUuid else holder.userUuid) := by
  unfold Server.newFrames Server.appendedTo
  by_cases same : other = fd
  · subst same
    rw [outcome.find?_commit_self found, found, if_pos rfl]
    exact List.drop_left
  · rw [outcome.find?_commit_of_ne same, present, if_neg same]
    exact List.drop_left

theorem find?_setArgs {fd : Int} {server : Server} {client : Client}
    (found : server.clients.find? fd = some client) (args : List Bytes) :
    (server.modifyClient fd (Client.setArgs args)).clients.find? fd = some (client.setArgs args) := by
  rw [Server.modifyClient, SortedMap.find?_modify_self, found]
  rfl

/-- The arguments of a line are stored, then its command runs. -/
theorem handleCommand_serves (env : Env) (rawCommand : Bytes) {fd : Int} {server : Server}
    {client : Client} (found : server.clients.find? fd = some client) :
    (CommandHandling.parseArgs rawCommand = [] ∧
      CommandHandling.handleCommand env rawCommand fd server = server) ∨
    ∃ name rest, CommandHandling.parseArgs rawCommand = name :: rest ∧
      ((CommandHandling.verbs.lookup name = none ∧
        CommandHandling.handleCommand env rawCommand fd server
          = server.modifyClient fd (Client.setArgs (name :: rest))) ∨
      ∃ verb, name = Verb.text verb ∧ Served env fd (client.setArgs (name :: rest))
        (server.modifyClient fd (Client.setArgs (name :: rest))) verb
        (CommandHandling.handleCommand env rawCommand fd server)) := by
  unfold CommandHandling.handleCommand
  rw [found]
  cases parsed : CommandHandling.parseArgs rawCommand with
  | nil => exact Or.inl ⟨rfl, rfl⟩
  | cons name rest =>
    refine Or.inr ⟨name, rest, rfl, ?_⟩
    have stored := find?_setArgs found (name :: rest)
    cases registered : CommandHandling.verbs.lookup name with
    | none =>
      simp only [registered]
      exact Or.inl ⟨trivial, rfl⟩
    | some verb =>
      simp only [registered]
      exact Or.inr ⟨verb, CommandHandling.lookup_verbs_iff.mp registered, commands_serve verb stored⟩

/-- A line of a connection that is gone does nothing. -/
theorem handleCommand_of_none (env : Env) (rawCommand : Bytes) {fd : Int} {server : Server}
    (missing : server.clients.find? fd = none) :
    CommandHandling.handleCommand env rawCommand fd server = server := by
  unfold CommandHandling.handleCommand
  rw [missing]

/-- A line with a registered name runs its command on the stored arguments. -/
theorem handleCommand_of_named (env : Env) {rawCommand : Bytes} {fd : Int} {server : Server}
    {client : Client} {verb : Verb} (found : server.clients.find? fd = some client)
    (named : (CommandHandling.parseArgs rawCommand).head? = some verb.text) :
    CommandHandling.handleCommand env rawCommand fd server
      = verb.command env fd (client.setArgs (CommandHandling.parseArgs rawCommand))
        (server.modifyClient fd (Client.setArgs (CommandHandling.parseArgs rawCommand))) := by
  obtain ⟨rest, parsed⟩ := List.head?_eq_some_iff.mp named
  have registered := CommandHandling.lookup_verbs_iff.mpr (rfl : verb.text = verb.text)
  unfold CommandHandling.handleCommand
  simp only [found, parsed, registered]
  rfl

/-- A line with a registered name has one of the outcomes of its command. -/
theorem served_of_named (env : Env) {rawCommand : Bytes} {fd : Int} {server : Server} {client : Client}
    {verb : Verb} (found : server.clients.find? fd = some client)
    (named : (CommandHandling.parseArgs rawCommand).head? = some verb.text) :
    Served env fd (client.setArgs (CommandHandling.parseArgs rawCommand))
      (server.modifyClient fd (Client.setArgs (CommandHandling.parseArgs rawCommand))) verb
      (CommandHandling.handleCommand env rawCommand fd server) := by
  rw [handleCommand_of_named env found named]
  exact commands_serve verb (find?_setArgs found _)

end MyTeams
