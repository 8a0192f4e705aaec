/-
**What a connection without a user learns.**

A client that has not logged in gets an error line for each of its commands, whatever the state of the
server is (`anonymousReply`), and no message for users or subscribers. Only the three events that are
broadcast reach it: a login, the end of a user's last session, a new team (`Broadcasts`).

* `anonymous_command` — the reply of every command to a client without a user;
* `step_anonymous`, `run_anonymous` — what a step and a run append for such a client;
* `unauthenticated_output` — its output is a function of its own bytes if and only if nothing was
  broadcast since it was accepted.
-/

import MyTeams.Guarantees.Responses
import MyTeams.Server.Session

namespace MyTeams

open Transition Words

/-! ### Replies to a client without a user -/

/-- The arguments of a LOGIN that succeeds for a client without a user. -/
def LogsIn (args : List Bytes) : Prop :=
  args.head? = some Verb.login.text ∧ 2 ≤ args.length ∧ args.getD 1 [] ≠ [] ∧
    (args.getD 1 []).length ≤ Login.maxNameLength

instance (args : List Bytes) : Decidable (LogsIn args) := by
  unfold LogsIn
  infer_instance

/-- The arguments that SEND accepts. -/
def Sendable (args : List Bytes) : Prop :=
  3 ≤ args.length ∧ args.getD 1 [] ≠ [] ∧ args.getD 2 [] ≠ [] ∧
    (args.getD 2 []).length ≤ Send.maxBodyLength

instance (args : List Bytes) : Decidable (Sendable args) := by
  unfold Sendable
  infer_instance

/-- The replies to the arguments of a line that does not log in. -/
def anonymousReply (args : List Bytes) : List Frame :=
  match args with
  | [] => []
  | name :: _ =>
    match CommandHandling.verbs.lookup name with
    | none => []
    | some .login => [Frame.badRequest]
    | some .send => if Sendable args then [Frame.unauthorized] else [Frame.badRequest]
    | some _ => [Frame.unauthorized]

section Replies

variable {env : Env} {fd : Int} {client : Client} {server : Server}

theorem findUser_nil {db : Database} (named : [] ∉ db.uuids) : db.findUser [] = none := by
  refine List.find?_eq_none.mpr fun user member same => named ?_
  rw [← of_decide_eq_true same]
  exact List.mem_append_left _ (List.mem_map_of_mem member)

/-- **The reply of every command to a client without a user** depends on its arguments only. -/
theorem anonymous_command (env : Env) (fd : Int) (server : Server) {verb : Verb}
    (nobody : client.userUuid = []) (named : [] ∉ server.db.uuids)
    (command : client.args.head? = some verb.text) (silent : ¬ LogsIn client.args) :
    verb.command env fd client server
      = server.sendAllToClient (anonymousReply client.args) fd := by
  obtain ⟨rest, args⟩ := List.head?_eq_some_iff.mp command
  have known := CommandHandling.lookup_verbs_iff.mpr (rfl : verb.text = verb.text)
  cases verb with
  | login =>
    have reply : anonymousReply client.args = [Frame.badRequest] := by
      rw [args, anonymousReply, known]
    rw [reply]
    show Login.execute env fd client server = _
    unfold Login.execute
    by_cases short : client.args.length < 2
    · rw [if_pos short]
      rfl
    · have bad : client.arg 1 = [] ∨ Login.maxNameLength < (client.arg 1).length := by
        by_contra valid
        obtain ⟨nonempty, fits⟩ := not_or.mp valid
        exact silent ⟨command, not_lt.mp short, nonempty, not_lt.mp fits⟩
      rw [if_neg short, if_neg (not_not.mpr nobody), if_pos bad]
      rfl
  | send =>
    have reply : anonymousReply client.args
        = if Sendable client.args then [Frame.unauthorized] else [Frame.badRequest] := by
      rw [args, anonymousReply, known]
    rw [reply]
    show Send.execute env fd client server = _
    unfold Send.execute
    by_cases short : client.args.length < 3
    · have refused : ¬ Sendable client.args := fun sendable => by
        have enough := sendable.1
        omega
      rw [if_pos short, if_neg refused]
      rfl
    rw [if_neg short]
    by_cases bad : client.arg 1 = [] ∨ client.arg 2 = [] ∨
        Send.maxBodyLength < (client.arg 2).length
    · have refused : ¬ Sendable client.args := by
        rintro ⟨-, receiver, body, fits⟩
        rcases bad with empty | empty | long
        · exact receiver empty
        · exact body empty
        · exact absurd fits (not_le.mpr long)
      rw [if_pos bad, if_neg refused]
      rfl
    · obtain ⟨receiver, rest⟩ := not_or.mp bad
      obtain ⟨body, fits⟩ := not_or.mp rest
      have accepted : Sendable client.args := ⟨not_lt.mp short, receiver, body, not_lt.mp fits⟩
      rw [if_neg bad, if_pos accepted, nobody, findUser_nil named]
      rfl
  | _ =>
    have reply : anonymousReply client.args = [Frame.unauthorized] := by
      rw [args, anonymousReply, known]
    rw [reply]
    exact if_pos nobody

end Replies

/-! ### Broadcasts -/

/-- The session is the last one of its user. -/
def LastSession (db : Database) (userUuid : Bytes) : Prop :=
  userUuid ≠ [] ∧ ∃ user, db.findUser userUuid = some user ∧
    user.decrementConnection.isConnected = false

/-- The arguments of a CREATE that makes a team, in a session. -/
def CreatesTeam (db : Database) (session : Session) (args : List Bytes) : Prop :=
  session.userUuid ≠ [] ∧ session.context.teamUuid = [] ∧ 3 ≤ args.length ∧
    Create.isInvalidLength (args.getD 1 []) Create.maxNameLength = false ∧
    Create.isInvalidLength (args.getD 2 []) Create.maxDescriptionLength = false ∧
    ∀ team ∈ db.teams, team.name ≠ args.getD 1 []

/-- The lines of a session that are announced to everybody. -/
inductive Announced (db : Database) (session : Session) (args : List Bytes) : Prop
  | login : LogsIn args → session.userUuid = [] → Announced db session args
  | logout : args.head? = some Verb.logout.text → LastSession db session.userUuid →
      Announced db session args
  | create : args.head? = some Verb.create.text → CreatesTeam db session args →
      Announced db session args

/-- The steps that broadcast an event. -/
inductive Broadcasts (server : Server) : Event → Prop
  | line {fd : Int} {rawCommand : Bytes} {session : Session} : server.session fd = some session →
      Announced server.db session (CommandHandling.parseArgs rawCommand) →
      Broadcasts server (.line fd rawCommand)
  | disconnect {fd : Int} {session : Session} : server.session fd = some session →
      LastSession server.db session.userUuid → Broadcasts server (.disconnect fd)

section Steps

variable {env : Env} {fd other : Int} {client : Client} {server after : Server} {verb : Verb}
  {outcome : Outcome}

/-- What the letters of another client's command bring to a client without a user: nothing, unless
the command is announced. -/
theorem serves_unheard (serves : Serves env fd client server verb outcome)
    (command : client.args.head? = some verb.text) (different : other ≠ fd)
    (named : [] ∉ server.db.uuids)
    (unannounced : ¬ Announced server.db client.session client.args) :
    outcome.letters other [] = [] := by
  have toClient : ∀ frames, Letters.toClient fd frames other [] = [] :=
    fun frames => Letters.toClient_of_ne different frames []
  have toSubscribers : ∀ team frame, Letters.toSubscribers team frame other [] = [] :=
    fun team frame => if_neg fun subscribed => subscribed.1 rfl
  have both : ∀ {first second : Letters}, first other [] = [] → second other [] = [] →
      (first.followedBy second) other [] = [] := by
    intro first second empty nothing
    rw [Letters.followedBy, empty, nothing, List.append_nil]
  cases serves with
  | refused => exact toClient _
  | shown => exact toClient _
  | loginNew enough session nonempty fits =>
    exact absurd (.login ⟨command, enough, nonempty, fits⟩ session) unannounced
  | loginAgain enough session nonempty fits =>
    exact absurd (.login ⟨command, enough, nonempty, fits⟩ session) unannounced
  | logout => exact toClient _
  | logoutLast session present gone =>
    exact absurd (.logout command ⟨session, _, present, gone⟩) unannounced
  | logoutUnknown => exact toClient _
  | useNothing => exact toClient _
  | useTeam => exact toClient _
  | useChannel => exact toClient _
  | useThread => exact toClient _
  | useNoChannel => exact toClient _
  | useNoThread => exact toClient _
  | createTeam session chosen enough name description new =>
    exact absurd (.create command ⟨session, chosen, enough, name, description, new⟩) unannounced
  | createChannel => exact both (toClient _) (toSubscribers _ _)
  | createThread => exact both (toClient _) (toSubscribers _ _)
  | createReply => exact both (toClient _) (toSubscribers _ _)
  | subscribe => exact both (toSubscribers _ _) (toClient _)
  | unsubscribe => exact both (toSubscribers _ _) (toClient _)
  | @send sender receiver message _ _ _ _ _ present =>
    have somebody : [] ≠ receiver.uuid := by
      rintro empty
      obtain ⟨stored, -⟩ := FirstMatch.find?_key present
      exact named (empty ▸ List.mem_append_left _ (List.mem_map_of_mem stored))
    exact both (if_neg somebody) (toClient _)

/-- An announced line brings one event to a client without a user. -/
theorem announced_heard (env : Env) {rawCommand : Bytes}
    (found : server.clients.find? fd = some client) (different : other ≠ fd)
    (announced : Announced server.db client.session (CommandHandling.parseArgs rawCommand)) :
    ∃ (outcome : Outcome) (notice : Frame), CommandHandling.handleCommand env rawCommand fd server = outcome.commit fd
        (server.modifyClient fd (Client.setArgs (CommandHandling.parseArgs rawCommand))) ∧
      outcome.letters other [] = [notice] ∧ notice.isNotice = true := by
  have stored := find?_setArgs found (CommandHandling.parseArgs rawCommand)
  cases announced with
  | login logsIn nobody =>
    obtain ⟨command, enough, named, fits⟩ := logsIn
    have handled := handleCommand_of_named env found command
    have anonymous : client.userUuid = [] := nobody
    obtain ⟨outcome, user, -, executed, letters⟩ :=
      Login.execute_enters env stored anonymous enough named fits
    refine ⟨outcome, Frame.eventLoggedIn user, handled.trans executed, ?_, rfl⟩
    rw [letters, Letters.followedBy, Letters.toClient_of_ne different]
    rfl
  | logout command last =>
    obtain ⟨user, present, gone⟩ := last.2
    have somebody : client.userUuid ≠ [] := last.1
    have handled := handleCommand_of_named env found command
    obtain ⟨outcome, -, executed, -, -, letters⟩ := Logout.execute_leaves env stored somebody
    refine ⟨outcome, Frame.eventLoggedOut user, handled.trans executed, ?_, rfl⟩
    rw [letters user present gone, Letters.followedBy, Letters.toClient_of_ne different]
    rfl
  | create command creates =>
    obtain ⟨user, team, enough, name, description, new⟩ := creates
    have somebody : client.userUuid ≠ [] := user
    have chosen : client.context.teamUuid = [] := team
    have handled := handleCommand_of_named env found command
    obtain ⟨outcome, team, -, executed, letters⟩ := Create.executeTeam_creates env stored somebody
      chosen enough name description new
    have dispatched : Create.execute env fd (client.setArgs (CommandHandling.parseArgs rawCommand))
        (server.modifyClient fd (Client.setArgs (CommandHandling.parseArgs rawCommand)))
        = outcome.commit fd
          (server.modifyClient fd (Client.setArgs (CommandHandling.parseArgs rawCommand))) := by
      unfold Create.execute
      exact ((if_neg somebody).trans (if_pos chosen)).trans executed
    refine ⟨outcome, Frame.eventTeamCreated team, handled.trans dispatched, ?_, rfl⟩
    rw [letters, Letters.followedBy, Letters.toClient_of_ne different]
    rfl

/-- What a step leaves of a client without a user: still no user, and `added` appended. -/
structure Left (client now : Client) (buffer : Bytes) (added : List Frame) : Prop where
  nobody : now.userUuid = []
  readBuffer : now.readBuffer = buffer
  appended : now.appended = client.appended ++ added

theorem Left.unchanged (nobody : client.userUuid = []) : Left client client client.readBuffer [] :=
  ⟨nobody, rfl, (List.append_nil _).symm⟩

/-- The client's own line: an answer, and no broadcast. -/
theorem line_self (env : Env) {rawCommand : Bytes} (found : server.clients.find? fd = some client)
    (nobody : client.userUuid = []) (named : [] ∉ server.db.uuids)
    (silent : ¬ LogsIn (CommandHandling.parseArgs rawCommand)) :
    ∃ now, (CommandHandling.handleCommand env rawCommand fd server).clients.find? fd = some now ∧
      Left client now client.readBuffer (anonymousReply (CommandHandling.parseArgs rawCommand)) := by
  have stored := find?_setArgs found (CommandHandling.parseArgs rawCommand)
  rcases handleCommand_serves env rawCommand found with
    ⟨parsed, still⟩ | ⟨name, rest, parsed, ⟨unknown, same⟩ | ⟨verb, isVerb, -⟩⟩
  · rw [still, parsed]
    exact ⟨client, found, .unchanged nobody⟩
  · rw [same, ← parsed, stored]
    refine ⟨_, rfl, nobody, rfl, ?_⟩
    rw [parsed, anonymousReply, unknown]
    exact (List.append_nil _).symm
  · have command : (CommandHandling.parseArgs rawCommand).head? = some verb.text := by
      rw [parsed, isVerb]
      rfl
    have reply : verb.command env fd (client.setArgs (CommandHandling.parseArgs rawCommand)) _ = _ :=
      anonymous_command env fd
        (server.modifyClient fd (Client.setArgs (CommandHandling.parseArgs rawCommand)))
        nobody named command silent
    rw [handleCommand_of_named env found command, reply, Server.sendAllToClient_eq,
      Server.find?_deliver, stored]
    exact ⟨_, rfl, nobody, rfl, congrArg (client.appended ++ ·) (Letters.toClient_self ..)⟩

/-- A line of another client: the events that it broadcasts. -/
theorem line_other (env : Env) {rawCommand : Bytes} (found : server.clients.find? other = some client)
    (nobody : client.userUuid = []) (named : [] ∉ server.db.uuids) (different : other ≠ fd) :
    ∃ now added,
      (CommandHandling.handleCommand env rawCommand fd server).clients.find? other = some now ∧
      Left client now client.readBuffer added ∧ (∀ frame ∈ added, frame.isNotice = true) ∧
      (added = [] ↔ ¬ Broadcasts server (.line fd rawCommand)) := by
  -- what an outcome leaves of the client
  have committed : ∀ outcome : Outcome, ∃ now, (outcome.commit fd (server.modifyClient fd
      (Client.setArgs (CommandHandling.parseArgs rawCommand)))).clients.find? other = some now ∧
      Left client now client.readBuffer (outcome.letters other []) := by
    intro outcome
    rw [outcome.find?_commit_of_ne different, Server.modifyClient,
      SortedMap.find?_modify_of_ne different, found]
    exact ⟨_, rfl, nobody, rfl, congrArg (client.appended ++ outcome.letters other ·) nobody⟩
  cases present : server.clients.find? fd with
  | none =>
    rw [handleCommand_of_none env rawCommand present]
    refine ⟨client, [], found, .unchanged nobody, fun _ => (List.not_mem_nil · |>.elim), ?_⟩
    refine ⟨fun _ => ?_, fun _ => rfl⟩
    rintro (⟨known, -⟩ | _)
    rw [Server.session, present] at known
    cases known
  | some requester =>
    have session := session_of_found present
    by_cases announced : Announced server.db requester.session (CommandHandling.parseArgs rawCommand)
    · obtain ⟨outcome, notice, handled, letters, isNotice⟩ :=
        announced_heard env present different announced
      obtain ⟨now, stored, left⟩ := committed outcome
      rw [letters] at left
      rw [handled]
      refine ⟨now, [notice], stored, left, ?_, ?_⟩
      · intro frame member
        rw [List.mem_singleton.mp member]
        exact isNotice
      · exact ⟨fun empty => absurd empty (List.cons_ne_nil _ _),
          fun silent => absurd (.line session announced) silent⟩
    · have silent : ¬ Broadcasts server (.line fd rawCommand) := by
        rintro (⟨known, heard⟩ | _)
        rw [session] at known
        cases known
        exact announced heard
      have quiet : ∃ now, (CommandHandling.handleCommand env rawCommand fd server).clients.find? other
          = some now ∧ Left client now client.readBuffer [] := by
        rcases handleCommand_serves env rawCommand present with
          ⟨-, still⟩ | ⟨name, rest, parsed, ⟨-, same⟩ | ⟨verb, isVerb, outcome, serves, handled⟩⟩
        · rw [still]
          exact ⟨client, found, .unchanged nobody⟩
        · rw [same, Server.modifyClient, SortedMap.find?_modify_of_ne different]
          exact ⟨client, found, .unchanged nobody⟩
        · rw [← parsed] at serves handled
          have command : (CommandHandling.parseArgs rawCommand).head? = some verb.text := by
            rw [parsed, isVerb]
            rfl
          have letters := serves_unheard serves command different named announced
          rw [handled, ← letters]
          exact committed outcome
      obtain ⟨now, stored, left⟩ := quiet
      exact ⟨now, [], stored, left, fun _ => (List.not_mem_nil · |>.elim),
        ⟨fun _ => silent, fun _ => rfl⟩⟩

end Steps

/-! ### Steps -/

/-- What an event makes the server reply to a client without a user. -/
def Event.replies (fd : Int) : Event → List Frame
  | .line other rawCommand =>
    if other = fd then anonymousReply (CommandHandling.parseArgs rawCommand) else []
  | _ => []

/-- What an event leaves of the read buffer of a client. -/
def Event.buffered (fd : Int) (buffer : Bytes) : Event → Bytes
  | .buffer other data => if other = fd then buffer ++ data else buffer
  | .consume other count => if other = fd then buffer.drop count else buffer
  | _ => buffer

/-- An event at which a client stays, and does not log in. -/
def Event.Silent (fd : Int) : Event → Prop
  | .line other rawCommand => other = fd → ¬ LogsIn (CommandHandling.parseArgs rawCommand)
  | .disconnect other => other ≠ fd
  | .restart => False
  | _ => True

section Runs

variable {env : Env} {fd : Int} {client : Client} {server : Server}

theorem responses_eq_self_iff {frames : List Frame} :
    responses frames = frames ↔ ∀ frame ∈ frames, frame.isNotice = false := by
  rw [responses, List.filter_eq_self]
  simp

theorem responses_anonymousReply (args : List Bytes) :
    responses (anonymousReply args) = anonymousReply args := by
  unfold anonymousReply
  split
  · rfl
  · split
    · rfl
    · rfl
    · split_ifs <;> rfl
    · rfl

/-- A write to the client behind one descriptor that keeps user and messages. -/
theorem modifyClient_left (found : server.clients.find? fd = some client)
    (nobody : client.userUuid = []) (other : Int) {f : Client → Client}
    (quiet : Quiet f) :
    ∃ now, (server.modifyClient other f).clients.find? fd = some now ∧
      Left client now (if other = fd then (f client).readBuffer else client.readBuffer) [] := by
  rw [Server.modifyClient, SortedMap.find?_modify]
  by_cases same : fd = other
  · subst same
    rw [if_pos rfl, if_pos rfl, found]
    exact ⟨_, rfl, (quiet.userUuid client).trans nobody, rfl,
      (quiet.appended client).trans (List.append_nil _).symm⟩
  · rw [if_neg same, if_neg fun equal => same equal.symm]
    exact ⟨client, found, .unchanged nobody⟩

/-- The disconnection of another client: the end of a user's last session is heard. -/
theorem disconnect_other (found : server.clients.find? fd = some client)
    (nobody : client.userUuid = []) {other : Int} (different : other ≠ fd) :
    ∃ now added, (server.disconnectClient other).clients.find? fd = some now ∧
      Left client now client.readBuffer added ∧ (∀ frame ∈ added, frame.isNotice = true) ∧
      (added = [] ↔ ¬ Broadcasts server (.disconnect other)) := by
  have erased : (server.clients.erase other).find? fd = some client := by
    rw [SortedMap.find?_erase, if_neg different.symm, found]
  by_cases broadcasts : Broadcasts server (.disconnect other)
  · obtain ⟨known, last⟩ : ∃ session, server.session other = some session ∧
        LastSession server.db session.userUuid := by
      cases broadcasts with
      | disconnect known last => exact ⟨_, known, last⟩
    obtain ⟨known, somebody, user, present, gone⟩ := last
    obtain ⟨leaver, here, rfl⟩ := Option.map_eq_some_iff.mp known
    have executed : server.disconnectClient other = Server.deliver
        (.toAll (Frame.eventLoggedOut user))
        { server with
          clients := server.clients.erase other
          db := server.db.modifyUser leaver.userUuid User.decrementConnection } := by
      have user : leaver.userUuid ≠ [] := somebody
      have account : server.db.findUser leaver.userUuid = some _ := present
      unfold Server.disconnectClient
      simp only [here, if_neg user, account, gone, Bool.false_eq_true, if_false]
      exact Server.broadcast_eq _ _
    rw [executed, Server.find?_deliver]
    simp only [erased]
    refine ⟨_, [Frame.eventLoggedOut user], rfl, ⟨nobody, rfl, rfl⟩, ?_, ?_⟩
    · intro frame member
      rw [List.mem_singleton.mp member]
      rfl
    · exact ⟨fun empty => absurd empty (List.cons_ne_nil _ _), fun silent => absurd broadcasts silent⟩
  · have still : (server.disconnectClient other).clients.find? fd = some client := by
      unfold Server.disconnectClient
      cases here : server.clients.find? other with
      | none => exact found
      | some leaver =>
        by_cases user : leaver.userUuid = []
        · simp only [if_pos user]
          exact erased
        simp only [if_neg user]
        cases present : server.db.findUser leaver.userUuid with
        | none => exact erased
        | some account =>
          cases connected : account.decrementConnection.isConnected with
          | true =>
            simp only [connected, if_true]
            exact erased
          | false =>
            exact absurd (.disconnect (session_of_found here) ⟨user, account, present, connected⟩) broadcasts
    exact ⟨client, [], still, .unchanged nobody, fun _ => (List.not_mem_nil · |>.elim),
      fun _ => broadcasts, fun _ => rfl⟩

/-- **A step for a client without a user**: its own line gets the reply, and it hears what is
broadcast. -/
theorem step_anonymous (env : Env) (event : Event) (found : server.clients.find? fd = some client)
    (nobody : client.userUuid = []) (named : [] ∉ server.db.uuids) (silent : event.Silent fd) :
    ∃ now added, (server.step env event).clients.find? fd = some now ∧
      Left client now (event.buffered fd client.readBuffer) added ∧
      responses added = event.replies fd ∧
      (responses added = added ↔ ¬ Broadcasts server event) := by
  -- an event that sends nothing
  have quietly : ∀ buffer, event.replies fd = [] → ¬ Broadcasts server event →
      (∃ now, (server.step env event).clients.find? fd = some now ∧ Left client now buffer []) →
      ∃ now added, (server.step env event).clients.find? fd = some now ∧
        Left client now buffer added ∧ responses added = event.replies fd ∧
        (responses added = added ↔ ¬ Broadcasts server event) := by
    rintro buffer nothing unheard ⟨now, stored, left⟩
    exact ⟨now, [], stored, left, nothing.symm, fun _ => unheard, fun _ => rfl⟩
  -- an event of another client
  have overheard : ∀ {now : Client} {added : List Frame} {buffer : Bytes},
      event.replies fd = [] → (server.step env event).clients.find? fd = some now →
      Left client now buffer added → (∀ frame ∈ added, frame.isNotice = true) →
      (added = [] ↔ ¬ Broadcasts server event) →
      ∃ now added, (server.step env event).clients.find? fd = some now ∧
        Left client now buffer added ∧ responses added = event.replies fd ∧
        (responses added = added ↔ ¬ Broadcasts server event) := by
    intro now added buffer nothing stored left notices heard
    have none := responses_notices notices
    refine ⟨now, added, stored, left, none.trans nothing.symm, ?_⟩
    rw [none, ← heard, eq_comm]
  cases event with
  | accept other =>
    refine quietly _ rfl (fun broadcasts => by cases broadcasts) ?_
    show ∃ now, (server.acceptClient other).clients.find? fd = some now ∧ _
    unfold Server.acceptClient
    rw [SortedMap.find?_emplace]
    split_ifs with same
    · rw [← same, found]
      exact ⟨client, rfl, .unchanged nobody⟩
    · exact ⟨client, found, .unchanged nobody⟩
  | buffer other data =>
    exact quietly _ rfl (fun broadcasts => by cases broadcasts)
      (modifyClient_left found nobody other ⟨fun _ => rfl, fun _ => rfl, fun _ => rfl⟩)
  | consume other count =>
    exact quietly _ rfl (fun broadcasts => by cases broadcasts)
      (modifyClient_left found nobody other ⟨fun _ => rfl, fun _ => rfl, fun _ => rfl⟩)
  | write other count =>
    refine quietly _ rfl (fun broadcasts => by cases broadcasts) ?_
    obtain ⟨now, stored, left⟩ := modifyClient_left (f := fun client =>
      { client with writeBuffer := client.writeBuffer.drop count }) found nobody other
      ⟨fun _ => rfl, fun _ => rfl, fun _ => rfl⟩
    rw [ite_self] at left
    exact ⟨now, stored, left⟩
  | updateFlags =>
    refine quietly _ rfl (fun broadcasts => by cases broadcasts) ?_
    show ∃ now, server.updatePollFlags.clients.find? fd = some now ∧ _
    rw [Server.updatePollFlags, Server.modifyClients, SortedMap.find?_mapWithKey, found]
    exact ⟨_, rfl, nobody, rfl, (List.append_nil _).symm⟩
  | line other rawCommand =>
    by_cases own : other = fd
    · subst own
      obtain ⟨now, stored, left⟩ := line_self env found nobody named (silent rfl)
      have reply : Event.replies other (.line other rawCommand)
          = anonymousReply (CommandHandling.parseArgs rawCommand) := if_pos rfl
      refine ⟨now, _, stored, left, (responses_anonymousReply _).trans reply.symm, ?_⟩
      refine ⟨fun _ => ?_, fun _ => responses_anonymousReply _⟩
      rintro (⟨known, announced⟩ | _)
      rw [Server.session, found] at known
      cases known
      cases announced with
      | login logsIn => exact silent rfl logsIn
      | logout _ last => exact last.1 nobody
      | create _ creates => exact creates.1 nobody
    · have line : ∃ now added,
          (CommandHandling.handleCommand env rawCommand other server).clients.find? fd = some now ∧ _ :=
        line_other env found nobody named fun same => own same.symm
      obtain ⟨now, added, stored, left, notices, heard⟩ := line
      exact overheard (if_neg own) stored left notices heard
  | disconnect other =>
    obtain ⟨now, added, stored, left, notices, heard⟩ := disconnect_other found nobody silent
    exact overheard rfl stored left notices heard
  | restart => exact silent.elim

/-! ### Runs -/

theorem responses_append_eq_self_iff {first second : List Frame} :
    responses (first ++ second) = first ++ second ↔
      responses first = first ∧ responses second = second := by
  simp only [responses_eq_self_iff, List.mem_append]
  exact ⟨fun all => ⟨fun frame member => all frame (Or.inl member),
    fun frame member => all frame (Or.inr member)⟩,
    fun both frame member => member.elim (both.1 frame) (both.2 frame)⟩

/-- **A run for a client without a user**: its own lines get their replies, and it hears what is
broadcast. -/
theorem run_anonymous (env : Env) (events : List Event) (found : server.clients.find? fd = some client)
    (nobody : client.userUuid = []) (named : [] ∉ server.db.uuids)
    (silent : ∀ event ∈ events, event.Silent fd) :
    ∃ now added, (run (Server.step env) server events).clients.find? fd = some now ∧
      Left client now (events.foldl (Event.buffered fd) client.readBuffer) added ∧
      responses added = events.flatMap (Event.replies fd) ∧
      (responses added = added ↔
        Throughout (Server.step env) (fun server event => ¬ Broadcasts server event) server events) := by
  induction events generalizing server client with
  | nil =>
    exact ⟨client, [], found, .unchanged nobody, rfl, fun _ => throughout_nil, fun _ => rfl⟩
  | cons event rest ih =>
    obtain ⟨between, first, stored, left, replies, heard⟩ :=
      step_anonymous env event found nobody named (silent event List.mem_cons_self)
    obtain ⟨now, second, present, leaves, later, listens⟩ := ih stored left.nobody
      (step_named event named) fun other member => silent other (List.mem_cons_of_mem _ member)
    refine ⟨now, first ++ second, present, ⟨leaves.nobody, ?_, ?_⟩, ?_, ?_⟩
    · rw [List.foldl_cons, ← left.readBuffer]
      exact leaves.readBuffer
    · rw [leaves.appended, left.appended, List.append_assoc]
    · rw [responses_append, replies, later, List.flatMap_cons]
    · rw [responses_append_eq_self_iff, heard, listens, throughout_cons]

/-! ### Bytes -/

/-- The bytes that a connection sent. -/
def sentBy (fd : Int) (inputs : List Input) : Bytes :=
  inputs.flatMap fun input =>
    match input with
    | .read other data => if other = fd then data else []
    | _ => []

/-- The lines of a text, as they are given to `handleCommand`. -/
def commandLines (text : Bytes) : List Bytes :=
  (lines (· = newline) text).map Server.stripReturn

/-- The replies to the lines of a text that does not log in. -/
def anonymousOutput (text : Bytes) : List Frame :=
  (commandLines text).flatMap fun line => anonymousReply (CommandHandling.parseArgs line)

/-- An input at which a connection stays. -/
def Input.Stays (fd : Int) : Input → Prop
  | .hangUp other => other ≠ fd
  | .restart => False
  | _ => True

theorem foldl_buffered_lines (other : Int) (text buffer : Bytes) :
    (lineEvents other text).foldl (Event.buffered fd) buffer = buffer := by
  unfold lineEvents
  induction ((lines (· = newline) text).map Server.stripReturn).filter (· ≠ []) with
  | nil => rfl
  | cons line rest ih => exact ih

theorem replies_lines (text : Bytes) :
    (lineEvents fd text).flatMap (Event.replies fd) = anonymousOutput text := by
  unfold lineEvents anonymousOutput commandLines
  induction (lines (· = newline) text).map Server.stripReturn with
  | nil => rfl
  | cons line rest ih =>
    by_cases empty : line = []
    · subst empty
      rw [List.filter_cons_of_neg (by simp), ih]
      rfl
    · rw [List.filter_cons_of_pos (by simpa using empty), List.map_cons, List.flatMap_cons, ih,
        List.flatMap_cons, Event.replies, if_pos rfl]

theorem replies_lines_of_ne {other : Int} (different : other ≠ fd) (text : Bytes) :
    (lineEvents other text).flatMap (Event.replies fd) = [] := by
  unfold lineEvents
  induction ((lines (· = newline) text).map Server.stripReturn).filter (· ≠ []) with
  | nil => rfl
  | cons line rest ih =>
    rw [List.map_cons, List.flatMap_cons, ih, Event.replies, if_neg different]
    rfl

/-- What the events of an input are for a connection: they take the complete lines off its buffer,
reply to them and leave the rest. -/
structure Serving (fd : Int) (events : List Event) (buffer text : Bytes) : Prop where
  silent : (∀ line ∈ commandLines text, ¬ LogsIn (CommandHandling.parseArgs line)) →
    ∀ event ∈ events, event.Silent fd
  buffered : events.foldl (Event.buffered fd) buffer = tail (· = newline) text
  replies : events.flatMap (Event.replies fd) = anonymousOutput text

theorem anonymousOutput_of_clean {buffer : Bytes}
    (clean : ∀ character ∈ buffer, decide (character = newline) = false) :
    anonymousOutput buffer = [] := by
  rw [anonymousOutput, commandLines, lines_eq_nil clean]
  rfl

/-- An input of another connection. -/
theorem serving_other {events : List Event} {buffer : Bytes}
    (clean : ∀ character ∈ buffer, decide (character = newline) = false)
    (silent : ∀ event ∈ events, event.Silent fd)
    (buffered : events.foldl (Event.buffered fd) buffer = buffer)
    (replies : events.flatMap (Event.replies fd) = []) : Serving fd events buffer buffer :=
  ⟨fun _ => silent, buffered.trans (tail_eq_self clean).symm,
    replies.trans (anonymousOutput_of_clean clean).symm⟩

theorem lineEvents_silent {other : Int} {text : Bytes}
    (allowed : other = fd → ∀ line ∈ commandLines text, ¬ LogsIn (CommandHandling.parseArgs line)) :
    ∀ event ∈ lineEvents other text, event.Silent fd := by
  intro event member
  obtain ⟨line, kept, rfl⟩ := List.mem_map.mp member
  exact fun own => allowed own line (List.mem_filter.mp kept).1

theorem input_serving (input : Input) (found : server.clients.find? fd = some client)
    (clean : ∀ character ∈ client.readBuffer, decide (character = newline) = false)
    (stays : input.Stays fd) :
    Serving fd (input.events server) client.readBuffer (client.readBuffer ++ sentBy fd [input]) := by
  have single : ∀ event : Event, event.Silent fd → event.replies fd = [] →
      event.buffered fd client.readBuffer = client.readBuffer →
      Serving fd [event] client.readBuffer (client.readBuffer ++ []) := by
    intro event silent replies buffered
    rw [List.append_nil]
    refine serving_other clean ?_ buffered (by simpa using replies)
    intro other member
    rwa [List.mem_singleton.mp member]
  cases input with
  | accept other => exact single _ trivial rfl rfl
  | hangUp other => exact single _ stays rfl rfl
  | write other count => exact single _ trivial rfl rfl
  | updateFlags => exact single _ trivial rfl rfl
  | restart => exact stays.elim
  | read other data =>
    by_cases own : other = fd
    · subst own
      have sent : sentBy other [.read other data] = data := by simp [sentBy]
      have stored : (server.appendToReadBuffer other data).clients.find? other
          = some { client with readBuffer := client.readBuffer ++ data } := by
        rw [Server.appendToReadBuffer, Server.modifyClient, SortedMap.find?_modify_self, found]
        rfl
      rw [sent]
      simp only [Input.events, stored]
      refine ⟨fun allowed event member => ?_, ?_, ?_⟩
      · rcases List.mem_cons.mp member with rfl | rest
        · exact trivial
        · rcases List.mem_append.mp rest with line | last
          · exact lineEvents_silent (fun _ => allowed) event line
          · rw [List.mem_singleton.mp last]
            exact trivial
      · rw [List.foldl_cons, List.foldl_append, foldl_buffered_lines]
        simp only [Event.buffered, if_true, List.foldl_cons, List.foldl_nil]
        exact drop_lines _
      · rw [List.flatMap_cons, List.flatMap_append, replies_lines]
        simp [Event.replies]
    · have sent : sentBy fd [.read other data] = [] := by simp [sentBy, own]
      rw [sent, List.append_nil]
      simp only [Input.events]
      cases present : (server.appendToReadBuffer other data).clients.find? other with
      | none =>
        have read := single (.buffer other data) trivial rfl (if_neg own)
        rwa [List.append_nil] at read
      | some reader =>
        refine serving_other clean (fun event member => ?_) ?_ ?_
        · rcases List.mem_cons.mp member with rfl | rest
          · exact trivial
          · rcases List.mem_append.mp rest with line | last
            · exact lineEvents_silent (fun same => absurd same own) event line
            · rw [List.mem_singleton.mp last]
              exact trivial
        · rw [List.foldl_cons, List.foldl_append, foldl_buffered_lines]
          simp [Event.buffered, own]
        · rw [List.flatMap_cons, List.flatMap_append, replies_lines_of_ne own]
          simp [Event.replies]

theorem commandLines_append (early late : Bytes) :
    commandLines (early ++ late)
      = commandLines early ++ commandLines (tail (· = newline) early ++ late) := by
  rw [commandLines, lines_append, List.map_append]
  rfl

theorem anonymousOutput_append (early late : Bytes) :
    anonymousOutput (early ++ late)
      = anonymousOutput early ++ anonymousOutput (tail (· = newline) early ++ late) := by
  rw [anonymousOutput, commandLines_append, List.flatMap_append]
  rfl

/-- **Inputs for a client without a user.** -/
theorem inputs_anonymous (env : Env) (inputs : List Input)
    (found : server.clients.find? fd = some client) (nobody : client.userUuid = [])
    (named : [] ∉ server.db.uuids)
    (clean : ∀ character ∈ client.readBuffer, decide (character = newline) = false)
    (stays : ∀ input ∈ inputs, input.Stays fd)
    (silent : ∀ line ∈ commandLines (client.readBuffer ++ sentBy fd inputs),
      ¬ LogsIn (CommandHandling.parseArgs line)) :
    ∃ now added, (run (Server.handle env) server inputs).clients.find? fd = some now ∧
      now.appended = client.appended ++ added ∧
      responses added = anonymousOutput (client.readBuffer ++ sentBy fd inputs) ∧
      (responses added = added ↔
        Throughout (Server.step env) (fun server event => ¬ Broadcasts server event) server
          (Input.trace env server inputs)) := by
  induction inputs generalizing server client with
  | nil =>
    refine ⟨client, [], found, (List.append_nil _).symm, ?_, fun _ => throughout_nil, fun _ => rfl⟩
    have nothing : sentBy fd [] = [] := rfl
    rw [nothing, List.append_nil, anonymousOutput_of_clean clean]
    rfl
  | cons input rest ih =>
    have serving := input_serving input found clean (stays input List.mem_cons_self)
    have split : client.readBuffer ++ sentBy fd (input :: rest)
        = (client.readBuffer ++ sentBy fd [input]) ++ sentBy fd rest := by
      simp [sentBy]
    rw [split, commandLines_append] at silent
    have early := serving.silent fun line member => silent line (List.mem_append_left _ member)
    obtain ⟨between, first, stored, left, replies, heard⟩ :=
      run_anonymous env (input.events server) found nobody named early
    have handled : server.handle env input = run (Server.step env) server (input.events server) :=
      handle_eq_run server input
    have readBuffer := left.readBuffer.trans serving.buffered
    have namedNow : [] ∉ (run (Server.step env) server (input.events server)).db.uuids :=
      run_named named _
    rw [← handled] at stored namedNow
    obtain ⟨now, second, present, appended, later, listens⟩ := ih stored left.nobody namedNow
      (by rw [readBuffer]; exact tail_clean _)
      (fun other member => stays other (List.mem_cons_of_mem _ member))
      (fun line member => silent line (List.mem_append_right _ (by rwa [readBuffer] at member)))
    refine ⟨now, first ++ second, present, ?_, ?_, ?_⟩
    · rw [appended, left.appended, List.append_assoc]
    · rw [responses_append, replies, serving.replies, later, split,
        anonymousOutput_append (client.readBuffer ++ sentBy fd [input]), readBuffer]
    · rw [responses_append_eq_self_iff, heard, listens, Input.trace, throughout_append, handled]

/-! ### Visits -/

/-- A connection of a run: it is accepted, stays, and sends no LOGIN that succeeds. -/
structure Visit where
  env : Env
  db : Database
  before : List Input
  fd : Int
  during : List Input
  named : [] ∉ db.uuids
  fresh : (run (Server.handle env) { db := db } before).clients.find? fd = none
  stays : ∀ input ∈ during, input.Stays fd
  silent : ∀ line ∈ commandLines (sentBy fd during), ¬ LogsIn (CommandHandling.parseArgs line)

namespace Visit

/-- The server when the connection is accepted. -/
def start (visit : Visit) : Server :=
  run (Server.handle visit.env) { db := visit.db } (visit.before ++ [.accept visit.fd])

/-- What the connection sent. -/
def sent (visit : Visit) : Bytes := sentBy visit.fd visit.during

/-- What was appended to its write buffer. -/
def output (visit : Visit) : Bytes :=
  ((run (Server.handle visit.env) visit.start visit.during).appendedTo visit.fd).flatMap Frame.render

/-- No step since the connection was accepted broadcasts an event. -/
def Unannounced (visit : Visit) : Prop :=
  Throughout (Server.step visit.env) (fun server event => ¬ Broadcasts server event) visit.start
    (Input.trace visit.env visit.start visit.during)

theorem accepted (visit : Visit) : visit.start.clients.find? visit.fd = some { fd := visit.fd } := by
  rw [start, run_concat]
  show (Server.acceptClient visit.fd _).clients.find? visit.fd = _
  rw [Server.acceptClient, SortedMap.find?_emplace, if_pos rfl, visit.fresh]
  rfl

theorem start_named (visit : Visit) : [] ∉ visit.start.db.uuids := by
  rw [start, run_trace]
  exact run_named visit.named _

/-- The messages of a visit. -/
theorem appended (visit : Visit) :
    ∃ added, (run (Server.handle visit.env) visit.start visit.during).appendedTo visit.fd = added ∧
      responses added = anonymousOutput visit.sent ∧
      (responses added = added ↔ visit.Unannounced) := by
  have empty : ∀ character ∈ ({ fd := visit.fd } : Client).readBuffer,
      decide (character = newline) = false := fun _ member => by cases member
  obtain ⟨now, added, present, appended, replies, heard⟩ :=
    inputs_anonymous visit.env visit.during visit.accepted rfl visit.start_named empty visit.stays
      visit.silent
  refine ⟨added, ?_, replies, heard⟩
  rw [Server.appendedTo, present]
  exact appended

/-- A notice is not the empty text. -/
theorem render_ne_nil (frame : Frame) : frame.render ≠ [] := by
  unfold Frame.render
  exact List.append_ne_nil_of_right_ne_nil _ (List.cons_ne_nil _ _)

/-- Without events and notices, a text is shorter. -/
theorem length_render_responses (frames : List Frame) :
    ((responses frames).flatMap Frame.render).length
      + ((frames.filter Frame.isNotice).flatMap Frame.render).length
      = (frames.flatMap Frame.render).length := by
  induction frames with
  | nil => rfl
  | cons frame rest ih =>
    unfold responses at ih ⊢
    cases notice : frame.isNotice <;> simp [notice] at ih ⊢ <;> omega

theorem render_responses {frames : List Frame}
    (same : frames.flatMap Frame.render = (responses frames).flatMap Frame.render) :
    responses frames = frames := by
  have lengths := length_render_responses frames
  have nothing : (frames.filter Frame.isNotice).flatMap Frame.render = [] := by
    refine List.length_eq_zero_iff.mp ?_
    rw [same] at lengths
    omega
  rw [responses_eq_self_iff]
  intro frame member
  by_contra notice
  rw [Bool.not_eq_false] at notice
  exact render_ne_nil frame
    (List.flatMap_eq_nil_iff.mp nothing frame (List.mem_filter.mpr ⟨member, notice⟩))

/-- **What a connection without a user gets is a function of what it sent**, if and only if nothing
was broadcast since it was accepted. -/
theorem output_iff (visit : Visit) :
    visit.output = (anonymousOutput visit.sent).flatMap Frame.render ↔ visit.Unannounced := by
  obtain ⟨added, appended, replies, heard⟩ := visit.appended
  rw [output, appended, ← replies, ← heard]
  exact ⟨render_responses, fun same => by rw [same]⟩

end Visit

/-- **What a connection without a user gets is a function of what it sent**, if and only if nothing
was broadcast since it was accepted. Of two such connections that sent the same, both get the same
then, whatever the other clients did. -/
theorem unauthenticated_output (first second : Visit) (same : first.sent = second.sent) :
    (first.output = (anonymousOutput first.sent).flatMap Frame.render ↔ first.Unannounced) ∧
      (first.Unannounced → second.Unannounced → first.output = second.output) := by
  refine ⟨first.output_iff, fun alone apart => ?_⟩
  rw [first.output_iff.mpr alone, second.output_iff.mpr apart, same]

/-- A connection that asks for the users, alone on the server. -/
def aloneVisit : Visit where
  env := sampleEnv
  db := {}
  before := []
  fd := 4
  during := [.read 4 (ascii "/users\n")]
  named := by decide
  fresh := rfl
  stays := by simp [Input.Stays]
  silent := by decide

/-- The same request in two pieces, while another client sends its own. -/
def sharedVisit : Visit where
  env := sampleEnv
  db := {}
  before := []
  fd := 4
  during := [.accept 5, .read 4 (ascii "/use"), .read 5 (ascii "/list\n"), .read 4 (ascii "rs\n")]
  named := by decide
  fresh := rfl
  stays := by simp [Input.Stays]
  silent := by decide

/-- A connection that sends nothing, while a user logs in. -/
def watchingVisit : Visit where
  env := sampleEnv
  db := {}
  before := []
  fd := 4
  during := [.accept 5, .read 5 (ascii "/login \"ann\"\n")]
  named := by decide
  fresh := rfl
  stays := by simp [Input.Stays]
  silent := by decide

theorem unauthenticated_output_sample :
    aloneVisit.output = Frame.unauthorized.render ∧ aloneVisit.output = sharedVisit.output := by
  have both := unauthenticated_output aloneVisit sharedVisit (by decide)
  have other := unauthenticated_output sharedVisit aloneVisit (by decide)
  exact ⟨by decide, both.2 (both.1.mp (by decide)) (other.1.mp (by decide))⟩

/-- The login is seen by the connection that sent nothing. -/
theorem not_unauthenticated_output :
    ¬ ∀ first second : Visit, first.sent = second.sent → first.output = second.output := by
  intro each
  have same := each watchingVisit
    { watchingVisit with
      during := []
      stays := fun _ member => absurd member List.not_mem_nil
      silent := by decide } (by decide)
  exact absurd same (by decide)

end Runs

end MyTeams
