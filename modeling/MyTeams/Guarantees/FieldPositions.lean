/-
**The fields of the messages are where the client looks for them.**

What the server appends for a client is, step by step, a sequence of emissions: each message speaks of
objects of the database, and a list stands there as a whole. So the client, routing what it receives,
calls the logging library once for each of these messages with the values of the objects.

* `run_bound` — the user of a session is a user of the database;
* `serves_emitted`, `step_emitted` — what a command and a step say;
* `run_emitted` — what was said to a client since it was accepted;
* `field_positions` — routed by the client, all of it is shown, as C strings, if the database needs no
  escaping;
* `not_field_positions` — a name with a zero byte is not shown whole.
-/

import MyTeams.ClientApp.Display
import MyTeams.Guarantees.AppendOnly
import MyTeams.Guarantees.ValueFidelity

namespace MyTeams

open Transition FirstMatch

/-! ### The users of the sessions -/

/-- The user of every session is in the database. -/
def Server.Bound (server : Server) : Prop :=
  ∀ fd client, server.clients.find? fd = some client →
    client.userUuid = [] ∨ client.userUuid ∈ server.db.userUuids

section Sessions

variable {env : Env} {fd : Int} {client : Client} {server after : Server} {verb : Verb}
  {outcome : Outcome}

theorem serves_bound (bound : client.userUuid = [] ∨ client.userUuid ∈ server.db.userUuids)
    (grown : ∀ uuid ∈ server.db.userUuids, uuid ∈ outcome.db.userUuids)
    (serves : Serves env fd client server verb outcome) :
    outcome.userUuid = [] ∨ outcome.userUuid ∈ outcome.db.userUuids := by
  cases serves with
  | loginNew => exact Or.inr (List.mem_map_of_mem (List.mem_append_right _ List.mem_cons_self))
  | loginAgain _ _ _ _ found =>
    exact Or.inr (grown _ (List.mem_map_of_mem (List.mem_of_find?_eq_some found)))
  | logout | logoutLast | logoutUnknown => exact Or.inl rfl
  | _ => exact bound.imp_right (grown _)

/-- **A step keeps the users of the sessions in the database.** -/
theorem step_bound {event : Event} (steps : Steps env server event after) (bound : server.Bound) :
    after.Bound := by
  have grown := (step_userUuids steps).subset
  have sessions : ∀ fd session, after.session fd = some session →
      session.userUuid = [] ∨ session.userUuid ∈ after.db.userUuids := by
    refine step_sessions steps (Or.inl rfl) (fun fd session present => ?_) ?_
    · obtain ⟨client, found, rfl⟩ := Option.map_eq_some_iff.mp present
      exact (bound fd client found).imp_right (grown _)
    · rintro fd rawCommand client verb outcome rfl found serves same
      rw [same] at grown ⊢
      have known : (client.setArgs (CommandHandling.parseArgs rawCommand)).userUuid = [] ∨
          (client.setArgs (CommandHandling.parseArgs rawCommand)).userUuid ∈ (server.modifyClient fd
            (Client.setArgs (CommandHandling.parseArgs rawCommand))).db.userUuids := bound fd client found
      exact serves_bound known grown serves
  intro fd client found
  exact sessions fd client.session (session_of_found found)

theorem run_bound (events : List Event) : (run (Server.step env) {} events).Bound :=
  run_invariant Server.Bound (fun server event bound => step_bound (step_steps env server event) bound)
    (fun _ _ found => by cases found) events

end Sessions

/-! ### What is in the database -/

section Stored

variable {db : Database} {teamUuid channelUuid threadUuid : Bytes} {channel : Channel} {thread : Thread}

theorem hasChannel_of_found (found : db.findChannel teamUuid channelUuid = some channel) :
    db.HasChannel channel :=
  have ⟨team, present, inside⟩ := Database.findChannel_eq_some_iff.mp found
  ⟨team, List.mem_of_find?_eq_some present, List.mem_of_find?_eq_some inside⟩

theorem hasThread_of_found (found : db.findThread channelUuid threadUuid = some thread) :
    db.HasThread thread :=
  have ⟨team, channel, owner, inside, within⟩ := Database.findThread_split found
  ⟨channel, ⟨team, List.mem_of_find?_eq_some owner, List.mem_of_find?_eq_some inside⟩,
    List.mem_of_find?_eq_some within⟩

theorem hasChannel_addChannel {team : Team} (present : db.findTeam teamUuid = some team) (added : Channel) :
    (db.modifyTeam teamUuid fun team =>
      { team with channels := team.channels ++ [added] }).HasChannel added :=
  ⟨_, mem_modifyFirst_of_find? present, List.mem_append_right _ List.mem_cons_self⟩

theorem hasThread_addThread (found : db.findChannel teamUuid channelUuid = some channel) (added : Thread) :
    (db.modifyChannel teamUuid channelUuid fun channel =>
      { channel with threads := channel.threads ++ [added] }).HasThread added := by
  obtain ⟨team, present, inside⟩ := Database.findChannel_eq_some_iff.mp found
  let addThread : Channel → Channel := fun channel =>
    { channel with threads := channel.threads ++ [added] }
  have grown : addThread channel ∈ (team.modifyChannel channelUuid addThread).channels :=
    mem_modifyFirst_of_find? inside
  exact ⟨_, ⟨_, mem_modifyFirst_of_find? present, grown⟩, List.mem_append_right _ List.mem_cons_self⟩

theorem hasThread_addReply (found : db.findThread channelUuid threadUuid = some thread) (added : Reply) :
    (db.modifyThread channelUuid threadUuid fun thread =>
      { thread with replies := thread.replies ++ [added] }).HasThread
        { thread with replies := thread.replies ++ [added] } := by
  obtain ⟨team, channel, owner, inside, within⟩ := Database.findThread_split found
  let addReply : Thread → Thread := fun thread => { thread with replies := thread.replies ++ [added] }
  have threadGrown : addReply thread ∈ (channel.modifyThread threadUuid addReply).threads :=
    mem_modifyFirst_of_find? within
  have channelGrown : channel.modifyThread threadUuid addReply ∈
      (team.modifyChannel channelUuid (Channel.modifyThread threadUuid addReply)).channels :=
    mem_modifyFirst_of_find? inside
  exact ⟨_, ⟨_, mem_modifyFirst_of_find? owner, channelGrown⟩, threadGrown⟩

/-- A message that was sent is in the conversation of its receiver. -/
theorem mem_conversation_send (senderUuid : Bytes) {receiverUuid : Bytes} {f : User → User}
    (keeps : ∀ user, (f user).uuid = user.uuid) {receiver : User}
    (found : db.findUser receiverUuid = some receiver) (key : Bytes) (message : Message) :
    ∃ user ∈ ((db.modifyUser senderUuid f).modifyUser receiverUuid (User.addMessage key message)).users,
      ∃ key, message ∈ user.conversation key := by
  have still : ∃ now, (db.modifyUser senderUuid f).findUser receiverUuid = some now := by
    rcases find?_modifyFirst_cases (p := fun user => user.uuid = senderUuid)
      (fun user => by rw [keeps]) found with same | ⟨-, updated⟩
    · exact ⟨_, same⟩
    · exact ⟨_, updated⟩
  obtain ⟨now, present⟩ := still
  refine ⟨_, mem_modifyFirst_of_find? present, key, ?_⟩
  rw [User.conversation_addMessage, if_pos rfl]
  exact List.mem_append_right _ List.mem_cons_self

end Stored

/-! ### What is said -/

/-- Some messages are a sequence of emissions. -/
def Spoken (said : Emission → Prop) (frames : List Frame) : Prop :=
  ∃ emissions : List Emission, (∀ emission ∈ emissions, said emission) ∧
    frames = emissions.flatMap Emission.frames

/-- So are the letters for everybody. -/
def Letters.Spoken (said : Emission → Prop) (letters : Letters) : Prop :=
  ∀ fd session, MyTeams.Spoken said (letters fd session)

section Letters

variable {said : Emission → Prop} {frame : Frame} {frames others : List Frame}

theorem spoken_nil : Spoken said [] := ⟨[], fun _ member => absurd member List.not_mem_nil, rfl⟩

theorem spoken_one (emission : Emission) (same : emission.frames = frames) (holds : said emission) :
    Spoken said frames :=
  ⟨[emission], List.forall_mem_singleton.mpr holds, by rw [List.flatMap_singleton, same]⟩

theorem Spoken.append (early : Spoken said frames) (late : Spoken said others) :
    Spoken said (frames ++ others) := by
  obtain ⟨before, saidBefore, one⟩ := early
  obtain ⟨behind, saidBehind, other⟩ := late
  refine ⟨before ++ behind, fun emission member => ?_, ?_⟩
  · exact (List.mem_append.mp member).elim (saidBefore emission) (saidBehind emission)
  · rw [one, other, List.flatMap_append]

theorem Spoken.mono (spoken : Spoken said frames) {more : Emission → Prop}
    (weaken : ∀ emission, said emission → more emission) : Spoken more frames :=
  have ⟨emissions, each, same⟩ := spoken
  ⟨emissions, fun emission member => weaken emission (each emission member), same⟩

theorem spoken_toClient (fd : Int) (spoken : Spoken said frames) :
    (Letters.toClient fd frames).Spoken said := by
  intro other session
  unfold Letters.toClient
  split_ifs
  · exact spoken
  · exact spoken_nil

theorem spoken_toAll (spoken : Spoken said [frame]) : (Letters.toAll frame).Spoken said :=
  fun _ _ => spoken

theorem spoken_toUser (userUuid : Bytes) (spoken : Spoken said [frame]) :
    (Letters.toUser userUuid frame).Spoken said := by
  intro other session
  unfold Letters.toUser
  split_ifs
  · exact spoken
  · exact spoken_nil

theorem spoken_toSubscribers (team : Team) (spoken : Spoken said [frame]) :
    (Letters.toSubscribers team frame).Spoken said := by
  intro other session
  unfold Letters.toSubscribers
  split_ifs
  · exact spoken
  · exact spoken_nil

theorem Letters.Spoken.followedBy {first second : Letters} (early : first.Spoken said)
    (late : second.Spoken said) : (first.followedBy second).Spoken said :=
  fun fd session => (early fd session).append (late fd session)

end Letters

/-! ### Commands and steps -/

section Steps

variable {env : Env} {fd : Int} {client : Client} {server after : Server} {verb : Verb}
  {outcome : Outcome}

/-- The user and the team of a subscription. -/
theorem exists_subscription {db : Database} (bound : client.userUuid = [] ∨ client.userUuid ∈ db.userUuids)
    (session : client.userUuid ≠ []) {teamUuid : Bytes} {team : Team}
    (found : db.findTeam teamUuid = some team) :
    ∃ user, (user ∈ db.users ∧ team ∈ db.teams) ∧ user.uuid = client.userUuid ∧ team.uuid = teamUuid := by
  obtain ⟨user, present⟩ := exists_findUser (bound.resolve_left session)
  obtain ⟨stored, uuid⟩ := find?_key present
  obtain ⟨member, named⟩ := find?_key found
  exact ⟨user, ⟨stored, member⟩, uuid, named⟩

/-- A reply that is read off the database. -/
theorem shown_spoken {db : Database} {frames : List Frame}
    (bound : client.userUuid = [] ∨ client.userUuid ∈ db.userUuids)
    (shown : Shown client db verb frames) : Spoken (Emission.Stored db) frames := by
  cases shown with
  | @infoUser user _ found => exact spoken_one (.infoUser user) rfl (List.mem_of_find?_eq_some found)
  | @infoTeam team _ _ found => exact spoken_one (.infoTeam team) rfl (List.mem_of_find?_eq_some found)
  | @infoChannel channel _ _ found => exact spoken_one (.infoChannel channel) rfl (hasChannel_of_found found)
  | @infoThread thread _ _ found => exact spoken_one (.infoThread thread) rfl (hasThread_of_found found)
  | listTeams => exact spoken_one (.teams db.teams) (Displayed.listing_frames ..) fun _ member => member
  | @listChannels team _ _ found =>
    exact spoken_one (.channels team) (Displayed.listing_frames ..) (List.mem_of_find?_eq_some found)
  | @listThreads channel _ _ _ found =>
    exact spoken_one (.threads channel) (Displayed.listing_frames ..) (hasChannel_of_found found)
  | @listReplies thread _ _ _ _ found =>
    exact spoken_one (.replies thread) (Displayed.listing_frames ..) (hasThread_of_found found)
  | subscribedTeams =>
    exact spoken_one (.teams _) (Displayed.listing_frames ..) fun _ member => List.mem_of_mem_filter member
  | subscribers =>
    refine spoken_one (.users _) (Displayed.listing_frames ..) fun user member => ?_
    obtain ⟨uuid, -, found⟩ := List.mem_filterMap.mp member
    exact List.mem_of_find?_eq_some found
  | @alreadySubscribed team session _ found =>
    obtain ⟨user, stored, uuid, named⟩ := exists_subscription bound session found
    exact spoken_one (.okSubscribe user team) (by rw [← uuid, ← named]; rfl) stored
  | @user user _ found => exact spoken_one (.okUser user) rfl (List.mem_of_find?_eq_some found)
  | users => exact spoken_one (.users db.users) (Displayed.listing_frames ..) fun _ member => member
  | @messages user _ found =>
    exact spoken_one (.messages user (client.arg 1)) (Displayed.listing_frames ..)
      (List.mem_of_find?_eq_some found)

/-- **What a command says**, of the database before or after it. -/
theorem serves_spoken (bound : client.userUuid = [] ∨ client.userUuid ∈ server.db.userUuids)
    (serves : Serves env fd client server verb outcome) :
    outcome.letters.Spoken fun emission => emission.Stored server.db ∨ emission.Stored outcome.db := by
  have oks : ∀ {db : Database} (count : Nat), Spoken
      (fun emission => emission.Stored server.db ∨ emission.Stored db) (List.replicate count Frame.ok) := by
    intro db count
    induction count with
    | zero => exact spoken_nil
    | succ count ih => exact (spoken_one .ok rfl (Or.inl trivial)).append ih
  have kept : server.db.Kept (fun _ _ => True) outcome.db := serves_kept (fun _ => trivial) serves
  cases serves with
  | refused refusal => exact spoken_toClient fd (spoken_one (.refused _) rfl (Or.inl ⟨client, refusal⟩))
  | shown shown => exact spoken_toClient fd ((shown_spoken bound shown).mono fun _ => Or.inl)
  | @loginNew newUser =>
    have stored : newUser ∈ server.db.users ++ [newUser] := List.mem_append_right _ List.mem_cons_self
    exact (spoken_toClient fd (spoken_one (.okLogin _ _) rfl (Or.inl trivial))).followedBy
      (spoken_toAll (spoken_one (.eventLoggedIn newUser) rfl (Or.inr stored)))
  | @loginAgain user _ _ _ _ found =>
    exact (spoken_toClient fd (spoken_one (.okLogin _ _) rfl (Or.inl trivial))).followedBy
      (spoken_toAll (spoken_one (.eventLoggedIn user) rfl (Or.inl (List.mem_of_find?_eq_some found))))
  | logout | logoutUnknown | useNothing | useTeam => exact spoken_toClient fd (oks 1)
  | @logoutLast user _ found =>
    exact (spoken_toAll (spoken_one (.eventLoggedOut user) rfl (Or.inl (List.mem_of_find?_eq_some found)))).followedBy
      (spoken_toClient fd (oks 1))
  | useChannel => exact spoken_toClient fd (oks 2)
  | useThread => exact spoken_toClient fd (oks 3)
  | useNoChannel _ enough =>
    have missing : Refusal client (Frame.notFoundKind .channel (client.arg 2)) :=
      .notFoundKind .channel (arg_known (by omega))
    exact spoken_toClient fd ((oks 1).append (spoken_one (.refused _) rfl (Or.inl ⟨client, missing⟩)))
  | useNoThread _ enough =>
    have missing : Refusal client (Frame.notFoundKind .thread (client.arg 3)) :=
      .notFoundKind .thread (arg_known (by omega))
    exact spoken_toClient fd ((oks 2).append (spoken_one (.refused _) rfl (Or.inl ⟨client, missing⟩)))
  | @createTeam newTeam =>
    have stored : newTeam ∈ server.db.teams ++ [newTeam] := List.mem_append_right _ List.mem_cons_self
    exact (spoken_toClient fd (spoken_one (.createdTeam newTeam) rfl (Or.inr stored))).followedBy
      (spoken_toAll (spoken_one (.eventTeamCreated newTeam) rfl (Or.inr stored)))
  | @createChannel team channel _ _ _ found =>
    have stored := hasChannel_addChannel found channel
    exact (spoken_toClient fd (spoken_one (.createdChannel channel) rfl (Or.inr stored))).followedBy
      (spoken_toSubscribers team (spoken_one (.eventChannelCreated channel) rfl (Or.inr stored)))
  | @createThread team channel newThread _ _ _ _ _ found =>
    have stored := hasThread_addThread found newThread
    exact (spoken_toClient fd (spoken_one (.createdThread newThread) rfl (Or.inr stored))).followedBy
      (spoken_toSubscribers team (spoken_one (.eventThreadCreated newThread) rfl (Or.inr stored)))
  | @createReply team channel thread newReply _ _ _ _ owner _ found =>
    obtain ⟨_, _, -, -, within⟩ := Database.findThread_split found
    obtain ⟨now, present, -⟩ := kept.findTeam owner
    obtain ⟨member, named⟩ := find?_key present
    have stored := hasThread_addReply found newReply
    have added : newReply ∈ thread.replies ++ [newReply] := List.mem_append_right _ List.mem_cons_self
    have uuid : thread.uuid = client.context.threadUuid := (find?_key within).2
    exact (spoken_toClient fd (spoken_one (.createdReply _ newReply) (by rw [← uuid]; rfl)
      (Or.inr ⟨stored, added⟩))).followedBy (spoken_toSubscribers team
        (spoken_one (.eventReplyCreated now _ newReply) (by rw [← uuid, ← named]; rfl)
          (Or.inr ⟨member, stored, added⟩)))
  | @subscribe team session _ _ found =>
    obtain ⟨user, stored, uuid, named⟩ := exists_subscription bound session found
    exact (spoken_toSubscribers _ (spoken_one (.userSubscribed _ _) rfl (Or.inl trivial))).followedBy
      (spoken_toClient fd (spoken_one (.okSubscribe user team) (by rw [← uuid, ← named]; rfl)
        (Or.inl stored)))
  | @unsubscribe team session _ _ found =>
    obtain ⟨user, stored, uuid, named⟩ := exists_subscription bound session found
    exact (spoken_toSubscribers _ (spoken_one (.userUnsubscribed _ _) rfl (Or.inl trivial))).followedBy
      (spoken_toClient fd (spoken_one (.okUnsubscribe user team) (by rw [← uuid, ← named]; rfl)
        (Or.inl stored)))
  | @send sender receiver message _ _ _ _ _ found made =>
    have stored := mem_conversation_send client.userUuid (f := User.addMessage receiver.uuid message)
      (fun _ => rfl) found sender.uuid message
    subst made
    exact (spoken_toUser _ (spoken_one (.eventPrivateMessage _) rfl (Or.inr stored))).followedBy
      (spoken_toClient fd (oks 1))

/-- **What a step says** to each client that is there after it. -/
theorem step_spoken {event : Event} (steps : Steps env server event after) (bound : server.Bound) :
    ∀ other holder, after.clients.find? other = some holder → ∃ frames,
      Spoken (fun emission => emission.Stored server.db ∨ emission.Stored after.db) frames ∧
      holder.appended = server.appendedTo other ++ frames := by
  intro other holder present
  obtain ⟨letters, heard, appended⟩ := step_says steps
  refine ⟨_, ?_, appended other holder present⟩
  cases heard with
  | nothing => exact spoken_nil
  | @command fd rawCommand client verb outcome found _ serves =>
    have known : (client.setArgs (CommandHandling.parseArgs rawCommand)).userUuid = [] ∨
        (client.setArgs (CommandHandling.parseArgs rawCommand)).userUuid ∈ (server.modifyClient fd
          (Client.setArgs (CommandHandling.parseArgs rawCommand))).db.userUuids := bound fd client found
    have spoken := serves_spoken known serves other holder.userUuid
    exact spoken
  | @gone fd client user _ _ found =>
    exact spoken_one (.eventLoggedOut user) rfl (Or.inl (List.mem_of_find?_eq_some found))

/-- **What a run has said** to a client since it was accepted, with the states whose objects it spoke of. -/
theorem run_spoken (events : List Event) (fd : Int) {client : Client}
    (found : (run (Server.step env) {} events).clients.find? fd = some client) :
    Spoken (fun emission => ∃ early, early <+: events ∧
      emission.Stored (run (Server.step env) {} early).db) client.appended := by
  induction events using List.reverseRecOn generalizing client with
  | nil => cases found
  | append_singleton events event ih =>
    rw [run_concat] at found
    have steps := step_steps env (run (Server.step env) {} events) event
    obtain ⟨frames, spoken, appended⟩ := step_spoken steps (run_bound events) fd client found
    have earlier : Spoken (fun emission => ∃ early, early <+: events ++ [event] ∧
        emission.Stored (run (Server.step env) {} early).db)
        ((run (Server.step env) {} events).appendedTo fd) := by
      cases present : (run (Server.step env) {} events).clients.find? fd with
      | none =>
        unfold Server.appendedTo
        rw [present]
        exact spoken_nil
      | some before =>
        rw [appendedTo_of_found present]
        exact (ih present).mono fun emission ⟨early, initial, stored⟩ =>
          ⟨early, initial.trans (List.prefix_append _ _), stored⟩
    rw [appended]
    refine earlier.append (spoken.mono fun emission stored => ?_)
    rcases stored with before | now
    · exact ⟨events, List.prefix_append _ _, before⟩
    · refine ⟨events ++ [event], List.prefix_refl _, ?_⟩
      rw [run_concat]
      exact now

end Steps

/-! ### The client -/

open ServerMessageRouter in
/-- Emissions are shown one after the other, because none leaves a list context behind. -/
theorem emissions_follow {emissions : List Emission}
    (each : ∀ emission ∈ emissions, ∃ db : Database, db.Legible ∧ emission.Stored db)
    (storable : ∀ frame ∈ emissions.flatMap Emission.frames, frame.Carries Storable)
    {router : ServerMessageRouter} (calm : router.listContext = []) :
    router.Follows ((emissions.flatMap Emission.display).map Displayed.asCStrings) := by
  induction emissions generalizing router with
  | nil => trivial
  | cons emission rest ih =>
    obtain ⟨db, legible, stored⟩ := each emission List.mem_cons_self
    rw [List.flatMap_cons] at storable ⊢
    rw [List.map_append]
    refine Emission.emission_understood legible stored (fun frame member => ?_) calm fun after closed => ?_
    · exact storable frame (List.mem_append_left _ member)
    · exact ih (fun later member => each later (List.mem_cons_of_mem _ member))
        (fun frame member => storable frame (List.mem_append_right _ member)) closed

/-- **The fields of the messages are where the client looks for them.** What a run has said to a client is
a sequence of emissions, each about objects of the database at some moment of the run; if the strings in
the database have no quote and no backslash, a client that routes all of it calls the logging library once
for each reply, list line and event, with the values of the objects in the order of the parameters, the
texts as C strings, and shows nothing for the first and the last line of a list. `times` is what
`std::time_t` can hold. -/
theorem field_positions (env : Env) (events : List Event)
    (times : Clocked IsTime env (run (Server.step env) {} events).timeCalls) {fd : Int} {client : Client}
    (found : (run (Server.step env) {} events).clients.find? fd = some client)
    (plain : (run (Server.step env) {} events).db.Carries Unescaped) :
    ∃ emissions : List Emission,
      (∀ emission ∈ emissions, ∃ early, early <+: events ∧
        emission.Stored (run (Server.step env) {} early).db) ∧
      client.appended = emissions.flatMap Emission.frames ∧
      ServerMessageRouter.Follows {} ((emissions.flatMap Emission.display).map Displayed.asCStrings) := by
  obtain ⟨emissions, each, said⟩ := run_spoken events fd found
  refine ⟨emissions, each, said, emissions_follow (fun emission member => ?_) (fun frame member => ?_) rfl⟩
  · obtain ⟨early, ⟨late, rfl⟩, stored⟩ := each emission member
    rw [run_append] at plain times
    have preserved : (run (Server.step env) {} early).db.Preserved (Steady (early ++ late))
        (run (Server.step env) (run (Server.step env) {} early) late).db :=
      run_preserved _ fun event inside => List.mem_append_right early inside
    have clocked := times.of_le (run_timeCalls (run (Server.step env) {} early) late)
    exact ⟨_, ⟨preserved.carries plain, run_dated early clocked⟩, stored⟩
  · rw [← said] at member
    exact ((run_storable events).clients fd client found).appended frame member

/-- A user receives a message and lists its conversation. -/
theorem field_positions_sample :
    let server := run (Server.step sampleEnv) {} [.accept 4, .line 4 (ascii "/login \"ann\""), .accept 5,
      .line 5 (ascii "/login \"bob\""), .line 4 (ascii "/send \"" ++ (digitUuid 1).1 ++ ascii "\" \"hi bob\""),
      .line 5 (ascii "/messages \"" ++ (digitUuid 0).1 ++ ascii "\"")]
    (∃ emissions : List Emission, server.appendedTo 5 = emissions.flatMap Emission.frames ∧
      ServerMessageRouter.Follows {} ((emissions.flatMap Emission.display).map Displayed.asCStrings)) ∧
    ((server.appendedTo 5).foldl (fun router frame => ServerMessageRouter.routeFrame frame.line router)
        {}).output = [
      .call .eventLoggedIn [.text (digitUuid 1).1, .text (ascii "bob")],
      .call .eventPrivateMessageReceived [.text (digitUuid 0).1, .text (ascii "hi bob")],
      .call .privateMessagePrintMessages [.text (digitUuid 0).1, .integer 0, .text (ascii "hi bob")]] := by
  intro server
  have known : (server.clients.find? 5).map Client.fd = some 5 := by decide
  obtain ⟨client, found, -⟩ := Option.map_eq_some_iff.mp known
  have each : ∀ n < server.timeCalls, IsTime (sampleEnv.time n) := by decide
  have plain : server.Carries Unescaped := by
    refine run_carries source_unescaped _ ?_
    simp only [List.forall_mem_cons]
    unfold Event.Carries
    refine ⟨trivial, ?_, trivial, ?_, ?_, ?_, List.forall_mem_nil _⟩ <;> decide
  obtain ⟨emissions, -, said, follows⟩ :=
    field_positions sampleEnv _ ⟨each, fun _ inRange => inRange⟩ found plain.db
  refine ⟨⟨emissions, ?_, follows⟩, by decide⟩
  rw [appendedTo_of_found found]
  exact said

/-! ### A zero byte -/

/-- The lines of a list are no events. -/
theorem listing_words {α : Type} {type : Keyword} {items : List α} {fields : α → List Field}
    {callback : Callback} {arguments : α → List Argument} {message : Displayed}
    (member : message ∈ Displayed.listing type items fields callback arguments) :
    message.1.keywords.head? ≠ some .event := by
  intro event
  rcases List.mem_append.mp member with inside | last
  · rcases List.mem_append.mp inside with first | line
    · rw [List.mem_singleton.mp first] at event
      cases event
    · obtain ⟨item, -, shown⟩ := List.mem_flatMap.mp line
      rw [List.mem_singleton.mp shown] at event
      cases event
  · rw [List.mem_singleton.mp last] at event
    cases event

/-- Only a login is told as a login, with the uuid and the name of the user. -/
theorem display_loggedIn {db : Database} {emission : Emission} (stored : emission.Stored db) {user : User}
    {expected : Option (List Output)} (member : (Frame.eventLoggedIn user, expected) ∈ emission.display) :
    expected = some [.call .eventLoggedIn [.text user.uuid, .text user.name]] := by
  cases emission with
  | users | teams | channels | threads | replies | messages => exact absurd rfl (listing_words member)
  | eventLoggedIn other =>
    obtain ⟨frame, shown⟩ := Prod.mk.inj (List.mem_singleton.mp member)
    have values := (Frame.mk.inj frame).2
    simp only [List.cons.injEq, Field.quoted.injEq, and_true] at values
    rw [shown, values.1, values.2]
  | refused frame =>
    obtain ⟨client, refusal⟩ := stored
    obtain ⟨rfl, -⟩ := Prod.mk.inj (List.mem_singleton.mp member)
    cases refusal
  | _ =>
    obtain ⟨frame, -⟩ := Prod.mk.inj (List.mem_singleton.mp member)
    cases (Frame.mk.inj frame).1

/-- A user whose name has a zero byte logs in. -/
def zeroByteLogin : List Event := [.accept 4, .line 4 (ascii "/login \"a" ++ [0] ++ ascii "b\"")]

/-- **The values are not always passed whole**: the name `"a\0b"` is shown as `"a"`. -/
theorem not_field_positions :
    ¬ ∀ (env : Env) (events : List Event), Clocked IsTime env (run (Server.step env) {} events).timeCalls →
      ∀ (fd : Int) (client : Client), (run (Server.step env) {} events).clients.find? fd = some client →
        (run (Server.step env) {} events).db.Carries Unescaped →
        ∃ emissions : List Emission,
          (∀ emission ∈ emissions, ∃ early, early <+: events ∧
            emission.Stored (run (Server.step env) {} early).db) ∧
          client.appended = emissions.flatMap Emission.frames ∧
          ServerMessageRouter.Follows {} (emissions.flatMap Emission.display) := by
  intro whole
  let cut : Bytes := ascii "a" ++ [0] ++ ascii "b"
  let user : User := { uuid := (digitUuid 0).1, name := cut }
  have calls : (run (Server.step sampleEnv) {} zeroByteLogin).timeCalls = 0 := by decide
  have said : (run (Server.step sampleEnv) {} zeroByteLogin).appendedTo 4
      = [Frame.okLogin user.uuid cut, Frame.eventLoggedIn user] := by decide
  have known : ((run (Server.step sampleEnv) {} zeroByteLogin).clients.find? 4).map Client.fd = some 4 := by
    decide
  have plain : (run (Server.step sampleEnv) {} zeroByteLogin).Carries Unescaped := by
    refine run_carries source_unescaped _ ?_
    simp only [zeroByteLogin, List.forall_mem_cons]
    unfold Event.Carries
    refine ⟨trivial, ?_, List.forall_mem_nil _⟩
    decide
  obtain ⟨client, found, -⟩ := Option.map_eq_some_iff.mp known
  have clocked : Clocked IsTime sampleEnv (run (Server.step sampleEnv) {} zeroByteLogin).timeCalls :=
    ⟨fun n early => absurd (calls ▸ early) (Nat.not_lt_zero n), fun _ inRange => inRange⟩
  obtain ⟨emissions, each, frames, follows⟩ := whole sampleEnv zeroByteLogin clocked 4 client found plain.db
  rw [← appendedTo_of_found found, said] at frames
  -- the second message is the one of the login
  have shapes : (emissions.flatMap Emission.display).map Prod.fst
      = [Frame.okLogin user.uuid cut, Frame.eventLoggedIn user] := by
    rw [frames, List.map_flatMap]
    rfl
  obtain ⟨⟨_, first⟩, rest, shown, rfl, later⟩ := List.map_eq_cons_iff.mp shapes
  obtain ⟨⟨_, second⟩, rest, rfl, rfl, -⟩ := List.map_eq_cons_iff.mp later
  have member : (Frame.eventLoggedIn user, second) ∈ emissions.flatMap Emission.display := by
    rw [shown]
    exact List.mem_cons_of_mem _ List.mem_cons_self
  obtain ⟨emission, inside, displayed⟩ := List.mem_flatMap.mp member
  obtain ⟨early, -, stored⟩ := each emission inside
  rw [shown, display_loggedIn stored displayed] at follows
  have routed := ((follows []).2 []).1 _ rfl
  revert routed
  decide

end MyTeams
