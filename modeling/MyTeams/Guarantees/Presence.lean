/-
**Presence events agree with the sessions.**

LOGIN, LOGOUT and a lost connection each broadcast on their own. `News` compares what a step tells
every client about the presence of users with what it does to the sessions, and `step_news` shows that
every step is one of four: it changes nobody's presence and tells nothing, a user is there and is
announced, a user is gone and is announced once, or the server restarts and all clients are gone.
-/

import MyTeams.Invariants.WellFormed

namespace MyTeams

open Transition Letters

/-! ### Presence events -/

/-- What a message says about the presence of a user. -/
def Frame.presence (frame : Frame) : Option (Bytes × Bool) :=
  match frame.keywords, frame.fields with
  | [.event, .userLoggedIn], .quoted userUuid :: _ => some (userUuid, true)
  | [.event, .userLoggedOut], .quoted userUuid :: _ => some (userUuid, false)
  | _, _ => none

/-- The part of the news that is about one user. -/
def newsAbout (userUuid : Bytes) (news : List (Bytes × Bool)) : List Bool :=
  (news.filter fun part => part.1 = userUuid).map Prod.snd

@[simp] theorem newsAbout_nil (userUuid : Bytes) : newsAbout userUuid [] = [] := rfl

theorem newsAbout_self (userUuid : Bytes) (online : Bool) :
    newsAbout userUuid [(userUuid, online)] = [online] := by
  simp [newsAbout]

theorem newsAbout_of_ne {userUuid other : Bytes} (different : other ≠ userUuid) (online : Bool) :
    newsAbout userUuid [(other, online)] = [] := by
  simp [newsAbout, different]

/-- What messages say about the presence of one user, in order. -/
def presences (userUuid : Bytes) (frames : List Frame) : List Bool :=
  newsAbout userUuid (frames.filterMap Frame.presence)

theorem presences_append (userUuid : Bytes) (first second : List Frame) :
    presences userUuid (first ++ second) = presences userUuid first ++ presences userUuid second := by
  simp [presences, newsAbout]

/-- The step appends messages for every client that is there after it, and they bring `news`. -/
def Tells (server after : Server) (news : List (Bytes × Bool)) : Prop :=
  ∀ fd holder, after.clients.find? fd = some holder → ∃ frames,
    holder.appended = server.appendedTo fd ++ frames ∧ frames.filterMap Frame.presence = news

/-- **What a step does to the presence of the users**, and what it tells. -/
inductive News (server : Server) (event : Event) (after : Server) : Prop
  | still : Tells server after [] →
      (∀ uuid, uuid ≠ [] → (0 < after.sessions uuid ↔ 0 < server.sessions uuid)) →
      News server event after
  | entered {userUuid : Bytes} : Tells server after [(userUuid, true)] →
      0 < after.sessions userUuid →
      (∀ uuid, uuid ≠ [] → uuid ≠ userUuid → after.sessions uuid = server.sessions uuid) →
      News server event after
  | ended {userUuid : Bytes} : Tells server after [(userUuid, false)] →
      0 < server.sessions userUuid → after.sessions userUuid = 0 →
      (∀ uuid, uuid ≠ [] → uuid ≠ userUuid → after.sessions uuid = server.sessions uuid) →
      ((∃ fd, event = .disconnect fd) ∨ ∃ fd rawCommand, event = .line fd rawCommand ∧
        (CommandHandling.parseArgs rawCommand).head? = some Verb.logout.text) →
      News server event after
  | restarted : event = .restart → after.clients = SortedMap.empty → News server event after

/-! ### One step -/

section Step

variable {env : Env} {fd : Int} {client : Client} {server after : Server} {verb : Verb}
  {outcome : Outcome} {rawCommand : Bytes}

theorem refusal_presence {frame : Frame} (refusal : Refusal client frame) : frame.presence = none := by
  cases refusal <;> rfl

theorem shown_presence {db : Database} {frames : List Frame} (shown : Shown client db verb frames) :
    ∀ frame ∈ frames, frame.presence = none :=
  shown.forall_frames (fun _ _ _ => rfl) (fun _ => rfl) (fun _ => rfl) fun _ => rfl

theorem news_entered (fd : Int) (name : Bytes) (user : User) (other : Int) (session : Bytes) :
    ((toClient fd [Frame.okLogin user.uuid name]).followedBy (toAll (Frame.eventLoggedIn user)) other
      session).filterMap Frame.presence = [(user.uuid, true)] := by
  unfold followedBy toClient
  split_ifs <;> rfl

theorem news_ended (fd : Int) (user : User) (other : Int) (session : Bytes) :
    ((toAll (Frame.eventLoggedOut user)).followedBy (toClient fd [Frame.ok]) other
      session).filterMap Frame.presence = [(user.uuid, false)] := by
  unfold followedBy toClient
  split_ifs <;> rfl

/-- A command tells what its letters say. -/
theorem tells_commit {args : List Bytes} (found : server.clients.find? fd = some client)
    {news : List (Bytes × Bool)} (letters : ∀ other session,
      (outcome.letters other session).filterMap Frame.presence = news) :
    Tells server (outcome.commit fd (server.modifyClient fd (Client.setArgs args))) news :=
  fun _ _ present => ⟨_, appended_commit outcome args found present, letters _ _⟩

/-- The sessions after a command. -/
theorem sessions_served (outcome : Outcome) (args : List Bytes) (found : server.clients.find? fd = some client)
    (uuid : Bytes) :
    (outcome.commit fd (server.modifyClient fd (Client.setArgs args))).sessions uuid
        + (decide (client.userUuid = uuid)).toNat
      = server.sessions uuid + (decide (outcome.userUuid = uuid)).toNat := by
  have change := sessions_commit outcome (find?_setArgs found args) uuid
  have kept : (server.modifyClient fd (Client.setArgs args)).sessions uuid = server.sessions uuid :=
    sessions_modifyClients (quiet_at (quiet_setArgs args) fd) uuid
  rw [kept] at change
  exact change

/-- A user with a session, who is in the database, has a count. -/
theorem sessions_of_found (counted : Counted server) {user : User}
    (present : server.db.findUser client.userUuid = some user) :
    user.uuid = client.userUuid ∧ client.userUuid ≠ [] ∧
      user.connectedCount = server.sessions client.userUuid := by
  obtain ⟨member, key⟩ := mem_userUuids present
  exact ⟨key, key ▸ counted.named user member, key ▸ counted.counts user member⟩

theorem sessions_pos (found : server.clients.find? fd = some client) :
    0 < server.sessions client.userUuid := sessions_pos_iff.mpr ⟨fd, client, found, rfl⟩

/-- A session that is not the last one. -/
theorem connected_iff (counted : Counted server) {user : User}
    (present : server.db.findUser client.userUuid = some user) :
    user.decrementConnection.isConnected = true ↔ 1 < server.sessions client.userUuid := by
  rw [User.isConnected, User.decrementConnection_connectedCount, decide_eq_true_eq,
    (sessions_of_found counted present).2.2]
  omega

/-- The last session. -/
theorem sessions_le_one (counted : Counted server) {user : User}
    (present : server.db.findUser client.userUuid = some user)
    (disconnected : user.decrementConnection.isConnected = false) :
    server.sessions client.userUuid ≤ 1 := by
  refine not_lt.mp fun more => ?_
  rw [(connected_iff counted present).mpr more] at disconnected
  cases disconnected

/-- The sessions after a command that logs the requester in. -/
theorem sessions_entered (outcome : Outcome) (args : List Bytes)
    (found : server.clients.find? fd = some client) (anonymous : client.userUuid = []) (nonempty : outcome.userUuid ≠ []) :
    0 < (outcome.commit fd (server.modifyClient fd (Client.setArgs args))).sessions outcome.userUuid ∧
      ∀ uuid, uuid ≠ [] → uuid ≠ outcome.userUuid →
        (outcome.commit fd (server.modifyClient fd (Client.setArgs args))).sessions uuid
          = server.sessions uuid := by
  have sessions := sessions_served outcome args found
  rw [anonymous] at sessions
  refine ⟨?_, fun uuid different apart => ?_⟩
  · have own := sessions outcome.userUuid
    rw [decide_eq_false nonempty.symm, decide_eq_true rfl] at own
    simp only [Bool.toNat_true, Bool.toNat_false, Nat.add_zero] at own
    omega
  · have same := sessions uuid
    rw [decide_eq_false different.symm, decide_eq_false apart.symm] at same
    exact same

/-- The sessions after a command that logs the requester out. -/
theorem sessions_left (outcome : Outcome) (args : List Bytes)
    (found : server.clients.find? fd = some client) (nonempty : client.userUuid ≠ []) (session : outcome.userUuid = []) :
    (outcome.commit fd (server.modifyClient fd (Client.setArgs args))).sessions client.userUuid + 1
        = server.sessions client.userUuid ∧
      ∀ uuid, uuid ≠ [] → uuid ≠ client.userUuid →
        (outcome.commit fd (server.modifyClient fd (Client.setArgs args))).sessions uuid
          = server.sessions uuid := by
  have sessions := sessions_served outcome args found
  rw [session] at sessions
  refine ⟨?_, fun uuid different apart => ?_⟩
  · have own := sessions client.userUuid
    rw [decide_eq_true rfl, decide_eq_false nonempty.symm] at own
    exact own
  · have same := sessions uuid
    rw [decide_eq_false different.symm, decide_eq_false apart.symm] at same
    exact same

/-- **A command is one of the four.** -/
theorem serves_news (counted : Counted server) (found : server.clients.find? fd = some client)
    (named : (CommandHandling.parseArgs rawCommand).head? = some verb.text)
    (serves : Serves env fd (client.setArgs (CommandHandling.parseArgs rawCommand))
      (server.modifyClient fd (Client.setArgs (CommandHandling.parseArgs rawCommand))) verb outcome) :
    News server (.line fd rawCommand) (outcome.commit fd
      (server.modifyClient fd (Client.setArgs (CommandHandling.parseArgs rawCommand)))) := by
  have tells : ∀ {news : List (Bytes × Bool)}, (∀ other session,
      (outcome.letters other session).filterMap Frame.presence = news) →
      Tells server (outcome.commit fd (server.modifyClient fd
        (Client.setArgs (CommandHandling.parseArgs rawCommand)))) news :=
    fun letters => tells_commit found letters
  have silent : outcome.letters.All (·.presence = none) → ∀ other session,
      (outcome.letters other session).filterMap Frame.presence = [] :=
    fun none other session => List.filterMap_eq_nil_iff.mpr (none other session)
  -- a command without events that keeps the session
  have idle : outcome.userUuid = client.userUuid → outcome.letters.All (·.presence = none) →
      News server (.line fd rawCommand) (outcome.commit fd
        (server.modifyClient fd (Client.setArgs (CommandHandling.parseArgs rawCommand)))) := by
    intro session none
    refine .still (tells (silent none)) fun uuid _ => ?_
    have same := sessions_served outcome (CommandHandling.parseArgs rawCommand) found uuid
    rw [session] at same
    rw [Nat.add_right_cancel same]
  have enters : client.userUuid = [] → outcome.userUuid ≠ [] → (∀ other session,
        (outcome.letters other session).filterMap Frame.presence = [(outcome.userUuid, true)]) →
      News server (.line fd rawCommand) (outcome.commit fd
        (server.modifyClient fd (Client.setArgs (CommandHandling.parseArgs rawCommand)))) := by
    intro anonymous nonempty letters
    obtain ⟨here, others⟩ := sessions_entered outcome _ found anonymous nonempty
    exact .entered (tells letters) here others
  have leaves := sessions_left outcome (CommandHandling.parseArgs rawCommand) found
  cases serves with
  | refused refusal => exact idle rfl (all_answer fd (refusal_presence refusal))
  | shown shown => exact idle rfl (all_toClient fd (shown_presence shown))
  | loginNew _ anonymous _ _ _ made =>
    subst made
    exact enters anonymous (Uuid.ne_nil _) (news_entered fd _ _)
  | @loginAgain user _ anonymous _ _ present =>
    have stored : user ∈ server.db.users := List.mem_of_find?_eq_some present
    exact enters anonymous (counted.named user stored) (news_entered fd _ _)
  | @logout user nonempty present connected =>
    have present : server.db.findUser client.userUuid = some user := present
    obtain ⟨less, others⟩ := leaves nonempty rfl
    have several := (connected_iff counted present).mp connected
    refine .still (tells (silent (all_answer fd ?_))) fun uuid different => ?_
    · rfl
    by_cases own : uuid = client.userUuid
    · subst own
      exact ⟨fun _ => by omega, fun _ => by omega⟩
    · rw [others uuid different own]
  | @logoutLast user nonempty present disconnected =>
    have present : server.db.findUser client.userUuid = some user := present
    obtain ⟨less, others⟩ := leaves nonempty rfl
    have key := (sessions_of_found counted present).1
    have last := sessions_le_one counted present disconnected
    have told := tells (news_ended fd user)
    rw [key] at told
    exact .ended told (sessions_pos found) (by omega) others (Or.inr ⟨fd, rawCommand, rfl, named⟩)
  | logoutUnknown nonempty missing =>
    rcases counted.bound fd client found with empty | known
    · exact absurd empty nonempty
    · obtain ⟨user, present⟩ := exists_findUser known
      exact absurd (present.symm.trans missing) nofun
  | useNothing | useTeam | useChannel | useThread =>
    refine idle rfl (all_toClient fd fun frame member => ?_)
    have ok : frame = Frame.ok := by simpa using member
    rw [ok]
    rfl
  | useNoChannel =>
    refine idle rfl (all_toClient fd (List.forall_mem_cons.mpr ⟨rfl, List.forall_mem_singleton.mpr ?_⟩))
    rfl
  | useNoThread =>
    refine idle rfl (all_toClient fd (List.forall_mem_cons.mpr ⟨rfl, List.forall_mem_cons.mpr
      ⟨rfl, List.forall_mem_singleton.mpr ?_⟩⟩))
    rfl
  | createTeam => refine idle rfl (.followedBy (all_answer fd ?_) (all_toAll ?_)) <;> rfl
  | createChannel | createThread | createReply =>
    refine idle rfl (.followedBy (all_answer fd ?_) (all_toSubscribers _ ?_)) <;> rfl
  | subscribe | unsubscribe =>
    refine idle rfl (.followedBy (all_toSubscribers _ ?_) (all_answer fd ?_)) <;> rfl
  | send => refine idle rfl (.followedBy (all_toUser _ ?_) (all_answer fd ?_)) <;> rfl

theorem tells_erase (db : Database) :
    Tells server { server with clients := server.clients.erase fd, db := db } [] :=
  fun _ _ present => ⟨[], by rw [appended_erase present, List.append_nil], rfl⟩

/-- **A step is one of the four.** -/
theorem step_news (counted : Counted server) {event : Event} (steps : Steps env server event after) :
    News server event after := by
  cases steps with
  | quiet _ quiet =>
    refine .still (fun other holder present => ⟨[], ?_, rfl⟩) fun uuid _ => ?_
    · rw [List.append_nil, ← appendedTo_modifyClients quiet other, appendedTo_of_found present]
    · rw [sessions_modifyClients quiet]
  | @accepted fd missing =>
    refine .still (fun other holder present => ⟨[], ?_, rfl⟩) fun uuid named => ?_
    · rw [appended_insert missing present, List.append_nil]
    · have count := SortedMap.count_insert_of_none (p := Client.isSessionOf uuid)
        ({ fd := fd } : Client) missing
      have bare : Client.isSessionOf uuid { fd := fd } = false := decide_eq_false named.symm
      rw [bare] at count
      exact Eq.to_iff (congrArg (0 < ·) count)
  | served found named serves => exact serves_news counted found named serves
  | @left fd client found gone =>
    have anonymous : client.userUuid = [] := by
      rcases counted.bound fd client found with empty | known
      · exact empty
      · obtain ⟨user, present⟩ := exists_findUser known
        exact gone.elim id fun missing => absurd (present.symm.trans missing) nofun
    refine .still (tells_erase server.db) fun uuid named => ?_
    have same := sessions_erase found server.db uuid
    rw [anonymous, decide_eq_false named.symm] at same
    exact Eq.to_iff (congrArg (0 < ·) same)
  | @leftUser fd client user found nonempty present connected =>
    have several := (connected_iff counted present).mp connected
    refine .still (tells_erase _) fun uuid named => ?_
    have less := sessions_erase found (server.db.modifyUser client.userUuid User.decrementConnection) uuid
    by_cases own : client.userUuid = uuid
    · rw [decide_eq_true own, Bool.toNat_true] at less
      subst own
      exact ⟨fun _ => by omega, fun _ => by omega⟩
    · rw [decide_eq_false own] at less
      exact Eq.to_iff (congrArg (0 < ·) less)
  | @leftLast fd client user found nonempty present disconnected =>
    have key := (sessions_of_found counted present).1
    have last := sessions_le_one counted present disconnected
    have less := sessions_erase found (server.db.modifyUser client.userUuid User.decrementConnection)
    refine .ended ?_ (sessions_pos found) ?_ (fun uuid named apart => ?_)
      (Or.inl ⟨fd, rfl⟩)
    · intro other holder present
      rw [← key]
      exact ⟨[Frame.eventLoggedOut user], appended_erase_notice present, rfl⟩
    · rw [sessions_deliver]
      have own := less client.userUuid
      rw [decide_eq_true rfl, Bool.toNat_true] at own
      omega
    · rw [sessions_deliver]
      have same := less uuid
      rw [decide_eq_false apart.symm] at same
      exact same
  | restarted => exact .restarted rfl rfl

end Step

/-! ### Runs -/

/-- What every client was last told about a user is true. -/
def Informed (server : Server) : Prop :=
  ∀ fd userUuid, userUuid ≠ [] → ∀ online,
    (presences userUuid (server.appendedTo fd)).getLast? = some online →
    (online = true ↔ 0 < server.sessions userUuid)

section Runs

variable {env : Env} {server after : Server} {event : Event}

/-- The part of the news that is about a user comes behind what a client was told before. -/
theorem Tells.told {news : List (Bytes × Bool)} (tells : Tells server after news) (fd : Int)
    (userUuid : Bytes) : after.appendedTo fd = [] ∨
      presences userUuid (after.appendedTo fd) = presences userUuid (server.appendedTo fd)
        ++ newsAbout userUuid news := by
  cases found : after.clients.find? fd with
  | none =>
    refine Or.inl ?_
    unfold Server.appendedTo
    rw [found]
    rfl
  | some holder =>
    obtain ⟨frames, appended, told⟩ := tells fd holder found
    refine Or.inr ?_
    rw [appendedTo_of_found found, appended, presences_append]
    exact congrArg (presences userUuid (server.appendedTo fd) ++ newsAbout userUuid ·) told

/-- **A step keeps every client informed.** -/
theorem informed_step (informed : Informed server) (news : News server event after) :
    Informed after := by
  intro fd userUuid named online last
  -- a client that was told nothing, or the part of the news about this user
  have told : ∀ {news : List (Bytes × Bool)}, Tells server after news →
      (presences userUuid (server.appendedTo fd)
        ++ newsAbout userUuid news).getLast? = some online := by
    intro news tells
    rcases tells.told fd userUuid with nothing | more
    · rw [nothing] at last
      cases last
    · rw [← more]
      exact last
  cases news with
  | still tells same =>
    have old := told tells
    rw [newsAbout_nil, List.append_nil] at old
    rw [same userUuid named]
    exact informed fd userUuid named online old
  | @entered user tells here others =>
    have new := told tells
    by_cases about : user = userUuid
    · subst about
      rw [newsAbout_self, List.getLast?_concat] at new
      exact iff_of_true (Option.some.inj new).symm here
    · rw [newsAbout_of_ne about, List.append_nil] at new
      rw [others userUuid named (Ne.symm about)]
      exact informed fd userUuid named online new
  | @ended user tells there gone others =>
    have new := told tells
    by_cases about : user = userUuid
    · subst about
      rw [newsAbout_self, List.getLast?_concat] at new
      rw [← Option.some.inj new, gone]
      exact iff_of_false Bool.false_ne_true (lt_irrefl 0)
    · rw [newsAbout_of_ne about, List.append_nil] at new
      rw [others userUuid named (Ne.symm about)]
      exact informed fd userUuid named online new
  | restarted _ empty =>
    unfold Server.appendedTo at last
    rw [empty] at last
    cases last

theorem run_informed {db : Database} (start : db.Loaded) (events : List Event)
    (fresh : env.Fresh db.uuids (run (Server.step env) { db := db } events).uuidCalls) :
    Informed (run (Server.step env) { db := db } events) := by
  induction events using List.reverseRecOn with
  | nil => exact fun fd userUuid _ online last => by cases last
  | append_singleton events event ih =>
    rw [run_concat] at fresh ⊢
    have earlier := fresh_earlier _ event fresh
    have counted := run_counted start.counted start.supplied events earlier
    exact informed_step (ih earlier) (step_news counted (step_steps env _ event))

/-- How often a step tells a client that a user is gone. -/
def Server.goodbyes (userUuid : Bytes) (fd : Int) (server after : Server) : Nat :=
  (presences userUuid (server.newFrames fd after)).count false

/-- The step ends the last session of a user. -/
def EndsLast (userUuid : Bytes) (server after : Server) : Prop :=
  0 < server.sessions userUuid ∧ after.sessions userUuid = 0

instance (userUuid : Bytes) (server after : Server) : Decidable (EndsLast userUuid server after) := by
  unfold EndsLast
  infer_instance

theorem Tells.goodbyes {news : List (Bytes × Bool)} (tells : Tells server after news) {fd : Int}
    {holder : Client} (found : after.clients.find? fd = some holder) (userUuid : Bytes) :
    server.goodbyes userUuid fd after = (newsAbout userUuid news).count false := by
  obtain ⟨frames, appended, told⟩ := tells fd holder found
  have new : server.newFrames fd after = frames := by
    rw [Server.newFrames, appendedTo_of_found found, appended, List.drop_left]
  unfold Server.goodbyes presences
  rw [new, told]

/-- **A user is said to be gone in the steps that end its last session**, once to every client. -/
theorem goodbyes_eq (news : News server event after) {userUuid : Bytes} (named : userUuid ≠ [])
    {fd : Int} {holder : Client} (found : after.clients.find? fd = some holder) :
    server.goodbyes userUuid fd after = if EndsLast userUuid server after then 1 else 0 := by
  cases news with
  | still tells same =>
    rw [tells.goodbyes found]
    refine (if_neg fun ends => ?_).symm
    have still := (same userUuid named).mpr ends.1
    exact still.ne' ends.2
  | @entered user tells here others =>
    rw [tells.goodbyes found]
    by_cases about : user = userUuid
    · subst about
      rw [newsAbout_self]
      exact (if_neg fun ends => here.ne' ends.2).symm
    · rw [newsAbout_of_ne about]
      have same := others userUuid named (Ne.symm about)
      exact (if_neg fun ends => ends.1.ne' (same ▸ ends.2)).symm
  | @ended user tells there gone others =>
    rw [tells.goodbyes found]
    by_cases about : user = userUuid
    · subst about
      rw [newsAbout_self]
      exact (if_pos ⟨there, gone⟩).symm
    · rw [newsAbout_of_ne about]
      have same := others userUuid named (Ne.symm about)
      exact (if_neg fun ends => ends.1.ne' (same ▸ ends.2)).symm
  | restarted _ empty =>
    rw [empty] at found
    cases found

/-- A last session ends with a LOGOUT or a lost connection, or when the server stops. -/
theorem endsLast_event (news : News server event after) {userUuid : Bytes} (named : userUuid ≠ [])
    (ends : EndsLast userUuid server after) :
    (∃ fd, event = .disconnect fd) ∨ (∃ fd rawCommand, event = .line fd rawCommand ∧
      (CommandHandling.parseArgs rawCommand).head? = some Verb.logout.text) ∨ event = .restart := by
  obtain ⟨there, gone⟩ := ends
  cases news with
  | still tells same =>
    have still := (same userUuid named).mpr there
    omega
  | @entered user tells here others =>
    by_cases about : user = userUuid
    · subst about
      omega
    · have same := others userUuid named (Ne.symm about)
      omega
  | ended _ _ _ _ how => exact how.imp_right Or.inl
  | restarted restart => exact Or.inr (Or.inr restart)

end Runs

/-- **Presence events**, at every state of every run from a database that a server process can load.
The last event that a client got about a user tells whether the user has a session, and a step tells
every client that is there after it once that a user is gone if it ends the last session of the user,
and else not at all. -/
theorem presence_events (env : Env) {db : Database} (start : SelfSaved db) (events : List Event)
    (fresh : env.Fresh db.uuids (run (Server.step env) { db := db } events).uuidCalls) :
    let server := run (Server.step env) { db := db } events
    ∀ user ∈ server.db.users,
      (∀ fd client, server.clients.find? fd = some client → ∀ online,
        (presences user.uuid client.appended).getLast? = some online →
        (online = true ↔ ∃ other holder, server.clients.find? other = some holder ∧
          holder.userUuid = user.uuid)) ∧
      ∀ event, let after := server.step env event
        (∀ fd holder, after.clients.find? fd = some holder →
          server.goodbyes user.uuid fd after = if EndsLast user.uuid server after then 1 else 0) ∧
        (EndsLast user.uuid server after → (∃ fd, event = .disconnect fd) ∨
          (∃ fd rawCommand, event = .line fd rawCommand ∧
            (CommandHandling.parseArgs rawCommand).head? = some Verb.logout.text) ∨
          event = .restart) := by
  intro server user member
  have counted : Counted server := run_counted start.loaded.counted start.loaded.supplied events fresh
  have named := counted.named user member
  refine ⟨fun fd client found online last => ?_, fun event => ?_⟩
  · rw [← sessions_pos_iff]
    refine run_informed start.loaded events fresh fd user.uuid named online ?_
    show (presences user.uuid (((server.clients.find? fd).map Client.appended).getD [])).getLast? = _
    rw [found]
    exact last
  · have news := step_news counted (step_steps env server event)
    exact ⟨fun fd holder found => goodbyes_eq news named found, endsLast_event news named⟩

/-- A user with two sessions loses one and logs out of the other. -/
theorem presence_events_sample :
    let events := Input.trace sampleEnv { db := {} } [.accept 3, .accept 4, .accept 5,
      .read 4 (ascii "/login \"ann\"\n"), .read 5 (ascii "/login \"ann\"\n"), .hangUp 5]
    let server := run (Server.step sampleEnv) { db := {} } events
    let after := server.step sampleEnv (.line 4 (ascii "/logout"))
    let ann := (digitUuid 0).1
    presences ann (server.appendedTo 3) = [true, true] ∧ server.goodbyes ann 3 after = 1 ∧
      server.goodbyes ann 4 after = 1 := by
  intro events server after ann
  obtain ⟨user, member, named⟩ : ∃ user ∈ server.db.users, user.uuid = ann :=
    List.mem_map.mp (show ann ∈ server.db.users.map User.uuid by decide)
  obtain ⟨holder, found⟩ : ∃ holder, after.clients.find? 3 = some holder :=
    Option.isSome_iff_exists.mp (by decide)
  obtain ⟨client, present⟩ : ∃ client, after.clients.find? 4 = some client :=
    Option.isSome_iff_exists.mp (by decide)
  have told := ((presence_events sampleEnv .empty events (sampleEnv_fresh.of_le (by decide)) user
    member).2 (.line 4 (ascii "/logout"))).1
  have ends : EndsLast ann server after := by decide
  rw [named] at told
  refine ⟨by decide, (told 3 holder found).trans (if_pos ends), ?_⟩
  exact (told 4 client present).trans (if_pos ends)

end MyTeams
