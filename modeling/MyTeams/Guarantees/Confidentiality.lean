/-
**Private texts stay private.**

What the server sends on a connection does not depend on the messages that two other users exchange, nor on the
descriptions, bodies and replies inside a team of which the user of the connection is no subscriber. Two runs of
the server in which only such texts differ put the same bytes on the connection (`texts_stay_private`).

The proof is an unwinding: `Observers` says what two servers have in common for the observer, and here every
command keeps it (`command_alike` for the same line, `create_alike` and `send_alike` for two lines that differ
in a text), hence every step (`step_alike`) and every run.
-/

import MyTeams.Guarantees.Observers
import MyTeams.Guarantees.TeamReplicas
import MyTeams.Lib.Unwinding

namespace MyTeams

open Transition FirstMatch Unwinding

/-! ### Two requests -/

/-- Two requests of one session whose arguments differ in one place at most, and not in the verdict on it. -/
structure Client.DiffersAt (index limit : Nat) (client client' : Client) : Prop where
  session : client.session = client'.session
  length : client.args.length = client'.args.length
  others : ∀ other, other ≠ index → client.arg other = client'.arg other
  verdict : Create.isInvalidLength (client.arg index) limit = Create.isInvalidLength (client'.arg index) limit

section Requests

variable {observer : Observer} {index limit : Nat} {client client' : Client}

theorem Client.DiffersAt.refl (client : Client) : client.DiffersAt index limit client :=
  ⟨rfl, rfl, fun _ _ => rfl, rfl⟩

theorem Client.DiffersAt.userUuid (differs : client.DiffersAt index limit client') :
    client.userUuid = client'.userUuid := congrArg Session.userUuid differs.session

theorem Client.DiffersAt.context (differs : client.DiffersAt index limit client') :
    client.context = client'.context := congrArg Session.context differs.session

/-- What a command reads of its requester. -/
def Client.core (client : Client) : Client :=
  { userUuid := client.userUuid, context := client.context, args := client.args }

theorem command_core (env : Env) (fd : Int) (client : Client) (server : Server) (verb : Verb) :
    verb.command env fd client server = verb.command env fd client.core server := by
  cases verb <;> rfl

/-- What is known of the connection of an observer: it belongs to the user, who is in no hidden team. -/
structure Observer.Watches (observer : Observer) (server : Server) : Prop where
  session : server.IsSessionOf observer.fd observer.userUuid
  outside : ∀ team ∈ server.db.teams, observer.hidden team.uuid = true →
    observer.userUuid ∉ team.subscriberUuids

theorem IsSessionOf.unique {server : Server} {fd : Int} {first second : Bytes} (here : server.IsSessionOf fd first)
    (there : server.IsSessionOf fd second) : first = second :=
  Option.some.inj (here.symm.trans there)

end Requests

section Commands

variable {env : Env} {observer : Observer} {fd : Int} {client client' : Client} {server server' : Server}

/-! ### LOGIN, LOGOUT, USE -/

theorem Login.alike (alike : server.Alike observer server') :
    (execute env fd client server).Alike observer (execute env fd client server') := by
  have answer : ∀ frame, (server.sendToClient frame fd).Alike observer (server'.sendToClient frame fd) :=
    fun _ => alike.sendToClient fd fun _ => rfl
  unfold execute
  rcases alike.db.findUserByName (client.arg 1) with ⟨none, none'⟩ | ⟨user, user', found, found', same⟩
  · simp only [none, none', if_true]
    split_ifs
    · exact answer _
    · exact answer _
    · exact answer _
    · unfold createNewUser
      rw [← alike.nextUuid env]
      obtain ⟨newUser, made⟩ : ∃ newUser, newUser
          = User.incrementConnection { uuid := server.nextUuid env, name := client.arg 1 } := ⟨_, rfl⟩
      simp only [← made]
      have stored := alike.generateUuid.modifyDb (fun db => { db with users := db.users ++ [newUser] })
        (fun db => { db with users := db.users ++ [newUser] }) (alike.db.addUser newUser)
      refine ((stored.modifySession fd fun _ _ same => ?_).sendToClient fd fun _ => rfl).broadcast _
      exact congrArg (Session.mk _) (congrArg Session.context same)
  · simp only [found, found', reduceCtorEq, if_false]
    split_ifs
    · exact answer _
    · exact answer _
    · exact answer _
    · unfold logUserIn
      have event : Frame.eventLoggedIn user = Frame.eventLoggedIn user' := by
        unfold Frame.eventLoggedIn
        rw [same.uuid, same.name]
      simp only [found, found', ← same.uuid, ← same.name, ← event]
      have stored := alike.modifyDb _ _ (alike.db.modifyUserByName (client.arg 1) fun _ _ same => same.increment)
      refine ((stored.modifySession fd fun _ _ same => ?_).sendToClient fd fun _ => rfl).broadcast _
      exact congrArg (Session.mk _) (congrArg Session.context same)

theorem Logout.alike (alike : server.Alike observer server') :
    (execute fd client server).Alike observer (execute fd client server') := by
  have ends : ∀ {server server' : Server}, server.Alike observer server' →
      ((server.modifyClient fd fun client => { client with userUuid := [] }).sendToClient Frame.ok fd).Alike observer
        ((server'.modifyClient fd fun client => { client with userUuid := [] }).sendToClient Frame.ok fd) :=
    fun alike => (alike.modifySession fd fun _ _ same =>
      congrArg (Session.mk _) (congrArg Session.context same)).sendToClient fd fun _ => rfl
  unfold execute
  split_ifs
  · exact alike.sendToClient fd fun _ => rfl
  rcases alike.db.findUser client.userUuid with ⟨none, none'⟩ | ⟨user, user', found, found', same⟩
  · simp only [none, none']
    exact ends alike
  · have left := alike.modifyDb _ _ (alike.db.modifyUser client.userUuid fun _ _ same _ => same.decrement)
    have connected : user.decrementConnection.isConnected = user'.decrementConnection.isConnected := by
      unfold User.isConnected
      rw [same.decrement.connectedCount]
    have event : Frame.eventLoggedOut user = Frame.eventLoggedOut user' := by
      unfold Frame.eventLoggedOut
      rw [same.uuid, same.name]
    simp only [found, found', ← connected, ← event]
    split_ifs
    · exact ends left
    · exact ends (left.broadcast _)

/-- The result of one level of USE. -/
def Server.AlikeLevel (observer : Observer) (result result' : Bool × Context × Server) : Prop :=
  result.1 = result'.1 ∧ result.2.1 = result'.2.1 ∧ result.2.2.Alike observer result'.2.2

theorem Use.validateAndSetTeam_alike (ctx : Context) (alike : server.Alike observer server') :
    Server.AlikeLevel observer (validateAndSetTeam fd client ctx server) (validateAndSetTeam fd client ctx server') := by
  have answer : ∀ frame, (server.sendToClient frame fd).Alike observer (server'.sendToClient frame fd) :=
    fun _ => alike.sendToClient fd fun _ => rfl
  unfold validateAndSetTeam
  split_ifs
  · exact ⟨rfl, rfl, answer _⟩
  · rcases alike.db.findTeam (client.arg 1) with ⟨none, none'⟩ | ⟨team, team', found, found', same⟩
    · rw [none, none']
      exact ⟨rfl, rfl, answer _⟩
    · simp only [found, found', ← same.isUserSubscribed]
      split_ifs
      · exact ⟨rfl, rfl, answer _⟩
      · exact ⟨rfl, rfl, answer _⟩

theorem Use.validateAndSetChannel_alike (ctx : Context) (alike : server.Alike observer server') :
    Server.AlikeLevel observer (validateAndSetChannel fd client ctx server)
      (validateAndSetChannel fd client ctx server') := by
  unfold validateAndSetChannel
  split_ifs
  · exact ⟨rfl, rfl, alike⟩
  · rcases alike.db.findChannel ctx.teamUuid (client.arg 2) with ⟨none, none'⟩ | ⟨_, _, found, found', -⟩
    · rw [none, none']
      exact ⟨rfl, rfl, alike.sendToClient fd fun _ => rfl⟩
    · rw [found, found']
      exact ⟨rfl, rfl, alike.sendToClient fd fun _ => rfl⟩

theorem Use.validateAndSetThread_alike (ctx : Context) (alike : server.Alike observer server') :
    Server.AlikeLevel observer (validateAndSetThread fd client ctx server)
      (validateAndSetThread fd client ctx server') := by
  unfold validateAndSetThread
  split_ifs
  · exact ⟨rfl, rfl, alike⟩
  · rcases alike.db.findThread ctx.channelUuid (client.arg 3) with ⟨none, none'⟩ | ⟨_, _, found, found', -⟩
    · rw [none, none']
      exact ⟨rfl, rfl, alike.sendToClient fd fun _ => rfl⟩
    · rw [found, found']
      exact ⟨rfl, rfl, alike.sendToClient fd fun _ => rfl⟩

theorem Use.alike (alike : server.Alike observer server') :
    (execute fd client server).Alike observer (execute fd client server') := by
  unfold execute
  split_ifs
  · exact alike.sendToClient fd fun _ => rfl
  · exact alike.sendToClient fd fun _ => rfl
  have first : Server.AlikeLevel observer (validateAndSetTeam fd client {} server)
      (validateAndSetTeam fd client {} server') := validateAndSetTeam_alike {} alike
  cases level : validateAndSetTeam fd client {} server with
  | mk found result =>
  obtain ⟨ctx, after⟩ := result
  cases level' : validateAndSetTeam fd client {} server' with
  | mk found' result' =>
  obtain ⟨ctx', after'⟩ := result'
  rw [level, level'] at first
  obtain ⟨rfl, rfl, alike⟩ : found = found' ∧ ctx = ctx' ∧ after.Alike observer after' := first
  cases found with
  | false => exact alike
  | true =>
  have second : Server.AlikeLevel observer (validateAndSetChannel fd client ctx after)
      (validateAndSetChannel fd client ctx after') := validateAndSetChannel_alike ctx alike
  simp only
  cases level : validateAndSetChannel fd client ctx after with
  | mk found result =>
  obtain ⟨deeper, later⟩ := result
  cases level' : validateAndSetChannel fd client ctx after' with
  | mk found' result' =>
  obtain ⟨deeper', later'⟩ := result'
  rw [level, level'] at second
  obtain ⟨rfl, rfl, alike⟩ : found = found' ∧ deeper = deeper' ∧ later.Alike observer later' := second
  cases found with
  | false => exact alike
  | true =>
  have third : Server.AlikeLevel observer (validateAndSetThread fd client deeper later)
      (validateAndSetThread fd client deeper later') := validateAndSetThread_alike deeper alike
  simp only
  cases level : validateAndSetThread fd client deeper later with
  | mk found result =>
  obtain ⟨deepest, last⟩ := result
  cases level' : validateAndSetThread fd client deeper later' with
  | mk found' result' =>
  obtain ⟨deepest', last'⟩ := result'
  rw [level, level'] at third
  obtain ⟨rfl, rfl, alike⟩ : found = found' ∧ deepest = deepest' ∧ last.Alike observer last' := third
  cases found with
  | false => exact alike
  | true =>
    exact alike.modifySession fd fun _ _ same => congrArg (Session.mk · _) (congrArg Session.userUuid same)

/-! ### SUBSCRIBE, UNSUBSCRIBE -/

theorem Subscribe.alike (alike : server.Alike observer server') :
    (execute fd client server).Alike observer (execute fd client server') := by
  have answer : ∀ frame, (server.sendToClient frame fd).Alike observer (server'.sendToClient frame fd) :=
    fun _ => alike.sendToClient fd fun _ => rfl
  unfold execute
  split_ifs
  · exact answer _
  · exact answer _
  rcases alike.db.findTeam (client.arg 1) with ⟨none, none'⟩ | ⟨team, team', found, found', same⟩
  · rw [none, none']
    exact answer _
  · have flag : (team.addSubscriber client.userUuid).1 = (team'.addSubscriber client.userUuid).1 := by
      unfold Team.addSubscriber
      rw [← same.isUserSubscribed]
      split_ifs <;> rfl
    simp only [found, found', ← same.isUserSubscribed, ← flag]
    split_ifs
    · exact answer _
    · exact answer _
    · have stored := alike.modifyDb _ _ (alike.db.modifyTeam (client.arg 1) fun _ _ same _ =>
        same.addSubscriber client.userUuid)
      exact (stored.notifySubscribers fun _ _ _ _ _ => rfl).sendToClient fd fun _ => rfl

theorem Unsubscribe.alike (alike : server.Alike observer server') :
    (execute fd client server).Alike observer (execute fd client server') := by
  have answer : ∀ frame, (server.sendToClient frame fd).Alike observer (server'.sendToClient frame fd) :=
    fun _ => alike.sendToClient fd fun _ => rfl
  unfold execute
  split_ifs
  · exact answer _
  · exact answer _
  rcases alike.db.findTeam (client.arg 1) with ⟨none, none'⟩ | ⟨team, team', found, found', same⟩
  · rw [none, none']
    exact answer _
  · have flag : (team.removeSubscriber client.userUuid).1 = (team'.removeSubscriber client.userUuid).1 := by
      unfold Team.removeSubscriber
      rw [← same.subscriberUuids]
      split_ifs <;> rfl
    simp only [found, found', ← same.isUserSubscribed, ← flag]
    split_ifs
    · exact answer _
    · exact answer _
    · have stored := alike.modifyDb _ _ (alike.db.modifyTeam (client.arg 1) fun _ _ same _ =>
        same.removeSubscriber client.userUuid)
      exact (stored.notifySubscribers fun _ _ _ _ _ => rfl).sendToClient fd fun _ => rfl

/-! ### SEND -/

/-- A message is stored with one of its users. -/
theorem Server.Alike.storeMessage (alike : server.Alike observer server') {uuid partner : Bytes}
    {message message' : Message} (blank : message.blank = message'.blank)
    (told : uuid = observer.userUuid → message = message') :
    (server.modifyDb (·.modifyUser uuid (User.addMessage partner message))).Alike observer
      (server'.modifyDb (·.modifyUser uuid (User.addMessage partner message'))) :=
  alike.modifyDb _ _ (alike.db.modifyUser uuid fun _ _ same named =>
    same.addMessage partner blank fun own => told (named.symm.trans own))

/-- A body may differ if the observer is neither the sender nor the receiver. -/
theorem Send.alike (alike : server.Alike observer server') (watches : observer.Watches server)
    (differs : client.DiffersAt 2 maxBodyLength client')
    (told : fd = observer.fd ∨ client.userUuid = observer.userUuid ∨ client.arg 1 = observer.userUuid →
      client.arg 2 = client'.arg 2) :
    (execute env fd client server).Alike observer (execute env fd client' server') := by
  have answer : ∀ frame, (server.sendToClient frame fd).Alike observer (server'.sendToClient frame fd) :=
    fun _ => alike.sendToClient fd fun _ => rfl
  have verdict : (client'.arg 2 = [] ∨ maxBodyLength < (client'.arg 2).length)
      ↔ (client.arg 2 = [] ∨ maxBodyLength < (client.arg 2).length) := by
    have same := differs.verdict
    unfold Create.isInvalidLength at same
    rw [← List.isEmpty_iff, ← List.isEmpty_iff, ← decide_eq_true_iff (p := maxBodyLength < _),
      ← decide_eq_true_iff (p := maxBodyLength < (client.arg 2).length), ← Bool.or_eq_true, ← Bool.or_eq_true, same]
  unfold execute
  rw [← differs.length, ← differs.others 1 (by decide), ← differs.userUuid]
  simp only [verdict]
  split_ifs
  · exact answer _
  · exact answer _
  rcases alike.db.findUser client.userUuid with ⟨none, none'⟩ | ⟨sender, sender', found, found', same⟩
  · rw [none, none']
    exact answer _
  rcases alike.db.findUser (client.arg 1) with ⟨none, none'⟩ | ⟨receiver, receiver', met, met', equal⟩
  · simp only [found, found', none, none']
    exact answer _
  · simp only [found, found', met, met', ← same.uuid, ← equal.uuid, ← alike.nextTime env]
    have receives : receiver.uuid = client.arg 1 := (find?_key met).2
    refine ((((alike.readTime.storeMessage ?_ fun own => ?_).storeMessage ?_ fun own => ?_).sendToUser
      receiver.uuid fun session => ?_).sendToClient fd fun _ => rfl)
    · rfl
    · rw [told (Or.inr (Or.inl own))]
    · rfl
    · rw [told (Or.inr (Or.inr own))]
    · have own : receiver.uuid = observer.userUuid := IsSessionOf.unique session watches.session
      rw [told (Or.inr (Or.inr (receives.symm.trans own)))]

/-! ### CREATE -/

theorem session_sendToClient (frame : Frame) (fd other : Int) (server : Server) :
    (server.sendToClient frame fd).session other = server.session other := by
  rw [Server.sendToClient_eq, session_deliver]

/-- What the subscribers of a team are told, the observer may hear only if the team is open. -/
theorem Observer.Watches.open_of_member (watches : observer.Watches server) {teamUuid userUuid : Bytes} {team : Team}
    (present : server.db.findTeam teamUuid = some team) (session : server.IsSessionOf observer.fd userUuid)
    (member : userUuid ∈ team.subscriberUuids) : observer.hidden teamUuid = false := by
  obtain ⟨stored, rfl⟩ := find?_key present
  rw [IsSessionOf.unique session watches.session] at member
  exact Bool.eq_false_of_not_eq_true fun hidden => watches.outside team stored hidden member

theorem Create.findAccessibleTeam_alike {db db' : Database} (same : db.SameFor observer db')
    (user : client.userUuid = client'.userUuid) (teamUuid : Bytes) :
    (∃ frame, findAccessibleTeam client db teamUuid = .error frame ∧
      findAccessibleTeam client' db' teamUuid = .error frame) ∨
    ∃ team team', findAccessibleTeam client db teamUuid = .ok team ∧
      findAccessibleTeam client' db' teamUuid = .ok team' ∧ db.findTeam teamUuid = some team ∧
      team.SameFor observer team' := by
  unfold findAccessibleTeam
  rcases same.findTeam teamUuid with ⟨none, none'⟩ | ⟨team, team', found, found', equal⟩
  · rw [none, none']
    exact Or.inl ⟨_, rfl, rfl⟩
  · simp only [found, found', ← user, ← equal.isUserSubscribed]
    split_ifs
    · exact Or.inr ⟨team, team', rfl, rfl, rfl, equal⟩
    · exact Or.inl ⟨_, rfl, rfl⟩

theorem Create.findChannelOrSend404_alike {db db' : Database} (same : db.SameFor observer db')
    (teamUuid channelUuid : Bytes) :
    (∃ frame, findChannelOrSend404 db teamUuid channelUuid = .error frame ∧
      findChannelOrSend404 db' teamUuid channelUuid = .error frame) ∨
    ∃ channel channel', findChannelOrSend404 db teamUuid channelUuid = .ok channel ∧
      findChannelOrSend404 db' teamUuid channelUuid = .ok channel' ∧
      db.findChannel teamUuid channelUuid = some channel ∧ db'.findChannel teamUuid channelUuid = some channel' ∧
      channel.blank = channel'.blank := by
  unfold findChannelOrSend404
  rcases same.findChannel teamUuid channelUuid with ⟨none, none'⟩ | ⟨channel, channel', found, found', equal⟩
  · rw [none, none']
    exact Or.inl ⟨_, rfl, rfl⟩
  · rw [found, found']
    exact Or.inr ⟨channel, channel', rfl, rfl, rfl, rfl, equal⟩

theorem Create.findThreadOrSend404_alike {db db' : Database} (same : db.SameFor observer db')
    (channelUuid threadUuid : Bytes) :
    (∃ frame, findThreadOrSend404 db channelUuid threadUuid = .error frame ∧
      findThreadOrSend404 db' channelUuid threadUuid = .error frame) ∨
    ∃ thread thread', findThreadOrSend404 db channelUuid threadUuid = .ok thread ∧
      findThreadOrSend404 db' channelUuid threadUuid = .ok thread' := by
  unfold findThreadOrSend404
  rcases same.findThread channelUuid threadUuid with ⟨none, none'⟩ | ⟨thread, thread', found, found', -⟩
  · rw [none, none']
    exact Or.inl ⟨_, rfl, rfl⟩
  · rw [found, found']
    exact Or.inr ⟨thread, thread', rfl, rfl⟩

/-- A new team is announced to everybody. -/
theorem Create.executeTeam_alike (alike : server.Alike observer server') :
    (executeTeam env fd client server).Alike observer (executeTeam env fd client server') := by
  have answer : ∀ frame, (server.sendToClient frame fd).Alike observer (server'.sendToClient frame fd) :=
    fun _ => alike.sendToClient fd fun _ => rfl
  have taken : server.db.teams.any (·.name = client.arg 1) = server'.db.teams.any (·.name = client.arg 1) :=
    any_congr_map alike.db.teams fun a b equal => by rw [Team.SameFor.name ⟨equal⟩]
  unfold executeTeam
  rw [← taken, ← alike.nextUuid env]
  split_ifs
  · exact answer _
  · exact answer _
  · exact answer _
  all_goals
    unfold emitTeamCreated
    refine Server.Alike.broadcast (Server.Alike.sendToClient ?_ fd fun _ => rfl) _
    exact alike.generateUuid.modifyDb _ _ (alike.db.addTeam _)

/-- The two messages about something new in a team: to its creator and to the subscribers. -/
theorem Server.Alike.announce {stored stored' : Server} (alike : stored.Alike observer stored')
    (watches : observer.Watches server) {teamUuid : Bytes} {team : Team}
    (present : server.db.findTeam teamUuid = some team)
    (session : stored.session observer.fd = server.session observer.fd)
    (grown : ∃ after, stored.db.findTeam teamUuid = some after ∧ after.subscriberUuids = team.subscriberUuids)
    {reply reply' event event' : Frame}
    (told : fd = observer.fd ∨ observer.hidden teamUuid = false → reply = reply' ∧ event = event') :
    ((stored.sendToClient reply fd).notifySubscribers teamUuid event).Alike observer
      ((stored'.sendToClient reply' fd).notifySubscribers teamUuid event') := by
  refine (alike.sendToClient fd fun own => (told (Or.inl own)).1).notifySubscribers
    fun userUuid after opened found member => ?_
  obtain ⟨later, found', subscribers⟩ := grown
  rw [Server.sendToClient_db, found'] at found
  obtain rfl := Option.some.inj found
  have owner : server.IsSessionOf observer.fd userUuid := by
    unfold Server.IsSessionOf at opened ⊢
    rwa [session_sendToClient, session] at opened
  exact (told (Or.inr (watches.open_of_member present owner (subscribers ▸ member)))).2

/-- One more channel, whose description may differ in a hidden team. -/
theorem Team.SameFor.addChannel {team team' : Team} (same : team.SameFor observer team') {channel channel' : Channel}
    (blank : channel.blank = channel'.blank) (told : observer.hidden team.uuid = false → channel = channel') :
    ({ team with channels := team.channels ++ [channel] } : Team).SameFor observer
      { team' with channels := team'.channels ++ [channel'] } := by
  refine @Team.SameFor.withChannels _ _ _ same (· ++ [channel]) (· ++ [channel']) (fun channels channels' alike => ?_)
    fun shown => by rw [told shown]
  rw [List.map_append, List.map_append, alike, List.map_singleton, List.map_singleton, blank]

/-- A write to a channel, which may differ in the texts of a hidden team. -/
theorem Team.SameFor.modifyChannel {team team' : Team} (same : team.SameFor observer team') (uuid : Bytes)
    {f f' : Channel → Channel}
    (blank : ∀ channel channel' : Channel, channel.blank = channel'.blank → (f channel).blank = (f' channel').blank)
    (told : observer.hidden team.uuid = false → f = f') :
    (team.modifyChannel uuid f).SameFor observer (team'.modifyChannel uuid f') := by
  refine @Team.SameFor.withChannels _ _ _ same (modifyFirst (·.uuid = uuid) f) (modifyFirst (·.uuid = uuid) f')
    (fun channels channels' alike => ?_) fun shown => by rw [told shown]
  exact modifyFirst_congr_map alike (fun a b equal => by rw [Channel.blank_uuid_eq equal])
    fun channel channel' equal _ => blank channel channel' equal

/-- A write to a thread, up to texts. -/
theorem Channel.blank_modifyThread {channel channel' : Channel} (same : channel.blank = channel'.blank) (uuid : Bytes)
    {f f' : Thread → Thread}
    (blank : ∀ thread thread' : Thread, thread.blank = thread'.blank → (f thread).blank = (f' thread').blank) :
    (channel.modifyThread uuid f).blank = (channel'.modifyThread uuid f').blank := by
  have threads := modifyFirst_congr_map (p := (·.uuid = uuid)) (Channel.blank_threads_eq same)
    (fun a b equal => by rw [Thread.blank_uuid_eq equal]) fun thread thread' equal _ => blank thread thread' equal
  unfold Channel.modifyThread Channel.blank
  rw [threads, Channel.blank_uuid_eq same, Channel.blank_name_eq same]

/-- The description of a new channel may differ in a hidden team. -/
theorem Create.executeChannel_alike (alike : server.Alike observer server') (watches : observer.Watches server)
    (differs : client.DiffersAt 2 maxDescriptionLength client')
    (told : fd = observer.fd ∨ observer.hidden client.context.teamUuid = false → client.arg 2 = client'.arg 2) :
    (executeChannel env fd client server).Alike observer (executeChannel env fd client' server') := by
  have answer : ∀ frame, (server.sendToClient frame fd).Alike observer (server'.sendToClient frame fd) :=
    fun _ => alike.sendToClient fd fun _ => rfl
  unfold executeChannel
  rw [← differs.context]
  rcases findAccessibleTeam_alike alike.db differs.userUuid client.context.teamUuid with
    ⟨frame, refused, refused'⟩ | ⟨team, team', accessible, accessible', present, same⟩
  · rw [refused, refused']
    exact answer frame
  rw [accessible, accessible']
  have taken : team.channels.any (·.name = client.arg 1) = team'.channels.any (·.name = client.arg 1) :=
    any_congr_map same.channels fun a b equal => by rw [Channel.blank_name_eq equal]
  simp only [Server.orSend]
  rw [← differs.length, ← differs.others 1 (by decide), ← differs.verdict, ← taken, ← alike.nextUuid env]
  split_ifs
  · exact answer _
  · exact answer _
  · exact answer _
  · unfold emitChannelCreated
    refine Server.Alike.announce (alike.generateUuid.modifyDb _ _ ?_) watches present rfl
      ⟨_, findTeam_addChannel present, rfl⟩ fun either => ?_
    · refine alike.db.modifyTeam client.context.teamUuid fun _ _ equal uuid => equal.addChannel ?_ fun shown => ?_
      · rfl
      · rw [told (Or.inr (uuid ▸ shown))]
    · rw [told either]
      exact ⟨rfl, rfl⟩

/-- The body of a new thread may differ in a hidden team. -/
theorem Create.executeThread_alike (alike : server.Alike observer server') (watches : observer.Watches server)
    (differs : client.DiffersAt 2 maxBodyLength client')
    (told : fd = observer.fd ∨ observer.hidden client.context.teamUuid = false → client.arg 2 = client'.arg 2) :
    (executeThread env fd client server).Alike observer (executeThread env fd client' server') := by
  have answer : ∀ frame, (server.sendToClient frame fd).Alike observer (server'.sendToClient frame fd) :=
    fun _ => alike.sendToClient fd fun _ => rfl
  unfold executeThread
  rw [← differs.context]
  rcases findAccessibleTeam_alike alike.db differs.userUuid client.context.teamUuid with
    ⟨frame, refused, refused'⟩ | ⟨team, team', accessible, accessible', present, -⟩
  · rw [refused, refused']
    exact answer frame
  rw [accessible, accessible']
  rcases findChannelOrSend404_alike alike.db client.context.teamUuid client.context.channelUuid with
    ⟨frame, refused, refused'⟩ | ⟨channel, channel', reached, reached', -, -, equal⟩
  · simp only [Server.orSend, refused, refused']
    exact answer frame
  have taken : channel.threads.any (·.title = client.arg 1) = channel'.threads.any (·.title = client.arg 1) :=
    any_congr_map (Channel.blank_threads_eq equal) fun a b same => by rw [Thread.blank_title_eq same]
  simp only [Server.orSend, reached, reached']
  rw [← differs.length, ← differs.others 1 (by decide), ← differs.verdict, ← differs.userUuid, ← taken,
    ← alike.nextUuid env, ← alike.nextTime env]
  split_ifs
  · exact answer _
  · exact answer _
  · exact answer _
  · unfold emitThreadCreated
    refine Server.Alike.announce (alike.generateUuid.readTime.modifyDb _ _ ?_) watches present rfl
      ⟨_, findTeam_modifyChannel present, rfl⟩ fun either => ?_
    · refine alike.db.modifyTeam client.context.teamUuid fun _ _ equal uuid =>
        equal.modifyChannel client.context.channelUuid (fun old old' same => ?_) fun shown => ?_
      · have threads := Channel.blank_threads_eq same
        unfold Channel.blank
        rw [List.map_append, List.map_append, threads, Channel.blank_uuid_eq same, Channel.blank_name_eq same]
        rfl
      · rw [told (Or.inr (uuid ▸ shown))]
    · rw [told either]
      exact ⟨rfl, rfl⟩

/-- The body of a new reply may differ in a hidden team. -/
theorem Create.executeReply_alike (alike : server.Alike observer server') (watches : observer.Watches server)
    (distinct : server.db.uuids.Nodup) (distinct' : server'.db.uuids.Nodup)
    (differs : client.DiffersAt 1 maxBodyLength client')
    (told : fd = observer.fd ∨ observer.hidden client.context.teamUuid = false → client.arg 1 = client'.arg 1) :
    (executeReply env fd client server).Alike observer (executeReply env fd client' server') := by
  have answer : ∀ frame, (server.sendToClient frame fd).Alike observer (server'.sendToClient frame fd) :=
    fun _ => alike.sendToClient fd fun _ => rfl
  unfold executeReply
  rw [← differs.context]
  rcases findAccessibleTeam_alike alike.db differs.userUuid client.context.teamUuid with
    ⟨frame, refused, refused'⟩ | ⟨team, team', accessible, accessible', present, -⟩
  · rw [refused, refused']
    exact answer frame
  rw [accessible, accessible']
  rcases findChannelOrSend404_alike alike.db client.context.teamUuid client.context.channelUuid with
    ⟨frame, refused, refused'⟩ | ⟨channel, channel', reached, reached', inside, inside', -⟩
  · simp only [Server.orSend, refused, refused']
    exact answer frame
  rcases findThreadOrSend404_alike alike.db client.context.channelUuid client.context.threadUuid with
    ⟨frame, refused, refused'⟩ | ⟨thread, thread', met, met'⟩
  · simp only [Server.orSend, reached, reached', refused, refused']
    exact answer frame
  simp only [Server.orSend, reached, reached', met, met']
  rw [← differs.length, ← differs.verdict, ← differs.userUuid, ← alike.nextUuid env, ← alike.nextTime env]
  split_ifs
  · exact answer _
  · exact answer _
  · unfold emitReplyCreated
    refine Server.Alike.announce (alike.generateUuid.readTime.modifyDb _ _ ?_) watches present rfl
      (findTeam_modifyThread present) fun either => ?_
    · -- the thread is in the team of the context
      show (server.db.modifyThread _ _ _).SameFor observer (server'.db.modifyThread _ _ _)
      rw [Database.modifyThread_of_findChannel distinct inside, Database.modifyThread_of_findChannel distinct' inside']
      refine alike.db.modifyTeam client.context.teamUuid fun _ _ equal uuid =>
        equal.modifyChannel client.context.channelUuid (fun old old' same => ?_) fun shown => ?_
      · refine Channel.blank_modifyThread same _ fun thread thread' equal => ?_
        have replies : thread.replies.map Reply.blank = thread'.replies.map Reply.blank :=
          congrArg Thread.replies equal
        have rest := congrArg (fun thread : Thread => ({ thread with replies := [] } : Thread)) equal
        unfold Thread.blank
        rw [List.map_append, List.map_append, replies]
        exact congrArg (fun thread : Thread => ({ thread with replies := _ } : Thread)) rest
      · rw [told (Or.inr (uuid ▸ shown))]
    · rw [told either]
      exact ⟨rfl, rfl⟩

/-- Which argument of CREATE is a text that may be hidden, and how long it may be. -/
def Create.textAt (context : Context) : Nat × Nat :=
  if context.channelUuid = [] then (2, maxDescriptionLength)
  else if context.threadUuid = [] then (2, maxBodyLength)
  else (1, maxBodyLength)

theorem Create.alike (alike : server.Alike observer server') (watches : observer.Watches server)
    (distinct : server.db.uuids.Nodup) (distinct' : server'.db.uuids.Nodup)
    (differs : client.DiffersAt (textAt client.context).1 (textAt client.context).2 client')
    (told : fd = observer.fd ∨ observer.hidden client.context.teamUuid = false ∨ client.context.teamUuid = [] →
      client.args = client'.args) :
    (execute env fd client server).Alike observer (execute env fd client' server') := by
  have heard : ∀ index, fd = observer.fd ∨ observer.hidden client.context.teamUuid = false →
      client.arg index = client'.arg index := by
    intro index either
    unfold Client.arg
    rw [told (either.imp_right Or.inl)]
  unfold textAt at differs
  unfold execute
  rw [← differs.userUuid, ← differs.context]
  split_ifs with session outside channel thread
  · exact alike.sendToClient fd fun _ => rfl
  · have core : client.core = client'.core := by
      unfold Client.core
      rw [differs.userUuid, differs.context, told (Or.inr (Or.inr outside))]
    have new : (executeTeam env fd client.core server).Alike observer (executeTeam env fd client.core server') :=
      executeTeam_alike alike
    rw [core] at new
    have same : executeTeam env fd client.core server = executeTeam env fd client server := rfl
    rw [← same, core]
    exact new
  · rw [if_pos channel] at differs
    exact executeChannel_alike alike watches differs (heard 2)
  · rw [if_neg channel, if_pos thread] at differs
    exact executeThread_alike alike watches differs (heard 2)
  · rw [if_neg channel, if_neg thread] at differs
    exact executeReply_alike alike watches distinct distinct' differs (heard 1)

/-! ### The commands that only read -/

theorem Database.SameFor.map_users {β : Type} {db db' : Database} (same : db.SameFor observer db') {g : User → β}
    (reads : ∀ user : User, g (user.seenBy observer) = g user) : db.users.map g = db'.users.map g := by
  have through : ∀ users : List User, users.map g = (users.map (User.seenBy observer)).map g := by
    intro users
    rw [List.map_map]
    exact List.map_congr_left fun user _ => (reads user).symm
  rw [through, through db'.users, same.users]

theorem userFields_seenBy (observer : Observer) (user : User) :
    Frame.userFields (user.seenBy observer) = Frame.userFields user := by
  unfold Frame.userFields Frame.status User.isConnected
  simp

theorem User.SameFor.userFields {user user' : User} (same : user.SameFor observer user') :
    Frame.userFields user = Frame.userFields user' := by
  rw [← userFields_seenBy observer user, same.seen, userFields_seenBy]

theorem UsersCommand.alike (alike : server.Alike observer server') :
    (execute fd client server).Alike observer (execute fd client server') := by
  unfold execute
  split_ifs
  · exact alike.sendToClient fd fun _ => rfl
  · exact alike.sendAllToClient fd fun _ => by rw [alike.db.map_users (userFields_seenBy observer)]

theorem UserCommand.alike (alike : server.Alike observer server') :
    (execute fd client server).Alike observer (execute fd client server') := by
  have answer : ∀ frame, (server.sendToClient frame fd).Alike observer (server'.sendToClient frame fd) :=
    fun _ => alike.sendToClient fd fun _ => rfl
  unfold execute
  split_ifs
  · exact answer _
  · exact answer _
  rcases alike.db.findUser (client.arg 1) with ⟨none, none'⟩ | ⟨user, user', found, found', same⟩
  · rw [none, none']
    exact answer _
  · have shown : Frame.okUser user = Frame.okUser user' := by
      unfold Frame.okUser
      rw [same.userFields]
    simp only [found, found', shown]
    exact answer _

theorem Subscribed.alike (alike : server.Alike observer server') :
    (execute fd client server).Alike observer (execute fd client server') := by
  have answer : ∀ frame, (server.sendToClient frame fd).Alike observer (server'.sendToClient frame fd) :=
    fun _ => alike.sendToClient fd fun _ => rfl
  unfold execute
  split_ifs
  · exact answer _
  · have teams : ∀ teams : List Team, (teams.filter (·.isUserSubscribed client.userUuid)).map
        (fun team => Frame.namedFields team.uuid team.name team.description)
        = ((teams.map (Team.seenBy observer)).filter (·.isUserSubscribed client.userUuid)).map
          fun team => Frame.namedFields team.uuid team.name team.description := by
      intro teams
      rw [List.filter_map, List.map_map]
      congr 1
      · funext team
        simp
      · refine List.filter_congr fun team _ => ?_
        simp [Team.isUserSubscribed]
    refine alike.sendAllToClient fd fun _ => ?_
    rw [teams, teams server'.db.teams, alike.db.teams]
  · exact answer _
  · unfold listSubscribedUsers
    rcases alike.db.findTeam (client.arg 1) with ⟨none, none'⟩ | ⟨team, team', found, found', same⟩
    · rw [none, none']
      exact answer _
    · have each : ∀ uuid, (server.db.findUser uuid).map Frame.userFields
          = (server'.db.findUser uuid).map Frame.userFields := by
        intro uuid
        rcases alike.db.findUser uuid with ⟨none, none'⟩ | ⟨user, user', met, met', equal⟩
        · rw [none, none']
        · rw [met, met', Option.map_some, Option.map_some, equal.userFields]
      simp only [found, found']
      refine alike.sendAllToClient fd fun _ => ?_
      rw [List.map_filterMap, List.map_filterMap, ← same.subscriberUuids]
      simp only [each]
  · exact answer _

theorem Messages.alike (alike : server.Alike observer server')
    (user : fd = observer.fd → client.userUuid = observer.userUuid) :
    (execute fd client server).Alike observer (execute fd client server') := by
  have answer : ∀ frame, (server.sendToClient frame fd).Alike observer (server'.sendToClient frame fd) :=
    fun _ => alike.sendToClient fd fun _ => rfl
  unfold execute
  split_ifs
  · exact answer _
  · exact answer _
  · exact answer _
  rcases alike.db.findUser client.userUuid with ⟨none, none'⟩ | ⟨sender, sender', found, found', same⟩
  · rw [none, none']
    exact answer _
  rcases alike.db.findUser (client.arg 1) with ⟨none, none'⟩ | ⟨receiver, receiver', met, met', -⟩
  · simp only [found, found', none, none']
    exact answer _
  · simp only [found, found', met, met']
    by_cases own : fd = observer.fd
    · rw [same.own ((find?_key found).2.trans (user own))]
      cases sender'.messages.find? (client.arg 1) <;> exact alike.sendAllToClient fd fun _ => rfl
    · cases sender.messages.find? (client.arg 1) <;> cases sender'.messages.find? (client.arg 1) <;>
        exact alike.sendAllToClient fd fun same => absurd same own

theorem ListCommand.checkTeam_alike {db db' : Database} (same : db.SameFor observer db') (client : Client) :
    checkTeam client db = checkTeam client db' := by
  unfold checkTeam
  split_ifs
  · rfl
  rcases same.findTeam client.context.teamUuid with ⟨none, none'⟩ | ⟨team, team', found, found', equal⟩
  · rw [none, none']
  · rw [found, found']
    simp only [equal.isUserSubscribed]

/-- The context of the observer, once the check in front of LIST and INFO has passed. -/
structure SameWithin (context : Context) (db db' : Database) : Prop where
  team : context.teamUuid ≠ [] → db.findTeam context.teamUuid = db'.findTeam context.teamUuid
  channel : context.teamUuid ≠ [] →
    db.findChannel context.teamUuid context.channelUuid = db'.findChannel context.teamUuid context.channelUuid
  thread : context.teamUuid ≠ [] → context.threadUuid ≠ [] →
    db.findThread context.channelUuid context.threadUuid = db'.findThread context.channelUuid context.threadUuid

/-- A subscriber's team is open, so everything in it is the same. -/
theorem sameWithin_of_checked (alike : server.Alike observer server') (watches : observer.Watches server)
    (distinct : Distinct server.db.uuids) (distinct' : Distinct server'.db.uuids)
    (user : client.userUuid = observer.userUuid) (within : client.context.Within server.db)
    (checked : ListCommand.checkTeam client server.db = .ok ()) : SameWithin client.context server.db server'.db := by
  have teams : client.context.teamUuid ≠ [] →
      server.db.findTeam client.context.teamUuid = server'.db.findTeam client.context.teamUuid := by
    intro entered
    unfold ListCommand.checkTeam at checked
    rw [if_neg entered] at checked
    rcases alike.db.findTeam client.context.teamUuid with ⟨none, none'⟩ | ⟨team, team', found, found', same⟩
    · rw [none, none']
    · rw [found] at checked
      simp only at checked
      split_ifs at checked with subscribed
      have member := user ▸ Team.isUserSubscribed_iff.mp subscribed
      have shown := watches.open_of_member found watches.session member
      rw [found, found', same.open_eq ((find?_key found).2.symm ▸ shown)]
  have channels : client.context.teamUuid ≠ [] → server.db.findChannel client.context.teamUuid
      client.context.channelUuid = server'.db.findChannel client.context.teamUuid client.context.channelUuid := by
    intro entered
    unfold Database.findChannel
    rw [teams entered]
  refine ⟨teams, channels, fun entered deep => ?_⟩
  obtain ⟨-, team, channel, present, inside⟩ := within.inside distinct.named (Or.inr deep)
  have found := Database.findChannel_eq_some_iff.mpr ⟨team, present, inside⟩
  rw [Database.findThread_of_findChannel distinct.nodup found,
    Database.findThread_of_findChannel distinct'.nodup (channels entered ▸ found)]

/-- What another connection is shown does not matter. -/
theorem shown_alike {verb : Verb} (alike : server.Alike observer server') (other : fd ≠ observer.fd)
    (found : server.clients.find? fd = some client) (found' : server'.clients.find? fd = some client')
    (reads : verb = .list ∨ verb = .info) :
    (verb.command env fd client server).Alike observer (verb.command env fd client' server') := by
  have answers : ∀ {client : Client} {server : Server}, server.clients.find? fd = some client →
      ∃ frames, verb.command env fd client server = server.sendAllToClient frames fd := by
    intro client server found
    obtain ⟨outcome, serves, committed⟩ : Served env fd client server verb _ := commands_serve verb found
    rw [committed]
    cases serves with
    | refused | shown => exact ⟨_, Outcome.commit_answer found _⟩
    | _ => rcases reads with wrong | wrong <;> cases wrong
  obtain ⟨frames, shown⟩ := answers found
  obtain ⟨frames', shown'⟩ := answers found'
  rw [shown, shown']
  exact alike.sendAllToClient fd fun own => absurd own other

theorem ListCommand.alike (alike : server.Alike observer server')
    (same : checkTeam client server.db = .ok () → SameWithin client.context server.db server'.db) :
    (execute fd client server).Alike observer (execute fd client server') := by
  have answer : ∀ frame, (server.sendToClient frame fd).Alike observer (server'.sendToClient frame fd) :=
    fun _ => alike.sendToClient fd fun _ => rfl
  have listing : ∀ frames, (server.sendAllToClient frames fd).Alike observer (server'.sendAllToClient frames fd) :=
    fun _ => alike.sendAllToClient fd fun _ => rfl
  unfold execute
  rw [← checkTeam_alike alike.db client]
  by_cases session : client.userUuid = []
  · rw [if_pos session, if_pos session]
    exact answer _
  rw [if_neg session, if_neg session]
  cases checked : checkTeam client server.db with
  | error frame => exact answer frame
  | ok =>
    have same := same checked
    simp only [Server.orSend]
    split_ifs with inThread inChannel inTeam
    · unfold executeReply
      rw [← same.thread inThread.2.2 inThread.2.1]
      cases server.db.findThread client.context.channelUuid client.context.threadUuid with
      | none => exact answer _
      | some thread => exact listing _
    · unfold executeThread
      rw [← same.channel inChannel.2]
      cases server.db.findChannel client.context.teamUuid client.context.channelUuid with
      | none => exact answer _
      | some channel => exact listing _
    · unfold executeChannel
      rw [← same.team inTeam]
      cases server.db.findTeam client.context.teamUuid with
      | none => exact answer _
      | some team => exact listing _
    · have teams : ∀ teams : List Team,
          teams.map (fun team => Frame.namedFields team.uuid team.name team.description)
            = (teams.map (Team.seenBy observer)).map fun team =>
              Frame.namedFields team.uuid team.name team.description := by
        intro teams
        rw [List.map_map]
        refine List.map_congr_left fun team _ => ?_
        simp
      unfold executeTeam
      rw [teams, alike.db.teams, ← teams]
      exact listing _

theorem Info.alike (alike : server.Alike observer server') (distinct : Distinct server.db.uuids)
    (within : client.context.Within server.db)
    (same : ListCommand.checkTeam client server.db = .ok () → SameWithin client.context server.db server'.db) :
    (execute fd client server).Alike observer (execute fd client server') := by
  have answer : ∀ frame, (server.sendToClient frame fd).Alike observer (server'.sendToClient frame fd) :=
    fun _ => alike.sendToClient fd fun _ => rfl
  unfold execute
  rw [← ListCommand.checkTeam_alike alike.db client]
  by_cases session : client.userUuid = []
  · rw [if_pos session, if_pos session]
    exact answer _
  rw [if_neg session, if_neg session]
  cases checked : ListCommand.checkTeam client server.db with
  | error frame => exact answer frame
  | ok =>
    have same := same checked
    simp only [Server.orSend]
    split_ifs with inThread inChannel inTeam
    · have entered := (within.inside distinct.named (Or.inr inThread)).1
      unfold executeThread
      rw [← same.thread entered inThread]
      cases server.db.findThread client.context.channelUuid client.context.threadUuid with
      | none => exact answer _
      | some thread => exact answer _
    · have entered := (within.inside distinct.named (Or.inl inChannel)).1
      unfold executeChannel
      rw [← same.channel entered]
      cases server.db.findChannel client.context.teamUuid client.context.channelUuid with
      | none => exact answer _
      | some channel => exact answer _
    · unfold executeTeam
      rw [← same.team inTeam]
      cases server.db.findTeam client.context.teamUuid with
      | none => exact answer _
      | some team => exact answer _
    · unfold executeUser
      rw [if_neg session, if_neg session]
      rcases alike.db.findUser client.userUuid with ⟨none, none'⟩ | ⟨user, user', found, found', equal⟩
      · rw [none, none']
        exact answer _
      · have shown : Frame.infoUser user = Frame.infoUser user' := by
          unfold Frame.infoUser
          rw [equal.userFields]
        simp only [found, found', shown]
        exact answer _

/-! ### Every command -/

/-- **The same command keeps what the two servers have in common.** -/
theorem command_alike (verb : Verb) (alike : server.Alike observer server') (watches : observer.Watches server)
    (distinct : Distinct server.db.uuids) (distinct' : Distinct server'.db.uuids)
    (found : server.clients.find? fd = some client) (found' : server'.clients.find? fd = some client')
    (core : client.core = client'.core)
    (own : fd = observer.fd → client.userUuid = observer.userUuid ∧ client.context.Within server.db) :
    (verb.command env fd client server).Alike observer (verb.command env fd client' server') := by
  have same : ∀ reads : verb = .list ∨ verb = .info,
      fd ≠ observer.fd ∨ (ListCommand.checkTeam client.core server.db = .ok () →
        SameWithin client.core.context server.db server'.db) := by
    intro reads
    by_cases here : fd = observer.fd
    · exact Or.inr fun checked =>
        sameWithin_of_checked alike watches distinct distinct' (own here).1 (own here).2 checked
    · exact Or.inl here
  by_cases silent : (verb = .list ∨ verb = .info) ∧ fd ≠ observer.fd
  · exact shown_alike alike silent.2 found found' silent.1
  have here : verb = .list ∨ verb = .info → fd = observer.fd := fun reads =>
    not_not.mp fun other => silent ⟨reads, other⟩
  rw [command_core, command_core env fd client', ← core]
  cases verb with
  | login => exact Login.alike alike
  | logout => exact Logout.alike alike
  | use => exact Use.alike alike
  | create => exact Create.alike alike watches distinct.nodup distinct'.nodup (.refl _) fun _ => rfl
  | subscribe => exact Subscribe.alike alike
  | unsubscribe => exact Unsubscribe.alike alike
  | send => exact Send.alike alike watches (.refl _) fun _ => rfl
  | users => exact UsersCommand.alike alike
  | user => exact UserCommand.alike alike
  | subscribed => exact Subscribed.alike alike
  | messages => exact Messages.alike alike fun here => (own here).1
  | list =>
    have reads := here (Or.inl rfl)
    exact ListCommand.alike alike fun checked => (same (Or.inl rfl)).resolve_left (fun other => other reads) checked
  | info =>
    have reads := here (Or.inr rfl)
    exact Info.alike alike distinct (own reads).2 fun checked =>
      (same (Or.inr rfl)).resolve_left (fun other => other reads) checked

end Commands

/-! ### Steps -/

/-- Two events that may be different for all the observer knows: what others send in pieces, and the lines of
others that differ in one text, which is a message to somebody else or inside a hidden team. -/
inductive Event.DifferFor (observer : Observer) (server : Server) : Event → Event → Prop
  | same (event : Event) : DifferFor observer server event event
  | buffer {fd : Int} (data data' : Bytes) : fd ≠ observer.fd →
      DifferFor observer server (.buffer fd data) (.buffer fd data')
  | consume {fd : Int} (count count' : Nat) : fd ≠ observer.fd →
      DifferFor observer server (.consume fd count) (.consume fd count')
  | write {fd : Int} (count count' : Nat) : fd ≠ observer.fd →
      DifferFor observer server (.write fd count) (.write fd count')
  | send {fd : Int} {session : Session} {rawCommand rawCommand' text : Bytes} : fd ≠ observer.fd →
      server.session fd = some session → session.userUuid ≠ observer.userUuid →
      (CommandHandling.parseArgs rawCommand).head? = some Verb.send.text →
      (CommandHandling.parseArgs rawCommand).getD 1 [] ≠ observer.userUuid →
      CommandHandling.parseArgs rawCommand' = (CommandHandling.parseArgs rawCommand).set 2 text →
      Create.isInvalidLength ((CommandHandling.parseArgs rawCommand).getD 2 []) Send.maxBodyLength
        = Create.isInvalidLength text Send.maxBodyLength →
      DifferFor observer server (.line fd rawCommand) (.line fd rawCommand')
  | create {fd : Int} {session : Session} {rawCommand rawCommand' text : Bytes} : fd ≠ observer.fd →
      server.session fd = some session → session.context.teamUuid ≠ [] →
      observer.hidden session.context.teamUuid = true →
      (CommandHandling.parseArgs rawCommand).head? = some Verb.create.text →
      CommandHandling.parseArgs rawCommand'
        = (CommandHandling.parseArgs rawCommand).set (Create.textAt session.context).1 text →
      Create.isInvalidLength ((CommandHandling.parseArgs rawCommand).getD (Create.textAt session.context).1 [])
          (Create.textAt session.context).2
        = Create.isInvalidLength text (Create.textAt session.context).2 →
      DifferFor observer server (.line fd rawCommand) (.line fd rawCommand')

section Steps

variable {env : Env} {observer : Observer} {fd : Int} {client client' : Client} {server server' : Server}

theorem Server.Alike.find? (alike : server.Alike observer server') (fd : Int) :
    (server.clients.find? fd = none ∧ server'.clients.find? fd = none) ∨
      ∃ client client', server.clients.find? fd = some client ∧ server'.clients.find? fd = some client' ∧
        client.session = client'.session := by
  have sessions := alike.sessions fd
  unfold Server.session at sessions
  exact alike_cases sessions

theorem Observer.Watches.setArgs (watches : observer.Watches server) (fd : Int) (args : List Bytes) :
    observer.Watches (server.modifyClient fd (Client.setArgs args)) := by
  refine ⟨?_, watches.outside⟩
  unfold Server.IsSessionOf
  rw [session_modifyClient (quiet_setArgs args)]
  exact watches.session

theorem head?_set {args : List Bytes} {index : Nat} {text : Bytes} (positive : index ≠ 0) :
    (args.set index text).head? = args.head? := by
  rw [List.head?_eq_getElem?, List.head?_eq_getElem?, List.getElem?_set_ne positive]

/-- Arguments that differ in one place. -/
theorem differsAt_setArgs (session : client.session = client'.session) {args args' : List Bytes} {index limit : Nat}
    {text : Bytes} (differ : args' = args.set index text)
    (verdict : Create.isInvalidLength (args.getD index []) limit = Create.isInvalidLength text limit) :
    (client.setArgs args).DiffersAt index limit (client'.setArgs args') := by
  refine ⟨session, ?_, fun other different => ?_, ?_⟩
  · show args.length = args'.length
    rw [differ, List.length_set]
  · show args.getD other [] = args'.getD other []
    rw [differ, List.getD_eq_getElem?_getD, List.getD_eq_getElem?_getD, List.getElem?_set_ne different.symm]
  · show Create.isInvalidLength (args.getD index []) limit = Create.isInvalidLength (args'.getD index []) limit
    rw [differ]
    by_cases inside : index < args.length
    · rw [verdict, List.getD_eq_getElem?_getD, List.getElem?_set_self inside]
      rfl
    · rw [List.set_eq_of_length_le (not_lt.mp inside)]

/-- The clients behind a connection, once the arguments of a line are stored. -/
theorem Server.Alike.setArgs (alike : server.Alike observer server') (fd : Int) {args args' : List Bytes}
    (own : fd = observer.fd → args = args') :
    (server.modifyClient fd (Client.setArgs args)).Alike observer (server'.modifyClient fd (Client.setArgs args')) :=
  alike.modifyClient fd (fun _ _ same => same) fun here => by rw [own here]

/-- The same line. -/
theorem line_alike (alike : server.Alike observer server') (watches : observer.Watches server)
    (distinct : Distinct server.db.uuids) (distinct' : Distinct server'.db.uuids) (within : ContextsWithin server)
    (fd : Int) (rawCommand : Bytes) :
    (CommandHandling.handleCommand env rawCommand fd server).Alike observer
      (CommandHandling.handleCommand env rawCommand fd server') := by
  rcases alike.find? fd with ⟨missing, missing'⟩ | ⟨client, client', found, found', session⟩
  · rw [handleCommand_of_none env rawCommand missing, handleCommand_of_none env rawCommand missing']
    exact alike
  unfold CommandHandling.handleCommand
  rw [found, found']
  cases parsed : CommandHandling.parseArgs rawCommand with
  | nil => exact alike
  | cons name rest =>
    have stored := alike.setArgs fd (fun _ => rfl : fd = observer.fd → name :: rest = name :: rest)
    simp only
    cases registered : CommandHandling.verbs.lookup name with
    | none => exact stored
    | some verb =>
      refine command_alike verb stored (watches.setArgs fd _) distinct distinct' (find?_setArgs found _)
        (find?_setArgs found' _) ?_ fun own => ⟨?_, ?_⟩
      · have user : client.userUuid = client'.userUuid := congrArg Session.userUuid session
        have context : client.context = client'.context := congrArg Session.context session
        show Client.core { client with args := name :: rest } = Client.core { client' with args := name :: rest }
        unfold Client.core
        rw [user, context]
      · have owner : server.IsSessionOf fd client.userUuid := isSessionOf_of_found found
        exact IsSessionOf.unique (own ▸ owner) watches.session
      · exact within fd client.session (session_of_found found)

/-- Two messages of one session. -/
theorem send_alike (alike : server.Alike observer server') (watches : observer.Watches server)
    {session : Session} {rawCommand rawCommand' text : Bytes} (other : fd ≠ observer.fd)
    (present : server.session fd = some session) (sender : session.userUuid ≠ observer.userUuid)
    (named : (CommandHandling.parseArgs rawCommand).head? = some Verb.send.text)
    (receiver : (CommandHandling.parseArgs rawCommand).getD 1 [] ≠ observer.userUuid)
    (differ : CommandHandling.parseArgs rawCommand' = (CommandHandling.parseArgs rawCommand).set 2 text)
    (verdict : Create.isInvalidLength ((CommandHandling.parseArgs rawCommand).getD 2 []) Send.maxBodyLength
      = Create.isInvalidLength text Send.maxBodyLength) :
    (CommandHandling.handleCommand env rawCommand fd server).Alike observer
      (CommandHandling.handleCommand env rawCommand' fd server') := by
  rcases alike.find? fd with ⟨missing, -⟩ | ⟨client, client', found, found', same⟩
  · unfold Server.session at present
    rw [missing] at present
    cases present
  have named' : (CommandHandling.parseArgs rawCommand').head? = some Verb.send.text := by
    rw [differ, head?_set (by decide), named]
  rw [session_of_found found] at present
  cases present
  rw [handleCommand_of_named env found named, handleCommand_of_named env found' named']
  refine Send.alike (alike.setArgs fd fun own => absurd own other) (watches.setArgs fd _)
    (differsAt_setArgs same differ verdict) fun either => ?_
  rcases either with own | sends | receives
  · exact absurd own other
  · exact absurd sends sender
  · exact absurd receives receiver

/-- Two lines about something new in a hidden team. -/
theorem create_alike (alike : server.Alike observer server') (watches : observer.Watches server)
    (distinct : Distinct server.db.uuids) (distinct' : Distinct server'.db.uuids)
    {session : Session} {rawCommand rawCommand' text : Bytes} (other : fd ≠ observer.fd)
    (present : server.session fd = some session) (entered : session.context.teamUuid ≠ [])
    (hidden : observer.hidden session.context.teamUuid = true)
    (named : (CommandHandling.parseArgs rawCommand).head? = some Verb.create.text)
    (differ : CommandHandling.parseArgs rawCommand'
      = (CommandHandling.parseArgs rawCommand).set (Create.textAt session.context).1 text)
    (verdict : Create.isInvalidLength ((CommandHandling.parseArgs rawCommand).getD (Create.textAt session.context).1 [])
        (Create.textAt session.context).2
      = Create.isInvalidLength text (Create.textAt session.context).2) :
    (CommandHandling.handleCommand env rawCommand fd server).Alike observer
      (CommandHandling.handleCommand env rawCommand' fd server') := by
  rcases alike.find? fd with ⟨missing, -⟩ | ⟨client, client', found, found', same⟩
  · unfold Server.session at present
    rw [missing] at present
    cases present
  have positive : (Create.textAt session.context).1 ≠ 0 := by
    unfold Create.textAt
    split_ifs <;> decide
  have named' : (CommandHandling.parseArgs rawCommand').head? = some Verb.create.text := by
    rw [differ, head?_set positive, named]
  rw [session_of_found found] at present
  cases present
  rw [handleCommand_of_named env found named, handleCommand_of_named env found' named']
  refine Create.alike (alike.setArgs fd fun own => absurd own other) (watches.setArgs fd _) distinct.nodup
    distinct'.nodup (differsAt_setArgs same differ verdict) fun either => ?_
  rcases either with own | shown | outside
  · exact absurd own other
  · exact absurd (hidden.symm.trans shown) (by decide)
  · exact absurd outside entered

/-- A lost connection. -/
theorem disconnect_alike (alike : server.Alike observer server') (fd : Int) :
    (server.disconnectClient fd).Alike observer (server'.disconnectClient fd) := by
  have erased : Server.Alike observer { server with clients := server.clients.erase fd }
      { server' with clients := server'.clients.erase fd } := by
    refine ⟨?_, fun other => ?_, alike.db, alike.uuidCalls, alike.timeCalls⟩
    · show (server.clients.erase fd).find? observer.fd = (server'.clients.erase fd).find? observer.fd
      rw [SortedMap.find?_erase, SortedMap.find?_erase, alike.own]
    · have first := @session_erase server fd other server.db
      have second := @session_erase server' fd other server'.db
      exact first.trans (alike.sessions other ▸ second.symm)
  unfold Server.disconnectClient
  rcases alike.find? fd with ⟨missing, missing'⟩ | ⟨client, client', found, found', session⟩
  · rw [missing, missing']
    exact alike
  have user : client.userUuid = client'.userUuid := congrArg Session.userUuid session
  simp only [found, found', ← user]
  split_ifs
  · exact erased
  rcases alike.db.findUser client.userUuid with ⟨none, none'⟩ | ⟨user, user', met, met', same⟩
  · rw [none, none']
    exact erased
  · have left := erased.modifyDb _ _ (alike.db.modifyUser client.userUuid fun _ _ same _ => same.decrement)
    have connected : user.decrementConnection.isConnected = user'.decrementConnection.isConnected := by
      unfold User.isConnected
      rw [same.decrement.connectedCount]
    have event : Frame.eventLoggedOut user = Frame.eventLoggedOut user' := by
      unfold Frame.eventLoggedOut
      rw [same.uuid, same.name]
    simp only [met, met', ← connected, ← event]
    split_ifs
    · exact left
    · exact left.broadcast _

/-- A new connection. -/
theorem accept_alike (alike : server.Alike observer server') (fd : Int) :
    (server.acceptClient fd).Alike observer (server'.acceptClient fd) := by
  refine ⟨?_, fun other => ?_, alike.db, alike.uuidCalls, alike.timeCalls⟩
  · unfold Server.acceptClient
    rw [SortedMap.find?_emplace, SortedMap.find?_emplace, alike.own]
    split_ifs with same
    · rw [← same, alike.own]
    · rfl
  · unfold Server.session Server.acceptClient
    rw [SortedMap.find?_emplace, SortedMap.find?_emplace]
    split_ifs
    · rcases alike.find? fd with ⟨missing, missing'⟩ | ⟨client, client', found, found', session⟩
      · rw [missing, missing']
      · rw [found, found']
        exact congrArg some session
    · exact alike.sessions other

/-- **Every step keeps what the two servers have in common.** -/
theorem step_alike {event event' : Event} (alike : server.Alike observer server') (watches : observer.Watches server)
    (still : observer.Watches (server.step env event)) (distinct : Distinct server.db.uuids)
    (distinct' : Distinct server'.db.uuids) (within : ContextsWithin server)
    (differ : event.DifferFor observer server event') :
    (server.step env event).Alike observer (server'.step env event') := by
  have apart : ∀ {f f' : Client → Client} {fd : Int}, (∀ client, (f client).session = client.session) →
      (∀ client, (f' client).session = client.session) → (fd = observer.fd → f = f') →
      (server.modifyClient fd f).Alike observer (server'.modifyClient fd f') := fun first second own =>
    alike.modifyClient _ (fun client client' same => (first client).trans (same.trans (second client').symm)) own
  cases differ with
  | same =>
    cases event with
    | accept fd => exact accept_alike alike fd
    | buffer | consume | write => exact apart (fun _ => rfl) (fun _ => rfl) fun _ => rfl
    | line fd rawCommand => exact line_alike alike watches distinct distinct' within fd rawCommand
    | updateFlags =>
      have quiet : ∀ fd : Int, Quiet fun client : Client =>
          { client with pollOutEnabled := !client.writeBuffer.isEmpty } := fun _ =>
        ⟨fun _ => rfl, fun _ => rfl, fun _ => rfl⟩
      refine ⟨?_, fun other => ?_, alike.db, alike.uuidCalls, alike.timeCalls⟩
      · show (server.clients.mapWithKey _).find? _ = (server'.clients.mapWithKey _).find? _
        rw [SortedMap.find?_mapWithKey, SortedMap.find?_mapWithKey, alike.own]
      · exact (session_modifyClients quiet other).trans
          ((alike.sessions other).trans (session_modifyClients quiet other).symm)
    | disconnect fd => exact disconnect_alike alike fd
    | restart =>
      -- nobody is connected after a restart
      have closed : (server.restart env).session observer.fd = none := by
        rw [restart_eq]
        rfl
      have session : (server.restart env).IsSessionOf observer.fd observer.userUuid := still.session
      unfold Server.IsSessionOf at session
      rw [closed] at session
      cases session
  | buffer | consume | write => exact apart (fun _ => rfl) (fun _ => rfl) fun own => absurd own ‹_›
  | send other present sender named receiver differ verdict =>
    exact send_alike alike watches other present sender named receiver differ verdict
  | create other present entered hidden named differ verdict =>
    exact create_alike alike watches distinct distinct' other present entered hidden named differ verdict

end Steps

/-! ### Runs -/

/-- What the unwinding carries along: the two servers have the observer's view in common, and each of them is in
order. -/
structure Observer.Carries (observer : Observer) (env : Env) (past : List Bytes) (server server' : Server) :
    Prop where
  alike : server.Alike observer server'
  supplied : Supplied env past server.uuidCalls server.db.uuids
  supplied' : Supplied env past server'.uuidCalls server'.db.uuids
  named : [] ∉ server.db.uuids
  named' : [] ∉ server'.db.uuids
  within : ContextsWithin server

/-- One step carries all of it along. -/
theorem Observer.Carries.step {env : Env} {observer : Observer} {past : List Bytes} {server server' : Server}
    {event event' : Event} (carries : observer.Carries env past server server')
    (watches : observer.Watches server) (still : observer.Watches (server.step env event))
    (fresh : env.Fresh past (server.step env event).uuidCalls) (differ : event.DifferFor observer server event') :
    observer.Carries env past (server.step env event) (server'.step env event') := by
  have alike := step_alike carries.alike watches still ⟨carries.supplied.nodup, carries.named⟩
    ⟨carries.supplied'.nodup, carries.named'⟩ carries.within differ
  have fresh' : env.Fresh past (server'.step env event').uuidCalls := alike.uuidCalls ▸ fresh
  exact ⟨alike, carries.supplied.grows fresh (step_uuids (step_steps env server event)),
    carries.supplied'.grows fresh' (step_uuids (step_steps env server' event')), step_named event carries.named,
    step_named event' carries.named', step_within event carries.supplied.nodup carries.within⟩

/-- **Private texts stay private.** A connection belongs to a user who is no subscriber of certain teams. Two runs
of the server differ, in what other connections send, only in messages between other users and in what they write
inside these teams: descriptions of channels, bodies of threads and replies. Then the connection is sent the same
messages in both. -/
theorem texts_stay_private (env : Env) {db : Database} (start : SelfSaved db) (before first second : List Event)
    (observer : Observer)
    (fresh : env.Fresh db.uuids (run (Server.step env) { db := db } (before ++ first)).uuidCalls)
    (watches : ∀ early, early <+: first →
      observer.Watches (run (Server.step env) (run (Server.step env) { db := db } before) early))
    (differ : Corresponds (Server.step env) (Event.DifferFor observer)
      (run (Server.step env) { db := db } before) first second) :
    let server := run (Server.step env) { db := db } before
    server.newFrames observer.fd (run (Server.step env) server first)
      = server.newFrames observer.fd (run (Server.step env) server second) := by
  intro server
  have earlier : env.Fresh db.uuids server.uuidCalls := fresh_of_before (List.prefix_append before first) fresh
  have initial : Supplied env db.uuids 0 db.uuids := ⟨start.distinct.nodup, fun _ => Or.inl⟩
  have supplied : Supplied env db.uuids server.uuidCalls server.db.uuids := run_supplied initial before earlier
  have named : [] ∉ server.db.uuids := run_named start.distinct.named before
  rw [run_append] at fresh
  have carries : observer.Carries env db.uuids (run (Server.step env) server first)
      (run (Server.step env) server second) := by
    refine run_related (fun server => observer.Watches server ∧ env.Fresh db.uuids server.uuidCalls)
      (fun assumed next carries related => carries.step assumed.1 next.1 next.2 related) differ
      (fun early initial => ⟨watches early initial, fresh_of_before initial fresh⟩)
      ⟨.refl server, supplied, supplied, named, named, run_within start.distinct before earlier⟩
  unfold Server.newFrames Server.appendedTo
  rw [carries.alike.own]

/-- While ann writes about one thing or another in a team and bob sends her one message or another, cat lists
the users and the messages that she has with ann. -/
theorem texts_stay_private_sample :
    let before := [Event.accept 4, .accept 5, .accept 6, .line 4 (ascii "/login \"ann\""),
      .line 5 (ascii "/login \"bob\""), .line 6 (ascii "/login \"cat\""),
      .line 4 (ascii "/create \"red\" \"first\""), .line 4 (ascii "/use \"" ++ (digitUuid 3).1 ++ ascii "\"")]
    let during := fun description body : String => [Event.line 4 (ascii ("/create \"hall\" \"" ++ description ++ "\"")),
      .line 5 (ascii "/send \"" ++ (digitUuid 0).1 ++ ascii ("\" \"" ++ body ++ "\"")),
      .line 6 (ascii "/messages \"" ++ (digitUuid 0).1 ++ ascii "\""), .line 6 (ascii "/users")]
    let server := run (Server.step sampleEnv) {} before
    server.newFrames 6 (run (Server.step sampleEnv) server (during "big" "hello"))
        = server.newFrames 6 (run (Server.step sampleEnv) server (during "tiny" "bye")) ∧
      (server.newFrames 6 (run (Server.step sampleEnv) server (during "big" "hello"))).length = 7 := by
  intro before during server
  refine ⟨texts_stay_private sampleEnv .empty before (during "big" "hello") (during "tiny" "bye")
    ⟨6, (digitUuid 2).1, fun uuid => uuid = (digitUuid 3).1⟩ (sampleEnv_fresh.of_le (by decide +kernel))
    (fun early initial => ?_) ?_, by decide +kernel⟩
  · have each : ∀ prior ∈ List.inits (during "big" "hello"),
        (run (Server.step sampleEnv) server prior).IsSessionOf 6 (digitUuid 2).1 ∧
          ∀ team ∈ (run (Server.step sampleEnv) server prior).db.teams,
            decide (team.uuid = (digitUuid 3).1) = true → (digitUuid 2).1 ∉ team.subscriberUuids := by
      decide +kernel
    obtain ⟨session, outside⟩ := each early ((List.mem_inits _ _).mpr initial)
    exact ⟨session, outside⟩
  · refine .cons (.create (by decide) (show Server.session 4 _ = some ⟨(digitUuid 0).1, ⟨(digitUuid 3).1, [], []⟩⟩ by
      decide +kernel) (by decide) (by decide) (by decide +kernel)
      (show _ = List.set _ (Create.textAt _).1 (ascii "tiny") by decide +kernel) (by decide +kernel)) ?_
    refine .cons (.send (by decide) (show Server.session 5 _ = some ⟨(digitUuid 1).1, {}⟩ by
      decide +kernel) (by decide) (by decide +kernel) (by decide +kernel)
      (show _ = List.set _ 2 (ascii "bye") by decide +kernel) (by decide +kernel)) ?_
    exact .cons (.same _) (.cons (.same _) (.nil _))

end MyTeams
