/-
**Subscriptions follow the history.**

A user is a subscriber of a team exactly if the last step that succeeded for the two of them (the user
creating the team, SUBSCRIBE, UNSUBSCRIBE) was not an UNSUBSCRIBE. `Subscribes` and `Unsubscribes` read
these steps off the lines and their answers, `HasSubscriber` is what the database says.

* `serves_rolls` — what every command does to the subscriber lists;
* `step_effects` — a step that subscribes sets `HasSubscriber`, one that unsubscribes clears it, and
  every other step keeps it;
* `mentions_teamsOf`, `mentions_subscribersOf` — both views show this, with every item once;
* `subscription_views` — so over every run the two views and the history agree.
-/

import Mathlib.Tactic.TFAE
import MyTeams.Invariants.WellFormed
import MyTeams.Server.Session

namespace MyTeams

open Transition FirstMatch

/-! ### The history -/

/-- The connection behind `fd` belongs to `userUuid`, and its line with this command gets an answer with
this code. -/
structure Server.Succeeds (env : Env) (server : Server) (userUuid : Bytes) (fd : Int) (rawCommand : Bytes)
    (verb : Verb) (answer : Frame) : Prop where
  session : server.IsSessionOf fd userUuid
  named : (CommandHandling.parseArgs rawCommand).head? = some verb.text
  answered : answer ∈ server.newFrames fd (server.step env (.line fd rawCommand))

/-- A step that makes a user a subscriber of a team: creating the team, or SUBSCRIBE, also if repeated. -/
inductive Server.Subscribes (env : Env) (server : Server) (userUuid teamUuid : Bytes) : Event → Prop
  | creates {fd : Int} {rawCommand : Bytes} {team : Team} : team.uuid = teamUuid →
      server.Succeeds env userUuid fd rawCommand .create (Frame.createdTeam team) →
      Subscribes env server userUuid teamUuid (.line fd rawCommand)
  | subscribes {fd : Int} {rawCommand : Bytes} :
      server.Succeeds env userUuid fd rawCommand .subscribe (Frame.okSubscribe userUuid teamUuid) →
      Subscribes env server userUuid teamUuid (.line fd rawCommand)

/-- A step that ends the subscription of a user. -/
inductive Server.Unsubscribes (env : Env) (server : Server) (userUuid teamUuid : Bytes) : Event → Prop
  | unsubscribes {fd : Int} {rawCommand : Bytes} :
      server.Succeeds env userUuid fd rawCommand .unsubscribe (Frame.okUnsubscribe userUuid teamUuid) →
      Unsubscribes env server userUuid teamUuid (.line fd rawCommand)

/-- The user is a subscriber of the team that has this uuid. -/
def Database.HasSubscriber (userUuid teamUuid : Bytes) (db : Database) : Prop :=
  ∃ team, db.findTeam teamUuid = some team ∧ userUuid ∈ team.subscriberUuids

/-! ### Subscriber lists -/

/-- What a subscription depends on: the uuid of a team and its subscribers. -/
def Team.roll (team : Team) : Bytes × List Bytes := (team.uuid, team.subscriberUuids)

theorem hasSubscriber_iff_rolls {userUuid teamUuid : Bytes} {db : Database} :
    db.HasSubscriber userUuid teamUuid ↔
      ∃ roll, (db.teams.map Team.roll).find? (fun roll => roll.1 = teamUuid) = some roll ∧
        userUuid ∈ roll.2 := by
  rw [List.find?_map]
  constructor
  · rintro ⟨team, found, member⟩
    exact ⟨team.roll, Option.map_eq_some_iff.mpr ⟨team, found, rfl⟩, member⟩
  · rintro ⟨roll, found, member⟩
    obtain ⟨team, present, rfl⟩ := Option.map_eq_some_iff.mp found
    exact ⟨team, present, member⟩

/-- Equal subscriber lists make equal subscriptions. -/
theorem hasSubscriber_congr {db after : Database} (same : after.teams.map Team.roll = db.teams.map Team.roll)
    (userUuid teamUuid : Bytes) :
    after.HasSubscriber userUuid teamUuid ↔ db.HasSubscriber userUuid teamUuid := by
  rw [hasSubscriber_iff_rolls, same, hasSubscriber_iff_rolls]

section Writes

variable {db : Database} {userUuid teamUuid : Bytes}

/-- A new team is a matter of its creator. -/
theorem hasSubscriber_addTeam {team : Team} {creator : Bytes} (subscribers : team.subscriberUuids = [creator])
    (other : ¬ (team.uuid = teamUuid ∧ userUuid = creator)) :
    Database.HasSubscriber userUuid teamUuid { db with teams := db.teams ++ [team] }
      ↔ db.HasSubscriber userUuid teamUuid := by
  unfold Database.HasSubscriber Database.findTeam
  simp only [List.find?_append]
  cases found : db.teams.find? (·.uuid = teamUuid) with
  | some old => simp only [Option.some_or]
  | none =>
    rw [Option.none_or]
    refine ⟨?_, fun ⟨_, nothing, _⟩ => nomatch nothing⟩
    rintro ⟨new, present, member⟩
    obtain ⟨listed, key⟩ := find?_key present
    rw [List.mem_singleton.mp listed] at key member
    rw [subscribers] at member
    exact absurd ⟨key, List.mem_singleton.mp member⟩ other

/-- A write to the subscribers of a team is a matter of this team. -/
theorem hasSubscriber_modifyTeam {uuid : Bytes} {f : Team → Team} {team : Team}
    (keeps : ∀ team, (f team).uuid = team.uuid) (found : db.findTeam uuid = some team)
    (other : uuid = teamUuid → (userUuid ∈ (f team).subscriberUuids ↔ userUuid ∈ team.subscriberUuids)) :
    (db.modifyTeam uuid f).HasSubscriber userUuid teamUuid ↔ db.HasSubscriber userUuid teamUuid := by
  by_cases same : uuid = teamUuid
  · subst same
    unfold Database.HasSubscriber
    rw [findTeam_modifyTeam db keeps found, found]
    simpa using other rfl
  · -- the other teams are found as before
    have still : (db.modifyTeam uuid f).findTeam teamUuid = db.findTeam teamUuid := by
      unfold Database.findTeam at found ⊢
      obtain ⟨before, after, split, -, update⟩ := modifyFirst_split found
      have key := (find?_key found).2
      have miss : ∀ team : Team, team.uuid = uuid → decide (team.uuid = teamUuid) = false :=
        fun team equal => decide_eq_false fun hit => same (equal.symm.trans hit)
      unfold Database.modifyTeam
      simp only [update f]
      rw [split, List.find?_append, List.find?_append, List.find?_cons_of_neg, List.find?_cons_of_neg]
      · simpa using miss _ key
      · simpa using miss _ ((keeps team).trans key)
    unfold Database.HasSubscriber
    rw [still]

end Writes

/-! ### Steps -/

section Steps

variable {env : Env} {fd : Int} {client : Client} {server after : Server} {verb : Verb}
  {outcome : Outcome} {userUuid teamUuid : Bytes} {rawCommand : Bytes}

/-- **What a command does to the subscriber lists**, with its answer. -/
inductive Rolls (env : Env) (fd : Int) (client : Client) (server : Server) (outcome : Outcome) : Verb → Prop
  | kept {verb : Verb} : outcome.db.teams.map Team.roll = server.db.teams.map Team.roll →
      Rolls env fd client server outcome verb
  | created {team : Team} : outcome.db.teams = server.db.teams ++ [team] →
      team.subscriberUuids = [client.userUuid] →
      Frame.createdTeam team ∈ outcome.letters fd outcome.userUuid →
      Rolls env fd client server outcome .create
  | subscribed {team : Team} : server.db.findTeam (client.arg 1) = some team →
      outcome.db.teams = (server.db.modifyTeam (client.arg 1) fun team =>
        (team.addSubscriber client.userUuid).2).teams →
      Frame.okSubscribe client.userUuid (client.arg 1) ∈ outcome.letters fd outcome.userUuid →
      Rolls env fd client server outcome .subscribe
  | unsubscribed {team : Team} : server.db.findTeam (client.arg 1) = some team →
      outcome.db.teams = (server.db.modifyTeam (client.arg 1) fun team =>
        (team.removeSubscriber client.userUuid).2).teams →
      Frame.okUnsubscribe client.userUuid (client.arg 1) ∈ outcome.letters fd outcome.userUuid →
      Rolls env fd client server outcome .unsubscribe

/-- **Every command is one of these.** -/
theorem serves_rolls (serves : Serves env fd client server verb outcome) :
    Rolls env fd client server outcome verb := by
  have last : ∀ {letters : Letters} {frame : Frame} {session : Bytes},
      frame ∈ (letters.followedBy (Letters.toClient fd [frame])) fd session := fun {letters frame session} =>
    List.mem_append_right _ (by rw [Letters.toClient_self]; exact List.mem_singleton_self _)
  cases serves with
  | createTeam _ _ _ _ _ _ made =>
    refine .created rfl (by rw [made]) (List.mem_append_left _ ?_)
    rw [Letters.toClient_self]
    exact List.mem_singleton_self _
  | createChannel => exact .kept (map_modifyFirst fun _ => rfl)
  | createThread => exact .kept (map_modifyFirst fun _ => rfl)
  | createReply => exact .kept (map_modifyFirst fun _ => rfl)
  | subscribe _ _ _ present => exact .subscribed present rfl last
  | unsubscribe _ _ _ present => exact .unsubscribed present rfl last
  | _ => exact .kept rfl

/-- A line that succeeds runs its command, with the answer among its letters. -/
theorem Server.Succeeds.exists_outcome {answer : Frame}
    (succeeds : server.Succeeds env userUuid fd rawCommand verb answer) :
    ∃ (client : Client) (outcome : Outcome), client.userUuid = userUuid ∧
      client.args = CommandHandling.parseArgs rawCommand ∧
      Serves env fd client (server.modifyClient fd (Client.setArgs client.args)) verb outcome ∧
      answer ∈ outcome.letters fd outcome.userUuid ∧
      server.step env (.line fd rawCommand)
        = outcome.commit fd (server.modifyClient fd (Client.setArgs client.args)) := by
  obtain ⟨client, found, user⟩ := succeeds.session.exists_client
  obtain ⟨outcome, serves, committed⟩ := served_of_named env found succeeds.named
  have stepped : server.step env (.line fd rawCommand) = _ := committed
  have answered := succeeds.answered
  rw [stepped, newFrames_served found] at answered
  exact ⟨client.setArgs (CommandHandling.parseArgs rawCommand), outcome, user, rfl, serves, answered,
    stepped⟩

/-- An answer that a command does not give is not among its letters. -/
theorem not_mem_answer {answer : Frame} {letters : Letters} {session : Bytes}
    (never : letters.All fun frame => frame.keywords ≠ answer.keywords) :
    answer ∉ letters fd session :=
  fun member => never fd session answer member rfl

open Letters in
/-- A CREATE that answers with a team has added it. -/
theorem serves_createdTeam {team : Team} (serves : Serves env fd client server .create outcome)
    (answered : Frame.createdTeam team ∈ outcome.letters fd outcome.userUuid) :
    ∃ added, outcome.db.teams = server.db.teams ++ [added] ∧ added.uuid = team.uuid ∧
      added.subscriberUuids = [client.userUuid] ∧ added.uuid = server.nextUuid env ∧
      outcome.uuidCalls = server.uuidCalls + 1 := by
  cases serves with
  | refused refusal =>
    exact absurd answered (not_mem_answer (all_answer fd (by cases refusal <;> nofun)))
  | shown shown => cases shown
  | @createTeam added _ _ _ _ _ _ made =>
    refine ⟨added, rfl, ?_, by rw [made], by rw [made], rfl⟩
    rcases List.mem_append.mp answered with own | event
    · have same := List.mem_singleton.mp (mem_toClient own).2
      unfold Frame.createdTeam Frame.namedFields at same
      injection same with _ fields
      injection fields with uuid
      exact (Field.quoted.inj uuid).symm
    · exact absurd event (not_mem_answer (all_toAll nofun))
  | createChannel =>
    exact absurd answered (not_mem_answer ((all_answer fd nofun).followedBy (all_toSubscribers _ nofun)))
  | createThread =>
    exact absurd answered (not_mem_answer ((all_answer fd nofun).followedBy (all_toSubscribers _ nofun)))
  | createReply =>
    exact absurd answered (not_mem_answer ((all_answer fd nofun).followedBy (all_toSubscribers _ nofun)))

open Letters in
/-- A SUBSCRIBE that succeeds leaves the user a subscriber. -/
theorem serves_okSubscribe (serves : Serves env fd client server .subscribe outcome)
    (answered : Frame.okSubscribe userUuid teamUuid ∈ outcome.letters fd outcome.userUuid) :
    outcome.db.HasSubscriber client.userUuid teamUuid := by
  have named : ∀ {other team : Bytes}, Frame.okSubscribe userUuid teamUuid = Frame.okSubscribe other team →
      teamUuid = team := by
    intro other team same
    injection same with _ fields
    injection fields with _ rest
    injection rest with uuid
    exact Field.quoted.inj uuid
  cases serves with
  | refused refusal =>
    exact absurd answered (not_mem_answer (all_answer fd (by cases refusal <;> nofun)))
  | shown shown =>
    cases shown with
    | @alreadySubscribed team _ _ present member =>
      have own : Frame.okSubscribe userUuid teamUuid
          ∈ toClient fd [Frame.okSubscribe client.userUuid (client.arg 1)] fd client.userUuid := answered
      rw [named (List.mem_singleton.mp (mem_toClient own).2)]
      exact ⟨team, present, member⟩
  | @subscribe team _ _ _ present =>
    rcases List.mem_append.mp answered with event | own
    · exact absurd event (not_mem_answer (all_toSubscribers _ nofun))
    · rw [named (List.mem_singleton.mp (mem_toClient own).2)]
      exact ⟨_, findTeam_modifyTeam server.db (Team.addSubscriber_uuid _) present,
        Team.mem_addSubscriber.mpr (Or.inr rfl)⟩

open Letters in
/-- An UNSUBSCRIBE that succeeds leaves the user no subscriber. -/
theorem serves_okUnsubscribe (serves : Serves env fd client server .unsubscribe outcome)
    (answered : Frame.okUnsubscribe userUuid teamUuid ∈ outcome.letters fd outcome.userUuid) :
    ¬ outcome.db.HasSubscriber client.userUuid teamUuid := by
  cases serves with
  | refused refusal =>
    exact absurd answered (not_mem_answer (all_answer fd (by cases refusal <;> nofun)))
  | shown shown => cases shown
  | @unsubscribe team _ _ _ present =>
    rcases List.mem_append.mp answered with event | own
    · exact absurd event (not_mem_answer (all_toSubscribers _ nofun))
    · have same := List.mem_singleton.mp (mem_toClient own).2
      injection same with _ fields
      injection fields with _ rest
      injection rest with uuid
      rw [Field.quoted.inj uuid]
      rintro ⟨now, found, member⟩
      have still := findTeam_modifyTeam server.db (Team.removeSubscriber_uuid client.userUuid) present
      obtain rfl := Option.some.inj (still.symm.trans found)
      exact (Team.mem_removeSubscriber.mp member).2 rfl

/-- **What a step does to a subscription.** -/
theorem step_effects {past : List Bytes} (event : Event)
    (supplied : Supplied env past server.uuidCalls server.db.uuids)
    (fresh : env.Fresh past (server.step env event).uuidCalls) :
    Effects (Server.step env) (fun server => server.db.HasSubscriber userUuid teamUuid)
      (fun server event => server.Subscribes env userUuid teamUuid event)
      (fun server event => server.Unsubscribes env userUuid teamUuid event) server event := by
  refine ⟨fun sets => ?_, fun clears => ?_, fun notSet notCleared => ?_⟩
  · cases sets with
    | @creates fd rawCommand team named succeeds =>
      obtain ⟨client, outcome, user, -, serves, answered, committed⟩ := succeeds.exists_outcome
      obtain ⟨added, teams, key, subscribers, made, called⟩ := serves_createdTeam serves answered
      rw [committed] at fresh ⊢
      have unused := supplied.next_not_mem (called ▸ fresh)
      refine ⟨added, ?_, by rw [subscribers, user]; exact List.mem_singleton_self _⟩
      -- no older team has the uuid of the new one
      have none : server.db.teams.find? (·.uuid = teamUuid) = none := by
        refine List.find?_eq_none.mpr fun old stored hit => unused ?_
        have uuid : (env.uuid server.uuidCalls).1 = old.uuid :=
          made.symm.trans ((key.trans named).trans (of_decide_eq_true hit).symm)
        rw [uuid]
        exact List.mem_append_right _ (List.mem_flatMap.mpr ⟨old, stored, List.mem_cons_self⟩)
      have inside : added.uuid = teamUuid := key.trans named
      show outcome.db.teams.find? (·.uuid = teamUuid) = some added
      rw [teams, List.find?_append]
      show (server.db.teams.find? (·.uuid = teamUuid)).or _ = _
      rw [none, Option.none_or]
      exact List.find?_cons_of_pos (decide_eq_true inside)
    | subscribes succeeds =>
      obtain ⟨client, outcome, user, -, serves, answered, committed⟩ := succeeds.exists_outcome
      have subscribed := serves_okSubscribe serves answered
      rw [committed, ← user]
      exact subscribed
  · cases clears with
    | unsubscribes succeeds =>
      obtain ⟨client, outcome, user, -, serves, answered, committed⟩ := succeeds.exists_outcome
      have gone := serves_okUnsubscribe serves answered
      rw [committed, ← user]
      exact gone
  · have steps := step_steps env server event
    generalize same : server.step env event = after at steps
    show after.db.HasSubscriber userUuid teamUuid ↔ _
    cases steps with
    | @served fd rawCommand client verb outcome found named serves =>
      have succeeds : ∀ {answer : Frame}, userUuid = client.userUuid →
          answer ∈ outcome.letters fd outcome.userUuid →
          server.Succeeds env userUuid fd rawCommand verb answer := by
        intro answer user member
        refine ⟨?_, named, by rwa [same, newFrames_served found]⟩
        unfold Server.IsSessionOf Server.session
        rw [found, user]
        rfl
      cases serves_rolls serves with
      | kept rolls => exact hasSubscriber_congr rolls userUuid teamUuid
      | @created team teams subscribers answered =>
        have other : ¬ (team.uuid = teamUuid ∧ userUuid = client.userUuid) :=
          fun ⟨key, user⟩ => notSet (.creates key (succeeds user answered))
        exact (hasSubscriber_congr (congrArg (List.map Team.roll) teams) userUuid teamUuid).trans
          (hasSubscriber_addTeam subscribers other)
      | subscribed present teams answered =>
        refine (hasSubscriber_congr (congrArg (List.map Team.roll) teams) userUuid teamUuid).trans
          (hasSubscriber_modifyTeam (Team.addSubscriber_uuid client.userUuid) present fun key => ?_)
        refine Team.mem_addSubscriber.trans (or_iff_left fun user => notSet ?_)
        have answer : Frame.okSubscribe userUuid teamUuid ∈ outcome.letters fd outcome.userUuid :=
          user ▸ key ▸ answered
        exact .subscribes (succeeds user answer)
      | unsubscribed present teams answered =>
        refine (hasSubscriber_congr (congrArg (List.map Team.roll) teams) userUuid teamUuid).trans
          (hasSubscriber_modifyTeam (Team.removeSubscriber_uuid client.userUuid) present fun key => ?_)
        refine Team.mem_removeSubscriber.trans (and_iff_left fun user => notCleared ?_)
        have answer : Frame.okUnsubscribe userUuid teamUuid ∈ outcome.letters fd outcome.userUuid :=
          user ▸ key ▸ answered
        exact .unsubscribes (succeeds user answer)
    | restarted =>
      refine hasSubscriber_congr ?_ userUuid teamUuid
      exact List.map_map
    | _ => exact Iff.rfl

end Steps

/-! ### The two views -/

/-- The teams of a user, as SUBSCRIBED lists them. -/
def Database.teamsOf (userUuid : Bytes) (db : Database) : List Frame :=
  Frame.listing .teams ((db.teams.filter (·.isUserSubscribed userUuid)).map fun team =>
    Frame.namedFields team.uuid team.name team.description)

/-- The subscribers of a team, as SUBSCRIBED lists them. -/
def Database.subscribersOf (teamUuid : Bytes) (db : Database) : List Frame :=
  match db.findTeam teamUuid with
  | none => [Frame.notFoundKind .team teamUuid]
  | some team => Frame.listing .users ((team.subscriberUuids.filterMap db.findUser).map Frame.userFields)

/-- The uuid at the head of a list item. -/
def Frame.itemUuid (frame : Frame) : Option Bytes :=
  match frame.keywords, frame.fields with
  | [.code210], .quoted uuid :: _ => some uuid
  | _, _ => none

/-- How many list items are about a uuid. -/
def mentions (uuid : Bytes) (frames : List Frame) : Nat := (frames.filterMap Frame.itemUuid).count uuid

section Views

variable {env : Env} {server : Server} {db : Database} {userUuid teamUuid : Bytes}

/-- **What SUBSCRIBED answers.** -/
theorem subscribed_answers (env : Env) {fd : Int} {client : Client} {rawCommand : Bytes}
    (found : server.clients.find? fd = some client)
    (named : (CommandHandling.parseArgs rawCommand).head? = some Verb.subscribed.text)
    (loggedIn : client.userUuid ≠ []) :
    ((CommandHandling.parseArgs rawCommand).length < 2 →
      server.newFrames fd (server.step env (.line fd rawCommand)) = server.db.teamsOf client.userUuid) ∧
    ((CommandHandling.parseArgs rawCommand).length = 2 →
      (CommandHandling.parseArgs rawCommand).getD 1 [] ≠ [] →
      server.newFrames fd (server.step env (.line fd rawCommand))
        = server.db.subscribersOf ((CommandHandling.parseArgs rawCommand).getD 1 [])) := by
  have handled : server.step env (.line fd rawCommand) = Subscribed.execute fd
      (client.setArgs (CommandHandling.parseArgs rawCommand))
      (server.modifyClient fd (Client.setArgs (CommandHandling.parseArgs rawCommand))) :=
    handleCommand_of_named env found named
  have session : (client.setArgs (CommandHandling.parseArgs rawCommand)).userUuid ≠ [] := loggedIn
  rw [handled]
  unfold Subscribed.execute
  rw [if_neg session]
  constructor
  · intro short
    have few : (client.setArgs (CommandHandling.parseArgs rawCommand)).args.length < 2 := short
    rw [if_pos few]
    exact newFrames_answered _ _ found
  · intro two present
    have many : ¬ (client.setArgs (CommandHandling.parseArgs rawCommand)).args.length < 2 :=
      fun few => absurd two few.ne
    have both : (client.setArgs (CommandHandling.parseArgs rawCommand)).args.length = 2 := two
    have given : (client.setArgs (CommandHandling.parseArgs rawCommand)).arg 1 ≠ [] := present
    rw [if_neg many, if_pos both, if_neg given]
    unfold Subscribed.listSubscribedUsers Database.subscribersOf
    simp only [Server.modifyClient, Client.setArgs, Client.arg]
    cases server.db.findTeam ((CommandHandling.parseArgs rawCommand).getD 1 []) with
    | none => exact newFrames_answered _ [_] found
    | some team => exact newFrames_answered _ _ found

/-- The items of a list that begin with uuids. -/
theorem mentions_listing {α : Type} {items : List α} {uuid : α → Bytes} {rest : α → List Field}
    (type : Keyword) (wanted : Bytes) :
    mentions wanted (Frame.listing type (items.map fun item => .quoted (uuid item) :: rest item))
      = (items.map uuid).count wanted := by
  unfold mentions Frame.listing
  rw [List.cons_append, List.filterMap_cons_none rfl, List.filterMap_append, List.map_map,
    List.filterMap_map]
  have each : Frame.itemUuid ∘ (Frame.item ∘ fun item => Field.quoted (uuid item) :: rest item)
      = some ∘ uuid := rfl
  rw [List.filterMap_cons_none rfl, List.filterMap_nil, List.append_nil, each,
    List.filterMap_eq_map]

/-- An item of a list without repetition is mentioned once or not at all. -/
theorem count_eq_one_iff {uuids : List Bytes} (distinct : uuids.Nodup) (uuid : Bytes) :
    uuids.count uuid ≤ 1 ∧ (uuids.count uuid = 1 ↔ uuid ∈ uuids) :=
  ⟨List.nodup_iff_count_le_one.mp distinct uuid,
    fun once => List.count_pos_iff.mp (by omega), List.count_eq_one_of_mem distinct⟩

/-- **The teams of a user**: those that it subscribes to, once each. -/
theorem mentions_teamsOf (proper : db.WellFormed) (userUuid teamUuid : Bytes) :
    mentions teamUuid (db.teamsOf userUuid) ≤ 1 ∧
      (mentions teamUuid (db.teamsOf userUuid) = 1 ↔ db.HasSubscriber userUuid teamUuid) := by
  have uuids := Database.teams_nodup proper.distinct.nodup
  have distinct : ((db.teams.filter (·.isUserSubscribed userUuid)).map Team.uuid).Nodup :=
    uuids.sublist (List.filter_sublist.map _)
  have counted : mentions teamUuid (db.teamsOf userUuid)
      = ((db.teams.filter (·.isUserSubscribed userUuid)).map Team.uuid).count teamUuid :=
    mentions_listing .teams teamUuid
  obtain ⟨most, once⟩ := count_eq_one_iff distinct teamUuid
  rw [counted]
  refine ⟨most, once.trans ?_⟩
  constructor
  · intro member
    obtain ⟨team, inside, key⟩ := List.mem_map.mp member
    obtain ⟨stored, subscribed⟩ := List.mem_filter.mp inside
    subst key
    exact ⟨team, find?_of_nodup uuids stored, Team.isUserSubscribed_iff.mp subscribed⟩
  · rintro ⟨team, found, subscribed⟩
    obtain ⟨stored, key⟩ := find?_key found
    exact List.mem_map.mpr ⟨team, List.mem_filter.mpr ⟨stored, Team.isUserSubscribed_iff.mpr subscribed⟩,
      key⟩

/-- **The subscribers of a team**, once each. -/
theorem mentions_subscribersOf (proper : db.WellFormed) (userUuid teamUuid : Bytes) :
    mentions userUuid (db.subscribersOf teamUuid) ≤ 1 ∧
      (mentions userUuid (db.subscribersOf teamUuid) = 1 ↔ db.HasSubscriber userUuid teamUuid) := by
  unfold Database.subscribersOf
  cases found : db.findTeam teamUuid with
  | none =>
    refine ⟨Nat.zero_le _, fun once => (nomatch once), ?_⟩
    rintro ⟨team, present, -⟩
    rw [found] at present
    cases present
  | some team =>
    have wellFormed := proper.teams team (List.mem_of_find?_eq_some found)
    -- every subscriber is a user, so nobody is skipped
    have users : (team.subscriberUuids.filterMap db.findUser).map User.uuid = team.subscriberUuids := by
      rw [List.map_filterMap]
      refine (List.filterMap_congr fun uuid member => ?_).trans List.filterMap_some
      obtain ⟨user, present⟩ := exists_findUser (wellFormed.subscribers uuid member)
      rw [present, Option.map_some, (find?_key present).2]
    have counted : mentions userUuid (Frame.listing .users
        ((team.subscriberUuids.filterMap db.findUser).map Frame.userFields))
          = team.subscriberUuids.count userUuid :=
      (mentions_listing .users userUuid).trans (by rw [users])
    obtain ⟨most, once⟩ := count_eq_one_iff wellFormed.distinct userUuid
    rw [counted]
    refine ⟨most, once.trans ⟨fun member => ⟨team, found, member⟩, ?_⟩⟩
    rintro ⟨same, present, member⟩
    rw [found] at present
    cases present
    exact member

end Views

/-! ### Runs -/

/-- Some step of the run succeeded for the user and the team, and the last one was not an UNSUBSCRIBE. -/
def LastSubscribes (env : Env) (userUuid teamUuid : Bytes) (events : List Event) : Prop :=
  LastSets (Server.step env) (fun server event => server.Subscribes env userUuid teamUuid event)
    (fun server event => server.Unsubscribes env userUuid teamUuid event) {} events

section Runs

variable {env : Env}

theorem run_effects (userUuid teamUuid : Bytes) (events : List Event)
    (fresh : env.Fresh [] (run (Server.step env) {} events).uuidCalls) :
    Throughout (Server.step env) (Effects (Server.step env)
      (fun server => server.db.HasSubscriber userUuid teamUuid)
      (fun server event => server.Subscribes env userUuid teamUuid event)
      (fun server event => server.Unsubscribes env userUuid teamUuid event)) {} events := by
  induction events using List.reverseRecOn with
  | nil => exact throughout_nil
  | append_singleton events event ih =>
    rw [run_concat] at fresh
    have before := fresh_earlier _ event fresh
    exact throughout_concat.mpr
      ⟨ih before, step_effects event (run_supplied supplied_empty events before) fresh⟩

/-- **The subscriptions of the database follow the history.** -/
theorem hasSubscriber_iff_last (userUuid teamUuid : Bytes) (events : List Event)
    (fresh : env.Fresh [] (run (Server.step env) {} events).uuidCalls) :
    (run (Server.step env) {} events).db.HasSubscriber userUuid teamUuid
      ↔ LastSubscribes env userUuid teamUuid events := by
  refine run_iff_last_effect (P := fun server : Server => server.db.HasSubscriber userUuid teamUuid) ?_
    (run_effects userUuid teamUuid events fresh)
  rintro ⟨team, missing, -⟩
  cases missing

end Runs

/-- **Both views of the subscriptions follow the history**, for every run from an empty database, restarts
included. SUBSCRIBED without an argument answers with the teams of the requester, SUBSCRIBED with a team
answers anyone with its subscribers. For every user and team, the first has the team exactly once, the
second has the user exactly once, and there is a last step that succeeded for the two and was not an
UNSUBSCRIBE, or none of this is so and neither view mentions the other. -/
theorem subscription_views (env : Env) (events : List Event)
    (fresh : env.Fresh [] (run (Server.step env) {} events).uuidCalls) :
    let server := run (Server.step env) {} events
    (∀ fd client rawCommand, server.clients.find? fd = some client → client.userUuid ≠ [] →
      (CommandHandling.parseArgs rawCommand).head? = some Verb.subscribed.text →
      ((CommandHandling.parseArgs rawCommand).length < 2 →
        server.newFrames fd (server.step env (.line fd rawCommand))
          = server.db.teamsOf client.userUuid) ∧
      ((CommandHandling.parseArgs rawCommand).length = 2 →
        (CommandHandling.parseArgs rawCommand).getD 1 [] ≠ [] →
        server.newFrames fd (server.step env (.line fd rawCommand))
          = server.db.subscribersOf ((CommandHandling.parseArgs rawCommand).getD 1 []))) ∧
    ∀ userUuid teamUuid,
      mentions teamUuid (server.db.teamsOf userUuid) ≤ 1 ∧
      mentions userUuid (server.db.subscribersOf teamUuid) ≤ 1 ∧
      [mentions teamUuid (server.db.teamsOf userUuid) = 1,
        mentions userUuid (server.db.subscribersOf teamUuid) = 1,
        LastSubscribes env userUuid teamUuid events].TFAE := by
  intro server
  refine ⟨fun fd client rawCommand found loggedIn named => subscribed_answers env found named loggedIn,
    fun userUuid teamUuid => ?_⟩
  have proper : server.db.WellFormed := run_wellFormed SelfSaved.empty.loaded events fresh
  obtain ⟨teamOnce, team⟩ := mentions_teamsOf proper userUuid teamUuid
  obtain ⟨userOnce, user⟩ := mentions_subscribersOf proper userUuid teamUuid
  refine ⟨teamOnce, userOnce, ?_⟩
  tfae_have 1 ↔ 3 := team.trans (hasSubscriber_iff_last userUuid teamUuid events fresh)
  tfae_have 2 ↔ 3 := user.trans (hasSubscriber_iff_last userUuid teamUuid events fresh)
  tfae_finish

/-- A team of which one user is a subscriber, and another one no longer is. -/
theorem subscription_views_sample :
    let events := Input.trace sampleEnv { db := {} } [.accept 4,
      .read 4 (ascii "/login \"ann\"\n/create \"red\" \"first\"\n"), .accept 5,
      .read 5 (ascii "/login \"bob\"\n/subscribe \"" ++ (digitUuid 1).1 ++ ascii "\"\n/unsubscribe \""
        ++ (digitUuid 1).1 ++ ascii "\"\n")]
    let server := run (Server.step sampleEnv) {} events
    server.newFrames 4 (server.step sampleEnv (.line 4 (ascii "/subscribed \"" ++ (digitUuid 1).1
        ++ ascii "\""))) = server.db.subscribersOf (digitUuid 1).1 ∧
      LastSubscribes sampleEnv (digitUuid 0).1 (digitUuid 1).1 events ∧
      ¬ LastSubscribes sampleEnv (digitUuid 2).1 (digitUuid 1).1 events := by
  intro events server
  obtain ⟨answers, views⟩ := subscription_views sampleEnv events (sampleEnv_fresh.of_le (by decide))
  have known : (server.clients.find? 4).map Client.userUuid = some (digitUuid 0).1 := by decide
  obtain ⟨client, found, user⟩ := Option.map_eq_some_iff.mp known
  refine ⟨?_, ?_, ?_⟩
  · exact (answers 4 client _ found (by rw [user]; decide) (by decide)).2 (by decide) (by decide)
  · exact ((views (digitUuid 0).1 (digitUuid 1).1).2.2.out 1 2).mp (by decide)
  · exact fun last => absurd (((views (digitUuid 2).1 (digitUuid 1).1).2.2.out 1 2).mpr last) (by decide)

end MyTeams
