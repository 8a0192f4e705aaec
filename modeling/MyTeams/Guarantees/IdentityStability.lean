/-
**One name, one user.**

A LOGIN that is answered with a 200 line binds the connection to the user of that name. `Binds` says
what the step shows of this user: the uuid of the session, of the 200 line and of the event is one and
the same.

* `login_binds` — every answered LOGIN binds its connection;
* `run_identities` — the users of a state are among the users of every later state, with their uuids
  and names, restarts included;
* `identity_stability` — over a whole run, two LOGINs bind to the same user exactly when they give the
  same name.
-/

import MyTeams.Guarantees.AppendOnly

namespace MyTeams

open Transition FirstMatch

/-- A LOGIN of the connection behind `fd` under `name` that is answered with a 200 line. -/
def Server.AnswersLogin (env : Env) (server : Server) (event : Event) (fd : Int) (name : Bytes) : Prop :=
  event.IsCommand fd .login ∧
    (∃ rawCommand, event = .line fd rawCommand ∧
      name = (CommandHandling.parseArgs rawCommand).getD 1 []) ∧
    ∃ frame ∈ server.newFrames fd (server.step env event), frame.keywords.head? = some .code200

/-- The uuid and the name of a user. -/
def User.identity (user : User) : Bytes × Bytes := (user.uuid, user.name)

/-- **What a LOGIN leaves**: the session, the 200 line and the event speak of the user `uuid`, who is
stored under `name`. -/
structure Server.Binds (server after : Server) (fd : Int) (name uuid : Bytes) : Prop where
  named : uuid ≠ []
  stored : (uuid, name) ∈ after.db.users.map User.identity
  session : (after.session fd).map Session.userUuid = some uuid
  messages : ∀ other holder, server.clients.find? other = some holder →
    server.newFrames other after = (if other = fd then [Frame.okLogin uuid name] else [])
      ++ [Frame.eventLoggedIn { uuid := uuid, name := name }]

section Step

variable {env : Env} {fd : Int} {client : Client} {server : Server} {verb : Verb} {outcome : Outcome}

/-- An answered LOGIN enters a user of its name. -/
theorem serves_enters (serves : Serves env fd client server .login outcome)
    (answered : ∃ frame ∈ outcome.letters fd outcome.userUuid, frame.keywords.head? = some .code200) :
    ∃ user ∈ outcome.db.users, user.name = client.arg 1 ∧ outcome.userUuid = user.uuid ∧
      outcome.letters = (Letters.toClient fd [Frame.okLogin user.uuid user.name]).followedBy
        (.toAll (Frame.eventLoggedIn user)) := by
  cases serves with
  | @refused _ error refusal =>
    obtain ⟨frame, member, code⟩ := answered
    have inside : frame ∈ Letters.toClient fd [error] fd client.userUuid := member
    rw [List.mem_singleton.mp (Letters.mem_toClient inside).2] at code
    cases refusal <;> cases code
  | shown shown => cases shown
  | loginNew _ _ _ _ _ made =>
    exact ⟨_, List.mem_append_right _ (List.mem_singleton_self _), by rw [made], rfl, rfl⟩
  | @loginAgain user _ _ _ _ present =>
    have counted : User.incrementConnection user ∈ _ := mem_modifyFirst_of_find? present
    exact ⟨_, counted, (find?_key present).2, rfl, rfl⟩

/-- **Every answered LOGIN binds its connection.** -/
theorem login_binds {event : Event} {name : Bytes} (named : [] ∉ (server.step env event).db.uuids)
    (answered : server.AnswersLogin env event fd name) :
    ∃ uuid, server.Binds (server.step env event) fd name uuid := by
  obtain ⟨⟨rawCommand, rfl, command⟩, ⟨_, same, rfl⟩, frame, member, code⟩ := answered
  obtain ⟨-, rfl⟩ := Event.line.inj same
  cases found : server.clients.find? fd with
  | none =>
    have idle : server.step env (.line fd rawCommand) = server :=
      handleCommand_of_none env rawCommand found
    rw [idle, Server.newFrames, List.drop_length] at member
    cases member
  | some client =>
    obtain ⟨outcome, serves, committed⟩ := served_of_named env found command
    have after : server.step env (.line fd rawCommand) = _ := committed
    rw [after] at named member ⊢
    rw [newFrames_served found] at member
    obtain ⟨user, stored, called, session, letters⟩ := serves_enters serves ⟨frame, member, code⟩
    refine ⟨user.uuid, fun empty => named ?_, List.mem_map.mpr ⟨user, stored, Prod.ext rfl called⟩, ?_,
      fun other holder present => ?_⟩
    · exact List.mem_append_left _ (List.mem_map.mpr ⟨user, stored, empty⟩)
    · rw [session_commit_self outcome (find?_setArgs found _), Option.map_some, session]
    · rw [newFrames_letters outcome _ found present, letters, Letters.followedBy, Letters.toClient,
        called]
      have event : Frame.eventLoggedIn user = Frame.eventLoggedIn { uuid := user.uuid, name := user.name } :=
        rfl
      rw [Letters.toAll, event, called]
      rfl

end Step

section Runs

variable {env : Env}

/-- **Users keep their uuids and names**, and their places. -/
theorem run_identities (server : Server) (events : List Event) :
    server.db.users.map User.identity
      <+: (run (Server.step env) server events).db.users.map User.identity :=
  (@run_preserved env events server events fun _ member => member).users.map_prefix
    fun user _ now same => by rw [User.identity, same.uuid, same.name, User.identity]

/-- A user that was stored in a state of a run is stored at its end. -/
theorem identity_kept {start : Server} {before events : List Event} (initial : before <+: events)
    {identity : Bytes × Bytes}
    (stored : identity ∈ (run (Server.step env) start before).db.users.map User.identity) :
    identity ∈ (run (Server.step env) start events).db.users.map User.identity := by
  obtain ⟨rest, rfl⟩ := initial
  rw [run_append]
  exact (run_identities _ rest).subset stored

/-- In a well-formed database the uuid and the name of a user determine each other. -/
theorem Database.WellFormed.identity_iff {db : Database} (proper : db.WellFormed)
    {uuid name otherUuid otherName : Bytes} (first : (uuid, name) ∈ db.users.map User.identity)
    (second : (otherUuid, otherName) ∈ db.users.map User.identity) :
    name = otherName ↔ uuid = otherUuid := by
  obtain ⟨user, member, same⟩ := List.mem_map.mp first
  obtain ⟨other, present, equal⟩ := List.mem_map.mp second
  obtain ⟨rfl, rfl⟩ := Prod.mk.inj same
  obtain ⟨rfl, rfl⟩ := Prod.mk.inj equal
  have uuids : (db.users.map User.uuid).Nodup := proper.distinct.nodup.of_append_left
  constructor
  · intro names
    rw [List.inj_on_of_nodup_map proper.userNames member present names]
  · intro keys
    rw [List.inj_on_of_nodup_map uuids member present keys]

end Runs

/-- **Identity stability**, for every run from an empty database, restarts included. Every answered LOGIN
binds its connection to one user, whom the 200 line and the event name. Any two of them bind to the same
user if and only if they give the same name. -/
theorem identity_stability (env : Env) (events : List Event)
    (fresh : env.Fresh [] (run (Server.step env) {} events).uuidCalls) :
    (∀ before event, before ++ [event] <+: events → ∀ fd name,
      (run (Server.step env) {} before).AnswersLogin env event fd name →
      ∃ uuid, (run (Server.step env) {} before).Binds (run (Server.step env) {} (before ++ [event])) fd
        name uuid) ∧
    ∀ before event, before ++ [event] <+: events → ∀ fd name,
      (run (Server.step env) {} before).AnswersLogin env event fd name →
      ∀ before' event', before' ++ [event'] <+: events → ∀ fd' name',
        (run (Server.step env) {} before').AnswersLogin env event' fd' name' →
        (name = name' ↔
          ((run (Server.step env) {} (before ++ [event])).session fd).map Session.userUuid
            = ((run (Server.step env) {} (before' ++ [event'])).session fd').map Session.userUuid) := by
  have binds : ∀ before event, before ++ [event] <+: events → ∀ fd name,
      (run (Server.step env) {} before).AnswersLogin env event fd name →
      ∃ uuid, (run (Server.step env) {} before).Binds (run (Server.step env) {} (before ++ [event])) fd
        name uuid := by
    intro before event _ fd name answered
    have named := @run_named env {} List.not_mem_nil (before ++ [event])
    rw [run_concat] at named ⊢
    exact login_binds named answered
  refine ⟨binds, fun before event initial fd name answered before' event' initial' fd' name' answered' => ?_⟩
  obtain ⟨uuid, bound⟩ := binds before event initial fd name answered
  obtain ⟨uuid', bound'⟩ := binds before' event' initial' fd' name' answered'
  have proper := run_wellFormed SelfSaved.empty.loaded events fresh
  rw [bound.session, bound'.session, Option.some.injEq]
  exact proper.identity_iff (identity_kept initial bound.stored) (identity_kept initial' bound'.stored)

/-- Two sessions of one user, and a session of another one. -/
theorem identity_stability_sample :
    let lines := [Event.accept 4, .accept 5, .accept 6, .line 4 (ascii "/login \"ann\""),
      .line 5 (ascii "/login \"bob\""), .line 6 (ascii "/login \"ann\"")]
    let session := fun count fd =>
      ((run (Server.step sampleEnv) {} (lines.take count)).session fd).map Session.userUuid
    session 4 4 = session 6 6 ∧ session 4 4 ≠ session 5 5 := by
  have stable := (identity_stability sampleEnv [.accept 4, .accept 5, .accept 6,
    .line 4 (ascii "/login \"ann\""), .line 5 (ascii "/login \"bob\""),
    .line 6 (ascii "/login \"ann\"")] (sampleEnv_fresh.of_le (by decide))).2
    [.accept 4, .accept 5, .accept 6] (.line 4 (ascii "/login \"ann\"")) ⟨_, rfl⟩ 4 (ascii "ann")
    ⟨⟨_, rfl, by decide⟩, ⟨_, rfl, by decide⟩, by decide⟩
  constructor
  · exact (stable [.accept 4, .accept 5, .accept 6, .line 4 (ascii "/login \"ann\""),
      .line 5 (ascii "/login \"bob\"")] (.line 6 (ascii "/login \"ann\"")) ⟨[], rfl⟩ 6 (ascii "ann")
      ⟨⟨_, rfl, by decide⟩, ⟨_, rfl, by decide⟩, by decide⟩).mp rfl
  · intro same
    have names := (stable [.accept 4, .accept 5, .accept 6, .line 4 (ascii "/login \"ann\"")]
      (.line 5 (ascii "/login \"bob\"")) ⟨_, rfl⟩ 5 (ascii "bob")
      ⟨⟨_, rfl, by decide⟩, ⟨_, rfl, by decide⟩, by decide⟩).mpr same
    revert names
    decide

end MyTeams
