/-
**A session starts without a context.**

A context belongs to the session whose USE set it, and a client without a user has none: this is
`SessionReset`, for every moment of a run. LOGOUT clears the user and leaves the context, so the run
has this property if and only if no client with a context logs out (`session_reset_iff`).
-/

import MyTeams.Invariants.Identities
import MyTeams.Server.Session

namespace MyTeams

open Transition

/-- No client without a user has a context. -/
def Reset (server : Server) : Prop :=
  ∀ fd session, server.session fd = some session → session.userUuid = [] → session.context = {}

/-- A LOGOUT of a client that is logged in and has a context. -/
def LogoutInContext (server : Server) (event : Event) : Prop :=
  ∃ fd session, event.IsCommand fd .logout ∧ server.session fd = some session ∧
    session.userUuid ≠ [] ∧ session.context ≠ {}

/-- Sessions do not inherit a context, at any moment of a run. -/
structure SessionReset (env : Env) (db : Database) (events : List Event) : Prop where
  reset : ∀ before, before <+: events → Reset (run (Server.step env) { db := db } before)
  /-- A successful LOGIN leaves the client without a context. -/
  authenticated : ∀ before event fd old new, before ++ [event] <+: events →
    event.IsCommand fd .login →
    (run (Server.step env) { db := db } before).session fd = some old → old.userUuid = [] →
    (run (Server.step env) { db := db } (before ++ [event])).session fd = some new →
    new.userUuid ≠ [] → new.context = {}
  /-- A context was set by a USE of the same user, and the session has not changed since. -/
  ownContext : ∀ present fd session, present <+: events →
    (run (Server.step env) { db := db } present).session fd = some session → session.context ≠ {} →
    session.userUuid ≠ [] ∧ ∃ before event after old, present = before ++ event :: after ∧
      event.IsCommand fd .use ∧
      (run (Server.step env) { db := db } before).session fd = some old ∧
      old.userUuid = session.userUuid ∧
      ∀ between, between <+: after →
        (run (Server.step env) { db := db } (before ++ event :: between)).session fd = some session

section Steps

variable {env : Env} {server : Server} {event : Event}

theorem step_reset (reset : Reset server) (allowed : ¬ LogoutInContext server event) :
    Reset (server.step env event) := by
  intro fd session present nobody
  have step := step_session (step_steps env server event) fd
  rw [present] at step
  cases before : server.session fd with
  | none =>
    rw [before] at step
    cases step with
    | opened => rfl
  | some old =>
    rw [before] at step
    cases step with
    | kept => exact reset fd _ before nobody
    | login =>
      have empty := reset fd _ before rfl
      exact empty
    | logout command user =>
      by_contra context
      exact allowed ⟨fd, _, command, before, user, context⟩
    | use _ user => exact absurd nobody user

/-- LOGOUT clears the user of the session, and nothing else. -/
theorem session_logout {fd : Int} {session : Session} (command : event.IsCommand fd .logout)
    (present : server.session fd = some session) (user : session.userUuid ≠ []) :
    (server.step env event).session fd = some ⟨[], session.context⟩ := by
  obtain ⟨rawCommand, rfl, named⟩ := command
  obtain ⟨client, found, rfl⟩ := Option.map_eq_some_iff.mp present
  have stored := find?_setArgs found (CommandHandling.parseArgs rawCommand)
  obtain ⟨outcome, -, executed, leaves, context, -⟩ := Logout.execute_leaves env stored user
  show (CommandHandling.handleCommand env rawCommand fd server).session fd = _
  have handled := (handleCommand_of_named env found named).trans executed
  rw [handled, session_commit_self outcome stored, leaves, context]
  rfl

end Steps

section Runs

variable {env : Env} {db : Database} {events : List Event}

/-- No client with a context logs out during the run. -/
def NoLogoutInContext (env : Env) (db : Database) (events : List Event) : Prop :=
  Throughout (Server.step env) (fun server event => ¬ LogoutInContext server event) { db := db } events

theorem run_reset (allowed : NoLogoutInContext env db events) :
    Reset (run (Server.step env) { db := db } events) := by
  induction events using List.reverseRecOn with
  | nil =>
    intro fd session present
    cases present
  | append_singleton events event ih =>
    rw [run_concat]
    exact step_reset (ih (allowed.of_prefix (List.prefix_append _ _)))
      (allowed events event (List.prefix_refl _))

/-- The step that set the context of a session was a USE. -/
theorem context_origin (allowed : NoLogoutInContext env db events) {fd : Int} {session : Session}
    (present : (run (Server.step env) { db := db } events).session fd = some session)
    (context : session.context ≠ {}) :
    session.userUuid ≠ [] ∧ ∃ before event after old, events = before ++ event :: after ∧
      event.IsCommand fd .use ∧
      (run (Server.step env) { db := db } before).session fd = some old ∧
      old.userUuid = session.userUuid ∧
      ∀ between, between <+: after →
        (run (Server.step env) { db := db } (before ++ event :: between)).session fd
          = some session := by
  have user : session.userUuid ≠ [] := fun nobody =>
    context (run_reset allowed fd session present nobody)
  have changed : (run (Server.step env) { db := db } events).session fd
      ≠ ({ db := db } : Server).session fd := by
    rw [present]
    exact Option.some_ne_none _
  obtain ⟨before, event, after, rfl, sets, since⟩ :=
    run_last_change (Server.session fd) _ events changed
  rw [present] at since
  have now := since [] List.nil_prefix
  have step := step_session (step_steps env (run (Server.step env) { db := db } before) event) fd
  rw [run_concat] at sets now
  rw [now] at step sets
  refine ⟨user, before, event, after, ?_⟩
  cases old : (run (Server.step env) { db := db } before).session fd with
  | none =>
    rw [old] at step
    cases step with
    | opened => exact absurd rfl context
  | some previous =>
    rw [old] at step sets
    cases step with
    | kept => exact absurd rfl sets
    | login =>
      have early : NoLogoutInContext env db before := allowed.of_prefix (List.prefix_append _ _)
      exact absurd (run_reset early fd _ old rfl) context
    | logout => exact absurd rfl user
    | use command => exact ⟨_, rfl, command, rfl, rfl, since⟩

/-- **Sessions inherit no context if and only if no client with a context logs out.** -/
theorem session_reset_iff (env : Env) (db : Database) (events : List Event) :
    SessionReset env db events ↔ NoLogoutInContext env db events := by
  constructor
  · rintro holds before event initial ⟨fd, session, command, present, user, context⟩
    have after : ((run (Server.step env) { db := db } before).step env event).session fd
        = some ⟨[], session.context⟩ := session_logout command present user
    have reset := holds.reset (before ++ [event]) initial
    rw [run_concat] at reset
    have empty := reset fd _ after rfl
    exact context empty
  · intro allowed
    refine ⟨fun before initial => run_reset (allowed.of_prefix initial), ?_, ?_⟩
    · intro before event fd old new initial command present nobody logged user
      have step := step_session
        (step_steps env (run (Server.step env) { db := db } before) event) fd
      rw [run_concat] at logged
      rw [present, logged] at step
      have empty := run_reset
        (allowed.of_prefix ((List.prefix_append _ _).trans initial)) fd old present nobody
      cases step with
      | kept => exact absurd nobody user
      | login => exact empty
      | logout _ somebody => exact absurd nobody somebody
      | use _ somebody => exact absurd nobody somebody
    · intro present fd session initial found context
      exact context_origin (allowed.of_prefix initial) found context

/-- A client selects its team and logs out. -/
def logoutAfterUse : List Event :=
  [.accept 4, .line 4 (ascii "/login \"ann\""), .line 4 (ascii "/create \"red\" \"first\""),
    .line 4 (ascii "/use \"" ++ digitUuid 1 ++ ascii "\""), .line 4 (ascii "/logout")]

/-- The team is still selected. -/
theorem not_session_reset : ¬ ∀ (env : Env) (db : Database) (events : List Event),
    SessionReset env db events := by
  intro each
  have reset := (each sampleEnv {} logoutAfterUse).reset _ (List.prefix_refl _)
  have left : (run (Server.step sampleEnv) { db := {} } logoutAfterUse).session 4
      = some ⟨[], { teamUuid := digitUuid 1 }⟩ := by decide
  exact absurd (reset 4 _ left rfl) (by decide)

end Runs

end MyTeams
