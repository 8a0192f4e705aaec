/-
**A context stays valid.**

USE checks each level of a context when it sets it. Nothing is ever removed from the database, so the
levels are still there whenever the context is used (`run_within`), and the channel and the thread
lie in the team, although `findThread` searches the channels of all teams.
-/

import MyTeams.Invariants.Growth
import MyTeams.Invariants.Identities
import MyTeams.Server.Session

namespace MyTeams

open Transition

/-- A context whose levels are found, each inside the one above. -/
inductive Context.Within (db : Database) : Context → Prop
  | nothing : Within db {}
  | team {teamUuid : Bytes} {team : Team} : db.findTeam teamUuid = some team →
      Within db { teamUuid := teamUuid }
  | channel {teamUuid channelUuid : Bytes} {team : Team} {channel : Channel} :
      db.findTeam teamUuid = some team →
      team.channels.find? (·.uuid = channelUuid) = some channel →
      Within db { teamUuid := teamUuid, channelUuid := channelUuid }
  | thread {teamUuid channelUuid threadUuid : Bytes} {team : Team} {channel : Channel}
      {thread : Thread} : db.findTeam teamUuid = some team →
      team.channels.find? (·.uuid = channelUuid) = some channel →
      channel.threads.find? (·.uuid = threadUuid) = some thread →
      Within db { teamUuid := teamUuid, channelUuid := channelUuid, threadUuid := threadUuid }

section Lookups

variable {db after : Database} {clock : Int → Int → Prop} {context : Context}

/-- What USE finds lies inside the level above, if no uuid is repeated. -/
theorem Context.Found.within (found : context.Found db) (distinct : db.uuids.Nodup) :
    context.Within db := by
  cases found with
  | nothing => exact .nothing
  | team present => exact .team present
  | channel present =>
    obtain ⟨team, known, inside⟩ := Database.findChannel_eq_some_iff.mp present
    exact .channel known inside
  | thread present within =>
    rw [Database.findThread_of_findChannel distinct present] at within
    obtain ⟨team, known, inside⟩ := Database.findChannel_eq_some_iff.mp present
    exact .thread known inside within

theorem Database.Kept.findTeam (kept : db.Kept clock after) {uuid : Bytes} {team : Team}
    (found : db.findTeam uuid = some team) :
    ∃ now, after.findTeam uuid = some now ∧ team.Kept clock now :=
  kept.teams.find? (fun same => by rw [same.uuid]) found

theorem Team.Kept.findChannel {team now : Team} (kept : team.Kept clock now) {uuid : Bytes}
    {channel : Channel} (found : team.channels.find? (·.uuid = uuid) = some channel) :
    ∃ later, now.channels.find? (·.uuid = uuid) = some later ∧ channel.Kept clock later :=
  kept.channels.find? (fun same => by rw [same.uuid]) found

theorem Channel.Kept.findThread {channel now : Channel} (kept : channel.Kept clock now) {uuid : Bytes}
    {thread : Thread} (found : channel.threads.find? (·.uuid = uuid) = some thread) :
    ∃ later, now.threads.find? (·.uuid = uuid) = some later ∧ thread.Kept clock later :=
  kept.threads.find? (fun same => by rw [same.uuid]) found

/-- The levels of a context are still found in a database that has grown. -/
theorem Context.Within.kept (within : context.Within db) (kept : db.Kept clock after) :
    context.Within after := by
  cases within with
  | nothing => exact .nothing
  | team present =>
    obtain ⟨team, known, -⟩ := kept.findTeam present
    exact .team known
  | channel present inside =>
    obtain ⟨team, known, teamKept⟩ := kept.findTeam present
    obtain ⟨channel, still, -⟩ := teamKept.findChannel inside
    exact .channel known still
  | thread present inside deeper =>
    obtain ⟨team, known, teamKept⟩ := kept.findTeam present
    obtain ⟨channel, still, channelKept⟩ := teamKept.findChannel inside
    obtain ⟨thread, yet, -⟩ := channelKept.findThread deeper
    exact .thread known still yet

theorem mem_uuids_of_findTeam {uuid : Bytes} {team : Team} (found : db.findTeam uuid = some team) :
    uuid ∈ db.uuids := by
  obtain ⟨stored, named⟩ := FirstMatch.find?_key found
  exact List.mem_append_right _
    (List.mem_flatMap.mpr ⟨team, stored, named ▸ List.mem_cons_self⟩)

/-- A context below the level of a team has a team, in which the channel lies. -/
theorem Context.Within.inside (within : context.Within db) (named : [] ∉ db.uuids)
    (below : context.channelUuid ≠ [] ∨ context.threadUuid ≠ []) :
    context.teamUuid ≠ [] ∧ ∃ team channel, db.findTeam context.teamUuid = some team ∧
      team.channels.find? (·.uuid = context.channelUuid) = some channel := by
  cases within with
  | nothing => simp at below
  | team => simp at below
  | channel present inside =>
    exact ⟨fun empty => named (empty ▸ mem_uuids_of_findTeam present), _, _, present, inside⟩
  | thread present inside =>
    exact ⟨fun empty => named (empty ▸ mem_uuids_of_findTeam present), _, _, present, inside⟩

end Lookups

/-- Every context is valid. -/
def ContextsWithin (server : Server) : Prop :=
  ∀ fd session, server.session fd = some session → session.context.Within server.db

section Runs

variable {env : Env} {past : List Bytes}

theorem step_within {server : Server} (event : Event) (distinct : server.db.uuids.Nodup)
    (within : ContextsWithin server) : ContextsWithin (server.step env event) := by
  intro fd session present
  have steps := step_steps env server event
  have kept := step_kept steps
  have step := step_session steps fd
  rw [present] at step
  cases before : server.session fd with
  | none =>
    rw [before] at step
    cases step with
    | opened => exact .nothing
  | some old =>
    have still := (within fd old before).kept kept
    rw [before] at step
    cases step with
    | use _ _ found => exact (found.within distinct).kept kept
    | _ => exact still

/-- What is assumed of the uuids of the database that a run starts with. -/
structure Distinct (uuids : List Bytes) : Prop where
  nodup : uuids.Nodup
  named : [] ∉ uuids

theorem run_distinct {db : Database} (start : Distinct db.uuids) (events : List Event)
    (fresh : env.Fresh db.uuids (run (Server.step env) { db := db } events).uuidCalls) :
    Distinct (run (Server.step env) { db := db } events).db.uuids := by
  have initial : Supplied env db.uuids 0 db.uuids := ⟨start.nodup, fun _ member => Or.inl member⟩
  have supplied : Supplied env db.uuids _ (run (Server.step env) { db := db } events).db.uuids :=
    run_supplied initial events fresh
  exact ⟨supplied.nodup, run_named start.named events⟩

/-- **Every context is valid at every moment of a run.** -/
theorem run_within {db : Database} (start : Distinct db.uuids) (events : List Event)
    (fresh : env.Fresh db.uuids (run (Server.step env) { db := db } events).uuidCalls) :
    ContextsWithin (run (Server.step env) { db := db } events) := by
  induction events using List.reverseRecOn with
  | nil =>
    intro fd session present
    cases present
  | append_singleton events event ih =>
    rw [run_concat] at fresh ⊢
    have earlier := fresh_earlier _ event fresh
    exact step_within event (run_distinct start events earlier).nodup (ih earlier)

/-- A database that a server process can load: the empty one, or one that was saved by a process which
itself started from such a database, while its `uuid_generate` gave fresh values. -/
inductive SelfSaved : Database → Prop
  | empty : SelfSaved {}
  | saved {db : Database} (env : Env) (events : List Event) : SelfSaved db →
      env.Fresh db.uuids (run (Server.step env) { db := db } events).uuidCalls →
      SelfSaved ((run (Server.step env) { db := db } events).restart env).db

theorem restart_db (env : Env) (server : Server) :
    (server.restart env).db = server.db.reloaded (reloadTime env.fp) := by
  rw [restart_eq]

theorem SelfSaved.distinct {db : Database} (saved : SelfSaved db) : Distinct db.uuids := by
  induction saved with
  | empty => exact ⟨List.nodup_nil, List.not_mem_nil⟩
  | saved env events _ fresh ih =>
    rw [restart_db, Database.reloaded_uuids]
    exact run_distinct ih events fresh

end Runs

end MyTeams
