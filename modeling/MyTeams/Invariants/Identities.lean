/-
**Identifiers are never repeated.**

`Env.Fresh past calls` is what is assumed of `uuid_generate`: its first `calls` values are pairwise
different, and none of them is in `past`, the uuids that the database had at the start.

* `serves_uuids`, `step_uuids` — a step keeps the uuids of the database, or takes the next value of
  the generator and adds it;
* `Supplied` — a list without repetition of old uuids and generated ones;
* `run_supplied` — the uuids of the database are supplied after every run.
-/

import MyTeams.Model.Identifiers
import MyTeams.Server.Machine

namespace MyTeams

open Transition

/-- The generator has not repeated itself in `calls` calls, and never gave a uuid of `past`. -/
structure Env.Fresh (env : Env) (past : List Bytes) (calls : Nat) : Prop where
  distinct : ∀ i < calls, ∀ j < i, env.uuid j ≠ env.uuid i
  new : ∀ i < calls, (env.uuid i).1 ∉ past

theorem Env.Fresh.of_le {env : Env} {past : List Bytes} {calls fewer : Nat} (fresh : env.Fresh past calls)
    (le : fewer ≤ calls) : env.Fresh past fewer :=
  ⟨fun i small => fresh.distinct i (small.trans_le le), fun i small => fresh.new i (small.trans_le le)⟩

/-- Uuids of the past or of the first `calls` calls, without repetition. -/
structure Supplied (env : Env) (past : List Bytes) (calls : Nat) (uuids : List Bytes) : Prop where
  nodup : uuids.Nodup
  known : ∀ uuid ∈ uuids, uuid ∈ past ∨ ∃ i < calls, uuid = (env.uuid i).1

section Supply

variable {env : Env} {past uuids after : List Bytes} {calls : Nat}

/-- The database at the start of a run has no uuids. -/
theorem supplied_empty : Supplied env [] 0 ({} : Database).uuids :=
  ⟨List.nodup_nil, fun _ member => absurd member List.not_mem_nil⟩

theorem Supplied.perm (supplied : Supplied env past calls uuids) (same : after.Perm uuids) {more : Nat}
    (le : calls ≤ more) : Supplied env past more after := by
  refine ⟨same.nodup_iff.mpr supplied.nodup, fun uuid member => ?_⟩
  rcases supplied.known uuid (same.mem_iff.mp member) with old | ⟨i, small, made⟩
  · exact Or.inl old
  · exact Or.inr ⟨i, small.trans_le le, made⟩

/-- The next value of the generator is not in a supplied list. -/
theorem Supplied.next_not_mem (supplied : Supplied env past calls uuids)
    (fresh : env.Fresh past (calls + 1)) : (env.uuid calls).1 ∉ uuids := by
  intro member
  rcases supplied.known _ member with old | ⟨i, small, made⟩
  · exact fresh.new calls (Nat.lt_succ_self _) old
  · exact fresh.distinct calls (Nat.lt_succ_self _) i small (Subtype.ext made.symm)

theorem Supplied.add (supplied : Supplied env past calls uuids) (fresh : env.Fresh past (calls + 1))
    (grown : after.Perm ((env.uuid calls).1 :: uuids)) : Supplied env past (calls + 1) after := by
  refine ⟨grown.nodup_iff.mpr (List.nodup_cons.mpr ⟨supplied.next_not_mem fresh, supplied.nodup⟩),
    fun uuid member => ?_⟩
  rcases List.mem_cons.mp (grown.mem_iff.mp member) with rfl | old
  · exact Or.inr ⟨calls, Nat.lt_succ_self _, rfl⟩
  · rcases supplied.known uuid old with early | ⟨i, small, made⟩
    · exact Or.inl early
    · exact Or.inr ⟨i, Nat.lt_succ_of_lt small, made⟩

end Supply

/-! ### The uuids of the database -/

/-- A list of identifiers is kept, or takes in the next value of the generator. -/
def Grows (env : Env) (calls more : Nat) (uuids after : List Bytes) : Prop :=
  after.Perm uuids ∧ calls ≤ more ∨
    after.Perm ((env.uuid calls).1 :: uuids) ∧ more = calls + 1

theorem Supplied.grows {env : Env} {past uuids after : List Bytes} {calls more : Nat}
    (supplied : Supplied env past calls uuids) (fresh : env.Fresh past more)
    (grows : Grows env calls more uuids after) : Supplied env past more after := by
  rcases grows with ⟨same, le⟩ | ⟨grown, rfl⟩
  · exact supplied.perm same le
  · exact supplied.add fresh grown

theorem Grows.le {env : Env} {calls more : Nat} {uuids after : List Bytes}
    (grows : Grows env calls more uuids after) : calls ≤ more := by
  rcases grows with ⟨-, le⟩ | ⟨-, rfl⟩
  · exact le
  · exact Nat.le_succ _

theorem Grows.subset {env : Env} {calls more : Nat} {uuids after : List Bytes}
    (grows : Grows env calls more uuids after) : ∀ uuid ∈ uuids, uuid ∈ after := by
  intro uuid member
  rcases grows with ⟨same, -⟩ | ⟨grown, -⟩
  · exact same.mem_iff.mpr member
  · exact grown.mem_iff.mpr (List.mem_cons_of_mem _ member)

section Steps

variable {env : Env} {fd : Int} {client : Client} {server after : Server} {verb : Verb}
  {outcome : Outcome}

theorem Team.addSubscriber_uuids (userUuid : Bytes) (team : Team) :
    (team.addSubscriber userUuid).2.uuids = team.uuids := by
  unfold addSubscriber
  split_ifs <;> rfl

theorem Team.removeSubscriber_uuids (userUuid : Bytes) (team : Team) :
    (team.removeSubscriber userUuid).2.uuids = team.uuids := by
  unfold removeSubscriber
  split_ifs <;> rfl

/-- A command keeps the uuids of the database or adds the next generated one. -/
theorem serves_uuids (serves : Serves env fd client server verb outcome) :
    Grows env server.uuidCalls outcome.uuidCalls server.db.uuids outcome.db.uuids := by
  have same : ∀ db : Database, db.uuids = server.db.uuids →
      Grows env server.uuidCalls server.uuidCalls server.db.uuids db.uuids :=
    fun db equal => Or.inl ⟨equal ▸ List.Perm.refl _, le_rfl⟩
  cases serves with
  | loginNew _ _ _ _ _ made =>
    subst made
    exact Or.inr ⟨Database.uuids_addUser server.db _, rfl⟩
  | loginAgain => exact same _ (Database.uuids_modifyUserByName _ _ fun _ => rfl)
  | logout => exact same _ (Database.uuids_modifyUser _ _ User.decrementConnection_uuid)
  | logoutLast => exact same _ (Database.uuids_modifyUser _ _ User.decrementConnection_uuid)
  | createTeam _ _ _ _ _ _ made =>
    subst made
    exact Or.inr ⟨Database.uuids_addTeam server.db rfl, rfl⟩
  | createChannel _ _ _ present _ _ _ _ made =>
    subst made
    exact Or.inr ⟨Database.uuids_addChannel present rfl, rfl⟩
  | createThread _ _ _ _ _ inside _ _ _ _ made =>
    subst made
    exact Or.inr ⟨Database.uuids_addThread inside rfl, rfl⟩
  | createReply _ _ _ _ _ _ within _ _ made =>
    subst made
    exact Or.inr ⟨Database.uuids_addReply within, rfl⟩
  | subscribe => exact same _ (Database.uuids_modifyTeam _ _ (Team.addSubscriber_uuids _))
  | unsubscribe => exact same _ (Database.uuids_modifyTeam _ _ (Team.removeSubscriber_uuids _))
  | send =>
    exact same _ ((Database.uuids_modifyUser _ _ (User.addMessage_uuid _ _)).trans
      (Database.uuids_modifyUser _ _ (User.addMessage_uuid _ _)))
  | _ => exact same _ rfl

theorem Thread.mapTime_uuids (f : Int → Int) (thread : Thread) :
    (thread.mapTime f).uuids = thread.uuids := by
  simp [Thread.uuids, Thread.mapTime, Reply.mapTime, Function.comp_def]

theorem Channel.mapTime_uuids (f : Int → Int) (channel : Channel) :
    (channel.mapTime f).uuids = channel.uuids := by
  simp [Channel.uuids, Channel.mapTime, List.flatMap_map, Thread.mapTime_uuids]

theorem Team.mapTime_uuids (f : Int → Int) (team : Team) : (team.mapTime f).uuids = team.uuids := by
  simp [Team.uuids, Team.mapTime, List.flatMap_map, Channel.mapTime_uuids]

theorem Database.reloaded_uuids (f : Int → Int) (db : Database) :
    (db.reloaded f).uuids = db.uuids := by
  simp [Database.uuids, Database.reloaded, User.reloaded, List.flatMap_map, Team.mapTime_uuids,
    Function.comp_def]

/-- So does every step. -/
theorem step_uuids {event : Event} (steps : Steps env server event after) :
    Grows env server.uuidCalls after.uuidCalls server.db.uuids after.db.uuids := by
  have same : ∀ db : Database, db.uuids = server.db.uuids →
      Grows env server.uuidCalls server.uuidCalls server.db.uuids db.uuids :=
    fun db equal => Or.inl ⟨equal ▸ List.Perm.refl _, le_rfl⟩
  cases steps with
  | served _ _ serves =>
    have grows := serves_uuids serves
    exact grows
  | leftUser => exact same _ (Database.uuids_modifyUser _ _ User.decrementConnection_uuid)
  | leftLast => exact same _ (Database.uuids_modifyUser _ _ User.decrementConnection_uuid)
  | restarted => exact same _ (Database.reloaded_uuids _ _)
  | _ => exact same _ rfl

end Steps

/-! ### Runs -/

section Runs

variable {env : Env} {past : List Bytes}

theorem fresh_earlier (server : Server) (event : Event)
    (fresh : env.Fresh past (server.step env event).uuidCalls) : env.Fresh past server.uuidCalls :=
  fresh.of_le (step_uuids (step_steps env server event)).le

/-- No step makes an empty uuid. -/
theorem step_named {server : Server} (event : Event) (named : [] ∉ server.db.uuids) :
    [] ∉ (server.step env event).db.uuids := by
  intro member
  rcases step_uuids (step_steps env server event) with ⟨same, -⟩ | ⟨grown, -⟩
  · exact named (same.mem_iff.mp member)
  · rcases List.mem_cons.mp (grown.mem_iff.mp member) with made | old
    · have width := (env.uuid server.uuidCalls).2.1
      rw [← made] at width
      cases width
    · exact named old

theorem run_named {server : Server} (named : [] ∉ server.db.uuids) (events : List Event) :
    [] ∉ (run (Server.step env) server events).db.uuids :=
  run_invariant (fun server : Server => [] ∉ server.db.uuids) (fun _ event => step_named event) named
    events

/-- **No uuid of the database is ever repeated**, while the generator does not repeat itself. -/
theorem run_supplied {start : Server}
    (supplied : Supplied env past start.uuidCalls start.db.uuids) (events : List Event)
    (fresh : env.Fresh past (run (Server.step env) start events).uuidCalls) :
    Supplied env past (run (Server.step env) start events).uuidCalls
      (run (Server.step env) start events).db.uuids :=
  run_invariant_of_assumption (fun server => Supplied env past server.uuidCalls server.db.uuids)
    (fun server => env.Fresh past server.uuidCalls) fresh_earlier
    (fun server event fresh supplied =>
      supplied.grows fresh (step_uuids (step_steps env server event)))
    supplied events fresh

end Runs

/-! ### An environment for concrete runs -/

/-- A text of the width of a uuid that ends in a digit. -/
def digitUuid (n : Nat) : Uuid :=
  ⟨List.replicate 35 48 ++ [(48 + n % 10).toUInt8], by
    have each : ∀ d < 10, IsUuid (List.replicate 35 48 ++ [(48 + d).toUInt8]) := by decide
    exact each _ (Nat.mod_lt n (by decide))⟩

/-- Ten uuids, a clock that counts its readings, and integers in place of floating-point numbers. -/
def sampleEnv : Env := ⟨digitUuid, fun n => n, integerDouble⟩

theorem sampleEnv_fresh : sampleEnv.Fresh [] 10 :=
  ⟨by decide, fun _ _ => List.not_mem_nil⟩

end MyTeams
