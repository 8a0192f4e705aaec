/-
**What one process has saved, the next ones serve.**

Server processes follow one another on one save file. Some are stopped and save, others are refused at their
start, or end by an error or a signal before they save. All of them are healthy (`Life.Healthy`): the file can be
read and is read to its end, a process that writes it writes it as a whole, and `uuid_generate` gives new values.
A file that is cut short, by a full disk or a signal during `SaveManager::save`, is not covered, nor is one that a
process cannot open and so starts without. `Life.commit` says what should hold of the processes without a file:
the database of the last orderly stop.

* `Life.status_zero_iff` — when `main` returns 0;
* `stored_lives` — the save file holds the database that was committed last;
* `life_serves_committed` — every process starts from it, and goes on as the machine of `Server.step` does,
  from a database as the results about runs assume it (`SelfSaved`);
* `committed_survives` — what was committed once is served by every later process.
-/

import Mathlib.Data.List.Infix
import MyTeams.Guarantees.AppendOnly
import MyTeams.Server.Lifecycle

namespace MyTeams

open Transition

/-! ### Moments of a process -/

namespace Life

section Moments

variable {fp : FloatingPoint} {life : Life} {db : Database} {file : Option Bytes} {loop : Loop} {saved : Bytes}
  {server : Server}

/-- At some moment of its life, the server of a process that has loaded this database is this one. -/
def Serves (fp : FloatingPoint) (db : Database) (server : Server) (life : Life) : Prop :=
  ∃ early ∈ life.rounds.inits, (({ life with rounds := early } : Life).mainWith fp (some db)).server = some server

/-- A process that serves has passed `Server::init`. -/
theorem mainWith_serving {process : Process} (serving : life.mainWith fp (some db) = .serving process) :
    ∃ serverFd, ∀ early, ({ life with rounds := early } : Life).mainWith fp (some db)
      = .serving (run (Process.round (life.env fp)) (.looping (.listening serverFd db)) early) := by
  unfold mainWith at serving ⊢
  split at serving
  · rename_i arg single
    split_ifs at serving with help
    split at serving
    · cases serving
    · rename_i port accepted
      cases listens : life.answers.listenOn port with
      | error errno =>
        simp only [listens] at serving
        cases serving
      | ok serverFd =>
        refine ⟨serverFd, fun early => ?_⟩
        simp only [single, if_neg help, accepted, listens]
        rfl
  · cases serving

/-- The loop that has returned was stopped. -/
theorem returned_of_run {env : Env} {rounds : List Round} {start : Loop}
    (returned : run (Process.round env) (.looping start) rounds = .returned loop saved) :
    saved = SaveManager.save loop.server.db ∧
      ∃ early, early <+: rounds ∧ run (Process.round env) (.looping start) early = .looping loop := by
  induction rounds generalizing start with
  | nil => cases returned
  | cons round rest ih =>
    rw [run_cons] at returned
    cases first : Process.round env (.looping start) round with
    | looping between =>
      rw [first] at returned
      obtain ⟨content, early, initial, reached⟩ := ih returned
      refine ⟨content, round :: early, List.cons_prefix_cons.mpr ⟨rfl, initial⟩, ?_⟩
      rw [run_cons, first, reached]
    | returned ended content =>
      rw [first, run_round_of_ended (by simp)] at returned
      cases returned
      cases round with
      | stop =>
        cases first
        exact ⟨rfl, [], List.nil_prefix, rfl⟩
      | wait ready =>
        simp only [Process.round] at first
        split at first
        · cases first
        · cases first
        · split at first <;> cases first
    | thrown | killed =>
      rw [first, run_round_of_ended (by simp)] at returned
      cases returned

theorem returned_of_stopped {program : Program} (stopped : program.stopped = some server) :
    ∃ loop saved, program = .serving (.returned loop saved) ∧ loop.server = server := by
  unfold Program.stopped at stopped
  split at stopped
  · exact ⟨_, _, rfl, Option.some.inj stopped⟩
  · cases stopped

/-- What an orderly stop saves is the database of a moment of the process. -/
theorem serves_of_stopped (stopped : (life.mainWith fp (some db)).stopped = some server) :
    (life.mainWith fp (some db)).saved = SaveManager.save server.db ∧ life.Serves fp db server := by
  obtain ⟨loop, saved, returned, rfl⟩ := returned_of_stopped stopped
  obtain ⟨serverFd, moments⟩ := mainWith_serving returned
  have whole : life.mainWith fp (some db)
      = .serving (run (Process.round (life.env fp)) (.looping (.listening serverFd db)) life.rounds) :=
    moments life.rounds
  rw [returned] at whole
  obtain ⟨content, early, initial, reached⟩ := returned_of_run (Program.serving.inj whole).symm
  refine ⟨?_, early, (List.mem_inits _ _).mpr initial, ?_⟩
  · rw [returned]
    exact content
  · rw [moments, reached]
    rfl

theorem serving_of_server {program : Program} (present : program.server = some server) :
    ∃ loop, program = .serving (.looping loop) ∧ loop.server = server := by
  unfold Program.server at present
  split at present
  · exact ⟨_, rfl, Option.some.inj present⟩
  · cases present

/-- **The program runs the machine**: at every moment its server is where a run of events leads from the database
that was loaded. -/
theorem serves_runs (serves : life.Serves fp db server) :
    ∃ events, server = run (Server.step (life.env fp)) { db := db } events := by
  obtain ⟨early, -, present⟩ := serves
  obtain ⟨loop, serving, rfl⟩ := serving_of_server present
  obtain ⟨serverFd, moments⟩ := mainWith_serving serving
  have reached : ({ life with rounds := early } : Life).mainWith fp (some db)
      = .serving (run (Process.round (life.env fp)) (.looping (.listening serverFd db)) early) := moments early
  rw [serving] at reached
  obtain ⟨inputs, led⟩ := looping_runs early (Program.serving.inj reached).symm
  refine ⟨Input.trace (life.env fp) { db := db } inputs, ?_⟩
  rw [led, run_trace]
  rfl

theorem help_of_exited {loaded : Option Database} (ends : life.mainWith fp loaded = .exited 0) :
    life.args = [ascii "--help"] := by
  unfold mainWith at ends
  split at ends
  · rename_i arg single
    split_ifs at ends with help
    · exact single.trans (congrArg (fun arg => [arg]) help)
    · split at ends
      · cases ends
      · split at ends <;> cases ends
  · cases ends

/-- **The program returns 0 if it was asked for help, or was stopped**, and in no other case. -/
theorem status_zero_iff {loaded : Option Database} : (life.mainWith fp loaded).status = some 0 ↔
    life.args = [ascii "--help"] ∨ ∃ server, (life.mainWith fp loaded).stopped = some server := by
  constructor
  · intro zero
    cases ends : life.mainWith fp loaded with
    | loading =>
      rw [ends] at zero
      cases zero
    | serving process =>
      rw [ends] at zero
      cases process with
      | returned loop saved => exact Or.inr ⟨loop.server, rfl⟩
      | _ => cases zero
    | exited status =>
      rw [ends] at zero
      exact Or.inl (help_of_exited (ends.trans (congrArg Program.exited (Option.some.inj zero))))
  · rintro (help | ⟨server, stopped⟩)
    · unfold mainWith
      simp only [help, if_true]
      rfl
    · obtain ⟨loop, saved, returned, -⟩ := returned_of_stopped stopped
      rw [returned]
      rfl

end Moments

/-! ### Without a file -/

/-- What a process does to the database of the last orderly stop: it starts from what a reload leaves of it, and
commits where it ends if it can write its file. -/
def commit (fp : FloatingPoint) (db : Database) (life : Life) : Database :=
  match (life.mainWith fp (some (db.reloaded (reloadTime fp)))).stopped, life.disk with
  | some server, some _ => server.db
  | _, _ => db

/-- The disk and the generator do their part: the file can be read and is read to its end, it is written
as a whole if it is written at all, and `uuid_generate` gives new values. -/
structure Healthy (fp : FloatingPoint) (file : Option Bytes) (life : Life) : Prop where
  readable : life.readable = true
  patient : ∀ content ∈ file, 2 * content.length ≤ life.fuel
  whole : ∀ count ∈ life.disk, (life.main fp file).saved.length ≤ count
  fresh : ∀ db ∈ life.loaded fp file, ∀ early ∈ life.rounds.inits,
    ∀ server ∈ (({ life with rounds := early } : Life).mainWith fp (some db)).server,
      (life.env fp).Fresh db.uuids server.uuidCalls

/-- A text that is not there, in the words of `List.any`. -/
theorem any_eq_false_iff {past : List Bytes} {text : Bytes} : past.any (· = text) = false ↔ text ∉ past := by
  rw [List.any_eq_false]
  exact ⟨fun each member => each text member (decide_eq_true rfl), fun absent other member same =>
    absent (of_decide_eq_true same ▸ member)⟩

instance (env : Env) (past : List Bytes) (calls : Nat) : Decidable (env.Fresh past calls) :=
  decidable_of_iff ((∀ i < calls, ∀ j < i, env.uuid j ≠ env.uuid i) ∧
      ∀ i < calls, past.any (· = (env.uuid i).1) = false)
    ⟨fun both => ⟨both.1, fun i early => any_eq_false_iff.mp (both.2 i early)⟩, fun fresh =>
      ⟨fresh.distinct, fun i early => any_eq_false_iff.mpr (fresh.new i early)⟩⟩

instance (fp : FloatingPoint) (file : Option Bytes) (life : Life) : Decidable (life.Healthy fp file) :=
  decidable_of_iff (life.readable = true ∧ (∀ content ∈ file, 2 * content.length ≤ life.fuel) ∧
      (∀ count ∈ life.disk, (life.main fp file).saved.length ≤ count) ∧
      ∀ db ∈ life.loaded fp file, ∀ early ∈ life.rounds.inits,
        ∀ server ∈ (({ life with rounds := early } : Life).mainWith fp (some db)).server,
          (life.env fp).Fresh db.uuids server.uuidCalls)
    ⟨fun all => ⟨all.1, all.2.1, all.2.2.1, all.2.2.2⟩, fun healthy =>
      ⟨healthy.readable, healthy.patient, healthy.whole, healthy.fresh⟩⟩

/-- The file holds the database; a missing file holds the empty one. -/
inductive Stored : Option Bytes → Database → Prop
  | missing : Stored none {}
  | saved (db : Database) : Stored (some (SaveManager.save db)) db

section Commits

variable {fp : FloatingPoint} {life : Life} {db : Database} {file : Option Bytes} {loop : Loop}
  {server : Server}

theorem Healthy.fresh_of_serves (healthy : life.Healthy fp file) (loaded : life.loaded fp file = some db)
    (serves : life.Serves fp db server) : (life.env fp).Fresh db.uuids server.uuidCalls := by
  obtain ⟨early, initial, present⟩ := serves
  exact healthy.fresh db loaded early initial server present

/-- What a healthy process loads. -/
theorem loaded_of_stored (stored : Stored file db) (healthy : life.Healthy fp file) :
    life.loaded fp file = some (db.reloaded (reloadTime fp)) := by
  unfold loaded
  rw [if_pos healthy.readable]
  cases stored with
  | missing => rfl
  | saved => exact load_save fp db {} (healthy.patient _ rfl)

theorem commit_of_stopped (stopped : (life.mainWith fp (some (db.reloaded (reloadTime fp)))).stopped = some server)
    (written : life.disk.isSome = true) : life.commit fp db = server.db := by
  obtain ⟨count, disk⟩ := Option.isSome_iff_exists.mp written
  unfold commit
  rw [stopped, disk]

/-- A process that does not stop, or cannot write its file, changes nothing. -/
theorem commit_of_lost (lost : (life.mainWith fp (some (db.reloaded (reloadTime fp)))).stopped = none ∨
    life.disk = none) : life.commit fp db = db := by
  unfold commit
  rcases lost with lost | lost
  · rw [lost]
  · rw [lost]
    split
    · contradiction
    · rfl

/-- The file after a process. -/
theorem store_eq (fp : FloatingPoint) (file : Option Bytes) (life : Life) : life.store fp file
    = match (life.main fp file).stopped, life.disk with
      | some _, some count => some ((life.main fp file).saved.take count)
      | _, _ => file := by
  unfold store
  cases life.main fp file with
  | serving process => cases process <;> cases life.disk <;> rfl
  | _ => rfl

/-- **One process keeps the file and the committed database together.** -/
theorem stored_store (stored : Stored file db) (healthy : life.Healthy fp file) :
    Stored (life.store fp file) (life.commit fp db) := by
  have loaded := loaded_of_stored stored healthy
  have whole := healthy.whole
  rw [store_eq]
  unfold main at whole ⊢
  rw [loaded] at whole ⊢
  cases ends : (life.mainWith fp (some (db.reloaded (reloadTime fp)))).stopped with
  | none =>
    rw [commit_of_lost (Or.inl ends)]
    exact stored
  | some server =>
    cases disk : life.disk with
    | none =>
      rw [commit_of_lost (Or.inr disk)]
      exact stored
    | some count =>
      rw [commit_of_stopped ends (by rw [disk]; rfl)]
      simp only
      rw [List.take_of_length_le (whole count disk), (serves_of_stopped ends).1]
      exact .saved _

/-- **A committed database is one that the server can load again.** -/
theorem selfSaved_commit (stored : Stored file db) (healthy : life.Healthy fp file)
    (loadable : SelfSaved (db.reloaded (reloadTime fp))) :
    SelfSaved ((life.commit fp db).reloaded (reloadTime fp)) := by
  unfold commit
  split
  · rename_i server count stopped disk
    obtain ⟨-, serves⟩ := serves_of_stopped stopped
    obtain ⟨events, reached⟩ := serves_runs serves
    have fresh := healthy.fresh_of_serves (loaded_of_stored stored healthy) serves
    rw [reached] at fresh ⊢
    have again := SelfSaved.saved (life.env fp) events loadable fresh
    rwa [restart_db] at again
  · exact loadable

end Commits

end Life

/-! ### What survives -/

/-- A reload changes no timestamp that a `double` can hold. -/
def ExactTime (before after : Int) : Prop := |before| ≤ 2 ^ 53 → after = before

section Survival

variable {fp : FloatingPoint} {life : Life} {db : Database} {server : Server}

theorem ExactTime.refl (time : Int) : ExactTime time time := fun _ => rfl

theorem ExactTime.trans (first second third : Int) (early : ExactTime first second) (late : ExactTime second third) :
    ExactTime first third := by
  intro small
  have same := early small
  rw [same] at late
  exact late small

/-- What is there survives a run. -/
theorem run_exact (env : Env) (server : Server) (events : List Event) :
    server.db.Preserved ExactTime (run (Server.step env) server events).db := by
  induction events generalizing server with
  | nil => exact ⟨.refl (User.Archived.refl ExactTime.refl) _, .refl (Team.Kept.refl ExactTime.refl) _⟩
  | cons event rest ih =>
    have step := step_preserved ExactTime.refl ExactTime.trans (fun _ time => env.fp.toTime_ofInt time)
      (step_steps env server event)
    exact step.trans ExactTime.trans (ih (server.step env event))

/-- What is there survives a stop and a start. -/
theorem reloaded_exact (env : Env) (db : Database) : db.Preserved ExactTime (db.reloaded (reloadTime env.fp)) := by
  have restarted := run_exact env { db := db } [.restart]
  have reloaded : (run (Server.step env) { db := db } [.restart]).db = db.reloaded (reloadTime env.fp) :=
    restart_db env { db := db }
  rwa [reloaded] at restarted

/-- At any moment of a process, what was committed before is still there. -/
theorem Life.Serves.preserved (serves : life.Serves fp (db.reloaded (reloadTime fp)) server) :
    db.Preserved ExactTime server.db := by
  obtain ⟨events, reached⟩ := Life.serves_runs serves
  rw [reached]
  have start : db.Preserved ExactTime (db.reloaded (reloadTime fp)) := reloaded_exact (life.env fp) db
  exact start.trans ExactTime.trans (run_exact _ { db := db.reloaded (reloadTime fp) } events)

/-- What was committed is in whatever is committed next. -/
theorem commit_preserved (fp : FloatingPoint) (db : Database) (life : Life) :
    db.Preserved ExactTime (life.commit fp db) := by
  unfold Life.commit
  split
  · rename_i server count stopped disk
    exact (Life.serves_of_stopped stopped).2.preserved
  · exact run_exact (life.env fp) { db := db } []

theorem commits_preserved (fp : FloatingPoint) (db : Database) (lives : List Life) :
    db.Preserved ExactTime (run (Life.commit fp) db lives) := by
  induction lives generalizing db with
  | nil => exact ⟨.refl (User.Archived.refl ExactTime.refl) _, .refl (Team.Kept.refl ExactTime.refl) _⟩
  | cons life rest ih => exact (commit_preserved fp db life).trans ExactTime.trans (ih (life.commit fp db))

/-- **The save file holds what was committed last**, after any healthy processes, and a server can load it. -/
theorem stored_lives (fp : FloatingPoint) (lives : List Life)
    (healthy : Throughout (Life.store fp) (fun file life => life.Healthy fp file) none lives) :
    Life.Stored (run (Life.store fp) none lives) (run (Life.commit fp) {} lives) ∧
      SelfSaved ((run (Life.commit fp) {} lives).reloaded (reloadTime fp)) := by
  induction lives using List.reverseRecOn with
  | nil => exact ⟨.missing, .empty⟩
  | append_singleton lives life ih =>
    obtain ⟨earlier, now⟩ := throughout_concat.mp healthy
    obtain ⟨stored, loadable⟩ := ih earlier
    rw [run_concat, run_concat]
    exact ⟨Life.stored_store stored now, Life.selfSaved_commit stored now loadable⟩

/-- What a healthy process loads. -/
theorem loaded_of_lives (fp : FloatingPoint) (lives : List Life) (life : Life)
    (healthy : Throughout (Life.store fp) (fun file life => life.Healthy fp file) none (lives ++ [life]))
    (loaded : life.loaded fp (run (Life.store fp) none lives) = some db) :
    db = (run (Life.commit fp) {} lives).reloaded (reloadTime fp) ∧ SelfSaved db := by
  obtain ⟨earlier, now⟩ := throughout_concat.mp healthy
  obtain ⟨stored, loadable⟩ := stored_lives fp lives earlier
  have same := Option.some.inj (loaded.symm.trans (Life.loaded_of_stored stored now))
  exact ⟨same, same ▸ loadable⟩

end Survival

/-- **Every process continues from the last orderly stop.** The processes before it were healthy: each was refused,
ended without a save, or wrote its file as a whole. Then a process that has loaded the save file serves the database
that was committed last, with nobody connected: it is where a run of events leads from it, and it is one of those
from which the results about runs start. What was not committed is gone. -/
theorem life_serves_committed (fp : FloatingPoint) (lives : List Life) (life : Life)
    (healthy : Throughout (Life.store fp) (fun file life => life.Healthy fp file) none (lives ++ [life]))
    {db : Database} {server : Server} (loaded : life.loaded fp (run (Life.store fp) none lives) = some db)
    (serves : life.Serves fp db server) :
    db = (run (Life.commit fp) {} lives).reloaded (reloadTime fp) ∧ SelfSaved db ∧
      ∃ events, server = run (Server.step (life.env fp)) { db := db } events := by
  obtain ⟨same, loadable⟩ := loaded_of_lives fp lives life healthy loaded
  exact ⟨same, loadable, Life.serves_runs serves⟩

/-- A process that has a user and a team when it is stopped. -/
def firstLife : Life :=
  { uuid := digitUuid, time := fun n => n, args := [ascii "4242"], fuel := 2000, disk := some 1000,
    rounds := [.wait [.ok [({ fd := 3, pollIn := true }, { accept := .ok 4 })]],
      .wait [.ok [({ fd := 4, pollIn := true }, { read := .ok (ascii "/login \"ann\"\n") })]],
      .wait [.ok [({ fd := 4, pollIn := true }, { read := .ok (ascii "/create \"red\" \"first\"\n") })]], .stop] }

/-- One process is called without a port. Another one has made a team when a client resets its connection. -/
def laterLives : List Life :=
  [{ firstLife with args := [] },
    { firstLife with
      uuid := fun n => digitUuid (n + 2)
      rounds := [.wait [.ok [({ fd := 3, pollIn := true }, { accept := .ok 4 })]],
        .wait [.ok [({ fd := 4, pollIn := true },
          { read := .ok (ascii "/login \"ann\"\n/create \"blue\" \"lost\"\n") })]],
        .wait [.ok [({ fd := 4, pollIn := true }, { read := .error .connectionReset })]], .stop] }]

/-- A client logs in to the process behind them. -/
def sampleLife : Life :=
  { firstLife with
    uuid := fun n => digitUuid (n + 3)
    rounds := firstLife.rounds.take 2 }

theorem sampleLives_healthy : Throughout (Life.store integerDouble)
    (fun file life => life.Healthy integerDouble file) none ((firstLife :: laterLives) ++ [sampleLife]) :=
  throughout_cons.mpr ⟨by decide +kernel, throughout_cons.mpr ⟨by decide +kernel, throughout_cons.mpr
    ⟨by decide +kernel, throughout_cons.mpr ⟨by decide +kernel, throughout_nil⟩⟩⟩⟩

/-- The last process, at its last moment. -/
theorem life_serves_committed_sample :
    let file := run (Life.store integerDouble) none (firstLife :: laterLives)
    ∃ db server, (sampleLife.main integerDouble file).server = some server ∧
      (db = (run (Life.commit integerDouble) {} (firstLife :: laterLives)).reloaded (reloadTime integerDouble) ∧
        SelfSaved db ∧
        ∃ events, server = run (Server.step (sampleLife.env integerDouble)) { db := db } events) := by
  intro file
  have loads : (sampleLife.loaded integerDouble file).isSome = true := by decide +kernel
  have serves : (sampleLife.main integerDouble file).server.isSome = true := by decide +kernel
  obtain ⟨db, loaded⟩ := Option.isSome_iff_exists.mp loads
  obtain ⟨server, present⟩ := Option.isSome_iff_exists.mp serves
  refine ⟨db, server, present, life_serves_committed integerDouble (firstLife :: laterLives) sampleLife
    sampleLives_healthy loaded ⟨sampleLife.rounds, (List.mem_inits _ _).mpr (List.prefix_refl _), ?_⟩⟩
  rw [← loaded]
  exact present

/-- **What one process has saved survives.** A process is stopped and writes its file. If all processes are healthy,
then at any moment of any later one all users, messages, teams, channels, threads and replies of the stopped one are
there, in their places, unchanged up to timestamps that a `double` cannot hold. -/
theorem committed_survives (fp : FloatingPoint) (before between : List Life) (life last : Life)
    (healthy : Throughout (Life.store fp) (fun file life => life.Healthy fp file) none
      (before ++ life :: between ++ [last]))
    {former server : Server} {db : Database}
    (stopped : (life.main fp (run (Life.store fp) none before)).stopped = some former)
    (written : life.disk.isSome = true)
    (loaded : last.loaded fp (run (Life.store fp) none (before ++ life :: between)) = some db)
    (serves : last.Serves fp db server) : former.db.Preserved ExactTime server.db := by
  obtain ⟨same, -⟩ := loaded_of_lives fp (before ++ life :: between) last healthy loaded
  obtain ⟨earlier, -⟩ := throughout_concat.mp healthy
  obtain ⟨first, rest⟩ := throughout_append.mp earlier
  obtain ⟨now, -⟩ := throughout_cons.mp rest
  obtain ⟨stored, -⟩ := stored_lives fp before first
  have committed : life.commit fp (run (Life.commit fp) {} before) = former.db := by
    have start := Life.loaded_of_stored stored now
    unfold Life.main at stopped
    rw [start] at stopped
    exact Life.commit_of_stopped stopped written
  have kept := commits_preserved fp former.db between
  rw [same, run_append, run_cons, committed] at serves
  exact kept.trans ExactTime.trans serves.preserved

/-- The team of the first process is there in the last one. -/
theorem committed_survives_sample :
    let file := run (Life.store integerDouble) none (firstLife :: laterLives)
    ∃ former server, (firstLife.main integerDouble none).stopped = some former ∧
      (sampleLife.main integerDouble file).server = some server ∧ former.db.Preserved ExactTime server.db := by
  intro file
  have stops : (firstLife.main integerDouble none).stopped.isSome = true := by decide +kernel
  have loads : (sampleLife.loaded integerDouble file).isSome = true := by decide +kernel
  have serves : (sampleLife.main integerDouble file).server.isSome = true := by decide +kernel
  obtain ⟨former, stopped⟩ := Option.isSome_iff_exists.mp stops
  obtain ⟨db, loaded⟩ := Option.isSome_iff_exists.mp loads
  obtain ⟨server, present⟩ := Option.isSome_iff_exists.mp serves
  refine ⟨former, server, stopped, present, committed_survives integerDouble [] laterLives firstLife sampleLife
    sampleLives_healthy stopped (by decide) loaded
    ⟨sampleLife.rounds, (List.mem_inits _ _).mpr (List.prefix_refl _), ?_⟩⟩
  rw [← loaded]
  exact present

end MyTeams
