/-
**What the loop writes when it ends.**

`Server::run` saves after its loop, and the loop ends when a signal has cleared `_running`. An
exception of a wrapper takes another way: it leaves `run` between two tests of `_running`, and
nothing is saved. So the loop ends as it should if and only if no call that is made is answered by
an error that its wrapper throws on (`orderly_iff`).
-/

import MyTeams.Invariants.Identities
import MyTeams.Server.EventLoop

namespace MyTeams

open Transition

/-! ### The answers that the wrappers pass on -/

/-- The call returned a value. -/
def Succeeds {α : Type} (answer : Except Errno α) : Prop := ∀ errno, answer ≠ .error errno

/-- The call returned a value, or has to be tried again. -/
def Passes {α : Type} (answer : Except Errno α) : Prop :=
  ∀ errno, answer = .error errno → errno.isWouldBlock = true

/-- The calls of `poll` were interrupted until one returned a value or the time was over. -/
def Waits {α : Type} : List (Except Errno α) → Prop
  | [] => True
  | .ok _ :: _ => True
  | .error errno :: answers => errno = .interrupted ∧ Waits answers

section Wrappers

variable {α : Type}

theorem orThrow_iff (syscall : Syscall) {answer : Except Errno α} :
    (∃ value, Posix.orThrow syscall answer = .ok value) ↔ Succeeds answer := by
  unfold Posix.orThrow Succeeds
  cases answer <;> simp

theorem setNonBlocking_iff {getFlags setFlags : Except Errno Unit} :
    (∃ value, Posix.setNonBlocking getFlags setFlags = .ok value) ↔
      Succeeds getFlags ∧ Succeeds setFlags := by
  rw [← orThrow_iff .fcntl, ← orThrow_iff .fcntl]
  unfold Posix.setNonBlocking
  cases Posix.orThrow .fcntl getFlags <;> simp

theorem read_iff {answer : Except Errno Bytes} :
    (∃ value, Posix.read answer = .ok value) ↔ Passes answer := by
  unfold Posix.read Passes
  cases answer with
  | ok data => simp
  | error errno => by_cases again : errno.isWouldBlock = true <;> simp [again]

theorem write_iff {answer : Except Errno Nat} :
    (∃ value, Posix.write answer = .ok value) ↔ Passes answer := by
  unfold Posix.write Passes
  cases answer with
  | ok count => simp
  | error errno =>
    by_cases again : errno.isWouldBlock = true
    · simp [again]
    · by_cases pipe : errno = .brokenPipe
      · subst pipe
        simp [again]
      · simp [again, pipe]

theorem poll_iff {answers : List (Except Errno (List α))} :
    (∃ events, Posix.poll answers = .ok events) ↔ Waits answers := by
  induction answers with
  | nil => exact ⟨fun _ => trivial, fun _ => ⟨[], rfl⟩⟩
  | cons answer rest ih =>
    cases answer with
    | ok events => exact ⟨fun _ => trivial, fun _ => ⟨events, rfl⟩⟩
    | error errno =>
      cases errno with
      | interrupted => simpa [Posix.poll, Waits] using ih
      | _ => simp [Posix.poll, Posix.orThrow, Waits]

end Wrappers

/-! ### The calls of an event -/

/-- Output waits for the client. -/
def Loop.hasOutput (fd : Int) (loop : Loop) : Prop :=
  ∃ client, loop.server.clients.find? fd = some client ∧ client.writeBuffer ≠ []

/-- The loop after the read that an event asks for. -/
def Loop.received (env : Env) (event : PollEvent) (answers : Answers) (loop : Loop) :
    Except Fault Loop :=
  if event.pollIn then loop.handleRead env event.fd answers else .ok loop

/-- No call that the event leads to is answered by an error that its wrapper throws on. -/
def EventHarmless (env : Env) (loop : Loop) (event : PollEvent × Answers) : Prop :=
  if event.1.fd = loop.serverFd then
    event.1.pollIn = true →
      Succeeds event.2.accept ∧ Succeeds event.2.getFlags ∧ Succeeds event.2.setFlags
  else if loop.server.clients.find? event.1.fd = none then True
  else if event.1.pollHup || event.1.pollErr then Succeeds event.2.close
  else
    (event.1.pollIn = true → Passes event.2.read) ∧
    ∀ after, loop.received env event.1 event.2 = .ok after →
      if event.1.pollIn && after.isMarked event.1.fd then Succeeds event.2.close
      else event.1.pollOut = true → after.hasOutput event.1.fd → Passes event.2.write

/-- The same for every event of a batch, in the state in which it is processed. -/
def BatchHarmless (env : Env) : Loop → List (PollEvent × Answers) → Prop
  | _, [] => True
  | loop, event :: rest =>
    EventHarmless env loop event ∧
      ∀ after, loop.processEvent env event = .ok after → BatchHarmless env after rest

/-- The same for a turn of the loop. -/
def RoundHarmless (env : Env) : Process → Round → Prop
  | .looping loop, .wait ready =>
    Waits ready ∧
      ∀ events, Posix.poll ready = .ok events → BatchHarmless env loop.updatePollFlags events
  | _, _ => True

section Calls

variable (env : Env) (loop : Loop) {answers : Answers}

theorem acceptClient_iff : (∃ after, loop.acceptClient answers = .ok after) ↔
    Succeeds answers.accept ∧ Succeeds answers.getFlags ∧ Succeeds answers.setFlags := by
  rw [← setNonBlocking_iff, ← orThrow_iff .accept]
  unfold Loop.acceptClient Posix.accept
  cases Posix.orThrow .accept answers.accept with
  | error fault => simp
  | ok clientFd => cases Posix.setNonBlocking answers.getFlags answers.setFlags <;> simp

theorem disconnectClient_iff (fd : Int) :
    (∃ after, loop.disconnectClient fd answers = .ok after) ↔ Succeeds answers.close := by
  rw [← orThrow_iff .close]
  unfold Loop.disconnectClient Posix.close
  cases Posix.orThrow .close answers.close <;> simp

theorem handleRead_iff (fd : Int) :
    (∃ after, loop.handleRead env fd answers = .ok after) ↔ Passes answers.read := by
  rw [← read_iff]
  unfold Loop.handleRead
  rcases Posix.read answers.read with fault | (_ | (_ | _)) <;> simp

theorem handleWrite_iff (fd : Int) :
    (∃ after, loop.handleWrite fd answers = .ok after) ↔
      (loop.hasOutput fd → Passes answers.write) := by
  rw [← write_iff]
  unfold Loop.handleWrite Loop.hasOutput
  cases loop.server.clients.find? fd with
  | none => simp
  | some client =>
    by_cases empty : client.writeBuffer = []
    · simp [empty]
    · cases Posix.write answers.write <;> simp [empty]

theorem received_iff (event : PollEvent) :
    (∃ after, loop.received env event answers = .ok after) ↔
      (event.pollIn = true → Passes answers.read) := by
  rw [← handleRead_iff env loop event.fd]
  unfold Loop.received
  cases event.pollIn <;> simp

theorem processClientEvent_eq (event : PollEvent)
    (awake : ¬ (event.pollHup || event.pollErr) = true) :
    loop.processClientEvent env event answers =
      match loop.received env event answers with
      | .error fault => .error fault
      | .ok loop =>
        if event.pollIn && loop.isMarked event.fd then loop.disconnectClient event.fd answers
        else if event.pollOut then loop.handleWrite event.fd answers
        else .ok loop := by
  unfold Loop.processClientEvent
  rw [if_neg awake]
  rfl

/-- **An event is processed if and only if it is harmless.** -/
theorem processEvent_iff (event : PollEvent × Answers) :
    (∃ after, loop.processEvent env event = .ok after) ↔ EventHarmless env loop event := by
  unfold Loop.processEvent EventHarmless
  by_cases listening : event.1.fd = loop.serverFd
  · rw [if_pos listening, if_pos listening, ← acceptClient_iff loop]
    cases event.1.pollIn <;> simp
  rw [if_neg listening, if_neg listening]
  cases found : loop.server.clients.find? event.1.fd with
  | none => simp
  | some client =>
    rw [if_neg (Option.some_ne_none client)]
    by_cases hangUp : (event.1.pollHup || event.1.pollErr) = true
    · rw [if_pos hangUp, ← disconnectClient_iff loop event.1.fd]
      unfold Loop.processClientEvent
      rw [if_pos hangUp]
    · rw [if_neg hangUp, ← received_iff env loop]
      simp only [processClientEvent_eq env loop event.1 hangUp]
      cases loop.received env event.1 event.2 with
      | error fault => simp
      | ok between =>
        simp only [Except.ok.injEq, exists_eq', true_and, forall_eq']
        by_cases marked : (event.1.pollIn && between.isMarked event.1.fd) = true
        · rw [if_pos marked, if_pos marked, disconnectClient_iff]
        · rw [if_neg marked, if_neg marked, ← handleWrite_iff]
          cases event.1.pollOut <;> simp

theorem processBatch_iff (events : List (PollEvent × Answers)) :
    (∃ after, loop.processBatch env events = .ok after) ↔ BatchHarmless env loop events := by
  induction events generalizing loop with
  | nil => exact ⟨fun _ => trivial, fun _ => ⟨loop, rfl⟩⟩
  | cons event rest ih =>
    unfold Loop.processBatch BatchHarmless
    rw [← processEvent_iff]
    cases loop.processEvent env event with
    | error fault => simp
    | ok between => simp [ih]

/-- **A turn goes on if and only if it is harmless.** -/
theorem round_iff (ready : List (Except Errno (List (PollEvent × Answers)))) :
    (∃ after, Process.round env (.looping loop) (.wait ready) = .looping after) ↔
      RoundHarmless env (.looping loop) (.wait ready) := by
  simp only [Process.round, RoundHarmless, ← poll_iff]
  cases Posix.poll ready with
  | error fault => cases fault <;> simp
  | ok events =>
    simp only [Except.ok.injEq, exists_eq', true_and, forall_eq', ← processBatch_iff]
    cases loop.updatePollFlags.processBatch env events with
    | error fault => cases fault <;> simp
    | ok after => simp

end Calls

/-! ### The end of the loop -/

/-- At every moment the loop goes on, and has not been told to stop; or it has been, and what was
saved is the database of that moment. -/
def Orderly (env : Env) (loop : Loop) (rounds : List Round) : Prop :=
  ∀ early, early <+: rounds →
    (∃ now, run (Process.round env) (.looping loop) early = .looping now ∧ Round.stop ∉ early) ∨
    ∃ before now, before ++ [Round.stop] <+: early ∧ Round.stop ∉ before ∧
      run (Process.round env) (.looping loop) before = .looping now ∧
      run (Process.round env) (.looping loop) early
        = .returned now (SaveManager.save now.server.db)

section Orderly

variable {env : Env} {loop : Loop}

theorem orderly_stop (rest : List Round) : Orderly env loop (.stop :: rest) := by
  intro early initial
  cases early with
  | nil => exact Or.inl ⟨loop, rfl, by simp⟩
  | cons first later =>
    obtain ⟨rfl, -⟩ := List.cons_prefix_cons.mp initial
    refine Or.inr ⟨[], loop, by simp, by simp, rfl, ?_⟩
    rw [run_cons]
    exact run_round_of_ended (by simp [Process.round]) later

theorem orderly_wait {ready : List (Except Errno (List (PollEvent × Answers)))} {rest : List Round} :
    Orderly env loop (.wait ready :: rest) ↔ ∃ after,
      Process.round env (.looping loop) (.wait ready) = .looping after ∧ Orderly env after rest := by
  constructor
  · intro orderly
    have first := orderly [.wait ready] (by simp)
    have goesOn : ∃ after, Process.round env (.looping loop) (.wait ready) = .looping after := by
      rcases first with ⟨after, goesOn, -⟩ | ⟨before, -, initial, -⟩
      · exact ⟨after, goesOn⟩
      · have stops := initial.subset (List.mem_concat_self)
        simp at stops
    obtain ⟨after, goesOn⟩ := goesOn
    refine ⟨after, goesOn, fun early initial => ?_⟩
    have later := orderly (.wait ready :: early) (List.cons_prefix_cons.mpr ⟨rfl, initial⟩)
    rw [run_cons, goesOn] at later
    rcases later with ⟨now, state, quiet⟩ | ⟨before, now, stopped, quiet, reached, state⟩
    · exact Or.inl ⟨now, state, fun member => quiet (List.mem_cons_of_mem _ member)⟩
    · cases before with
      | nil =>
        obtain ⟨impossible, -⟩ := List.cons_prefix_cons.mp stopped
        cases impossible
      | cons head before =>
        obtain ⟨rfl, inside⟩ := List.cons_prefix_cons.mp stopped
        rw [run_cons, goesOn] at reached
        exact Or.inr ⟨before, now, inside, fun member => quiet (List.mem_cons_of_mem _ member),
          reached, state⟩
  · rintro ⟨after, goesOn, orderly⟩ early initial
    cases early with
    | nil => exact Or.inl ⟨loop, rfl, by simp⟩
    | cons head early =>
      obtain ⟨rfl, inside⟩ := List.cons_prefix_cons.mp initial
      rw [run_cons, goesOn]
      rcases orderly early inside with ⟨now, state, quiet⟩ | ⟨before, now, stopped, quiet, reached, state⟩
      · exact Or.inl ⟨now, state, by simpa using quiet⟩
      · refine Or.inr ⟨.wait ready :: before, now, List.cons_prefix_cons.mpr ⟨rfl, stopped⟩,
          by simpa using quiet, ?_, state⟩
        rw [run_cons, goesOn, reached]

/-- **The loop ends as it should if and only if no call is answered by an error that its wrapper
throws on.** -/
theorem orderly_iff (env : Env) (loop : Loop) (rounds : List Round) :
    Orderly env loop rounds ↔
      Throughout (Process.round env) (RoundHarmless env) (.looping loop) rounds := by
  induction rounds generalizing loop with
  | nil =>
    refine ⟨fun _ => throughout_nil, fun _ early initial => ?_⟩
    rw [List.prefix_nil.mp initial]
    exact Or.inl ⟨loop, rfl, by simp⟩
  | cons round rest ih =>
    rw [throughout_cons]
    cases round with
    | stop =>
      refine ⟨fun _ => ⟨trivial, ?_⟩, fun _ => orderly_stop rest⟩
      have still : ∀ before, run (Process.round env) (.returned loop (SaveManager.save loop.server.db))
          before = .returned loop (SaveManager.save loop.server.db) := run_round_of_ended (by simp)
      intro before event _
      show RoundHarmless env (run _ (.returned loop (SaveManager.save loop.server.db)) before) event
      rw [still]
      trivial
    | wait ready =>
      rw [orderly_wait, ← round_iff]
      constructor
      · rintro ⟨after, goesOn, orderly⟩
        exact ⟨⟨after, goesOn⟩, goesOn ▸ (ih after).mp orderly⟩
      · rintro ⟨⟨after, goesOn⟩, later⟩
        rw [goesOn] at later
        exact ⟨after, goesOn, (ih after).mpr later⟩

/-- What an orderly run has saved is the database that a run of inputs leads to. -/
theorem saved_runs {rounds : List Round} (orderly : Orderly env loop rounds)
    (stopped : Round.stop ∈ rounds) :
    ∃ inputs, ∃ now : Loop, now.server = run (Server.handle env) loop.server inputs ∧
      run (Process.round env) (.looping loop) rounds
        = .returned now (SaveManager.save now.server.db) := by
  rcases orderly rounds (List.prefix_refl _) with ⟨now, -, quiet⟩ | ⟨before, now, -, -, reached, saved⟩
  · exact absurd stopped quiet
  · obtain ⟨inputs, led⟩ := looping_runs before reached
    exact ⟨inputs, now, led, saved⟩

end Orderly

/-- The server accepts a client and logs it in, and the client resets the connection. -/
def resetConnection : List Round :=
  [.wait [.ok [({ fd := 3, pollIn := true }, { accept := .ok 4 })]],
    .wait [.ok [({ fd := 4, pollIn := true }, { read := .ok (ascii "/login \"ann\"\n") })]],
    .wait [.ok [({ fd := 4, pollIn := true }, { read := .error .connectionReset })]]]

/-- The loop of a server without clients. -/
def initialLoop : Loop := { server := {}, serverFd := 3, fds := [{ fd := 3 }] }

/-- Nothing is saved. -/
theorem not_orderly : ¬ ∀ (env : Env) (loop : Loop) (rounds : List Round),
    Orderly env loop rounds := by
  intro each
  have thrown : run (Process.round sampleEnv) (.looping initialLoop) resetConnection
      = .thrown .connectionReset .read := by rfl
  rcases each sampleEnv initialLoop resetConnection _ (List.prefix_refl _) with
    ⟨now, goesOn, -⟩ | ⟨-, now, -, -, -, returned⟩
  · rw [thrown] at goesOn
    cases goesOn
  · rw [thrown] at returned
    cases returned

end MyTeams
