/-
**Lines of the standard input that are not dispatched.**

`std::getline` takes one line from `std::cin`, and the bytes that a read brought behind it stay in the
buffer of the stream, of which `poll` knows nothing; a hang-up ends the loop before anything is read.

* `faithful_run` — what was dispatched are the first lines that arrived, one for each readable event;
* `tidy_run` — if every `std::getline` takes one line end from the descriptor, and a hang-up finds none
  there, then no line is left behind in the buffer;
* `stdin_lines_iff` — no line is missing when the client waits or leaves at the end of the input, if the
  reads are such; in any run one sees it by a counter: no line is missing if and only if the standard input
  was readable as often as lines have arrived.
-/

import MyTeams.ClientApp.StdinLoop

namespace MyTeams

open Transition Words

namespace StdinLoop

/-- The client blocks in `waitForEvents`: there is nothing that `poll` could report. -/
def Blocks (loop : StdinLoop) : Prop :=
  loop.phase = .waiting ∧ (loop.watched = true → loop.descriptor = [] ∧ loop.closed = false)

/-- The client blocks, or has left the loop at the end of the input. -/
def Pauses (loop : StdinLoop) : Prop := loop.Blocks ∨ loop.phase = .left .endOfInput

/-- Every line that arrived was dispatched, in order. -/
def NothingLost (loop : StdinLoop) : Prop :=
  (lines (· = newline) loop.received).map popReturn <+: loop.dispatched

/-- A call of `std::getline` that has not returned. -/
def calls : Phase → Nat
  | .reading _ => 1
  | _ => 0

/-! ### What was dispatched -/

/-- The dispatched lines are those of the part `consumed` of the input. -/
structure Consumed (loop : StdinLoop) (consumed : Bytes) : Prop where
  received : loop.received = consumed ++ (loop.buffer ++ loop.descriptor)
  complete : tail (· = newline) consumed = []
  dispatched : loop.dispatched = (lines (· = newline) consumed).map popReturn
  counted : loop.readable = loop.dispatched.length + calls loop.phase
  eof : loop.eof = true → loop.descriptor = [] ∧ loop.closed = true
  watched : loop.watched = true

/-- Everything was read, up to the end of the input. -/
structure Finished (loop : StdinLoop) : Prop where
  eof : loop.eof = true
  closed : loop.closed = true
  buffer : loop.buffer = []
  descriptor : loop.descriptor = []
  nothingLost : loop.NothingLost
  counted : loop.received.countP (· = newline) ≤ loop.readable

def Faithful (loop : StdinLoop) : Prop := (∃ consumed, loop.Consumed consumed) ∨ loop.Finished

section Steps

variable {loop : StdinLoop}

theorem Consumed.handleServer {consumed : Bytes} (server : Option Bool)
    (read : loop.Consumed consumed) (idle : loop.readable = loop.dispatched.length) :
    (loop.handleServer server).Consumed consumed := by
  unfold StdinLoop.handleServer
  split_ifs <;>
    exact ⟨read.received, read.complete, read.dispatched, idle, read.eof, read.watched⟩

theorem Finished.handleServer (server : Option Bool) (finished : loop.Finished) :
    (loop.handleServer server).Finished := by
  unfold StdinLoop.handleServer
  split_ifs <;>
    exact ⟨finished.eof, finished.closed, finished.buffer, finished.descriptor, finished.nothingLost,
      finished.counted⟩

/-- A line is dispatched behind the others. -/
theorem Consumed.dispatch {consumed line : Bytes} (fails : Bool) (server : Option Bool)
    (received : loop.received = consumed ++ (loop.buffer ++ loop.descriptor))
    (complete : tail (· = newline) consumed = [])
    (dispatched : loop.dispatched ++ [popReturn line] = (lines (· = newline) consumed).map popReturn)
    (counted : loop.readable = loop.dispatched.length + 1)
    (eof : loop.eof = true → loop.descriptor = [] ∧ loop.closed = true)
    (watched : loop.watched = true) : (loop.dispatch line fails server).Consumed consumed := by
  have idle : loop.readable = (loop.dispatched ++ [popReturn line]).length := by
    rw [List.length_append, counted]
    rfl
  have read : ∀ leaving, Consumed { loop with
      dispatched := loop.dispatched ++ [popReturn line], phase := .left leaving } consumed :=
    fun _ => ⟨received, complete, dispatched, idle, eof, watched⟩
  unfold StdinLoop.dispatch StdinLoop.handleServer
  simp only
  split_ifs
  · exact read .server
  · exact read .server
  · exact ⟨received, complete, dispatched, idle, eof, watched⟩

theorem Finished.dispatch {line : Bytes} (fails : Bool) (server : Option Bool)
    (finished : loop.Finished) : (loop.dispatch line fails server).Finished := by
  have more : (lines (· = newline) loop.received).map popReturn
      <+: loop.dispatched ++ [popReturn line] :=
    finished.nothingLost.trans (List.prefix_append _ _)
  unfold StdinLoop.dispatch StdinLoop.handleServer
  simp only
  split_ifs <;>
    exact ⟨finished.eof, finished.closed, finished.buffer, finished.descriptor, more, finished.counted⟩

/-- The input up to the end, when no line end is left. -/
theorem Consumed.finished {consumed : Bytes} (read : loop.Consumed consumed) (eof : loop.eof = true)
    (noLine : newline ∉ loop.buffer) :
    loop.NothingLost ∧ loop.received.countP (· = newline) ≤ loop.readable := by
  obtain ⟨empty, -⟩ := read.eof eof
  have clean : ∀ byte ∈ loop.buffer ++ loop.descriptor, decide (byte = newline) = false := by
    rw [empty, List.append_nil]
    exact fun byte member => decide_eq_false fun same => noLine (same ▸ member)
  have all : lines (· = newline) loop.received = lines (· = newline) consumed := by
    rw [read.received, lines_append_of_tail read.complete, lines_eq_nil clean, List.append_nil]
  refine ⟨?_, ?_⟩
  · show (lines (· = newline) loop.received).map popReturn <+: loop.dispatched
    rw [all]
    exact read.dispatched ▸ List.prefix_rfl
  · have number := congrArg List.length read.dispatched
    rw [List.length_map] at number
    rw [← length_lines, all, read.counted, number]
    exact Nat.le_add_right _ _

/-- The first line of the buffer, and the rest. -/
theorem split_line {buffer : Bytes} (inside : newline ∈ buffer) :
    buffer = buffer.takeWhile (· ≠ newline) ++ newline :: (buffer.dropWhile (· ≠ newline)).tail ∧
      ∀ byte ∈ buffer.takeWhile (· ≠ newline), decide (byte = newline) = false := by
  constructor
  · induction buffer with
    | nil => cases inside
    | cons byte rest ih =>
      by_cases ends : byte = newline
      · rw [List.takeWhile_cons_of_neg (by simpa using ends),
          List.dropWhile_cons_of_neg (by simpa using ends), ends]
        rfl
      · have later := ih ((List.mem_cons.mp inside).resolve_left (Ne.symm ends))
        rw [List.takeWhile_cons_of_pos (by simpa using ends),
          List.dropWhile_cons_of_pos (by simpa using ends), List.cons_append, ← later]
  · intro byte member
    have kept := List.all_eq_true.mp List.all_takeWhile byte member
    exact decide_eq_false (of_decide_eq_true kept)

/-- **A returning `std::getline`** dispatches the next line, or reaches the end of the input. -/
theorem Consumed.getline {consumed : Bytes} {server : Option Bool} (fails : Bool)
    (reading : loop.phase = .reading server) (read : loop.Consumed consumed) :
    (loop.getline fails server).Faithful := by
  have counted := read.counted
  rw [reading] at counted
  unfold StdinLoop.getline
  split_ifs with line more rest
  · -- a complete line
    obtain ⟨split, alone⟩ := split_line line
    have cut : lines (· = newline) (loop.buffer.takeWhile (· ≠ newline) ++ [newline])
        = [loop.buffer.takeWhile (· ≠ newline)] := lines_of_clean alone (decide_eq_true rfl)
    refine Or.inl ⟨consumed ++ (loop.buffer.takeWhile (· ≠ newline) ++ [newline]), ?_⟩
    refine Consumed.dispatch fails server ?_ ?_ ?_ counted read.eof read.watched
    · show loop.received = _
      rw [read.received]
      conv_lhs => rw [split]
      simp only [List.append_assoc, List.cons_append, List.nil_append]
    · rw [← List.append_assoc]
      exact tail_concat _ (decide_eq_true rfl)
    · show loop.dispatched ++ [_] = _
      rw [lines_append_of_tail read.complete, cut, List.map_append, read.dispatched]
      rfl
  · exact Or.inl ⟨consumed, read⟩
  · -- what stands behind the last line end
    have eof : loop.eof = true := Bool.not_eq_false _ ▸ more
    obtain ⟨empty, closed⟩ := read.eof eof
    obtain ⟨nothingLost, number⟩ := read.finished eof line
    exact Or.inr (Finished.dispatch fails server ⟨eof, closed, rfl, empty, nothingLost, number⟩)
  · have eof : loop.eof = true := Bool.not_eq_false _ ▸ more
    obtain ⟨empty, closed⟩ := read.eof eof
    obtain ⟨nothingLost, number⟩ := read.finished eof line
    exact Or.inr (Finished.handleServer server
      ⟨eof, closed, not_not.mp rest, empty, nothingLost, number⟩)

/-- `poll` starts a `std::getline`, or leaves the input alone. -/
theorem Consumed.poll {consumed : Bytes} (stdin : Option Readiness) (server : Option Bool)
    (waiting : loop.phase = .waiting) (read : loop.Consumed consumed) :
    (loop.handleStdin stdin server).Consumed consumed := by
  have idle : loop.readable = loop.dispatched.length := by
    have counted := read.counted
    rw [waiting] at counted
    exact counted
  unfold StdinLoop.handleStdin
  cases stdin with
  | none => exact read.handleServer server idle
  | some bits =>
    simp only
    split_ifs
    · exact ⟨read.received, read.complete, read.dispatched, idle, read.eof, read.watched⟩
    · exact read.handleServer server idle
    · exact ⟨read.received, read.complete, read.dispatched, congrArg (· + 1) idle, read.eof,
        read.watched⟩

theorem Consumed.fill {consumed : Bytes} (count : Nat) (read : loop.Consumed consumed) :
    (loop.fill count).Consumed consumed := by
  unfold StdinLoop.fill
  split_ifs with stays bytes closed
  · exact read
  · refine ⟨?_, read.complete, read.dispatched, read.counted, fun eof => ?_, read.watched⟩
    · show loop.received = _
      rw [read.received, List.append_assoc, List.take_append_drop]
    · exact absurd (read.eof eof).1 bytes
  · exact ⟨read.received, read.complete, read.dispatched, read.counted,
      fun _ => ⟨not_not.mp bytes, closed⟩, read.watched⟩
  · exact read

theorem Finished.poll (stdin : Option Readiness) (server : Option Bool) (finished : loop.Finished) :
    (loop.handleStdin stdin server).Finished := by
  unfold StdinLoop.handleStdin
  cases stdin with
  | none => exact finished.handleServer server
  | some bits =>
    simp only
    split_ifs
    · exact ⟨finished.eof, finished.closed, finished.buffer, finished.descriptor, finished.nothingLost,
        finished.counted⟩
    · exact finished.handleServer server
    · exact ⟨finished.eof, finished.closed, finished.buffer, finished.descriptor, finished.nothingLost,
        finished.counted.trans (Nat.le_succ _)⟩

theorem Finished.getline (fails : Bool) (server : Option Bool) (finished : loop.Finished) :
    (loop.getline fails server).Finished := by
  have noLine : newline ∉ loop.buffer := by
    rw [finished.buffer]
    exact List.not_mem_nil
  unfold StdinLoop.getline
  rw [if_neg noLine, if_neg (by simp [finished.eof]), if_neg (not_not.mpr finished.buffer)]
  exact Finished.handleServer server ⟨finished.eof, finished.closed, finished.buffer,
    finished.descriptor, finished.nothingLost, finished.counted⟩

theorem Consumed.step {consumed : Bytes} (action : StdinStep) (read : loop.Consumed consumed) :
    (loop.step action).Faithful := by
  unfold StdinLoop.step
  cases action with
  | arrive chunk =>
    simp only
    split_ifs with closed
    · exact Or.inl ⟨consumed, read⟩
    · refine Or.inl ⟨consumed, ?_, read.complete, read.dispatched, read.counted, fun eof => ?_,
        read.watched⟩
      · show loop.received ++ chunk = consumed ++ (loop.buffer ++ (loop.descriptor ++ chunk))
        rw [read.received]
        simp only [List.append_assoc]
      · exact absurd (read.eof eof).2 closed
  | close =>
    exact Or.inl ⟨consumed, read.received, read.complete, read.dispatched, read.counted,
      fun eof => ⟨(read.eof eof).1, rfl⟩, read.watched⟩
  | poll stdin server =>
    simp only
    split_ifs with reported
    · exact Or.inl ⟨consumed, read.poll stdin server reported.1⟩
    · exact Or.inl ⟨consumed, read⟩
  | fill count =>
    cases phase : loop.phase with
    | reading server => exact Or.inl ⟨consumed, read.fill count⟩
    | _ => exact Or.inl ⟨consumed, read⟩
  | getline fails =>
    cases phase : loop.phase with
    | reading server => exact read.getline fails phase
    | _ => exact Or.inl ⟨consumed, read⟩

theorem Finished.step (action : StdinStep) (finished : loop.Finished) : (loop.step action).Finished := by
  unfold StdinLoop.step
  cases action with
  | arrive chunk =>
    simp only
    rw [if_pos finished.closed]
    exact finished
  | close =>
    exact ⟨finished.eof, rfl, finished.buffer, finished.descriptor, finished.nothingLost,
      finished.counted⟩
  | poll stdin server =>
    simp only
    split_ifs
    · exact finished.poll stdin server
    · exact finished
  | fill count =>
    cases loop.phase with
    | reading server =>
      show (loop.fill count).Finished
      unfold StdinLoop.fill
      rw [if_pos (Or.inr finished.eof)]
      exact finished
    | _ => exact finished
  | getline fails =>
    cases loop.phase with
    | reading server => exact finished.getline fails server
    | _ => exact finished

/-- **Every step keeps it.** -/
theorem faithful_step (action : StdinStep) (faithful : loop.Faithful) :
    (loop.step action).Faithful := by
  rcases faithful with ⟨consumed, read⟩ | finished
  · exact read.step action
  · exact Or.inr (finished.step action)

end Steps

/-- **What was dispatched, in every run.** -/
theorem faithful_run (actions : List StdinStep) : (run step {} actions).Faithful :=
  run_invariant Faithful (fun _ action => faithful_step action)
    (Or.inl ⟨[], rfl, rfl, rfl, rfl, fun eof => absurd eof Bool.false_ne_true, rfl⟩) actions

/-! ### What is left behind -/

section Pauses

variable {loop : StdinLoop}

theorem calls_of_pauses (pauses : loop.Pauses) : calls loop.phase = 0 := by
  rcases pauses with ⟨waiting, -⟩ | left
  · rw [waiting]
    rfl
  · rw [left]
    rfl

/-- Outside of `std::getline`, a line is missing if it is in the buffer or in the descriptor. -/
theorem Consumed.nothingLost_iff {consumed : Bytes} (read : loop.Consumed consumed)
    (idle : calls loop.phase = 0) :
    (loop.NothingLost ↔ newline ∉ loop.buffer ++ loop.descriptor) ∧
      (loop.received.countP (· = newline) ≤ loop.readable ↔
        newline ∉ loop.buffer ++ loop.descriptor) := by
  have split : lines (· = newline) loop.received
      = lines (· = newline) consumed ++ lines (· = newline) (loop.buffer ++ loop.descriptor) := by
    rw [read.received, lines_append_of_tail read.complete]
  have none : newline ∉ loop.buffer ++ loop.descriptor ↔
      (lines (· = newline) (loop.buffer ++ loop.descriptor)).length = 0 := by
    rw [List.length_eq_zero_iff, lines_eq_nil_iff]
    constructor
    · exact fun absent byte member => decide_eq_false fun same => absent (same ▸ member)
    · exact fun clean member => of_decide_eq_false (clean newline member) rfl
  constructor
  · rw [none]
    unfold NothingLost
    rw [split, List.map_append, ← read.dispatched]
    constructor
    · intro initial
      have bound := initial.length_le
      rw [List.length_append, List.length_map] at bound
      omega
    · intro empty
      simp only [List.length_eq_zero_iff.mp empty, List.map_nil, List.append_nil, List.prefix_rfl]
  · have number := congrArg List.length read.dispatched
    rw [List.length_map] at number
    rw [none, ← length_lines, split, List.length_append, read.counted, idle, number]
    omega

/-- **When the client pauses, no line is missing if and only if the input was readable as often as lines
have arrived.** -/
theorem pauses_iff (faithful : loop.Faithful) (pauses : loop.Pauses) :
    loop.NothingLost ↔ loop.received.countP (· = newline) ≤ loop.readable := by
  rcases faithful with ⟨consumed, read⟩ | finished
  · obtain ⟨lost, number⟩ := read.nothingLost_iff (calls_of_pauses pauses)
    exact lost.trans number.symm
  · exact iff_of_true finished.nothingLost finished.counted

end Pauses

/-! ### One line at a time -/

/-- A read for `std::getline` takes one line end at most, and a hang-up leaves none in the descriptor. -/
def Orderly (loop : StdinLoop) : StdinStep → Prop
  | .fill count => (loop.descriptor.take (count + 1)).countP (· = newline) ≤ 1
  | .poll (some bits) _ => bits.hangUp = true → newline ∉ loop.descriptor
  | _ => True

/-- No line end stays in the buffer, and none is left when the input ends. -/
structure Tidy (loop : StdinLoop) : Prop where
  buffer : calls loop.phase = 0 → newline ∉ loop.buffer
  reading : loop.buffer.countP (· = newline) ≤ 1
  left : loop.phase = .left .endOfInput → loop.closed = true ∧ newline ∉ loop.descriptor

section Tidy

variable {loop : StdinLoop}

/-- A loop that has left the input alone, with a buffer without line ends. -/
theorem tidy_of_noLine (noLine : newline ∉ loop.buffer) (here : loop.phase ≠ .left .endOfInput) :
    loop.Tidy := by
  refine ⟨fun _ => noLine, ?_, fun left => absurd left here⟩
  rw [List.countP_eq_zero.mpr fun byte member => ?_]
  · exact Nat.zero_le 1
  · rw [decide_eq_true_eq]
    exact fun same => noLine (same ▸ member)

theorem tidy_handleServer (server : Option Bool) (noLine : newline ∉ loop.buffer) :
    (loop.handleServer server).Tidy := by
  unfold StdinLoop.handleServer
  split_ifs
  · exact tidy_of_noLine noLine nofun
  · exact tidy_of_noLine noLine nofun

theorem tidy_dispatch {line : Bytes} (fails : Bool) (server : Option Bool)
    (noLine : newline ∉ loop.buffer) : (loop.dispatch line fails server).Tidy := by
  unfold StdinLoop.dispatch StdinLoop.handleServer
  simp only
  split_ifs
  · exact tidy_of_noLine noLine nofun
  · exact tidy_of_noLine noLine nofun
  · exact tidy_of_noLine noLine nofun

/-- Behind the one line of a buffer there is no line end. -/
theorem Tidy.rest (tidy : loop.Tidy) (line : newline ∈ loop.buffer) :
    newline ∉ (loop.buffer.dropWhile (· ≠ newline)).tail := by
  intro again
  have behind : 0 < ((loop.buffer.dropWhile (· ≠ newline)).tail).countP (· = newline) :=
    List.countP_pos_iff.mpr ⟨newline, again, decide_eq_true rfl⟩
  have count := congrArg (List.countP (· = newline)) (split_line line).1
  rw [List.countP_append, List.countP_cons, if_pos (decide_eq_true rfl)] at count
  have one := tidy.reading
  omega

/-- A hang-up is reported when the writer has closed. -/
theorem closed_of_hangUp {bits : Readiness} {server : Option Bool}
    (reports : loop.reports (some bits) server = true) (hangUp : bits.hangUp = true) :
    loop.closed = true := by
  unfold StdinLoop.reports at reports
  simp only [hangUp, Bool.and_eq_true, Bool.or_eq_true, Bool.not_true, Bool.false_eq_true,
    false_or] at reports
  exact reports.1.2

/-- `poll` starts a `std::getline`, or ends the loop with a hang-up that finds no line. -/
theorem Tidy.poll {stdin : Option Readiness} {server : Option Bool} (waiting : loop.phase = .waiting)
    (reports : loop.reports stdin server = true) (orderly : loop.Orderly (.poll stdin server))
    (tidy : loop.Tidy) : (loop.handleStdin stdin server).Tidy := by
  have noLine : newline ∉ loop.buffer := tidy.buffer (by rw [waiting]; rfl)
  unfold StdinLoop.handleStdin
  cases stdin with
  | none => exact tidy_handleServer server noLine
  | some bits =>
    simp only
    split_ifs with hangUp
    · have closed := closed_of_hangUp reports hangUp
      exact ⟨fun _ => noLine, tidy.reading, fun _ => ⟨closed, orderly hangUp⟩⟩
    · exact tidy_handleServer server noLine
    · exact ⟨fun _ => noLine, tidy.reading, fun left => by cases left⟩

/-- A read brings one line end at most. -/
theorem Tidy.fill {count : Nat} {server : Option Bool} (phase : loop.phase = .reading server)
    (orderly : loop.Orderly (.fill count)) (tidy : loop.Tidy) : (loop.fill count).Tidy := by
  unfold StdinLoop.fill
  split_ifs with stays
  · exact tidy
  · have empty : loop.buffer.countP (· = newline) = 0 := by
      refine List.countP_eq_zero.mpr fun byte member => ?_
      rw [decide_eq_true_eq]
      exact fun same => (not_or.mp stays).1 (same ▸ member)
    refine ⟨fun idle => ?_, ?_, fun left => ?_⟩
    · have busy : calls loop.phase = 0 := idle
      rw [phase] at busy
      cases busy
    · show (loop.buffer ++ loop.descriptor.take (count + 1)).countP (· = newline) ≤ 1
      rw [List.countP_append, empty, Nat.zero_add]
      exact orderly
    · have gone : loop.phase = .left .endOfInput := left
      rw [phase] at gone
      cases gone
  · exact ⟨tidy.buffer, tidy.reading, fun left => tidy.left left⟩
  · exact tidy

theorem Tidy.getline (fails : Bool) (server : Option Bool) (tidy : loop.Tidy) :
    (loop.getline fails server).Tidy := by
  unfold StdinLoop.getline
  split_ifs with line
  · exact tidy_dispatch fails server (tidy.rest line)
  · exact tidy
  · exact tidy_dispatch fails server List.not_mem_nil
  · exact tidy_handleServer server line

/-- **Every orderly step keeps the input tidy.** -/
theorem tidy_step (action : StdinStep) (orderly : loop.Orderly action) (tidy : loop.Tidy) :
    (loop.step action).Tidy := by
  unfold StdinLoop.step
  cases action with
  | arrive chunk =>
    simp only
    split_ifs with closed
    · exact tidy
    · exact ⟨tidy.buffer, tidy.reading, fun left => absurd (tidy.left left).1 closed⟩
  | close => exact ⟨tidy.buffer, tidy.reading, fun left => ⟨rfl, (tidy.left left).2⟩⟩
  | poll stdin server =>
    simp only
    split_ifs with reported
    · exact tidy.poll reported.1 reported.2 orderly
    · exact tidy
  | fill count =>
    cases phase : loop.phase with
    | reading server => exact tidy.fill phase orderly
    | _ => exact tidy
  | getline fails =>
    cases loop.phase with
    | reading server => exact tidy.getline fails server
    | _ => exact tidy

end Tidy

theorem tidy_run (actions : List StdinStep) (orderly : Throughout step Orderly {} actions) :
    (run step {} actions).Tidy := by
  induction actions using List.reverseRecOn with
  | nil => exact tidy_of_noLine List.not_mem_nil nofun
  | append_singleton actions action ih =>
    obtain ⟨early, last⟩ := throughout_append.mp orderly
    rw [run_concat]
    exact tidy_step action (throughout_cons.mp last).1 (ih early)

/-- A tidy input that pauses has no line left. -/
theorem Tidy.nothingLost {loop : StdinLoop} (tidy : loop.Tidy) (faithful : loop.Faithful)
    (pauses : loop.Pauses) : loop.NothingLost := by
  have idle := calls_of_pauses pauses
  rcases faithful with ⟨consumed, read⟩ | finished
  · have noLine : newline ∉ loop.descriptor := by
      rcases pauses with ⟨-, silent⟩ | left
      · rw [(silent read.watched).1]
        exact List.not_mem_nil
      · exact (tidy.left left).2
    refine (read.nothingLost_iff idle).1.mpr fun inside => ?_
    rcases List.mem_append.mp inside with buffered | waits
    · exact tidy.buffer idle buffered
    · exact noLine waits
  · exact finished.nothingLost

/-- **Lines of the standard input.** When the client blocks or leaves at the end of the input, every line
that arrived was dispatched, in every run in which each `std::getline` takes one line end at most, and a
hang-up finds none. The first part is what one can observe in any run, by the count `readable` of this
model: no line is missing if and only if the input was readable as often as lines have arrived. -/
theorem stdin_lines_iff (actions : List StdinStep) :
    ((run step {} actions).Pauses →
      ((run step {} actions).NothingLost ↔
        (run step {} actions).received.countP (· = newline) ≤ (run step {} actions).readable)) ∧
    (Throughout step Orderly {} actions →
      ∀ early, early <+: actions → (run step {} early).Pauses → (run step {} early).NothingLost) := by
  constructor
  · intro pauses
    exact pauses_iff (faithful_run actions) pauses
  · intro orderly early initial pauses
    exact (tidy_run early (orderly.of_prefix initial)).nothingLost (faithful_run early) pauses

/-- Two lines, one at a time. -/
def oneByOne : List StdinStep :=
  [.arrive (ascii "/users\n"), .poll (some { pollIn := true }) none, .fill 100, .getline false,
    .arrive (ascii "/logout\n"), .poll (some { pollIn := true }) none, .fill 100, .getline false]

/-- The same lines, both at once. -/
def bothAtOnce : List StdinStep :=
  [.arrive (ascii "/users\n/logout\n"), .poll (some { pollIn := true }) none, .fill 100,
    .getline false]

instance (loop : StdinLoop) : Decidable loop.Blocks := inferInstanceAs (Decidable (_ ∧ _))

instance (loop : StdinLoop) : Decidable loop.Pauses := inferInstanceAs (Decidable (_ ∨ _))

instance (loop : StdinLoop) : Decidable loop.NothingLost := inferInstanceAs (Decidable (_ <+: _))

theorem orderly_oneByOne : Throughout step Orderly {} oneByOne := by
  unfold oneByOne
  simp only [throughout_cons]
  refine ⟨trivial, nofun, ?_, trivial, trivial, nofun, ?_, trivial, throughout_nil⟩
  · show List.countP _ _ ≤ 1
    decide
  · show List.countP _ _ ≤ 1
    decide

theorem stdin_lines_sample : (run step {} oneByOne).dispatched = [ascii "/users", ascii "/logout"] ∧
    (run step {} oneByOne).NothingLost :=
  ⟨by decide, (stdin_lines_iff oneByOne).2 orderly_oneByOne oneByOne List.prefix_rfl (by decide)⟩

theorem not_stdin_lines : ¬ ∀ actions, (run step {} actions).Pauses → (run step {} actions).NothingLost := by
  intro always
  have lost := always bothAtOnce (by decide)
  revert lost
  decide

end StdinLoop

end MyTeams
