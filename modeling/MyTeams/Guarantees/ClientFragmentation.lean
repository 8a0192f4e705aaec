/-
**How a stream is cut into reads does not matter to the client.**

`consumeText` reads a stream line by line: a line that is too long ends it with the error, a frame that
makes the router ask for disconnection ends it after the frame, and at the end of the stream the
unfinished line must not be too long either.

* `handleServerReadable_eq` — one read is `consumeText` on the buffer with the new bytes behind it;
* `feed_eq` — several reads are `consumeText` on all of their bytes: an unfinished line that is too
  long already is the start of a line that is too long;
* `delivered_consume` — what `consumeText` routes, and how it ends;
* `client_fragmentation` — both together.
-/

import MyTeams.ClientApp.ServerReader

namespace MyTeams

open Words

namespace ServerReader

/-! ### Line by line -/

/-- The lines of a stream, one after the other: how it ends, the routed frames, and the router. -/
def consume : List Bytes → ServerMessageRouter → ReadOutcome × List Bytes × ServerMessageRouter
  | [], router => (.running, [], router)
  | line :: rest, router =>
    if maxServerFrameSize < line.length then (.oversized, [], router)
    else
      let frame := StdinLoop.popReturn line
      let router := router.routeFrame frame
      if router.shouldDisconnect then (.disconnected, [frame], router)
      else
        let later := consume rest router
        (later.1, frame :: later.2.1, later.2.2)

/-- The end of the stream: the unfinished line is checked. -/
def checkRest (rest : Bytes) : ReadOutcome → ReadOutcome
  | .running => if maxServerFrameSize < rest.length then .oversized else .running
  | ended => ended

/-- A stream. -/
def consumeText (text : Bytes) (router : ServerMessageRouter) :
    ReadOutcome × List Bytes × ServerMessageRouter :=
  let result := consume (lines (· = newline) text) router
  (checkRest (tail (· = newline) text) result.1, result.2)

/-- What was read so far, seen from outside. -/
def observe (result : ReadOutcome × ServerReader) : ReadOutcome × List Bytes × ServerMessageRouter :=
  (result.1, result.2.routed, result.2.router)

/-- A reading with frames that were routed before it. -/
def behind (routed : List Bytes) (result : ReadOutcome × List Bytes × ServerMessageRouter) :
    ReadOutcome × List Bytes × ServerMessageRouter :=
  (result.1, routed ++ result.2.1, result.2.2)

section Reads

/-- **The loop is the line by line reading of the buffer.** -/
theorem frameLoop_eq (fuel : Nat) (parseOffset : Nat) (reader : ServerReader)
    (inside : parseOffset ≤ reader.serverReadBuffer.length)
    (enough : reader.serverReadBuffer.length < parseOffset + fuel) :
    ∃ last after, reader.frameLoop fuel parseOffset
        = some ((consume (lines (· = newline) (reader.serverReadBuffer.drop parseOffset))
          reader.router).1, last, after) ∧
      after.routed = reader.routed ++
        (consume (lines (· = newline) (reader.serverReadBuffer.drop parseOffset)) reader.router).2.1 ∧
      after.router
        = (consume (lines (· = newline) (reader.serverReadBuffer.drop parseOffset)) reader.router).2.2 ∧
      after.serverReadBuffer = reader.serverReadBuffer ∧
      ((consume (lines (· = newline) (reader.serverReadBuffer.drop parseOffset)) reader.router).1
          = .running →
        after.serverReadBuffer.drop last
          = tail (· = newline) (reader.serverReadBuffer.drop parseOffset)) := by
  induction fuel generalizing parseOffset reader with
  | zero => omega
  | succ fuel ih =>
    rw [frameLoop]
    rcases find_cases (· = newline) reader.serverReadBuffer parseOffset with
      ⟨found, noLines, rest⟩ | ⟨lineEnd, found, behind, within, split, remains⟩
    · rw [found, noLines, rest]
      exact ⟨parseOffset, reader, rfl, (List.append_nil _).symm, rfl, rfl, fun _ => rfl⟩
    · have width : ((reader.serverReadBuffer.drop parseOffset).take (lineEnd - parseOffset)).length
          = lineEnd - parseOffset := by
        rw [List.length_take, List.length_drop]
        omega
      rw [found, split, remains, consume, width]
      simp only []
      generalize (reader.serverReadBuffer.drop parseOffset).take (lineEnd - parseOffset) = line
      by_cases long : maxServerFrameSize < lineEnd - parseOffset
      · rw [if_pos long, if_pos long]
        exact ⟨parseOffset, reader, rfl, (List.append_nil _).symm, rfl, rfl, nofun⟩
      · rw [if_neg long, if_neg long]
        show ∃ last after, (if (reader.router.routeFrame (StdinLoop.popReturn line)).shouldDisconnect
          then _ else _) = _ ∧ _
        by_cases asks : (reader.router.routeFrame (StdinLoop.popReturn line)).shouldDisconnect
        · rw [if_pos asks, if_pos asks]
          exact ⟨lineEnd + 1, _, rfl, rfl, rfl, rfl, nofun⟩
        · rw [if_neg asks, if_neg asks]
          obtain ⟨last, after, looped, routed, router, buffer, rest⟩ :=
            ih (lineEnd + 1) (reader.routeFrame (StdinLoop.popReturn line)) (by exact within)
              (by show reader.serverReadBuffer.length < _; omega)
          exact ⟨last, after, looped, routed.trans (List.append_assoc _ _ _), router, buffer, rest⟩

/-- **One read is the reading of the buffer with the new bytes behind it.** -/
theorem handleServerReadable_eq (data : Bytes) (reader : ServerReader) :
    ∃ outcome after, reader.handleServerReadable data = some (outcome, after) ∧
      observe (outcome, after)
        = behind reader.routed (consumeText (reader.serverReadBuffer ++ data) reader.router) ∧
      (outcome = .running → after.serverReadBuffer = tail (· = newline) (reader.serverReadBuffer ++ data) ∧
        (tail (· = newline) (reader.serverReadBuffer ++ data)).length ≤ maxServerFrameSize) := by
  obtain ⟨last, after, looped, routed, router, -, rest⟩ :=
    frameLoop_eq ((reader.serverReadBuffer ++ data).length + 1) 0
      { reader with serverReadBuffer := reader.serverReadBuffer ++ data } (Nat.zero_le _) (by simp)
  rw [List.drop_zero] at looped routed router rest
  unfold handleServerReadable
  simp only [looped, consumeText]
  generalize result : consume (lines (· = newline) (reader.serverReadBuffer ++ data)) reader.router = read
    at looped routed router rest
  obtain ⟨outcome, frames, now⟩ := read
  have seen : ∀ outcome, observe (outcome, after) = behind reader.routed (outcome, frames, now) := by
    intro outcome
    rw [observe, behind, routed, router]
  cases outcome with
  | running =>
    have left := rest rfl
    by_cases long : maxServerFrameSize < (tail (· = newline) (reader.serverReadBuffer ++ data)).length
    · refine ⟨.oversized, { after with serverReadBuffer := after.serverReadBuffer.drop last }, ?_, ?_, nofun⟩
      · simp only [left, if_pos long]
      · rw [checkRest, if_pos long]
        exact seen .oversized
    · refine ⟨.running, { after with serverReadBuffer := after.serverReadBuffer.drop last }, ?_, ?_,
        fun _ => ⟨left, Nat.not_lt.mp long⟩⟩
      · simp only [left, if_neg long]
      · rw [checkRest, if_neg long]
        exact seen .running
  | disconnected => exact ⟨.disconnected, after, rfl, seen .disconnected, nofun⟩
  | oversized => exact ⟨.oversized, after, rfl, seen .oversized, nofun⟩

theorem consume_append (first second : List Bytes) (router : ServerMessageRouter) :
    consume (first ++ second) router
      = if (consume first router).1 = .running then
          behind (consume first router).2.1 (consume second (consume first router).2.2)
        else consume first router := by
  induction first generalizing router with
  | nil => rfl
  | cons line rest ih =>
    by_cases long : maxServerFrameSize < line.length
    · simp [consume, long]
    · by_cases asks : (router.routeFrame (StdinLoop.popReturn line)).shouldDisconnect
      · simp [consume, long, asks]
      · simp only [List.cons_append, consume, if_neg long, if_neg asks, ih]
        split_ifs <;> rfl

/-- A line that starts with one that is too long is too long. -/
theorem consumeText_oversized {text : Bytes}
    (long : maxServerFrameSize < (tail (· = newline) text).length) (more : Bytes)
    (router : ServerMessageRouter) :
    consumeText (tail (· = newline) text ++ more) router = (.oversized, [], router) := by
  obtain ⟨front, rest, rfl, cleanFront, separated⟩ := @exists_separated _ (· = newline) more
  have clean : ∀ byte ∈ tail (· = newline) text ++ front, decide (byte = newline) = false := by
    intro byte member
    rcases List.mem_append.mp member with early | late
    · exact tail_clean text byte early
    · exact cleanFront byte late
  have longer : maxServerFrameSize < (tail (· = newline) text ++ front).length := by
    rw [List.length_append]
    omega
  rw [consumeText]
  rcases separated with rfl | ⟨separator, later, cuts, rfl⟩
  · rw [List.append_nil, lines_eq_nil clean, tail_eq_self clean]
    show (if maxServerFrameSize < _ then ReadOutcome.oversized else .running, [], router) = _
    rw [if_pos longer]
  · rw [← List.append_assoc, lines_cons_of_clean clean cuts, consume, if_pos longer]
    rfl

/-- **Reading on.** -/
theorem consumeText_append (first second : Bytes) (router : ServerMessageRouter) :
    consumeText (first ++ second) router
      = if (consumeText first router).1 = .running then
          behind (consumeText first router).2.1
            (consumeText (tail (· = newline) first ++ second) (consumeText first router).2.2)
        else consumeText first router := by
  have whole : consumeText (first ++ second) router
      = if (consume (lines (· = newline) first) router).1 = .running then
          behind (consume (lines (· = newline) first) router).2.1
            (consumeText (tail (· = newline) first ++ second)
              (consume (lines (· = newline) first) router).2.2)
        else consume (lines (· = newline) first) router := by
    rw [consumeText, lines_append, consume_append, tail_append]
    split_ifs with running
    · rfl
    · cases ended : (consume (lines (· = newline) first) router).1 with
      | running => exact absurd ended running
      | disconnected =>
        simp only [checkRest]
        rw [← ended]
      | oversized =>
        simp only [checkRest]
        rw [← ended]
  have start : consumeText first router
      = (checkRest (tail (· = newline) first) (consume (lines (· = newline) first) router).1,
        (consume (lines (· = newline) first) router).2) := rfl
  rw [whole, start]
  cases ended : (consume (lines (· = newline) first) router).1 with
  | running =>
    by_cases long : maxServerFrameSize < (tail (· = newline) first).length
    · rw [if_pos rfl, consumeText_oversized long]
      simp [checkRest, long, behind]
    · simp [checkRest, long]
  | disconnected => simp [checkRest, ← ended]
  | oversized => simp [checkRest, ← ended]

/-- What a read leaves: an unfinished line that is not too long. -/
structure Settled (buffer : Bytes) : Prop where
  unfinished : tail (· = newline) buffer = buffer
  fits : buffer.length ≤ maxServerFrameSize

/-- **Several reads are one reading of all their bytes.** -/
theorem feed_eq (chunks : List Bytes) (reader : ServerReader) (settled : Settled reader.serverReadBuffer) :
    ∃ outcome after, feed chunks reader = some (outcome, after) ∧
      observe (outcome, after)
        = behind reader.routed (consumeText (reader.serverReadBuffer ++ chunks.flatten) reader.router) := by
  induction chunks generalizing reader with
  | nil =>
    have noLines : lines (· = newline) reader.serverReadBuffer = [] :=
      lines_eq_nil (settled.unfinished ▸ tail_clean _)
    have start : consumeText reader.serverReadBuffer reader.router = (.running, [], reader.router) := by
      rw [consumeText, noLines, settled.unfinished]
      show (if _ then ReadOutcome.oversized else .running, [], reader.router) = _
      rw [if_neg (Nat.not_lt.mpr settled.fits)]
    refine ⟨.running, reader, rfl, ?_⟩
    rw [List.flatten_nil, List.append_nil, start, observe, behind, List.append_nil]
  | cons chunk rest ih =>
    obtain ⟨outcome, after, read, seen, left⟩ := handleServerReadable_eq chunk reader
    have outcomes : outcome = (consumeText (reader.serverReadBuffer ++ chunk) reader.router).1 :=
      congrArg Prod.fst seen
    have frames : after.routed = reader.routed
        ++ (consumeText (reader.serverReadBuffer ++ chunk) reader.router).2.1 :=
      congrArg (fun result => result.2.1) seen
    have router : after.router = (consumeText (reader.serverReadBuffer ++ chunk) reader.router).2.2 :=
      congrArg (fun result => result.2.2) seen
    rw [List.flatten_cons, ← List.append_assoc, consumeText_append, ← outcomes, feed, read]
    cases outcome with
    | running =>
      obtain ⟨buffer, fits⟩ := left rfl
      obtain ⟨last, final, fed, observed⟩ := ih after
        ⟨by rw [buffer, tail_eq_self (tail_clean _)], by rw [buffer]; exact fits⟩
      refine ⟨last, final, fed, ?_⟩
      rw [observed, if_pos rfl, buffer, frames, router, behind, behind, behind, List.append_assoc]
    | disconnected => exact ⟨.disconnected, after, rfl, seen⟩
    | oversized => exact ⟨.oversized, after, rfl, seen⟩

end Reads

/-! ### What a reading routes -/

/-- The router asks for disconnection after the first `count` frames of the lines. -/
def Asks (router : ServerMessageRouter) (texts : List Bytes) (count : Nat) : Prop :=
  0 < count ∧ count ≤ texts.length ∧
    (((texts.map StdinLoop.popReturn).take count).foldl
      (fun router frame => router.routeFrame frame) router).shouldDisconnect = true

/-- The piece at `index` is too long: a line with its CR, or the unfinished line. -/
def TooLong (pieces : List Bytes) (index : Nat) : Prop :=
  ∃ piece, pieces[index]? = some piece ∧ maxServerFrameSize < piece.length

/-- **What is routed of a stream, and how it ends.** -/
structure Delivered (router : ServerMessageRouter) (texts : List Bytes) (rest : Bytes)
    (outcome : ReadOutcome) (routed : List Bytes) : Prop where
  /-- The first frames, in their order. -/
  inOrder : routed = (texts.map StdinLoop.popReturn).take routed.length
  bounded : routed.length ≤ texts.length
  /-- The lines of the routed frames are not too long. -/
  fits : ∀ index, index < routed.length → ¬ TooLong (texts ++ [rest]) index
  /-- Only after the last frame may the router ask for disconnection. -/
  stays : ∀ count, count < routed.length → ¬ Asks router texts count
  /-- The last frame makes the router ask, or the next piece is too long, or nothing is left. -/
  ended : match outcome with
    | .disconnected => Asks router texts routed.length
    | .oversized => ¬ Asks router texts routed.length ∧ TooLong (texts ++ [rest]) routed.length
    | .running => ¬ Asks router texts routed.length ∧ routed.length = texts.length ∧
        ¬ TooLong (texts ++ [rest]) routed.length

section Delivered

variable {router : ServerMessageRouter} {texts : List Bytes} {rest line : Bytes}

theorem not_asks_zero : ¬ Asks router texts 0 := fun asks => absurd asks.1 (lt_irrefl 0)

theorem asks_cons_succ {count : Nat} :
    Asks router (line :: texts) (count + 1) ↔
      (count = 0 ∧ (router.routeFrame (StdinLoop.popReturn line)).shouldDisconnect = true) ∨
      Asks (router.routeFrame (StdinLoop.popReturn line)) texts count := by
  cases count with
  | zero => simp [Asks]
  | succ count => simp [Asks]

theorem tooLong_cons_zero : TooLong (line :: texts) 0 ↔ maxServerFrameSize < line.length := by
  simp [TooLong]

theorem tooLong_cons_succ {index : Nat} : TooLong (line :: texts) (index + 1) ↔ TooLong texts index := by
  simp [TooLong]

/-- **The line by line reading routes what it should.** -/
theorem delivered_consume (texts : List Bytes) (rest : Bytes) (router : ServerMessageRouter) :
    Delivered router texts rest (checkRest rest (consume texts router).1) (consume texts router).2.1 := by
  induction texts generalizing router with
  | nil =>
    show Delivered router [] rest (if _ then ReadOutcome.oversized else .running) []
    refine ⟨rfl, le_rfl, nofun, nofun, ?_⟩
    split_ifs with long
    · exact ⟨not_asks_zero, tooLong_cons_zero.mpr long⟩
    · exact ⟨not_asks_zero, rfl, fun tooLong => long (tooLong_cons_zero.mp tooLong)⟩
  | cons line later ih =>
    rw [consume]
    by_cases long : maxServerFrameSize < line.length
    · rw [if_pos long]
      exact ⟨rfl, Nat.zero_le _, nofun, nofun, not_asks_zero, tooLong_cons_zero.mpr long⟩
    rw [if_neg long]
    by_cases asks : (router.routeFrame (StdinLoop.popReturn line)).shouldDisconnect = true
    · simp only [if_pos asks]
      refine ⟨rfl, Nat.succ_le_succ (Nat.zero_le _), fun index inside => ?_, fun count inside => ?_, ?_⟩
      · rw [Nat.lt_one_iff.mp inside, List.cons_append, tooLong_cons_zero]
        exact long
      · rw [Nat.lt_one_iff.mp inside]
        exact not_asks_zero
      · exact asks_cons_succ.mpr (Or.inl ⟨rfl, asks⟩)
    · simp only [if_neg asks]
      obtain ⟨inOrder, bounded, fits, stays, ended⟩ :=
        ih (router.routeFrame (StdinLoop.popReturn line))
      generalize consume later (router.routeFrame (StdinLoop.popReturn line)) = result at *
      have asks_iff : ∀ count, Asks router (line :: later) (count + 1) ↔
          Asks (router.routeFrame (StdinLoop.popReturn line)) later count := fun count =>
        asks_cons_succ.trans (or_iff_right fun first => asks first.2)
      refine ⟨?_, Nat.succ_le_succ bounded, fun index inside => ?_, fun count inside => ?_, ?_⟩
      · rw [List.length_cons, List.map_cons, List.take_succ_cons, ← inOrder]
      · cases index with
        | zero =>
          rw [List.cons_append, tooLong_cons_zero]
          exact long
        | succ index =>
          rw [List.cons_append, tooLong_cons_succ]
          exact fits index (Nat.lt_of_succ_lt_succ inside)
      · cases count with
        | zero => exact not_asks_zero
        | succ count =>
          rw [asks_iff]
          exact stays count (Nat.lt_of_succ_lt_succ inside)
      · rw [List.length_cons, List.cons_append]
        generalize checkRest rest result.1 = outcome at ended
        cases outcome with
        | running =>
          obtain ⟨quiet, all, short⟩ := ended
          exact ⟨fun asked => quiet ((asks_iff _).mp asked), congrArg (· + 1) all,
            fun tooLong => short (tooLong_cons_succ.mp tooLong)⟩
        | disconnected => exact (asks_iff _).mpr ended
        | oversized =>
          obtain ⟨quiet, tooLong⟩ := ended
          exact ⟨fun asked => quiet ((asks_iff _).mp asked), tooLong_cons_succ.mpr tooLong⟩

/-- **The error arises exactly when a piece is too long before the router asks for disconnection.** -/
theorem Delivered.oversized_iff {outcome : ReadOutcome} {routed : List Bytes}
    (delivered : Delivered router texts rest outcome routed) :
    outcome = .oversized ↔ ∃ index, TooLong (texts ++ [rest]) index ∧
      ∀ count, count ≤ index → ¬ Asks router texts count := by
  obtain ⟨-, bounded, fits, stays, ended⟩ := delivered
  constructor
  · rintro rfl
    obtain ⟨quiet, tooLong⟩ := ended
    refine ⟨routed.length, tooLong, fun count early => ?_⟩
    rcases Nat.lt_or_eq_of_le early with before | same
    · exact stays count before
    · exact same ▸ quiet
  · rintro ⟨index, tooLong, quiet⟩
    have late : routed.length ≤ index := by
      by_contra early
      exact fits index (Nat.not_le.mp early) tooLong
    cases outcome with
    | oversized => rfl
    | disconnected => exact absurd ended (quiet _ late)
    | running =>
      obtain ⟨-, all, short⟩ := ended
      obtain ⟨piece, found, long⟩ := tooLong
      have inside := (List.getElem?_eq_some_iff.mp found).1
      rw [List.length_append, List.length_singleton] at inside
      have last : index = routed.length := by omega
      exact absurd ⟨piece, last ▸ found, long⟩ short

end Delivered

end ServerReader

open ServerReader in
/-- **A stream does the same however it is cut.** Of every stream the client routes the frames in their
order up to the first one that makes the router ask for disconnection, unless a line (with its CR) or
the unfinished line is too long before that, which is the error; so two ways to cut the same stream
route the same frames and end alike. -/
theorem client_fragmentation (router : ServerMessageRouter) :
    (∀ chunks : List Bytes, ∃ outcome after,
      feed chunks { router := router } = some (outcome, after) ∧
      Delivered router (lines (· = newline) chunks.flatten) (tail (· = newline) chunks.flatten) outcome
        after.routed ∧
      (outcome = .oversized ↔
        ∃ index, TooLong (lines (· = newline) chunks.flatten ++ [tail (· = newline) chunks.flatten]) index ∧
          ∀ count, count ≤ index → ¬ Asks router (lines (· = newline) chunks.flatten) count)) ∧
    ∀ first second : List Bytes, first.flatten = second.flatten →
      (feed first { router := router }).map observe = (feed second { router := router }).map observe := by
  have settled : Settled [] := ⟨rfl, Nat.zero_le _⟩
  have each := fun chunks => feed_eq chunks { router := router } settled
  constructor
  · intro chunks
    obtain ⟨outcome, after, fed, seen⟩ := each chunks
    have routed : after.routed = (consume (lines (· = newline) chunks.flatten) router).2.1 :=
      congrArg (fun result => result.2.1) seen
    have ends : outcome = checkRest (tail (· = newline) chunks.flatten)
        (consume (lines (· = newline) chunks.flatten) router).1 := congrArg Prod.fst seen
    have delivered := delivered_consume (lines (· = newline) chunks.flatten)
      (tail (· = newline) chunks.flatten) router
    rw [← routed, ← ends] at delivered
    exact ⟨outcome, after, fed, delivered, delivered.oversized_iff⟩
  · intro first second same
    obtain ⟨_, _, fed, seen⟩ := each first
    obtain ⟨_, _, fed', seen'⟩ := each second
    rw [fed, fed', Option.map_some, Option.map_some, seen, seen', same]

end MyTeams
