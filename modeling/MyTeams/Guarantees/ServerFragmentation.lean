/-
**How a stream is cut into reads does not matter to the server.**

`Receiving` is the server with a record of the lines that were given to `handleCommand`, and
`parseLoop` is the loop of `_parseCommands` round by round: every round searches the read buffer as
the handlers of the rounds before have left it.

* `receive_eq` — one read: the lines of the buffer with the new bytes behind it, each without one
  trailing CR and the empty ones left out, and what follows the last LF remains;
* `feed_eq` — several reads do what one read of all their bytes does;
* `server_fragmentation` — for every state between two rounds of the event loop and any two ways to
  cut a stream.
-/

import MyTeams.Server.ReadBuffer
import MyTeams.Invariants.Identities

namespace MyTeams

open Transition Words

/-! ### The loop of `_parseCommands` -/

/-- The server and the lines that it has given to `handleCommand`. -/
structure Receiving where
  server : Server
  given : List Bytes := []

namespace Receiving

/-- `if (!line.empty()) _commandHandling.handleCommand(line, client, *this)`, after the CR. -/
def handleLine (env : Env) (fd : Int) (state : Receiving) (line : Bytes) : Receiving :=
  if Server.stripReturn line = [] then state
  else
    { server := CommandHandling.handleCommand env (Server.stripReturn line) fd state.server
      given := state.given ++ [Server.stripReturn line] }

/-- The loop, from `parsePos`; its result is the last `parsePos`. `readBuffer` is a reference: it is
read again in every round. `none` if the fuel does not suffice. -/
def parseLoop (env : Env) (fd : Int) : Nat → Nat → Receiving → Option (Nat × Receiving)
  | 0, _, _ => none
  | fuel + 1, parsePos, state =>
    match find (· = newline) (state.server.readBuffer fd) parsePos with
    | none => some (parsePos, state)
    | some newlinePos =>
      parseLoop env fd fuel (newlinePos + 1)
        (state.handleLine env fd
          (((state.server.readBuffer fd).drop parsePos).take (newlinePos - parsePos)))

/-- `Server::_parseCommands`; a round for every byte of the buffer suffices. -/
def parseCommands (env : Env) (fd : Int) (state : Receiving) : Option Receiving :=
  (parseLoop env fd ((state.server.readBuffer fd).length + 1) 0 state).map
    fun (parsePos, state) =>
      { server := state.server.consumeFromReadBuffer fd parsePos, given := state.given }

/-- `Server::_handleRead`, when `read` returned bytes. -/
def handleRead (env : Env) (fd : Int) (state : Receiving) (data : Bytes) : Option Receiving :=
  parseCommands env fd
    { server := state.server.appendToReadBuffer fd data, given := state.given }

/-- The reads of a stream, chunk by chunk. -/
def feed (env : Env) (fd : Int) (chunks : List Bytes) (server : Server) : Option Receiving :=
  chunks.foldlM (handleRead env fd) { server := server }

end Receiving

/-! ### What a text does -/

/-- The lines of a text that are given to `handleCommand`. -/
def givenLines (text : Bytes) : List Bytes :=
  ((lines (· = newline) text).map Server.stripReturn).filter (· ≠ [])

/-- The commands of a list of lines. -/
def Server.handleAll (env : Env) (fd : Int) (given : List Bytes) (server : Server) : Server :=
  given.foldl (fun server line => CommandHandling.handleCommand env line fd server) server

section Loop

variable {env : Env} {fd : Int} {server : Server}

theorem readBuffer_handleAll (given : List Bytes) (other : Int) :
    (server.handleAll env fd given).observed Client.readBuffer other
      = server.observed Client.readBuffer other := by
  induction given generalizing server with
  | nil => rfl
  | cons line rest ih =>
    rw [Server.handleAll, List.foldl_cons, ← Server.handleAll, ih, readBuffer_handleCommand]

theorem handleAll_setReadBuffer (given : List Bytes) (buffer : Bytes) :
    (server.setReadBuffer fd buffer).handleAll env fd given
      = (server.handleAll env fd given).setReadBuffer fd buffer := by
  induction given generalizing server with
  | nil => rfl
  | cons line rest ih =>
    simp only [Server.handleAll, List.foldl_cons, handleCommand_setReadBuffer]
    exact ih

theorem handleAll_append (first second : List Bytes) :
    server.handleAll env fd (first ++ second)
      = (server.handleAll env fd first).handleAll env fd second :=
  List.foldl_append

/-- The first line of a text. -/
theorem givenLines_cons {text line rest : Bytes}
    (split : lines (· = newline) text = line :: lines (· = newline) rest) :
    givenLines text = if Server.stripReturn line = [] then givenLines rest
      else Server.stripReturn line :: givenLines rest := by
  rw [givenLines, split, List.map_cons]
  split_ifs with empty
  · rw [List.filter_cons_of_neg (by simpa using empty)]
    rfl
  · rw [List.filter_cons_of_pos (by simpa using empty)]
    rfl

/-- **The loop gives the lines of the buffer, in their order, and ends behind the last LF.** -/
theorem parseLoop_eq (fuel : Nat) (parsePos : Nat) (state : Receiving)
    (inside : parsePos ≤ (state.server.readBuffer fd).length)
    (enough : (state.server.readBuffer fd).length < parsePos + fuel) :
    state.parseLoop env fd fuel parsePos
      = some ((state.server.readBuffer fd).length
          - (tail (· = newline) ((state.server.readBuffer fd).drop parsePos)).length,
        { server := state.server.handleAll env fd
            (givenLines ((state.server.readBuffer fd).drop parsePos))
          given := state.given ++ givenLines ((state.server.readBuffer fd).drop parsePos) }) := by
  induction fuel generalizing parsePos state with
  | zero => omega
  | succ fuel ih =>
    rw [Receiving.parseLoop]
    rcases find_cases (· = newline) (state.server.readBuffer fd) parsePos with
      ⟨found, noLines, rest⟩ | ⟨newlinePos, found, behind, within, split, remains⟩
    · rw [found, givenLines, noLines, rest, List.length_drop, Nat.sub_sub_self inside]
      simp [Server.handleAll]
    · rw [found, remains, givenLines_cons split]
      show Receiving.parseLoop env fd fuel (newlinePos + 1) _ = _
      generalize ((state.server.readBuffer fd).drop parsePos).take (newlinePos - parsePos) = line
      rw [Receiving.handleLine]
      split_ifs with empty
      · exact ih (newlinePos + 1) state (by omega) (by omega)
      · have kept : (CommandHandling.handleCommand env (Server.stripReturn line) fd
            state.server).readBuffer fd = state.server.readBuffer fd := by
          rw [Server.readBuffer, readBuffer_handleCommand, Server.readBuffer]
        have later := ih (newlinePos + 1)
          { server := CommandHandling.handleCommand env (Server.stripReturn line) fd state.server
            given := state.given ++ [Server.stripReturn line] }
          (by rw [kept]; omega) (by rw [kept]; omega)
        rw [later, kept, List.append_assoc]
        rfl

/-- The state after the reads of a text. -/
def afterText (env : Env) (fd : Int) (text : Bytes) (state : Receiving) : Receiving where
  server := (state.server.handleAll env fd (givenLines text)).setReadBuffer fd
    (tail (· = newline) text)
  given := state.given ++ givenLines text

theorem modifyClient_modifyClient (f g : Client → Client) :
    (server.modifyClient fd f).modifyClient fd g = server.modifyClient fd (g ∘ f) := by
  unfold Server.modifyClient SortedMap.modify SortedMap.mapWithKey
  simp only [List.map_map]
  congr 2
  refine List.map_congr_left fun entry _ => ?_
  simp only [Function.comp_apply]
  split_ifs <;> rfl

theorem setReadBuffer_setReadBuffer (first second : Bytes) :
    (server.setReadBuffer fd first).setReadBuffer fd second = server.setReadBuffer fd second := by
  rw [Server.setReadBuffer, Server.setReadBuffer, modifyClient_modifyClient]
  rfl

theorem consume_setReadBuffer (text : Bytes) (count : Nat) :
    (server.setReadBuffer fd text).consumeFromReadBuffer fd count
      = server.setReadBuffer fd (text.drop count) := by
  rw [Server.consumeFromReadBuffer, Server.setReadBuffer, modifyClient_modifyClient]
  rfl

theorem append_eq_setReadBuffer {client : Client} (found : server.clients.find? fd = some client)
    (data : Bytes) :
    server.appendToReadBuffer fd data = server.setReadBuffer fd (client.readBuffer ++ data) := by
  unfold Server.appendToReadBuffer Server.setReadBuffer Server.modifyClient
  rw [SortedMap.modify_congr found]
  rfl

theorem find?_setReadBuffer {client : Client} (found : server.clients.find? fd = some client)
    (buffer : Bytes) :
    (server.setReadBuffer fd buffer).clients.find? fd = some (client.setReadBuffer buffer) := by
  rw [Server.setReadBuffer, Server.modifyClient, SortedMap.find?_modify_self, found]
  rfl

theorem setReadBuffer_self {client : Client} (found : server.clients.find? fd = some client) :
    server.setReadBuffer fd client.readBuffer = server := by
  rw [Server.setReadBuffer, Server.modifyClient, SortedMap.modify_eq_self found rfl]

/-- **One read**: the complete lines are handled, and what follows the last LF stays. -/
theorem receive_eq (env : Env) {state : Receiving} {client : Client}
    (found : state.server.clients.find? fd = some client) (data : Bytes) :
    state.handleRead env fd data = some (afterText env fd (client.readBuffer ++ data) state) := by
  have buffer : (state.server.setReadBuffer fd (client.readBuffer ++ data)).readBuffer fd
      = client.readBuffer ++ data := by
    rw [Server.readBuffer, Server.observed, find?_setReadBuffer found]
    rfl
  rw [Receiving.handleRead, append_eq_setReadBuffer found, Receiving.parseCommands,
    parseLoop_eq _ 0 _ (Nat.zero_le _) (by omega), buffer, List.drop_zero, Option.map_some,
    handleAll_setReadBuffer]
  simp only [consume_setReadBuffer, drop_lines, afterText]

/-- The read of the event loop is this read. -/
theorem server_handleRead (env : Env) {state : Receiving} {client : Client}
    (found : state.server.clients.find? fd = some client) (data : Bytes) :
    (state.handleRead env fd data).map Receiving.server
      = some (state.server.handleRead env fd data) := by
  have lineByLine : ∀ (texts : List Bytes) (server : Server),
      texts.foldl (Server.handleLine env fd) server
        = server.handleAll env fd ((texts.map Server.stripReturn).filter (· ≠ [])) := by
    intro texts server
    rw [foldl_handleLine, Server.handleAll]
    exact List.foldl_map
  rw [receive_eq env found, Option.map_some, Server.handleRead, append_eq_setReadBuffer found,
    Server.parseCommands, find?_setReadBuffer found, afterText]
  show _ = some (((lines _ (client.readBuffer ++ data)).foldl (Server.handleLine env fd) _)
    |>.consumeFromReadBuffer fd ((client.readBuffer ++ data).length - _))
  rw [lineByLine, ← givenLines, handleAll_setReadBuffer, consume_setReadBuffer]
  exact congrArg (fun rest => some (Server.setReadBuffer fd rest _)) (drop_lines _).symm

/-- Reading on. -/
theorem afterText_afterText (first second : Bytes) (state : Receiving) :
    afterText env fd (tail (· = newline) first ++ second) (afterText env fd first state)
      = afterText env fd (first ++ second) state := by
  have given : givenLines (first ++ second)
      = givenLines first ++ givenLines (tail (· = newline) first ++ second) := by
    rw [givenLines, lines_append, List.map_append, List.filter_append]
    rfl
  unfold afterText
  rw [handleAll_setReadBuffer, setReadBuffer_setReadBuffer, ← handleAll_append, given,
    tail_append first second, List.append_assoc]

theorem find?_afterText (env : Env) {state : Receiving} {client : Client}
    (found : state.server.clients.find? fd = some client) (text : Bytes) :
    ∃ later, (afterText env fd text state).server.clients.find? fd = some later ∧
      later.readBuffer = tail (· = newline) text := by
  have kept : (state.server.handleAll env fd (givenLines text)).observed Client.readBuffer fd = _ :=
    readBuffer_handleAll _ fd
  rw [Server.observed, Server.observed, found, Option.map_some] at kept
  obtain ⟨later, handled, -⟩ := Option.map_eq_some_iff.mp kept
  exact ⟨_, find?_setReadBuffer handled _, rfl⟩

/-- **Several reads do what one read of all their bytes does.** -/
theorem feed_eq (env : Env) {state : Receiving} {client : Client}
    (found : state.server.clients.find? fd = some client)
    (clean : tail (· = newline) client.readBuffer = client.readBuffer) (chunks : List Bytes) :
    chunks.foldlM (Receiving.handleRead env fd) state
      = some (afterText env fd (client.readBuffer ++ chunks.flatten) state) := by
  induction chunks generalizing state client with
  | nil =>
    have none : givenLines client.readBuffer = [] := by
      rw [givenLines, lines_eq_nil]
      · rfl
      · intro byte member
        rw [← clean] at member
        exact tail_clean _ byte member
    rw [List.flatten_nil, List.append_nil, afterText, none, clean, Server.handleAll, List.foldl_nil,
      setReadBuffer_self found, List.append_nil]
    rfl
  | cons chunk rest ih =>
    obtain ⟨later, present, remains⟩ := find?_afterText env found (client.readBuffer ++ chunk)
    rw [List.foldlM_cons, receive_eq env found, Option.bind_eq_bind, Option.bind_some,
      ih present (by rw [remains, tail_eq_self (tail_clean _)]), remains, afterText_afterText,
      List.flatten_cons, List.append_assoc]

/-- The server goes through the reads of the event loop. -/
theorem server_feed (env : Env) {state after : Receiving} {client : Client}
    (found : state.server.clients.find? fd = some client) (chunks : List Bytes)
    (fed : chunks.foldlM (Receiving.handleRead env fd) state = some after) :
    after.server = chunks.foldl (fun server chunk => server.handleRead env fd chunk) state.server := by
  induction chunks generalizing state client with
  | nil =>
    cases fed
    rfl
  | cons chunk rest ih =>
    have read := server_handleRead env found chunk
    rw [receive_eq env found, Option.map_some] at read
    obtain ⟨later, present, -⟩ := find?_afterText env found (client.readBuffer ++ chunk)
    rw [List.foldlM_cons, receive_eq env found, Option.bind_eq_bind, Option.bind_some] at fed
    rw [List.foldl_cons, ← Option.some.inj read]
    exact ih present fed

end Loop

/-! ### Between two rounds of the event loop -/

section Reachable

variable {env : Env} {server : Server}

/-- No read buffer holds a complete line. -/
def NoLineWaits (server : Server) : Prop :=
  ∀ fd client, server.clients.find? fd = some client →
    tail (· = newline) client.readBuffer = client.readBuffer

theorem noLineWaits_of_buffers {after : Server} (clean : NoLineWaits server)
    (kept : ∀ fd, after.observed Client.readBuffer fd = server.observed Client.readBuffer fd ∨
      after.observed Client.readBuffer fd = none) :
    NoLineWaits after := by
  intro fd client found
  have observed : after.observed Client.readBuffer fd = some client.readBuffer := by
    rw [Server.observed, found]
    rfl
  rcases kept fd with same | gone
  · obtain ⟨before, present, equal⟩ := Option.map_eq_some_iff.mp (same.symm.trans observed)
    rw [← equal]
    exact clean fd before present
  · rw [gone] at observed
    cases observed

/-- After a read no complete line is left. -/
theorem handleRead_noLineWaits (clean : NoLineWaits server) (fd : Int) (data : Bytes) :
    NoLineWaits (server.handleRead env fd data) := by
  cases found : server.clients.find? fd with
  | none =>
    have missing : (server.appendToReadBuffer fd data).clients.find? fd = none := by
      rw [Server.appendToReadBuffer, Server.modifyClient, SortedMap.find?_modify_self, found]
      rfl
    rw [Server.handleRead, Server.parseCommands, missing]
    refine noLineWaits_of_buffers clean fun other => ?_
    by_cases same : other = fd
    · right
      rw [same, Server.observed, missing]
      rfl
    · left
      rw [Server.appendToReadBuffer, Server.modifyClient, Server.observed,
        SortedMap.find?_modify_of_ne same]
      rfl
  | some client =>
    let state : Receiving := { server := server }
    have present : state.server.clients.find? fd = some client := found
    have read := server_handleRead env present data
    rw [receive_eq env present, Option.map_some] at read
    rw [show server.handleRead env fd data = _ from (Option.some.inj read).symm]
    intro other later stored
    by_cases same : other = fd
    · subst same
      obtain ⟨rest, here, remains⟩ :
          ∃ rest, (afterText env other (client.readBuffer ++ data) state).server.clients.find? other
            = some rest ∧ rest.readBuffer = tail (· = newline) (client.readBuffer ++ data) :=
        find?_afterText env present _
      cases here.symm.trans stored
      rw [remains, tail_eq_self (tail_clean _)]
    · rw [afterText, Server.setReadBuffer, Server.modifyClient,
        SortedMap.find?_modify_of_ne same] at stored
      exact noLineWaits_of_buffers clean (fun fd => Or.inl (readBuffer_handleAll _ fd)) other later
        stored

theorem handle_noLineWaits (server : Server) (input : Input) (clean : NoLineWaits server) :
    NoLineWaits (server.handle env input) := by
  cases input with
  | accept fd =>
    intro other client found
    rw [Server.handle, Server.acceptClient, SortedMap.find?_emplace] at found
    split_ifs at found with same
    · cases present : server.clients.find? fd with
      | none =>
        rw [present] at found
        cases found
        rfl
      | some old =>
        rw [present] at found
        cases found
        exact clean fd _ present
    · exact clean other client found
  | read fd data => exact handleRead_noLineWaits clean fd data
  | hangUp fd =>
    refine noLineWaits_of_buffers clean fun other => ?_
    rw [Server.handle, observed_disconnectClient untouched_readBuffer]
    split_ifs
    · exact Or.inr rfl
    · exact Or.inl rfl
  | write fd count =>
    refine noLineWaits_of_buffers clean fun other => Or.inl ?_
    refine observed_modifyClient ?_ fd other
    exact fun _ => rfl
  | updateFlags =>
    refine noLineWaits_of_buffers clean fun other => Or.inl ?_
    refine observed_modifyClients ?_ other
    exact fun _ _ => rfl
  | restart => exact noLineWaits_of_buffers clean fun other => Or.inr rfl

/-- **Between two rounds no complete line waits.** -/
theorem run_noLineWaits (env : Env) (db : Database) (inputs : List Input) :
    NoLineWaits (run (Server.handle env) { db := db } inputs) :=
  run_invariant NoLineWaits handle_noLineWaits (fun _ _ found => by cases found) inputs

end Reachable

/-- **A stream does the same however it is cut.** Between two rounds of the event loop, reading a
stream in any pieces gives the lines of the stream (behind what the client had sent of an unfinished
line), and leaves what follows its last LF; so two ways to cut the same stream give the same lines and
end in the same state. -/
theorem server_fragmentation (env : Env) (db : Database) (inputs : List Input) (fd : Int)
    {client : Client} (found : (run (Server.handle env) { db := db } inputs).clients.find? fd = some client) :
    let server := run (Server.handle env) { db := db } inputs
    (∀ chunks : List Bytes, ∃ after, Receiving.feed env fd chunks server = some after ∧
      after.given = givenLines (client.readBuffer ++ chunks.flatten) ∧
      after.server.readBuffer fd = tail (· = newline) (client.readBuffer ++ chunks.flatten) ∧
      after.server = chunks.foldl (fun server chunk => server.handleRead env fd chunk) server) ∧
    ∀ first second : List Bytes, first.flatten = second.flatten →
      Receiving.feed env fd first server = Receiving.feed env fd second server := by
  intro server
  have clean := run_noLineWaits env db inputs fd client found
  let state : Receiving := { server := server }
  have present : state.server.clients.find? fd = some client := found
  have fed := feed_eq env present clean
  refine ⟨fun chunks => ⟨_, fed chunks, rfl, ?_, ?_⟩, fun first second same => ?_⟩
  · obtain ⟨later, stored, remains⟩ := find?_afterText env present (client.readBuffer ++ chunks.flatten)
    rw [Server.readBuffer, Server.observed, stored]
    exact remains
  · exact server_feed env present chunks (fed chunks)
  · rw [Receiving.feed, Receiving.feed, fed, fed, same]

/-- A LOGIN whose CR and LF come in different reads, with two lines and a piece of a third behind it. -/
theorem server_fragmentation_sample :
    let server := run (Server.handle sampleEnv) { db := {} } [.accept 4]
    let first := [ascii "/login \"al\"\r", ascii "\n\n/users\r\n/li"]
    let second := [ascii "/log", ascii "in \"al\"\r\n\n/us", ascii "ers\r\n/li"]
    (∃ after, Receiving.feed sampleEnv 4 first server = some after ∧
      after.given = [ascii "/login \"al\"", ascii "/users"] ∧
      after.server.readBuffer 4 = ascii "/li") ∧
    Receiving.feed sampleEnv 4 first server = Receiving.feed sampleEnv 4 second server := by
  intro server first second
  obtain ⟨each, both⟩ := server_fragmentation sampleEnv {} [.accept 4] 4 rfl
  obtain ⟨after, fed, given, remains, -⟩ := each first
  exact ⟨⟨after, fed, given.trans (by decide), remains.trans (by decide)⟩,
    both first second (by decide)⟩

end MyTeams
