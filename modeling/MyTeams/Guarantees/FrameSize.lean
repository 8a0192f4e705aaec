/-
**No message is too long for the client.**

The client gives up on a line of more than `MAX_SERVER_FRAME_SIZE` bytes. LOGIN, SEND and CREATE limit the
texts that they store (to 512 bytes at most), a uuid has 36 bytes, a message has at most three words and
five fields, and escaping doubles a text at most; so a message is far from the limit, unless it repeats an
argument that nobody has checked. Only the answer to the requester can do that, and the official client
has checked its arguments.

* `line_length_le` — a message of short texts;
* `compact_of_stored`, `newFrames_fit` — the messages that a step appends;
* `appended_fit` — what a connection of an official client gets;
* `reads_fit` — what of it the client may have read;
* `frames_fit` — all of this in every run.
-/

import MyTeams.ClientApp.Segments
import MyTeams.Guarantees.ClientFragmentation
import MyTeams.Guarantees.FieldPositions
import MyTeams.Guarantees.NoInjection
import Mathlib.Data.Nat.Digits.Lemmas

namespace MyTeams

open Transition Words

/-! ### The length of a message -/

section Lengths

theorem decimalNat_length_le {value digits : Nat} (small : value < 10 ^ digits) (some_ : 0 < digits) :
    (decimalNat value).length ≤ digits := by
  unfold decimalNat
  split_ifs
  · exact some_
  · rw [List.length_map, List.length_reverse]
    exact (Nat.digits_length_le_iff (by decide) value).mpr small

/-- A timestamp has nineteen digits and a sign. -/
theorem decimal_length_le {time : Int} (inRange : IsTime time) : (decimal time).length ≤ 20 := by
  obtain ⟨above, below⟩ := inRange
  cases time with
  | ofNat value =>
    rw [Int.ofNat_eq_natCast] at below
    have small : value < 10 ^ 19 := by omega
    exact (decimalNat_length_le small (by decide)).trans (by decide)
  | negSucc value =>
    have small : value + 1 < 10 ^ 19 := by omega
    exact Nat.succ_le_succ (decimalNat_length_le small (by decide))

/-- Escaping doubles a text at most. -/
theorem escapeField_length_le (value : Bytes) : (escapeField value).length ≤ 2 * value.length := by
  induction value with
  | nil => exact le_rfl
  | cons byte rest ih =>
    have first : (if byte = backslash ∨ byte = doubleQuote then [backslash, byte] else [byte]).length ≤ 2 := by
      split_ifs <;> simp
    show ((if byte = backslash ∨ byte = doubleQuote then [backslash, byte] else [byte])
      ++ escapeField rest).length ≤ _
    rw [List.length_append, List.length_cons]
    omega

/-- A text as short as the longest that a command stores. -/
def Short (text : Bytes) : Prop := text.length ≤ Create.maxBodyLength

instance (text : Bytes) : Decidable (Short text) := Nat.decLe _ _

/-- A message of at most three words and five fields, whose numbers are timestamps. -/
structure Frame.Compact (frame : Frame) : Prop where
  keywords : frame.keywords.length ≤ 3
  fields : frame.fields.length ≤ 5
  times : ∀ time, Field.number time ∈ frame.fields → IsTime time

theorem field_length_le {field : Field} (short : field.Carries Short)
    (time : ∀ time, field = .number time → IsTime time) :
    field.render.length ≤ 2 * Create.maxBodyLength + 2 := by
  cases field with
  | quoted value =>
    have doubled := escapeField_length_le value
    have limit : value.length ≤ Create.maxBodyLength := short
    show (doubleQuote :: escapeField value ++ [doubleQuote]).length ≤ _
    rw [List.length_append, List.length_cons, List.length_singleton]
    omega
  | plain value =>
    have limit : value.length ≤ Create.maxBodyLength := short
    show (doubleQuote :: value ++ [doubleQuote]).length ≤ _
    rw [List.length_append, List.length_cons, List.length_singleton]
    omega
  | number value => exact (decimal_length_le (time value rfl)).trans (by decide)

theorem intercalate_length_le {items : List Bytes} {limit : Nat}
    (each : ∀ item ∈ items, item.length ≤ limit) :
    (List.intercalate [blank] items).length ≤ items.length * (limit + 1) := by
  induction items with
  | nil => exact Nat.zero_le _
  | cons item rest ih =>
    have first := each item List.mem_cons_self
    have others := ih fun later member => each later (List.mem_cons_of_mem _ member)
    rw [List.length_cons, Nat.succ_mul]
    cases rest with
    | nil =>
      rw [List.intercalate_singleton]
      omega
    | cons second more =>
      rw [List.intercalate_cons_cons, List.length_append, List.length_append, List.length_singleton]
      omega

/-- **A message of short texts fits**, with its CR. -/
theorem line_length_le {frame : Frame} (compact : frame.Compact) (short : frame.Carries Short) :
    frame.line.length + 1 ≤ ServerReader.maxServerFrameSize := by
  have items : ∀ item ∈ frame.items, item.length ≤ 2 * Create.maxBodyLength + 2 := by
    intro item member
    rcases List.mem_append.mp member with word | text
    · obtain ⟨keyword, -, rfl⟩ := List.mem_map.mp word
      cases keyword <;> decide
    · obtain ⟨field, inside, rfl⟩ := List.mem_map.mp text
      exact field_length_le (short field inside) fun time same => compact.times time (same ▸ inside)
  have count : frame.items.length ≤ 8 := by
    unfold Frame.items
    rw [List.length_append, List.length_map, List.length_map]
    exact Nat.add_le_add compact.keywords compact.fields
  have length := (intercalate_length_le items).trans (Nat.mul_le_mul_right _ count)
  refine (Nat.succ_le_succ length).trans ?_
  decide

end Lengths

/-! ### The messages of the server -/

section Messages

variable {db : Database}

theorem compact_words (words : List Keyword) (few : words.length ≤ 3) : Frame.Compact ⟨words, []⟩ :=
  ⟨few, Nat.zero_le _, fun _ member => absurd member List.not_mem_nil⟩

theorem isTime_status (connected : Bool) : IsTime (if connected then 1 else 0) := by
  cases connected <;> decide

/-- A message without timestamps. -/
theorem compact_texts {words : List Keyword} {fields : List Field} (few : words.length ≤ 3)
    (short : fields.length ≤ 5) (texts : ∀ time, Field.number time ∉ fields) : Frame.Compact ⟨words, fields⟩ :=
  ⟨few, short, fun time member => absurd member (texts time)⟩

theorem compact_user (words : List Keyword) (few : words.length ≤ 3) (user : User) :
    Frame.Compact ⟨words, Frame.userFields user⟩ := by
  refine ⟨few, by simp [Frame.userFields], fun time member => ?_⟩
  have status : time = if user.isConnected then 1 else 0 := by simpa [Frame.userFields, Frame.status] using member
  rw [status]
  exact isTime_status _

theorem compact_named (words : List Keyword) (few : words.length ≤ 3) (uuid name description : Bytes) :
    Frame.Compact ⟨words, Frame.namedFields uuid name description⟩ :=
  compact_texts few (by simp [Frame.namedFields]) (by simp [Frame.namedFields])

theorem compact_thread (words : List Keyword) (few : words.length ≤ 3) {thread : Thread}
    (dated : thread.Dated IsTime) : Frame.Compact ⟨words, Frame.threadFields thread⟩ := by
  refine ⟨few, le_rfl, fun time member => ?_⟩
  have stamp : time = thread.timestamp := by simpa [Frame.threadFields] using member
  exact stamp ▸ dated.timestamp

theorem compact_reply (words : List Keyword) (few : words.length ≤ 3) (threadUuid : Bytes) {reply : Reply}
    (dated : IsTime reply.timestamp) : Frame.Compact ⟨words, Frame.replyFields threadUuid reply⟩ := by
  refine ⟨few, by simp [Frame.replyFields], fun time member => ?_⟩
  have stamp : time = reply.timestamp := by simpa [Frame.replyFields] using member
  exact stamp ▸ dated

theorem compact_message (words : List Keyword) (few : words.length ≤ 3) {message : Message}
    (dated : IsTime message.timestamp) : Frame.Compact ⟨words, Messages.messageFields message⟩ := by
  refine ⟨few, by simp [Messages.messageFields], fun time member => ?_⟩
  have stamp : time = message.timestamp := by simpa [Messages.messageFields] using member
  exact stamp ▸ dated

theorem compact_refusal {client : Client} {frame : Frame} (refusal : Refusal client frame) :
    frame.Compact := by
  cases refusal with
  | notFoundUuid => exact compact_texts (by simp) (by simp) (by simp)
  | notFoundKind => exact compact_texts (by simp) (by simp) (by simp)
  | _ => exact compact_words _ (by decide)

theorem compact_listing {α : Type} {type : Keyword} {items : List α} {fields : α → List Field}
    (each : ∀ item ∈ items, (Frame.item (fields item)).Compact) :
    ∀ frame ∈ Frame.listing type (items.map fields), frame.Compact := by
  refine Frame.forall_listing (compact_words _ (by simp)) (fun list listed => ?_) (compact_words _ (by simp))
  obtain ⟨item, member, rfl⟩ := List.mem_map.mp listed
  exact each item member

/-- **What the server says is compact.** -/
theorem compact_of_stored (dated : db.Dated IsTime) {emission : Emission} (stored : emission.Stored db) :
    ∀ frame ∈ emission.frames, frame.Compact := by
  have one : ∀ {frame : Frame}, frame.Compact → ∀ sent ∈ [frame], sent.Compact :=
    fun compact _ member => List.mem_singleton.mp member ▸ compact
  cases emission with
  | okUser user | infoUser user => exact one (compact_user _ (by simp) user)
  | infoTeam team | createdTeam team | eventTeamCreated team
  | infoChannel channel | createdChannel channel | eventChannelCreated channel =>
    exact one (compact_named _ (by simp) _ _ _)
  | infoThread thread | createdThread thread | eventThreadCreated thread =>
    exact one (compact_thread _ (by simp) (Database.HasThread.dated stored dated))
  | createdReply thread reply =>
    obtain ⟨owner, member⟩ := stored
    exact one (compact_reply _ (by simp) _ ((owner.dated dated).replies reply member))
  | users listed =>
    rw [Emission.frames, Emission.display, Displayed.listing_frames]
    exact compact_listing fun user _ => compact_user _ (by simp) user
  | teams listed =>
    rw [Emission.frames, Emission.display, Displayed.listing_frames]
    exact compact_listing fun team _ => compact_named _ (by simp) _ _ _
  | channels team =>
    rw [Emission.frames, Emission.display, Displayed.listing_frames]
    exact compact_listing fun channel _ => compact_named _ (by simp) _ _ _
  | threads channel =>
    rw [Emission.frames, Emission.display, Displayed.listing_frames]
    exact compact_listing fun thread member =>
      compact_thread _ (by simp) (Database.HasChannel.dated stored dated thread member)
  | replies thread =>
    rw [Emission.frames, Emission.display, Displayed.listing_frames]
    exact compact_listing fun reply member =>
      compact_reply _ (by simp) _ ((Database.HasThread.dated stored dated).replies reply member)
  | messages user key =>
    rw [Emission.frames, Emission.display, Displayed.listing_frames]
    exact compact_listing fun message member =>
      compact_message _ (by simp) (dated.users user stored key message member)
  | refused frame =>
    obtain ⟨client, refusal⟩ := stored
    exact one (compact_refusal refusal)
  | _ => exact one (compact_texts (by simp) (by simp) (by simp))

end Messages

/-! ### Lines of the official client -/

/-- The official client sends this line for some line that was typed: `validateArgs` has no error. -/
def Accepted (rawCommand : Bytes) : Prop :=
  ∃ line command, ClientApplication.dispatchCommandLine line = .sent command rawCommand

section Accepted

open CommandLineDispatcher

theorem length_le_of_findTooLong {limit : Nat} {tokens : List Bytes} {args : List ArgSchema}
    (each : ∀ schema ∈ args, schema.maxLen ≤ limit) (none_ : findTooLong tokens args = none) :
    ∀ token ∈ tokens, token.length ≤ limit := by
  induction tokens generalizing args with
  | nil => exact List.forall_mem_nil _
  | cons token rest ih =>
    rw [findTooLong] at none_
    split_ifs at none_ with long
    have width : (args.headD {}).maxLen ≤ limit := by
      cases args with
      | nil => exact Nat.zero_le limit
      | cons schema others => exact each schema List.mem_cons_self
    have others := ih (fun schema member => each schema (List.mem_of_mem_tail member)) none_
    exact List.forall_mem_cons.mpr ⟨(Nat.not_lt.mp long).trans width, others⟩

/-- **What the official client sends has short arguments.** -/
theorem Accepted.short {rawCommand : Bytes} (accepted : Accepted rawCommand) :
    ∀ arg ∈ CommandHandling.parseArgs rawCommand, Short arg := by
  obtain ⟨line, command, sent⟩ := accepted
  obtain ⟨argsView, rfl, sends⟩ := dispatch_sends sent
  obtain ⟨-, tokens, schema, read, found, fits⟩ := validateArgs_none sends.valid
  rw [sends.parseArgs read]
  have schemas : ∀ schema ∈ CommandSchema.schemas,
      Short schema.name ∧ ∀ arg ∈ schema.args, arg.maxLen ≤ Create.maxBodyLength := by decide
  have known := List.mem_of_find?_eq_some found
  refine List.forall_mem_cons.mpr ⟨?_, length_le_of_findTooLong (schemas schema known).2 fits⟩
  obtain ⟨named, member, same⟩ := List.any_eq_true.mp sends.supported
  rw [← of_decide_eq_true same]
  exact (schemas named member).1

end Accepted

/-! ### Steps and runs -/

/-- A message that the client takes: with its CR it is not longer than the limit. -/
def Fits (frame : Frame) : Prop := frame.line.length + 1 ≤ ServerReader.maxServerFrameSize

section Steps

variable {env : Env} {server after : Server} {event : Event} {fd : Int}

theorem source_short : Source Short env := by
  refine ⟨Nat.zero_le _, fun n => ?_⟩
  have width : (env.uuid n).1.length = 36 := (env.uuid n).2.1
  show (env.uuid n).1.length ≤ 512
  omega

theorem event_checked (event : Event) : event.Checked Short := by
  cases event with
  | line fd rawCommand => exact fun _ _ short => short
  | _ => trivial

/-- **A message that a step appends fits**, unless it answers a line that no official client sends. -/
theorem newFrames_fit (steps : Steps env server event after) (stores : server.Stores Short)
    (bound : server.Bound) (dated : server.db.Dated IsTime) (datedAfter : after.db.Dated IsTime)
    (accepted : ∀ rawCommand, event = .line fd rawCommand → Accepted rawCommand) :
    ∀ frame ∈ server.newFrames fd after, Fits frame := by
  intro frame member
  have given : ∀ rawCommand, event = .line fd rawCommand → event.Carries Short := by
    rintro rawCommand rfl
    exact (accepted rawCommand rfl).short
  obtain ⟨letters, said, appended⟩ := step_says steps
  cases present : after.clients.find? fd with
  | none =>
    have nobody : ∀ holder, after.clients.find? fd = some holder →
        holder.appended = server.appendedTo fd ++ [] := fun holder here => by
      rw [present] at here
      cases here
    exact absurd (mem_of_newFrames nobody member) List.not_mem_nil
  | some holder =>
    have heard : ∀ {frames : List Frame}, holder.appended = server.appendedTo fd ++ frames →
        frame ∈ frames := by
      refine fun same => mem_of_newFrames (fun stored here => ?_) member
      rw [present] at here
      cases here
      exact same
    have short := says_carries source_short said (event_checked event) stores given holder.userUuid frame
      (heard (appended fd holder present))
    obtain ⟨frames, ⟨emissions, each, same⟩, spoken⟩ := step_spoken steps bound fd holder present
    have inside := heard spoken
    rw [same] at inside
    obtain ⟨emission, listed, belongs⟩ := List.mem_flatMap.mp inside
    rcases each emission listed with before | now
    · exact line_length_le (compact_of_stored dated before frame belongs) short
    · exact line_length_le (compact_of_stored datedAfter now frame belongs) short

/-- What was appended for a client was appended before the step or by it. -/
theorem mem_appendedTo (steps : Steps env server event after) {frame : Frame}
    (member : frame ∈ after.appendedTo fd) :
    frame ∈ server.appendedTo fd ∨ frame ∈ server.newFrames fd after := by
  obtain ⟨letters, -, appended⟩ := step_says steps
  unfold Server.newFrames
  cases present : after.clients.find? fd with
  | none =>
    unfold Server.appendedTo at member
    rw [present] at member
    cases member
  | some holder =>
    rw [appendedTo_of_found present, appended fd holder present] at member ⊢
    rw [List.drop_left]
    exact List.mem_append.mp member

/-- **In a run every message fits** that does not answer a line that no official client sends. -/
theorem run_newFrames_fit (events : List Event)
    (times : Clocked IsTime env (run (Server.step env) {} events).timeCalls) :
    Throughout (Server.step env) (fun server event => ∀ fd,
      (∀ rawCommand, event = .line fd rawCommand → Accepted rawCommand) →
        ∀ frame ∈ server.newFrames fd (server.step env event), Fits frame) {} events := by
  rintro before event ⟨later, rfl⟩ fd accepted
  rw [run_append] at times
  have clockedAfter := times.of_le (run_timeCalls _ later)
  have datedAfter := run_dated (before ++ [event]) clockedAfter
  rw [run_concat] at clockedAfter datedAfter
  have steps := step_steps env (run (Server.step env) {} before) event
  have dated := run_dated before (clockedAfter.of_le (step_timeCalls steps))
  have stores : (run (Server.step env) {} before).Stores Short :=
    run_stores source_short before fun event _ => event_checked event
  exact newFrames_fit steps stores (run_bound before) dated datedAfter accepted

/-- The connection behind `fd` was accepted during the run and sends what the official client sends. -/
def OfficialConnection (env : Env) (events : List Event) (fd : Int) : Prop :=
  ∃ before after, events = before ++ after ∧ (run (Server.step env) {} before).clients.find? fd = none ∧
    ∀ rawCommand, Event.line fd rawCommand ∈ after → Accepted rawCommand

/-- **An official client gets only messages that fit.** -/
theorem appended_fit {events : List Event}
    (times : Clocked IsTime env (run (Server.step env) {} events).timeCalls)
    (official : OfficialConnection env events fd) :
    ∀ frame ∈ (run (Server.step env) {} events).appendedTo fd, Fits frame := by
  obtain ⟨before, after, rfl, missing, accepted⟩ := official
  have each := run_newFrames_fit (before ++ after) times
  clear times
  induction after using List.reverseRecOn with
  | nil =>
    rw [List.append_nil]
    unfold Server.appendedTo
    rw [missing]
    exact List.forall_mem_nil _
  | append_singleton after event ih =>
    rw [← List.append_assoc] at each ⊢
    obtain ⟨early, last⟩ := throughout_concat.mp each
    have older := ih (fun rawCommand member => accepted rawCommand (List.mem_append_left _ member)) early
    have newer := last fd fun rawCommand same => accepted rawCommand (by simp [same])
    intro frame member
    rw [run_concat] at member
    exact (mem_appendedTo (step_steps env _ event) member).elim (older frame) (newer frame)

end Steps

/-! ### The client reads -/

namespace ServerReader

/-- The client after it has read some bytes and goes on; between two reads its user may type a command. -/
inductive Reads : ServerReader → Bytes → Prop
  | start (router : ServerMessageRouter) : Reads { router := router } []
  | typed {reader : ServerReader} {received : Bytes} (router : ServerMessageRouter) : Reads reader received →
      Reads { reader with router := router } received
  | read {reader after : ServerReader} {received : Bytes} (data : Bytes) : Reads reader received →
      reader.handleServerReadable data = some (.running, after) → Reads after (received ++ data)

theorem Reads.buffer {reader : ServerReader} {received : Bytes} (reads : Reads reader received) :
    reader.serverReadBuffer = tail (· = newline) received := by
  induction reads with
  | start => rfl
  | typed _ _ ih => exact ih
  | @read reader after received data _ handled ih =>
    obtain ⟨outcome, next, same, -, left⟩ := handleServerReadable_eq data reader
    rw [handled] at same
    cases same
    obtain ⟨buffer, -⟩ := left rfl
    rw [buffer, ih, ← tail_append]

/-- The stream of messages that fit has no piece that is too long, and neither has a part of it. -/
theorem pieces_fit {frames : List Frame} (whole : ∀ frame ∈ frames, OneLine frame.line)
    (fit : ∀ frame ∈ frames, Fits frame) {received : Bytes}
    (initial : received <+: frames.flatMap Frame.render) :
    ∀ piece ∈ lines (· = newline) received ++ [tail (· = newline) received],
      piece.length ≤ maxServerFrameSize := by
  have stream : ∀ line ∈ lines (· = newline) (frames.flatMap Frame.render),
      line.length ≤ maxServerFrameSize := by
    intro line member
    rw [lines_render whole] at member
    obtain ⟨frame, appended, rfl⟩ := List.mem_map.mp member
    rw [List.length_append, List.length_singleton]
    exact fit frame appended
  have complete : tail (· = newline) (frames.flatMap Frame.render) = [] := by
    rcases List.eq_nil_or_concat frames with rfl | ⟨front, last, rfl⟩
    · rfl
    · have ends : (front.concat last).flatMap Frame.render
          = (front.flatMap Frame.render ++ (last.line ++ [carriageReturn])) ++ [newline] := by
        simp [Frame.render]
      have cuts : decide (newline = newline) = true := decide_eq_true rfl
      rw [ends]
      exact tail_concat (p := (· = newline)) _ cuts
  obtain ⟨more, split⟩ := initial
  rw [← split] at stream complete
  intro piece member
  rcases List.mem_append.mp member with line | last
  · rw [lines_append] at stream
    exact stream piece (List.mem_append_left _ line)
  · rw [List.mem_singleton.mp last]
    rcases tail_prefix_append received more with ⟨line, inside, starts⟩ | nothing
    · exact starts.length_le.trans (stream line inside)
    · rw [complete] at nothing
      rw [List.prefix_nil.mp nothing]
      exact Nat.zero_le _

/-- **Reading a part of such a stream never ends with the error.** -/
theorem reads_fit {frames : List Frame} (whole : ∀ frame ∈ frames, OneLine frame.line)
    (fit : ∀ frame ∈ frames, Fits frame) {reader after : ServerReader} {received data : Bytes}
    (reads : Reads reader received) (initial : received ++ data <+: frames.flatMap Frame.render)
    {outcome : ReadOutcome} (handled : reader.handleServerReadable data = some (outcome, after)) :
    outcome ≠ .oversized := by
  obtain ⟨outcome, next, same, seen, -⟩ := handleServerReadable_eq data reader
  rw [handled] at same
  cases same
  have pieces := pieces_fit whole fit initial
  rw [lines_append, tail_append, ← reads.buffer] at pieces
  have delivered := delivered_consume (lines (· = newline) (reader.serverReadBuffer ++ data))
    (tail (· = newline) (reader.serverReadBuffer ++ data)) reader.router
  have ends : outcome = checkRest (tail (· = newline) (reader.serverReadBuffer ++ data))
      (consume (lines (· = newline) (reader.serverReadBuffer ++ data)) reader.router).1 :=
    congrArg Prod.fst seen
  rw [← ends] at delivered
  intro oversized
  obtain ⟨index, ⟨piece, found, long⟩, -⟩ := delivered.oversized_iff.mp oversized
  have short : piece.length ≤ maxServerFrameSize := by
    rcases List.mem_append.mp (List.mem_of_getElem? found) with line | last
    · exact pieces piece (List.mem_append_left _ (List.mem_append_right _ line))
    · exact pieces piece (List.mem_append_right _ last)
  exact absurd long (Nat.not_lt.mpr short)

end ServerReader

/-! ### Every run -/

/-- **No message is too long for the client.** Whatever bytes the clients send, every message that a step
appends for a client other than the requester, and every message that it appends for a requester whose line
the official client sends, is with its CR not longer than `MAX_SERVER_FRAME_SIZE`; so an official client,
reading what it gets in any pieces, never throws `"server frame exceeded maximum size"`. `times` is what
`std::time_t` can hold. -/
theorem frames_fit (env : Env) (events : List Event)
    (times : Clocked IsTime env (run (Server.step env) {} events).timeCalls) :
    Throughout (Server.step env) (fun server event => ∀ fd,
      (∀ rawCommand, event = .line fd rawCommand → Accepted rawCommand) →
        ∀ frame ∈ server.newFrames fd (server.step env event),
          frame.line.length + 1 ≤ ServerReader.maxServerFrameSize) {} events ∧
    ∀ fd, OfficialConnection env events fd →
      ∀ (reader after : ServerReader) (received data : Bytes) (outcome : ReadOutcome),
        ServerReader.Reads reader received →
        received ++ data <+: ((run (Server.step env) {} events).appendedTo fd).flatMap Frame.render →
        reader.handleServerReadable data = some (outcome, after) → outcome ≠ .oversized := by
  refine ⟨run_newFrames_fit events times, ?_⟩
  intro fd official reader after received data outcome reads initial handled
  have whole : ∀ frame ∈ (run (Server.step env) {} events).appendedTo fd, OneLine frame.line :=
    fun frame member => oneLine_line ((run_storable events).appendedTo fd frame member)
  exact ServerReader.reads_fit whole (appended_fit times official) reads initial handled

/-- A client that has logged in is told of another user, and reads all of it at once. -/
theorem frames_fit_sample :
    let events : List Event := [.accept 4, .line 4 (ascii "/login \"ann\""), .accept 5,
      .line 5 (ascii "/login \"bob\"")]
    let server := run (Server.step sampleEnv) {} events
    let stream := (server.appendedTo 4).flatMap Frame.render
    (∀ frame ∈ (run (Server.step sampleEnv) {} (events.take 3)).newFrames 4 server,
      frame.line.length + 1 ≤ ServerReader.maxServerFrameSize) ∧
    ∃ outcome after, ({} : ServerReader).handleServerReadable stream = some (outcome, after) ∧
      outcome ≠ .oversized := by
  intro events server stream
  have each : ∀ n < server.timeCalls, IsTime (sampleEnv.time n) := by decide
  obtain ⟨steps, reads⟩ := frames_fit sampleEnv events ⟨each, fun _ inRange => inRange⟩
  have typed : Accepted (ascii "/login \"ann\"") :=
    ⟨ascii "/login \"ann\"", ascii "/login", by decide⟩
  have official : OfficialConnection sampleEnv events 4 := by
    refine ⟨[], events, rfl, rfl, fun rawCommand member => ?_⟩
    have same : rawCommand = ascii "/login \"ann\"" := by simpa [events] using member
    exact same ▸ typed
  refine ⟨steps (events.take 3) _ (List.prefix_refl _) 4 (fun rawCommand same => by cases same), ?_⟩
  obtain ⟨outcome, after, handled, -⟩ := ServerReader.handleServerReadable_eq stream {}
  exact ⟨outcome, after, handled,
    reads 4 official {} after [] stream outcome (.start {}) (List.prefix_refl _) handled⟩

end MyTeams
