/-
**What the client shows for a message.**

`Emission` is what the server can say to one client, with the objects of the database that it speaks
of. `Emission.display` puts the messages that the server writes next to the calls of the logging library
that they are made for, in the parameter order of `logging_client.h`. The library gets C strings:
`asCStrings` ends every text of a call at its first zero byte.

* `stoll_decimal` — a timestamp survives its way through decimal text;
* `Emission.Understood` — routed by the client, every message makes its call and no other, whatever the
  user typed in between, and a list leaves no list context behind;
* `emission_understood` — so is everything that the server says.
-/

import MyTeams.ClientApp.Router
import MyTeams.Invariants.Provenance
import MyTeams.Invariants.Timestamps

namespace MyTeams

open ServerMessageRouter

/-! ### Integers -/

theorem digit_not_space {byte : UInt8} (digit : isDigit byte = true) : isSpace byte = false := by
  unfold isDigit at digit
  unfold isSpace
  grind

/-- **An integer is read as it was written**, if it is in range. -/
theorem parseInteger_decimal {low high value : Int} (above : low ≤ value) (below : value ≤ high) :
    parseInteger low high (decimal value) = some value := by
  have inside : low ≤ value ∧ value ≤ high := ⟨above, below⟩
  cases value with
  | ofNat value =>
    cases written : decimalNat value with
    | nil => exact absurd written (decimalNat_ne_nil value)
    | cons first rest =>
      have digit := decimalNat_digits value first (written ▸ List.mem_cons_self)
      have minus : first ≠ 45 := fun same => absurd digit (by rw [same]; decide)
      have plus : first ≠ 43 := fun same => absurd digit (by rw [same]; decide)
      have kept : decimal (.ofNat value) = first :: rest := written
      have all := List.takeWhile_eq_self_iff.mpr (decimalNat_digits value)
      have read := digitsValue_decimalNat value
      rw [written] at all read
      unfold parseInteger
      simp only [kept, List.dropWhile_cons, digit_not_space digit, Bool.false_eq_true, if_false,
        List.head?_cons, Option.some.injEq, minus]
      split
      · rename_i same
        exact absurd (List.cons.inj same).1 minus
      · rename_i same
        exact absurd (List.cons.inj same).1 plus
      · rw [all, read, if_neg (List.cons_ne_nil _ _)]
        exact if_pos inside
  | negSucc value =>
    have all := List.takeWhile_eq_self_iff.mpr (decimalNat_digits (value + 1))
    have read := digitsValue_decimalNat (value + 1)
    have sign : isSpace 45 = false := by decide
    have kept : decimal (.negSucc value) = 45 :: decimalNat (value + 1) := rfl
    unfold parseInteger
    simp only [kept, List.dropWhile_cons, sign, Bool.false_eq_true, if_false, List.head?_cons, if_true,
      all, read, if_neg (decimalNat_ne_nil (value + 1))]
    exact if_pos inside

theorem stoll_decimal {time : Int} (inRange : IsTime time) : stoll (decimal time) = some time :=
  parseInteger_decimal inRange.1 (Int.le_sub_one_of_lt inRange.2)

/-! ### What the server says -/

/-- What the server says to a client at once: one message, or a list with its first and last line. -/
inductive Emission
  | okUser (user : User)
  | infoUser (user : User)
  | infoTeam (team : Team)
  | infoChannel (channel : Channel)
  | infoThread (thread : Thread)
  | okSubscribe (user : User) (team : Team)
  | okUnsubscribe (user : User) (team : Team)
  | createdTeam (team : Team)
  | createdChannel (channel : Channel)
  | createdThread (thread : Thread)
  | createdReply (thread : Thread) (reply : Reply)
  | users (listed : List User)
  | teams (listed : List Team)
  | channels (team : Team)
  | threads (channel : Channel)
  | replies (thread : Thread)
  | messages (user : User) (key : Bytes)
  | eventLoggedIn (user : User)
  | eventLoggedOut (user : User)
  | eventTeamCreated (team : Team)
  | eventChannelCreated (channel : Channel)
  | eventThreadCreated (thread : Thread)
  | eventReplyCreated (team : Team) (thread : Thread) (reply : Reply)
  | eventPrivateMessage (message : Message)
  | ok
  | okLogin (uuid name : Bytes)
  | userSubscribed (teamUuid userUuid : Bytes)
  | userUnsubscribed (teamUuid userUuid : Bytes)
  /-- An error line. -/
  | refused (frame : Frame)

/-- An argument as a C function gets it. -/
def Argument.asCString : Argument → Argument
  | .text str => .cStr str
  | .integer value => .integer value

/-- A call as the logging library gets it. -/
def Output.asCString : Output → Output
  | .call callback arguments => .call callback (arguments.map Argument.asCString)
  | .stdout text => .stdout text

/-- A message with what the client has to show for it; `none` where that is left open. -/
abbrev Displayed := Frame × Option (List Output)

namespace Displayed

/-- A message that calls the logging library once. -/
def calls (frame : Frame) (callback : Callback) (arguments : List Argument) : List Displayed :=
  [(frame, some [.call callback arguments])]

/-- A message that shows nothing. -/
def quiet (frame : Frame) : List Displayed := [(frame, some [])]

/-- A list that calls the logging library once for each of its lines but the first and the last one. -/
def listing {α : Type} (type : Keyword) (items : List α) (fields : α → List Field) (callback : Callback)
    (arguments : α → List Argument) : List Displayed :=
  quiet (Frame.listBegin type)
    ++ items.flatMap (fun item => calls (Frame.item (fields item)) callback (arguments item))
    ++ quiet (Frame.listEnd type)

/-- The same message, its calls with C strings. -/
def asCStrings : Displayed → Displayed
  | (frame, expected) => (frame, expected.map (List.map Output.asCString))

theorem listing_asCStrings {α : Type} (type : Keyword) (items : List α) (fields : α → List Field)
    (callback : Callback) (arguments : α → List Argument) :
    (listing type items fields callback arguments).map asCStrings
      = listing type items fields callback fun item => (arguments item).map Argument.asCString := by
  unfold listing
  rw [List.map_append, List.map_append, List.map_flatMap]
  rfl

theorem listing_frames {α : Type} (type : Keyword) (items : List α) (fields : α → List Field)
    (callback : Callback) (arguments : α → List Argument) :
    (listing type items fields callback arguments).map Prod.fst
      = Frame.listing type (items.map fields) := by
  have each : (items.flatMap fun item => calls (Frame.item (fields item)) callback (arguments item)).map
      Prod.fst = (items.map fields).map Frame.item := by
    rw [List.map_flatMap, List.map_map]
    exact List.map_eq_flatMap.symm
  rw [listing, List.map_append, List.map_append, each]
  rfl

theorem mem_listing {α : Type} {type : Keyword} {items : List α} {fields : α → List Field}
    {callback : Callback} {arguments : α → List Argument} {item : α} (member : item ∈ items) :
    Frame.item (fields item) ∈ (listing type items fields callback arguments).map Prod.fst := by
  rw [listing_frames]
  exact List.mem_cons_of_mem _ (List.mem_append_left _
    (List.mem_map_of_mem (List.mem_map_of_mem member)))

end Displayed

/-! The parameters of the functions in `logging_client.h`. -/

/-- `user_uuid`, `user_name`, `user_status` -/
def User.arguments (user : User) : List Argument :=
  [.text user.uuid, .text user.name, .integer (if user.isConnected then 1 else 0)]

/-- `team_uuid`, `team_name`, `team_description` -/
def Team.arguments (team : Team) : List Argument :=
  [.text team.uuid, .text team.name, .text team.description]

/-- `channel_uuid`, `channel_name`, `channel_description` -/
def Channel.arguments (channel : Channel) : List Argument :=
  [.text channel.uuid, .text channel.name, .text channel.description]

/-- `thread_uuid`, `user_uuid`, `thread_timestamp`, `thread_title`, `thread_body` -/
def Thread.arguments (thread : Thread) : List Argument :=
  [.text thread.uuid, .text thread.userUuid, .integer thread.timestamp, .text thread.title,
    .text thread.body]

/-- `thread_uuid`, `user_uuid`, `reply_timestamp`, `reply_body` -/
def Reply.arguments (threadUuid : Bytes) (reply : Reply) : List Argument :=
  [.text threadUuid, .text reply.userUuid, .integer reply.timestamp, .text reply.body]

/-- `sender_uuid`, `message_timestamp`, `message_body` -/
def Message.arguments (message : Message) : List Argument :=
  [.text message.senderUuid, .integer message.timestamp, .text message.body]

namespace Emission

open Displayed

/-- **The messages of the server and the calls they are made for.** -/
def display : Emission → List Displayed
  | okUser user => calls (Frame.okUser user) .printUser user.arguments
  | infoUser user => calls (Frame.infoUser user) .printUser user.arguments
  | infoTeam team => calls (Frame.infoTeam team) .printTeam team.arguments
  | infoChannel channel => calls (Frame.infoChannel channel) .printChannel channel.arguments
  | infoThread thread => calls (Frame.infoThread thread) .printThread thread.arguments
  | okSubscribe user team =>
    calls (Frame.okSubscribe user.uuid team.uuid) .printSubscribed [.text user.uuid, .text team.uuid]
  | okUnsubscribe user team =>
    calls (Frame.okUnsubscribe user.uuid team.uuid) .printUnsubscribed [.text user.uuid, .text team.uuid]
  | createdTeam team => calls (Frame.createdTeam team) .printTeamCreated team.arguments
  | createdChannel channel =>
    calls (Frame.createdChannel channel) .printChannelCreated channel.arguments
  | createdThread thread => calls (Frame.createdThread thread) .printThreadCreated thread.arguments
  | createdReply thread reply =>
    calls (Frame.createdReply thread.uuid reply) .printReplyCreated (reply.arguments thread.uuid)
  | users listed => listing .users listed Frame.userFields .printUsers User.arguments
  | teams listed =>
    listing .teams listed (fun team => Frame.namedFields team.uuid team.name team.description) .printTeams
      Team.arguments
  | channels team =>
    listing .channels team.channels
      (fun channel => Frame.namedFields channel.uuid channel.name channel.description)
      .teamPrintChannels Channel.arguments
  | threads channel =>
    listing .threads channel.threads Frame.threadFields .channelPrintThreads Thread.arguments
  | replies thread =>
    listing .replies thread.replies (Frame.replyFields thread.uuid) .threadPrintReplies
      (Reply.arguments thread.uuid)
  | messages user key =>
    listing .messages (user.conversation key) Messages.messageFields .privateMessagePrintMessages
      Message.arguments
  | eventLoggedIn user =>
    calls (Frame.eventLoggedIn user) .eventLoggedIn [.text user.uuid, .text user.name]
  | eventLoggedOut user =>
    calls (Frame.eventLoggedOut user) .eventLoggedOut [.text user.uuid, .text user.name]
  | eventTeamCreated team => calls (Frame.eventTeamCreated team) .eventTeamCreated team.arguments
  | eventChannelCreated channel =>
    calls (Frame.eventChannelCreated channel) .eventChannelCreated channel.arguments
  | eventThreadCreated thread =>
    calls (Frame.eventThreadCreated thread) .eventThreadCreated thread.arguments
  | eventReplyCreated team thread reply =>
    calls (Frame.eventReplyCreated team.uuid thread.uuid reply) .eventThreadReplyReceived
      [.text team.uuid, .text thread.uuid, .text reply.userUuid, .text reply.body]
  | eventPrivateMessage message =>
    calls (Frame.eventPrivateMessage message.senderUuid message.body) .eventPrivateMessageReceived
      [.text message.senderUuid, .text message.body]
  | ok => quiet Frame.ok
  | okLogin uuid name => quiet (Frame.okLogin uuid name)
  | userSubscribed teamUuid userUuid => quiet (Frame.userSubscribed teamUuid userUuid)
  | userUnsubscribed teamUuid userUuid => quiet (Frame.userUnsubscribed teamUuid userUuid)
  | refused frame => [(frame, none)]

/-- The messages of the server. -/
def frames (emission : Emission) : List Frame := emission.display.map Prod.fst

end Emission

/-! ### Routing a message -/

namespace ServerMessageRouter

/-- The messages are routed one after the other, and each shows what is expected of it, whatever the
user typed before it. -/
def Follows : ServerMessageRouter → List Displayed → Prop
  | _, [] => True
  | router, (frame, expected) :: rest => ∀ cmd,
    let pending := router.setPendingCommand cmd
    (∀ outputs ∈ expected, (pending.routeFrame frame.line).output = pending.output ++ outputs) ∧
      Follows (pending.routeFrame frame.line) rest

/-- A message shows what is expected of it and leaves the list context alone. -/
def Handles (frame : Frame) (expected : Option (List Output)) : Prop :=
  ∀ router : ServerMessageRouter,
    (∀ outputs ∈ expected, (router.routeFrame frame.line).output = router.output ++ outputs) ∧
      (router.routeFrame frame.line).listContext = router.listContext

variable {router : ServerMessageRouter} {frame : Frame} {rest : List Displayed} {callback : Callback}
  {arguments : List Argument}

theorem follows_cons {expected : Option (List Output)} (handles : Handles frame expected)
    (later : ∀ after : ServerMessageRouter, after.listContext = router.listContext → after.Follows rest) :
    router.Follows ((frame, expected) :: rest) := by
  intro cmd pending
  obtain ⟨shows, context⟩ := handles pending
  exact ⟨shows, later _ context⟩

/-- A message without escaped characters is routed by its values. -/
theorem routeFrame_line (storable : frame.Carries Storable) (plain : frame.Unescaped) :
    router.routeFrame frame.line = router.routeTokens frame.values := by
  unfold routeFrame
  rw [parse_line storable, wire_eq_values_iff.mpr plain]

theorem handles_call (storable : frame.Carries Storable) (plain : frame.Unescaped)
    (routes : ∀ router, routeTokens frame.values router = router.call callback arguments) :
    Handles frame (some [.call callback arguments]) := by
  intro router
  rw [routeFrame_line storable plain, routes]
  refine ⟨fun outputs member => ?_, rfl⟩
  rw [← Option.some.inj member]
  rfl

theorem stoi_status (user : User) :
    stoi (decimal (if user.isConnected then 1 else 0)) = some (if user.isConnected then 1 else 0) := by
  split_ifs <;> decide

theorem toInt_status (user : User) :
    (stoll (decimal (if user.isConnected then 1 else 0))).map toInt
      = some (if user.isConnected then 1 else 0) := by
  split_ifs <;> decide

/-! ### Routing a list -/

/-- A line of a list is handled by the list context. -/
theorem routes_item {type : Keyword} (context : router.listContext = type.text) (fields : List Field) :
    router.routeTokens (Frame.item fields).values = match listHandlers.lookup type.text with
      | none => router
      | some handler => handler (Frame.item fields).values router := by
  rw [← context]
  rfl

theorem follows_items {α : Type} {type : Keyword} {items : List α} {fields : α → List Field}
    {arguments : α → List Argument} (context : router.listContext = type.text)
    (each : ∀ item ∈ items, ∀ router : ServerMessageRouter, router.listContext = type.text →
      router.routeFrame (Frame.item (fields item)).line = router.call callback (arguments item))
    (later : ∀ after : ServerMessageRouter, after.listContext = type.text → after.Follows rest) :
    router.Follows (items.flatMap (fun item =>
      Displayed.calls (Frame.item (fields item)) callback (arguments item)) ++ rest) := by
  induction items generalizing router with
  | nil => exact later router context
  | cons item others ih =>
    intro cmd pending
    have called := each item List.mem_cons_self pending context
    refine ⟨fun outputs member => ?_, ?_⟩
    · rw [called, ← Option.some.inj member]
      rfl
    · refine ih ?_ fun other member => each other (List.mem_cons_of_mem _ member)
      rw [called]
      exact context

/-- **A list calls the logging library line by line**, and leaves no list context. -/
theorem follows_listing {α : Type} {type : Keyword} {items : List α} {fields : α → List Field}
    {arguments : α → List Argument}
    (each : ∀ item ∈ items, ∀ router : ServerMessageRouter, router.listContext = type.text →
      router.routeFrame (Frame.item (fields item)).line = router.call callback (arguments item))
    (later : ∀ after : ServerMessageRouter, after.listContext = [] → after.Follows rest) :
    router.Follows (Displayed.listing type items fields callback arguments ++ rest) := by
  have silent : ∀ frame : Frame, frame.fields = [] → ∀ router : ServerMessageRouter,
      router.routeFrame frame.line = router.routeTokens frame.values := by
    intro frame bare router
    refine routeFrame_line (fun field member => ?_) fun value member => ?_
    · rw [bare] at member
      cases member
    · rw [bare] at member
      cases member
  unfold Displayed.listing
  rw [List.append_assoc, List.append_assoc]
  intro cmd pending
  have opened : pending.routeFrame (Frame.listBegin type).line
      = { pending with listContext := type.text } := silent _ rfl pending
  refine ⟨fun outputs member => ?_, ?_⟩
  · rw [opened, ← Option.some.inj member, List.append_nil]
  · rw [opened]
    refine follows_items rfl each fun inside context cmd => ⟨fun outputs member => ?_, ?_⟩
    · rw [silent _ rfl, ← Option.some.inj member, List.append_nil]
      rfl
    · rw [silent _ rfl]
      exact later _ rfl

end ServerMessageRouter

/-! ### Routing what the server says -/

namespace Database

def HasChannel (db : Database) (channel : Channel) : Prop := ∃ team ∈ db.teams, channel ∈ team.channels

def HasThread (db : Database) (thread : Thread) : Prop :=
  ∃ channel, db.HasChannel channel ∧ thread ∈ channel.threads

/-- No text has a quote or a backslash, and every timestamp is a `std::time_t`. -/
structure Legible (db : Database) : Prop where
  texts : db.Carries Unescaped
  times : db.Dated IsTime

variable {db : Database}

theorem HasChannel.carries {P : Bytes → Prop} {channel : Channel} (stored : db.HasChannel channel)
    (texts : db.Carries P) : channel.Carries P :=
  have ⟨team, member, inside⟩ := stored
  (texts.teams team member).channels channel inside

theorem HasChannel.dated {Q : Int → Prop} {channel : Channel} (stored : db.HasChannel channel)
    (times : db.Dated Q) : channel.Dated Q :=
  have ⟨team, member, inside⟩ := stored
  times.teams team member channel inside

theorem HasThread.carries {P : Bytes → Prop} {thread : Thread} (stored : db.HasThread thread)
    (texts : db.Carries P) : thread.Carries P :=
  have ⟨_, owner, inside⟩ := stored
  (owner.carries texts).threads thread inside

theorem HasThread.dated {Q : Int → Prop} {thread : Thread} (stored : db.HasThread thread)
    (times : db.Dated Q) : thread.Dated Q :=
  have ⟨_, owner, inside⟩ := stored
  owner.dated times thread inside

end Database

namespace Emission

/-- The objects that the server speaks of are in the database. -/
def Stored (db : Database) : Emission → Prop
  | okUser user | infoUser user | eventLoggedIn user | eventLoggedOut user | messages user _ =>
    user ∈ db.users
  | infoTeam team | createdTeam team | eventTeamCreated team | channels team => team ∈ db.teams
  | infoChannel channel | createdChannel channel | eventChannelCreated channel | threads channel =>
    db.HasChannel channel
  | infoThread thread | createdThread thread | eventThreadCreated thread | replies thread =>
    db.HasThread thread
  | okSubscribe user team | okUnsubscribe user team => user ∈ db.users ∧ team ∈ db.teams
  | createdReply thread reply => db.HasThread thread ∧ reply ∈ thread.replies
  | eventReplyCreated team thread reply =>
    team ∈ db.teams ∧ db.HasThread thread ∧ reply ∈ thread.replies
  | users listed => ∀ user ∈ listed, user ∈ db.users
  | teams listed => ∀ team ∈ listed, team ∈ db.teams
  | eventPrivateMessage message => ∃ user ∈ db.users, ∃ key, message ∈ user.conversation key
  | ok | okLogin _ _ | userSubscribed _ _ | userUnsubscribed _ _ => True
  | refused frame => ∃ client, Refusal client frame

end Emission

namespace ServerMessageRouter

variable {router : ServerMessageRouter} {frame : Frame} {rest : List Displayed} {callback : Callback}
  {arguments : List Argument} {db : Database}

theorem routes_item_line {type : Keyword} {fields : List Field} (context : router.listContext = type.text)
    (storable : (Frame.item fields).Carries Storable) (plain : (Frame.item fields).Carries Unescaped)
    (handled : (match listHandlers.lookup type.text with
      | none => router
      | some handler => handler (Frame.item fields).values router) = router.call callback arguments) :
    router.routeFrame (Frame.item fields).line = router.call callback arguments := by
  rw [routeFrame_line storable fun _ member => plain _ member, routes_item context]
  exact handled

theorem handles_quiet (storable : frame.Carries Storable) (plain : frame.Unescaped)
    (silent : ∀ router : ServerMessageRouter, (router.routeTokens frame.values).output = router.output)
    (steady : ∀ router : ServerMessageRouter,
      (router.routeTokens frame.values).listContext = router.listContext) :
    Handles frame (some []) := by
  intro router
  rw [routeFrame_line storable plain]
  refine ⟨fun outputs member => ?_, steady router⟩
  rw [silent, ← Option.some.inj member, List.append_nil]

theorem handles_refused {client : Client} (refusal : Refusal client frame)
    (storable : frame.Carries Storable) : Handles frame none := by
  intro router
  refine ⟨fun outputs member => (by cases member), ?_⟩
  unfold routeFrame
  rw [parse_line storable]
  show (router.routeTokens frame.wire).listContext = router.listContext
  cases refusal with
  | notFoundUuid known =>
    show (if _ then _ else _ : ServerMessageRouter).listContext = _
    split_ifs <;> rfl
  | notFoundKind kind known =>
    show (if _ then _ else _ : ServerMessageRouter).listContext = _
    split_ifs <;> rfl
  | _ => rfl

end ServerMessageRouter

namespace Emission

open Displayed

/-- Routed by a client without a list context, what the server says makes its calls, with C strings, and
leaves no list context. -/
def Understood (emission : Emission) : Prop :=
  (∀ frame ∈ emission.frames, frame.Carries Storable) →
    ∀ {router : ServerMessageRouter} {rest : List Displayed}, router.listContext = [] →
      (∀ after : ServerMessageRouter, after.listContext = [] → after.Follows rest) →
      router.Follows (emission.display.map asCStrings ++ rest)

section Kinds

variable {emission : Emission} {frame : Frame} {expected : Option (List Output)} {callback : Callback}
  {arguments : List Argument}

/-- One message. -/
theorem understood_of_handles (shape : emission.display = [(frame, expected)])
    (handles : frame.Carries Storable → Handles frame (expected.map (List.map Output.asCString))) :
    emission.Understood := by
  intro storable router rest calm later
  have readable : frame.Carries Storable := by
    apply storable
    rw [frames, shape]
    exact List.mem_cons_self
  rw [shape]
  exact follows_cons (handles readable) fun after context => later after (context.trans calm)

/-- One call. -/
theorem understood_call (shape : emission.display = calls frame callback arguments)
    (plain : frame.Carries Unescaped)
    (routes : ∀ router, routeTokens frame.values router
      = router.call callback (arguments.map Argument.asCString)) : emission.Understood :=
  understood_of_handles shape fun readable =>
    handles_call readable (fun _ member => plain _ member) routes

/-- A list. -/
theorem understood_listing {α : Type} {type : Keyword} {items : List α} {fields : α → List Field}
    {arguments : α → List Argument} (shape : emission.display = listing type items fields callback arguments)
    (plain : ∀ item ∈ items, (Frame.item (fields item)).Carries Unescaped)
    (handled : ∀ item ∈ items, ∀ router : ServerMessageRouter,
      (match listHandlers.lookup type.text with
      | none => router
      | some handler => handler (Frame.item (fields item)).values router)
        = router.call callback ((arguments item).map Argument.asCString)) : emission.Understood := by
  intro storable router rest calm later
  rw [shape, listing_asCStrings]
  refine follows_listing (fun item member router context => ?_) later
  have readable : (Frame.item (fields item)).Carries Storable := by
    apply storable
    rw [frames, shape]
    exact mem_listing member
  exact routes_item_line context readable (plain item member) (handled item member router)

end Kinds

/-! One lemma for each kind of object. -/

section Objects

variable {db : Database} {emission : Emission}

/-- The handlers of a user, which read its status. -/
theorem reads_user (user : User) (callback : Callback) (router : ServerMessageRouter) :
    (match stoi (decimal (if user.isConnected then 1 else 0)) with
    | none => router
    | some status => router.call callback [.cStr user.uuid, .cStr user.name, .integer status])
      = router.call callback (user.arguments.map Argument.asCString) := by
  rw [stoi_status]
  rfl

theorem understood_user {user : User} (known : user.Carries Unescaped)
    (member : emission ∈ [okUser user, infoUser user, eventLoggedIn user, eventLoggedOut user]) :
    emission.Understood := by
  simp only [List.mem_cons, List.not_mem_nil, or_false] at member
  obtain rfl | rfl | rfl | rfl := member
  · exact understood_call rfl (carries_userFields known) (reads_user user .printUser)
  · exact understood_call rfl (carries_userFields known) (reads_user user .printUser)
  · exact understood_call rfl (carries_pair known.uuid known.name) fun _ => rfl
  · exact understood_call rfl (carries_pair known.uuid known.name) fun _ => rfl

theorem understood_team {team : Team} (known : team.Carries Unescaped)
    (member : emission ∈ [infoTeam team, createdTeam team, eventTeamCreated team, channels team]) :
    emission.Understood := by
  have fields := carries_namedFields known.uuid known.name known.description
  simp only [List.mem_cons, List.not_mem_nil, or_false] at member
  obtain rfl | rfl | rfl | rfl := member
  · exact understood_call rfl fields fun _ => rfl
  · exact understood_call rfl fields fun _ => rfl
  · exact understood_call rfl fields fun _ => rfl
  · refine understood_listing rfl (fun channel inside => ?_) fun _ _ _ => rfl
    have inner := known.channels channel inside
    exact carries_namedFields inner.uuid inner.name inner.description

/-- The handlers of a thread, which read its timestamp. -/
theorem reads_thread {thread : Thread} (dated : thread.Dated IsTime) (callback : Callback)
    (router : ServerMessageRouter) :
    (match stoll (decimal thread.timestamp) with
    | none => router
    | some time => router.call callback [.cStr thread.uuid, .cStr thread.userUuid, .integer time,
      .cStr thread.title, .cStr thread.body])
      = router.call callback (thread.arguments.map Argument.asCString) := by
  rw [stoll_decimal dated.timestamp]
  rfl

/-- The same for a reply. -/
theorem reads_reply {threadUuid : Bytes} {reply : Reply} (inRange : IsTime reply.timestamp)
    (callback : Callback) (router : ServerMessageRouter) :
    (match stoll (decimal reply.timestamp) with
    | none => router
    | some time => router.call callback [.cStr threadUuid, .cStr reply.userUuid, .integer time,
      .cStr reply.body])
      = router.call callback ((reply.arguments threadUuid).map Argument.asCString) := by
  rw [stoll_decimal inRange]
  rfl

theorem understood_channel {channel : Channel} (known : channel.Carries Unescaped)
    (dated : channel.Dated IsTime)
    (member : emission ∈ [infoChannel channel, createdChannel channel, eventChannelCreated channel,
      threads channel]) : emission.Understood := by
  have fields := carries_namedFields known.uuid known.name known.description
  simp only [List.mem_cons, List.not_mem_nil, or_false] at member
  obtain rfl | rfl | rfl | rfl := member
  · exact understood_call rfl fields fun _ => rfl
  · exact understood_call rfl fields fun _ => rfl
  · exact understood_call rfl fields fun _ => rfl
  · exact understood_listing rfl (fun thread inside => carries_threadFields (known.threads thread inside))
      fun thread inside => reads_thread (dated thread inside) .channelPrintThreads

theorem understood_thread {thread : Thread} (known : thread.Carries Unescaped)
    (dated : thread.Dated IsTime)
    (member : emission ∈ [infoThread thread, createdThread thread, eventThreadCreated thread,
      replies thread]) : emission.Understood := by
  have fields := carries_threadFields known
  simp only [List.mem_cons, List.not_mem_nil, or_false] at member
  obtain rfl | rfl | rfl | rfl := member
  · exact understood_call rfl fields (reads_thread dated .printThread)
  · exact understood_call rfl fields (reads_thread dated .printThreadCreated)
  · exact understood_call rfl fields (reads_thread dated .eventThreadCreated)
  · exact understood_listing rfl
      (fun reply inside => carries_replyFields known.uuid (known.replies reply inside))
      fun reply inside => reads_reply (dated.replies reply inside) .threadPrintReplies

theorem understood_users {listed : List User} (known : ∀ user ∈ listed, user.Carries Unescaped) :
    (users listed).Understood := by
  refine understood_listing rfl (fun user member => carries_userFields (known user member)) ?_
  intro user _ router
  show (match (stoll (decimal (if user.isConnected then 1 else 0))).map toInt with
    | none => router
    | some status => router.call .printUsers [.cStr user.uuid, .cStr user.name, .integer status]) = _
  rw [toInt_status]
  rfl

theorem understood_messages {user : User} {key : Bytes} (known : user.Carries Unescaped)
    (dated : ∀ message ∈ user.conversation key, IsTime message.timestamp) :
    (messages user key).Understood := by
  refine understood_listing rfl (fun message member => carries_messageFields (known.conversation member)) ?_
  intro message member router
  show (match stoll (decimal message.timestamp) with
    | none => router
    | some time => router.call .privateMessagePrintMessages
      [.cStr message.senderUuid, .integer time, .cStr message.body]) = _
  rw [stoll_decimal (dated message member)]
  rfl

/-- Messages that show nothing. -/
theorem understood_quiet {uuid name : Bytes}
    (member : emission ∈ [ok, okLogin uuid name, userSubscribed uuid name, userUnsubscribed uuid name]) :
    emission.Understood := by
  simp only [List.mem_cons, List.not_mem_nil, or_false] at member
  obtain rfl | rfl | rfl | rfl := member
  · refine understood_of_handles rfl fun readable => handles_quiet readable
      (fun _ member => by cases member) (fun router => ?_) fun router => ?_
    · show (if _ then _ else _ : ServerMessageRouter).output = _
      split_ifs <;> rfl
    · show (if _ then _ else _ : ServerMessageRouter).listContext = _
      split_ifs <;> rfl
  all_goals
    refine understood_of_handles rfl fun readable => handles_quiet readable (fun _ member => ?_)
      (fun _ => rfl) fun _ => rfl
    simp [Frame.okLogin, Frame.userSubscribed, Frame.userUnsubscribed] at member

/-- **What the server says is what the client shows**, where the database needs no escaping. -/
theorem emission_understood (legible : db.Legible) (stored : emission.Stored db) : emission.Understood := by
  obtain ⟨texts, times⟩ := legible
  cases emission with
  | okUser user | infoUser user | eventLoggedIn user | eventLoggedOut user =>
    exact understood_user (texts.users user stored) (by simp)
  | infoTeam team | createdTeam team | eventTeamCreated team | channels team =>
    exact understood_team (texts.teams team stored) (by simp)
  | infoChannel channel | createdChannel channel | eventChannelCreated channel | threads channel =>
    exact understood_channel (Database.HasChannel.carries stored texts)
      (Database.HasChannel.dated stored times) (by simp)
  | infoThread thread | createdThread thread | eventThreadCreated thread | replies thread =>
    exact understood_thread (Database.HasThread.carries stored texts)
      (Database.HasThread.dated stored times) (by simp)
  | okSubscribe user team | okUnsubscribe user team =>
    exact understood_call rfl (carries_pair (texts.users user stored.1).uuid (texts.teams team stored.2).uuid)
      fun _ => rfl
  | createdReply thread reply =>
    obtain ⟨owner, member⟩ := stored
    have known := owner.carries texts
    exact understood_call rfl (carries_replyFields known.uuid (known.replies reply member))
      (reads_reply ((owner.dated times).replies reply member) .printReplyCreated)
  | eventReplyCreated team thread reply =>
    obtain ⟨home, owner, member⟩ := stored
    have known := owner.carries texts
    exact understood_call rfl
      (carries_replyEvent (texts.teams team home).uuid known.uuid (known.replies reply member)) fun _ => rfl
  | eventPrivateMessage message =>
    obtain ⟨user, member, key, inside⟩ := stored
    have known := (texts.users user member).conversation inside
    exact understood_call rfl (carries_pair known.senderUuid known.body) fun _ => rfl
  | users listed => exact understood_users fun user member => texts.users user (stored user member)
  | teams listed =>
    refine understood_listing rfl (fun team member => ?_) fun _ _ _ => rfl
    have known := texts.teams team (stored team member)
    exact carries_namedFields known.uuid known.name known.description
  | messages user key => exact understood_messages (texts.users user stored) (times.users user stored key)
  | ok => exact @understood_quiet _ [] [] (by simp)
  | okLogin uuid name | userSubscribed uuid name | userUnsubscribed uuid name =>
    exact @understood_quiet _ uuid name (by simp)
  | refused frame =>
    obtain ⟨client, refusal⟩ := stored
    exact understood_of_handles rfl (handles_refused refusal)

end Objects

end Emission

end MyTeams
