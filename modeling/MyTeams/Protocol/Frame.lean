/-
**The frames that the server writes.**

Every message of the server is one line: protocol words, then fields, separated by single blanks
and ended by `\r\n`. A `Frame` keeps the words and the fields apart and `Frame.render` is the text
that the source builds with `+`, so a handler can be checked against the source message by message
and a property can still speak about the values that a message carries.

* `Keyword` — the protocol words, with their texts;
* `Field` — a value written through `Utils::quoteProtocolField`, a value written between quotes as it
  is, or an integer written by `std::to_string`;
* `Frame.…` — the messages of the server, one definition for each text of the source.
-/

import MyTeams.Model.Database

namespace MyTeams

/-- The protocol words that the server writes. -/
inductive Keyword
  | code200 | code201 | code210 | code210Begin | code210End
  | code400 | code401 | code403 | code404 | code409
  | ok | created | badRequest | unauthorized | forbidden | notFound | alreadyExists
  | user | team | channel | thread | reply | info | subscribe | unsubscribe
  | users | teams | channels | threads | replies | messages
  | event | userLoggedIn | userLoggedOut | teamCreated | channelCreated | threadCreated
  | replyCreated | privateMessage
  | userSubscribed | userUnsubscribed
deriving DecidableEq, Repr

/-- The text of a protocol word. -/
def Keyword.text : Keyword → Bytes
  | .code200 => ascii "200"
  | .code201 => ascii "201"
  | .code210 => ascii "210"
  | .code210Begin => ascii "210-BEGIN"
  | .code210End => ascii "210-END"
  | .code400 => ascii "400"
  | .code401 => ascii "401"
  | .code403 => ascii "403"
  | .code404 => ascii "404"
  | .code409 => ascii "409"
  | .ok => ascii "OK"
  | .created => ascii "CREATED"
  | .badRequest => ascii "BAD_REQUEST"
  | .unauthorized => ascii "UNAUTHORIZED"
  | .forbidden => ascii "FORBIDDEN"
  | .notFound => ascii "NOT_FOUND"
  | .alreadyExists => ascii "ALREADY_EXISTS"
  | .user => ascii "USER"
  | .team => ascii "TEAM"
  | .channel => ascii "CHANNEL"
  | .thread => ascii "THREAD"
  | .reply => ascii "REPLY"
  | .info => ascii "INFO"
  | .subscribe => ascii "SUBSCRIBE"
  | .unsubscribe => ascii "UNSUBSCRIBE"
  | .users => ascii "USERS"
  | .teams => ascii "TEAMS"
  | .channels => ascii "CHANNELS"
  | .threads => ascii "THREADS"
  | .replies => ascii "REPLIES"
  | .messages => ascii "MESSAGES"
  | .event => ascii "EVENT"
  | .userLoggedIn => ascii "USER_LOGGED_IN"
  | .userLoggedOut => ascii "USER_LOGGED_OUT"
  | .teamCreated => ascii "TEAM_CREATED"
  | .channelCreated => ascii "CHANNEL_CREATED"
  | .threadCreated => ascii "THREAD_CREATED"
  | .replyCreated => ascii "REPLY_CREATED"
  | .privateMessage => ascii "PRIVATE_MESSAGE"
  | .userSubscribed => ascii "user_subscribed"
  | .userUnsubscribed => ascii "user_unsubscribed"

/-! ### Fields -/

/-- The loop of `Utils::quoteProtocolField`: a backslash before every quote and backslash. -/
def escapeField (value : Bytes) : Bytes :=
  value.flatMap fun character =>
    if character = backslash ∨ character = doubleQuote then [backslash, character] else [character]

/-- `Utils::quoteProtocolField` -/
def quoteProtocolField (value : Bytes) : Bytes :=
  doubleQuote :: escapeField value ++ [doubleQuote]

/-- One value of a message. -/
inductive Field
  /-- A value written through `Utils::quoteProtocolField`. -/
  | quoted (value : Bytes)
  /-- A value written between quotes without escaping. -/
  | plain (value : Bytes)
  /-- An integer written by `std::to_string`. -/
  | number (value : Int)
deriving DecidableEq

/-- The text of a field in the message. -/
def Field.render : Field → Bytes
  | .quoted value => quoteProtocolField value
  | .plain value => doubleQuote :: value ++ [doubleQuote]
  | .number value => decimal value

/-- The value that a field stands for. -/
def Field.value : Field → Bytes
  | .quoted value => value
  | .plain value => value
  | .number value => decimal value

/-! ### Frames -/

/-- A message: protocol words, then fields. -/
structure Frame where
  keywords : List Keyword
  fields : List Field := []
deriving DecidableEq

namespace Frame

/-- The blank-separated items of a message. -/
def items (frame : Frame) : List Bytes :=
  frame.keywords.map Keyword.text ++ frame.fields.map Field.render

/-- A message without its line end. -/
def line (frame : Frame) : Bytes := List.intercalate [blank] frame.items

/-- A message as it is appended to a write buffer. -/
def render (frame : Frame) : Bytes := frame.line ++ [carriageReturn, newline]

/-- The words of a message followed by the values it stands for. -/
def values (frame : Frame) : List Bytes :=
  frame.keywords.map Keyword.text ++ frame.fields.map Field.value

/-! ### Status replies -/

/-- `"400 BAD_REQUEST\r\n"` -/
def badRequest : Frame := ⟨[.code400, .badRequest], []⟩

/-- `"401 UNAUTHORIZED\r\n"` -/
def unauthorized : Frame := ⟨[.code401, .unauthorized], []⟩

/-- `"403 FORBIDDEN\r\n"` -/
def forbidden : Frame := ⟨[.code403, .forbidden], []⟩

/-- `"409 ALREADY_EXISTS\r\n"` -/
def alreadyExists : Frame := ⟨[.code409, .alreadyExists], []⟩

/-- `"404 NOT_FOUND\r\n"` -/
def notFound : Frame := ⟨[.code404, .notFound], []⟩

/-- `"404 NOT_FOUND " + quoteProtocolField(uuid)` -/
def notFoundUuid (uuid : Bytes) : Frame := ⟨[.code404, .notFound], [.quoted uuid]⟩

/-- `"404 NOT_FOUND TEAM " + quoteProtocolField(uuid)`, and the same for the other kinds. -/
def notFoundKind (kind : Keyword) (uuid : Bytes) : Frame :=
  ⟨[.code404, .notFound, kind], [.quoted uuid]⟩

/-- `"200 OK\r\n"` -/
def ok : Frame := ⟨[.code200, .ok], []⟩

/-- `"200 OK \"" + uuid + "\" \"" + name + "\"\r\n"`, the reply to a login: not escaped. -/
def okLogin (uuid name : Bytes) : Frame := ⟨[.code200, .ok], [.plain uuid, .plain name]⟩

/-- `"200 SUBSCRIBE " + user + " " + team` -/
def okSubscribe (userUuid teamUuid : Bytes) : Frame :=
  ⟨[.code200, .subscribe], [.quoted userUuid, .quoted teamUuid]⟩

/-- `"200 UNSUBSCRIBE " + user + " " + team` -/
def okUnsubscribe (userUuid teamUuid : Bytes) : Frame :=
  ⟨[.code200, .unsubscribe], [.quoted userUuid, .quoted teamUuid]⟩

/-- The connection status of a user in a message: `isConnected() ? 1 : 0`. -/
def status (user : User) : Field := .number (if user.isConnected then 1 else 0)

/-- The fields of a user: uuid, name, status. -/
def userFields (user : User) : List Field := [.quoted user.uuid, .quoted user.name, status user]

/-- The fields of a team or a channel: uuid, name, description. -/
def namedFields (uuid name description : Bytes) : List Field :=
  [.quoted uuid, .quoted name, .quoted description]

/-- The fields of a thread: uuid, author, timestamp, title, body. -/
def threadFields (thread : Thread) : List Field :=
  [.quoted thread.uuid, .quoted thread.userUuid, .number thread.timestamp, .quoted thread.title,
    .quoted thread.body]

/-- The fields of a reply: uuid of its thread, author, timestamp, body. -/
def replyFields (threadUuid : Bytes) (reply : Reply) : List Field :=
  [.quoted threadUuid, .quoted reply.userUuid, .number reply.timestamp, .quoted reply.body]

/-- `"200 USER " + …` -/
def okUser (user : User) : Frame := ⟨[.code200, .user], userFields user⟩

/-- `"200 INFO USER " + …` -/
def infoUser (user : User) : Frame := ⟨[.code200, .info, .user], userFields user⟩

/-- `"200 INFO TEAM " + …` -/
def infoTeam (team : Team) : Frame :=
  ⟨[.code200, .info, .team], namedFields team.uuid team.name team.description⟩

/-- `"200 INFO CHANNEL " + …` -/
def infoChannel (channel : Channel) : Frame :=
  ⟨[.code200, .info, .channel], namedFields channel.uuid channel.name channel.description⟩

/-- `"200 INFO THREAD " + …` -/
def infoThread (thread : Thread) : Frame := ⟨[.code200, .info, .thread], threadFields thread⟩

/-- `"201 CREATED TEAM " + …` -/
def createdTeam (team : Team) : Frame :=
  ⟨[.code201, .created, .team], namedFields team.uuid team.name team.description⟩

/-- `"201 CREATED CHANNEL " + …` -/
def createdChannel (channel : Channel) : Frame :=
  ⟨[.code201, .created, .channel], namedFields channel.uuid channel.name channel.description⟩

/-- `"201 CREATED THREAD " + …` -/
def createdThread (thread : Thread) : Frame :=
  ⟨[.code201, .created, .thread], threadFields thread⟩

/-- `"201 CREATED REPLY " + …` -/
def createdReply (threadUuid : Bytes) (reply : Reply) : Frame :=
  ⟨[.code201, .created, .reply], replyFields threadUuid reply⟩

/-! ### Lists -/

/-- `"210-BEGIN USERS\r\n"`, and the same for the other list types. -/
def listBegin (type : Keyword) : Frame := ⟨[.code210Begin, type], []⟩

/-- `"210-END USERS\r\n"`, and the same for the other list types. -/
def listEnd (type : Keyword) : Frame := ⟨[.code210End, type], []⟩

/-- `"210 " + …`, one line of a list. -/
def item (fields : List Field) : Frame := ⟨[.code210], fields⟩

/-- A complete list reply. -/
def listing (type : Keyword) (items : List (List Field)) : List Frame :=
  listBegin type :: items.map item ++ [listEnd type]

/-- What holds of the three kinds of lines holds of a list. -/
theorem forall_listing {P : Frame → Prop} {type : Keyword} {items : List (List Field)}
    (begins : P (listBegin type)) (each : ∀ fields ∈ items, P (item fields))
    (ends : P (listEnd type)) : ∀ frame ∈ listing type items, P frame := by
  intro frame member
  rcases List.mem_cons.mp member with rfl | rest
  · exact begins
  · rcases List.mem_append.mp rest with inside | last
    · obtain ⟨fields, listed, rfl⟩ := List.mem_map.mp inside
      exact each fields listed
    · rw [List.mem_singleton.mp last]
      exact ends

/-- What the lines of a list say, if the first and the last one say nothing. -/
theorem filterMap_listing {α β : Type} {entry : Frame → Option β} {type : Keyword} {listed : List α}
    {fields : α → List Field} {value : α → β} (begins : entry (listBegin type) = none)
    (each : ∀ object ∈ listed, entry (item (fields object)) = some (value object))
    (ends : entry (listEnd type) = none) :
    (listing type (listed.map fields)).filterMap entry = listed.map value := by
  have items : ((listed.map fields).map item).filterMap entry = listed.map value := by
    rw [List.map_map, List.filterMap_map, ← List.filterMap_eq_map]
    exact List.filterMap_congr each
  unfold listing
  rw [List.filterMap_append, List.filterMap_cons_none begins, List.filterMap_cons_none ends, items,
    List.filterMap_nil, List.append_nil]

/-! ### Events and notices -/

/-- `"EVENT USER_LOGGED_IN " + …` -/
def eventLoggedIn (user : User) : Frame :=
  ⟨[.event, .userLoggedIn], [.quoted user.uuid, .quoted user.name]⟩

/-- `"EVENT USER_LOGGED_OUT " + …` -/
def eventLoggedOut (user : User) : Frame :=
  ⟨[.event, .userLoggedOut], [.quoted user.uuid, .quoted user.name]⟩

/-- `"EVENT TEAM_CREATED " + …` -/
def eventTeamCreated (team : Team) : Frame :=
  ⟨[.event, .teamCreated], namedFields team.uuid team.name team.description⟩

/-- `"EVENT CHANNEL_CREATED " + …` -/
def eventChannelCreated (channel : Channel) : Frame :=
  ⟨[.event, .channelCreated], namedFields channel.uuid channel.name channel.description⟩

/-- `"EVENT THREAD_CREATED " + …` -/
def eventThreadCreated (thread : Thread) : Frame :=
  ⟨[.event, .threadCreated], threadFields thread⟩

/-- `"EVENT REPLY_CREATED " + …`: the team comes first and there is no timestamp. -/
def eventReplyCreated (teamUuid threadUuid : Bytes) (reply : Reply) : Frame :=
  ⟨[.event, .replyCreated],
    [.quoted teamUuid, .quoted threadUuid, .quoted reply.userUuid, .quoted reply.body]⟩

/-- `"EVENT PRIVATE_MESSAGE " + …` -/
def eventPrivateMessage (senderUuid body : Bytes) : Frame :=
  ⟨[.event, .privateMessage], [.quoted senderUuid, .quoted body]⟩

/-- `"user_subscribed \"" + team + "\" \"" + user + "\"\r\n"`: not escaped. -/
def userSubscribed (teamUuid userUuid : Bytes) : Frame :=
  ⟨[.userSubscribed], [.plain teamUuid, .plain userUuid]⟩

/-- `"user_unsubscribed \"" + team + "\" \"" + user + "\"\r\n"`: not escaped. -/
def userUnsubscribed (teamUuid userUuid : Bytes) : Frame :=
  ⟨[.userUnsubscribed], [.plain teamUuid, .plain userUuid]⟩

/-- Messages that are not replies: events and subscription notices. -/
def isNotice (frame : Frame) : Bool :=
  match frame.keywords.head? with
  | some .event | some .userSubscribed | some .userUnsubscribed => true
  | _ => false

/-- A reply does not have the words of a notice. -/
theorem keywords_ne_of_reply {frame : Frame} {words : List Keyword} (reply : frame.isNotice = false)
    (notice : (⟨words, []⟩ : Frame).isNotice = true) : frame.keywords ≠ words := by
  rintro rfl
  exact absurd (reply.symm.trans notice) Bool.false_ne_true

end Frame

end MyTeams
