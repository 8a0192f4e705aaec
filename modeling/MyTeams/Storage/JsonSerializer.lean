/-
**The JSON serializer and the save manager.**

`…ToJson` writes a record as compact JSON text and `…FromJson` reads it back from a parsed value,
record by record as in `JsonSerializer.cpp`. `SaveManager.save` is the content that is written to
the save file; `SaveManager.load` appends the users and teams of a file content to a database.
-/

import MyTeams.Storage.JsonParser

namespace MyTeams

/-! ### Writing -/

/-- The loop of `escapeJson`. -/
def escapeChars (str : Bytes) : Bytes :=
  str.flatMap fun character =>
    if character = doubleQuote then [backslash, doubleQuote]
    else if character = backslash then [backslash, backslash]
    else [character]

/-- `escapeJson` -/
def escapeJson (str : Bytes) : Bytes := doubleQuote :: escapeChars str ++ [doubleQuote]

/-- The accumulation loop of the serializers: a comma goes in front of every item but the first. -/
def joinItems {α : Type} (mapper : α → Bytes) (range : List α) : Bytes :=
  range.foldl (fun out item => (if out.isEmpty then out else out ++ [44]) ++ mapper item) []

/-- `jsonArray` -/
def jsonArray {α : Type} (mapper : α → Bytes) (range : List α) : Bytes :=
  91 :: joinItems mapper range ++ [93]

/-- `jsonMapOfArrays` -/
def jsonMapOfArrays {α : Type} (mapper : α → Bytes) (map : SortedMap Bytes (List α)) : Bytes :=
  123 :: joinItems (fun entry => escapeJson entry.1 ++ 58 :: jsonArray mapper entry.2) map.entries
    ++ [125]

/-- `"\"name\":"` -/
def memberName (name : String) : Bytes := escapeJson (ascii name) ++ [58]

/-- `messageToJson` -/
def messageToJson (msg : Message) : Bytes :=
  123 :: memberName "sender" ++ escapeJson msg.senderUuid ++ 44 ::
    memberName "receiver" ++ escapeJson msg.receiverUuid ++ 44 ::
    memberName "timestamp" ++ decimal msg.timestamp ++ 44 ::
    memberName "body" ++ escapeJson msg.body ++ [125]

/-- `replyToJson` -/
def replyToJson (reply : Reply) : Bytes :=
  123 :: memberName "uuid" ++ escapeJson reply.uuid ++ 44 ::
    memberName "user_uuid" ++ escapeJson reply.userUuid ++ 44 ::
    memberName "timestamp" ++ decimal reply.timestamp ++ 44 ::
    memberName "body" ++ escapeJson reply.body ++ [125]

/-- `threadToJson` -/
def threadToJson (thread : Thread) : Bytes :=
  123 :: memberName "uuid" ++ escapeJson thread.uuid ++ 44 ::
    memberName "user_uuid" ++ escapeJson thread.userUuid ++ 44 ::
    memberName "timestamp" ++ decimal thread.timestamp ++ 44 ::
    memberName "title" ++ escapeJson thread.title ++ 44 ::
    memberName "body" ++ escapeJson thread.body ++ 44 ::
    memberName "replies" ++ jsonArray replyToJson thread.replies ++ [125]

/-- `channelToJson` -/
def channelToJson (channel : Channel) : Bytes :=
  123 :: memberName "uuid" ++ escapeJson channel.uuid ++ 44 ::
    memberName "name" ++ escapeJson channel.name ++ 44 ::
    memberName "description" ++ escapeJson channel.description ++ 44 ::
    memberName "threads" ++ jsonArray threadToJson channel.threads ++ [125]

/-- `teamToJson` -/
def teamToJson (team : Team) : Bytes :=
  123 :: memberName "uuid" ++ escapeJson team.uuid ++ 44 ::
    memberName "name" ++ escapeJson team.name ++ 44 ::
    memberName "description" ++ escapeJson team.description ++ 44 ::
    memberName "subscribers" ++ jsonArray escapeJson team.subscriberUuids ++ 44 ::
    memberName "channels" ++ jsonArray channelToJson team.channels ++ [125]

/-- `userToJson`: the connection count is not written. -/
def userToJson (user : User) : Bytes :=
  123 :: memberName "uuid" ++ escapeJson user.uuid ++ 44 ::
    memberName "name" ++ escapeJson user.name ++ 44 ::
    memberName "connected" ++ ascii "false" ++ 44 ::
    memberName "teams" ++ jsonArray escapeJson user.teams ++ 44 ::
    memberName "messages" ++ jsonMapOfArrays messageToJson user.messages ++ [125]

/-! ### Reading -/

section Reading

variable (fp : FloatingPoint)

/-- `static_cast<time_t>(val.num())` -/
def timeFromJson (val : JsonVal fp.Double) : Int := fp.toTime (val.number fp.zero)

/-- `messageFromJson` -/
def messageFromJson (val : JsonVal fp.Double) : Message where
  senderUuid := (val.get (ascii "sender")).string
  receiverUuid := (val.get (ascii "receiver")).string
  timestamp := timeFromJson fp (val.get (ascii "timestamp"))
  body := (val.get (ascii "body")).string

/-- `replyFromJson` -/
def replyFromJson (val : JsonVal fp.Double) : Reply where
  uuid := (val.get (ascii "uuid")).string
  userUuid := (val.get (ascii "user_uuid")).string
  timestamp := timeFromJson fp (val.get (ascii "timestamp"))
  body := (val.get (ascii "body")).string

/-- `threadFromJson` -/
def threadFromJson (val : JsonVal fp.Double) : Thread where
  uuid := (val.get (ascii "uuid")).string
  userUuid := (val.get (ascii "user_uuid")).string
  timestamp := timeFromJson fp (val.get (ascii "timestamp"))
  title := (val.get (ascii "title")).string
  body := (val.get (ascii "body")).string
  replies := (val.get (ascii "replies")).array.map (replyFromJson fp)

/-- `channelFromJson` -/
def channelFromJson (val : JsonVal fp.Double) : Channel where
  uuid := (val.get (ascii "uuid")).string
  name := (val.get (ascii "name")).string
  description := (val.get (ascii "description")).string
  threads := (val.get (ascii "threads")).array.map (threadFromJson fp)

/-- `teamFromJson` -/
def teamFromJson (val : JsonVal fp.Double) : Team where
  uuid := (val.get (ascii "uuid")).string
  name := (val.get (ascii "name")).string
  description := (val.get (ascii "description")).string
  subscriberUuids := (val.get (ascii "subscribers")).array.map JsonVal.string
  channels := (val.get (ascii "channels")).array.map (channelFromJson fp)

/-- `userFromJson`: the connection count starts at zero. -/
def userFromJson (val : JsonVal fp.Double) : User where
  uuid := (val.get (ascii "uuid")).string
  name := (val.get (ascii "name")).string
  connectedCount := 0
  teams := (val.get (ascii "teams")).array.map JsonVal.string
  messages :=
    (val.get (ascii "messages")).object.foldl
      (fun messages entry => messages.insert entry.1 (entry.2.array.map (messageFromJson fp)))
      SortedMap.empty

end Reading

/-! ### `SaveManager` -/

namespace SaveManager

/-- The content that `SaveManager::save` writes. -/
def save (database : Database) : Bytes :=
  123 :: memberName "users" ++ 91 :: joinItems userToJson database.users ++ 93 :: 44 ::
    memberName "teams" ++ 91 :: joinItems teamToJson database.teams ++ [93, 125]

/-- `SaveManager::load` on a file content; `none` if the fuel of the parser does not suffice. -/
def load (fp : FloatingPoint) (fuel : Nat) (content : Bytes) (database : Database) :
    Option Database :=
  (JsonParser.parse fp content fuel).map fun root =>
    { users := database.users ++ (root.get (ascii "users")).array.map (userFromJson fp)
      teams := database.teams ++ (root.get (ascii "teams")).array.map (teamFromJson fp) }

end SaveManager

end MyTeams
