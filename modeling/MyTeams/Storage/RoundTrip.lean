/-
**Saving and loading.**

Each serializer of the save manager writes the compact rendering of a JSON tree (`…ToJson_compact`),
every compact rendering is a layout that the parser reads (`Json.token_compact`), and each
`…FromJson` rebuilds the record from the value of its tree (`…FromJson_val`). Only a timestamp
passes through a `double`, so what is loaded is the database with every timestamp converted and
every connection count at zero (`load_save`); up to `2 ^ 53` the conversion is exact
(`load_save_exact`).
-/

import MyTeams.Storage.Layout

namespace MyTeams

open SortedMap

/-! ### Compact renderings -/

namespace Json

mutual

/-- A value written without whitespace. -/
def compact : Json → Bytes
  | null => ascii "null"
  | bool true => ascii "true"
  | bool false => ascii "false"
  | int value => decimal value
  | str value => escapeJson value
  | arr elements => 91 :: compactElements elements
  | obj members => 123 :: compactMembers members

def compactElements : List Json → Bytes
  | [] => [93]
  | [element] => compact element ++ [93]
  | element :: rest => compact element ++ 44 :: compactElements rest

def compactMembers : List (Bytes × Json) → Bytes
  | [] => [125]
  | [(key, member)] => escapeJson key ++ 58 :: compact member ++ [125]
  | (key, member) :: rest => escapeJson key ++ 58 :: compact member ++ 44 :: compactMembers rest

end

theorem blank_nil : Blank [] := List.forall_mem_nil _

mutual

/-- A compact rendering is one of the layouts that the parser reads. -/
theorem token_compact : (json : Json) → Token json json.compact
  | null => Token.null
  | bool true => Token.true
  | bool false => Token.false
  | int value => Token.int value
  | str value => Token.str value
  | arr elements => Token.arr blank_nil (elements_compact elements)
  | obj members => Token.obj blank_nil (members_compact members)

theorem elements_compact : (elements : List Json) → Elements elements (compactElements elements)
  | [] => Elements.close
  | [element] => by
      have single := Elements.last (token_compact element) blank_nil
      simpa [compactElements] using single
  | element :: second :: rest => by
      have several := Elements.more (token_compact element) blank_nil blank_nil
        (elements_compact (second :: rest))
      simpa [compactElements] using several

theorem members_compact :
    (members : List (Bytes × Json)) → Members members (compactMembers members)
  | [] => Members.close
  | [(key, member)] => by
      have single : Members [(key, member)] _ :=
        Members.last blank_nil blank_nil (token_compact member) blank_nil
      simpa [compactMembers] using single
  | (key, member) :: second :: rest => by
      have several : Members ((key, member) :: second :: rest) _ :=
        Members.more blank_nil blank_nil (token_compact member) blank_nil blank_nil
          (members_compact (second :: rest))
      simpa [compactMembers] using several

end

/-! ### The accumulation loop -/

/-- Behind a first item that is not empty, every further item gets a comma in front. -/
theorem foldl_items {α : Type} {mapper : α → Bytes} (range : List α) {out : Bytes} (some : out ≠ []) :
    range.foldl (fun out item => (if out.isEmpty then out else out ++ [44]) ++ mapper item) out
      = out ++ range.flatMap fun item => 44 :: mapper item := by
  induction range generalizing out with
  | nil => simp
  | cons item rest ih =>
    have continues : (if out.isEmpty then out else out ++ [44]) ++ mapper item ≠ [] := by
      simp [some]
    rw [List.foldl_cons, ih continues, if_neg (by simpa using some), List.flatMap_cons]
    simp

theorem joinItems_cons {α : Type} {mapper : α → Bytes} (item : α) (rest : List α)
    (visible : mapper item ≠ []) :
    joinItems mapper (item :: rest)
      = mapper item ++ rest.flatMap fun item => 44 :: mapper item := by
  rw [joinItems, List.foldl_cons]
  exact foldl_items rest visible

theorem compact_ne_nil (json : Json) : json.compact ≠ [] := by
  obtain ⟨character, rest, shape, -⟩ := JsonParser.token_head (token_compact json)
  rw [shape]
  exact List.cons_ne_nil _ _

/-- The loop writes the elements of an array. -/
theorem joinItems_elements {α : Type} (tree : α → Json) (range : List α) :
    joinItems (fun item => (tree item).compact) range ++ [93]
      = compactElements (range.map tree) := by
  cases range with
  | nil => rfl
  | cons item rest =>
    rw [joinItems_cons item rest (compact_ne_nil _), List.map_cons]
    induction rest generalizing item with
    | nil => simp [compactElements]
    | cons second rest ih =>
      rw [List.map_cons, compactElements, ← ih second]
      · simp
      · simp

/-- The loop writes the members of an object. -/
theorem joinItems_members {α : Type} (tree : α → Bytes × Json) (range : List α) :
    joinItems (fun item => escapeJson (tree item).1 ++ 58 :: (tree item).2.compact) range ++ [125]
      = compactMembers (range.map tree) := by
  cases range with
  | nil => rfl
  | cons item rest =>
    rw [joinItems_cons item rest (List.cons_ne_nil _ _), List.map_cons]
    induction rest generalizing item with
    | nil => simp [compactMembers]
    | cons second rest ih =>
      rw [List.map_cons, compactMembers, ← ih second]
      · simp
      · simp

end Json

theorem jsonArray_compact {α : Type} {mapper : α → Bytes} {tree : α → Json}
    (writes : ∀ item, mapper item = (tree item).compact) (range : List α) :
    jsonArray mapper range = (Json.arr (range.map tree)).compact := by
  obtain rfl : mapper = fun item => (tree item).compact := funext writes
  rw [jsonArray, Json.compact, ← Json.joinItems_elements]
  rfl

/-! ### The trees of the records -/

/-- What `messageToJson` writes. -/
def messageJson (msg : Message) : Json :=
  .obj [(ascii "sender", .str msg.senderUuid), (ascii "receiver", .str msg.receiverUuid),
    (ascii "timestamp", .int msg.timestamp), (ascii "body", .str msg.body)]

/-- What `replyToJson` writes. -/
def replyJson (reply : Reply) : Json :=
  .obj [(ascii "uuid", .str reply.uuid), (ascii "user_uuid", .str reply.userUuid),
    (ascii "timestamp", .int reply.timestamp), (ascii "body", .str reply.body)]

/-- What `threadToJson` writes. -/
def threadJson (thread : Thread) : Json :=
  .obj [(ascii "uuid", .str thread.uuid), (ascii "user_uuid", .str thread.userUuid),
    (ascii "timestamp", .int thread.timestamp), (ascii "title", .str thread.title),
    (ascii "body", .str thread.body), (ascii "replies", .arr (thread.replies.map replyJson))]

/-- What `channelToJson` writes. -/
def channelJson (channel : Channel) : Json :=
  .obj [(ascii "uuid", .str channel.uuid), (ascii "name", .str channel.name),
    (ascii "description", .str channel.description),
    (ascii "threads", .arr (channel.threads.map threadJson))]

/-- What `teamToJson` writes. -/
def teamJson (team : Team) : Json :=
  .obj [(ascii "uuid", .str team.uuid), (ascii "name", .str team.name),
    (ascii "description", .str team.description),
    (ascii "subscribers", .arr (team.subscriberUuids.map Json.str)),
    (ascii "channels", .arr (team.channels.map channelJson))]

/-- What `userToJson` writes. -/
def userJson (user : User) : Json :=
  .obj [(ascii "uuid", .str user.uuid), (ascii "name", .str user.name),
    (ascii "connected", .bool false), (ascii "teams", .arr (user.teams.map Json.str)),
    (ascii "messages", .obj (user.messages.entries.map fun entry =>
      (entry.1, .arr (entry.2.map messageJson))))]

/-- What `SaveManager::save` writes. -/
def databaseJson (database : Database) : Json :=
  .obj [(ascii "users", .arr (database.users.map userJson)),
    (ascii "teams", .arr (database.teams.map teamJson))]

theorem messageToJson_compact (msg : Message) : messageToJson msg = (messageJson msg).compact := by
  simp [messageToJson, messageJson, Json.compact, Json.compactMembers, memberName]

theorem replyToJson_compact (reply : Reply) : replyToJson reply = (replyJson reply).compact := by
  simp [replyToJson, replyJson, Json.compact, Json.compactMembers, memberName]

theorem threadToJson_compact (thread : Thread) :
    threadToJson thread = (threadJson thread).compact := by
  simp [threadToJson, threadJson, Json.compact, Json.compactMembers, memberName,
    jsonArray_compact replyToJson_compact]

theorem channelToJson_compact (channel : Channel) :
    channelToJson channel = (channelJson channel).compact := by
  simp [channelToJson, channelJson, Json.compact, Json.compactMembers, memberName,
    jsonArray_compact threadToJson_compact]

theorem escapeJson_compact (value : Bytes) : escapeJson value = (Json.str value).compact := by
  rw [Json.compact]

theorem teamToJson_compact (team : Team) : teamToJson team = (teamJson team).compact := by
  simp [teamToJson, teamJson, Json.compact, Json.compactMembers, memberName,
    jsonArray_compact channelToJson_compact, jsonArray_compact escapeJson_compact]

theorem jsonMapOfArrays_compact (map : SortedMap Bytes (List Message)) :
    jsonMapOfArrays messageToJson map
      = (Json.obj (map.entries.map fun entry =>
          (entry.1, Json.arr (entry.2.map messageJson)))).compact := by
  rw [jsonMapOfArrays, Json.compact, ← Json.joinItems_members]
  simp only [jsonArray_compact messageToJson_compact]
  rfl

theorem userToJson_compact (user : User) : userToJson user = (userJson user).compact := by
  simp [userToJson, userJson, Json.compact, Json.compactMembers, memberName,
    jsonArray_compact escapeJson_compact, jsonMapOfArrays_compact]

/-- **What is saved** is the compact rendering of one tree. -/
theorem save_compact (database : Database) :
    SaveManager.save database = (databaseJson database).compact := by
  have users := Json.joinItems_elements userJson database.users
  have teams := Json.joinItems_elements teamJson database.teams
  simp only [← userToJson_compact, ← teamToJson_compact] at users teams
  simp [SaveManager.save, databaseJson, Json.compact, Json.compactMembers, memberName, ← users,
    ← teams]

/-! ### What is read back -/

/-- A message with its timestamp converted. -/
def Message.mapTime (f : Int → Int) (msg : Message) : Message :=
  { msg with timestamp := f msg.timestamp }

def Reply.mapTime (f : Int → Int) (reply : Reply) : Reply :=
  { reply with timestamp := f reply.timestamp }

def Thread.mapTime (f : Int → Int) (thread : Thread) : Thread :=
  { thread with
    timestamp := f thread.timestamp
    replies := thread.replies.map (Reply.mapTime f) }

def Channel.mapTime (f : Int → Int) (channel : Channel) : Channel :=
  { channel with threads := channel.threads.map (Thread.mapTime f) }

def Team.mapTime (f : Int → Int) (team : Team) : Team :=
  { team with channels := team.channels.map (Channel.mapTime f) }

/-- A user as it is loaded: converted timestamps, no connection. -/
def User.reloaded (f : Int → Int) (user : User) : User :=
  { user with
    connectedCount := 0
    messages := user.messages.mapWithKey fun _ messages => messages.map (Message.mapTime f) }

/-- A database as it is loaded. -/
def Database.reloaded (f : Int → Int) (db : Database) : Database where
  users := db.users.map (User.reloaded f)
  teams := db.teams.map (Team.mapTime f)

section Reading

variable (fp : FloatingPoint)

/-- A timestamp written to the save file and read back. -/
def reloadTime (time : Int) : Int := fp.toTime (fp.ofInt time)

theorem get_insertEntry {Double : Type} (key other : Bytes) (member : JsonVal Double)
    (members : List (Bytes × JsonVal Double)) :
    (JsonVal.obj (insertEntry key member members)).get other
      = if other = key then member else (JsonVal.obj members).get other := by
  have looked := lookup_insertEntry key other member members
  refine (congrArg (·.getD JsonVal.null) looked).trans ?_
  split_ifs <;> rfl

/-- An array of trees read element by element. -/
theorem map_array_val {α β : Type} {tree : α → Json} {read : JsonVal fp.Double → β} {f : α → β}
    (reads : ∀ item, read ((tree item).val fp) = f item) (items : List α) :
    ((Json.arr (items.map tree)).val fp).array.map read = items.map f := by
  rw [Json.val, Json.vals_eq_map, JsonVal.array, List.map_map, List.map_map]
  exact List.map_congr_left fun item _ => reads item

theorem messageFromJson_val (msg : Message) :
    messageFromJson fp ((messageJson msg).val fp) = msg.mapTime (reloadTime fp) := by
  simp +decide only [messageFromJson, messageJson, Json.val, Json.store, get_insertEntry,
    JsonVal.string, timeFromJson, JsonVal.number, Message.mapTime, reloadTime, if_true, if_false]

theorem replyFromJson_val (reply : Reply) :
    replyFromJson fp ((replyJson reply).val fp) = reply.mapTime (reloadTime fp) := by
  simp +decide only [replyFromJson, replyJson, Json.val, Json.store, get_insertEntry,
    JsonVal.string, timeFromJson, JsonVal.number, Reply.mapTime, reloadTime, if_true, if_false]

theorem threadFromJson_val (thread : Thread) :
    threadFromJson fp ((threadJson thread).val fp) = thread.mapTime (reloadTime fp) := by
  have replies := map_array_val fp (replyFromJson_val fp) thread.replies
  simp only [Json.val] at replies
  simp +decide only [threadFromJson, threadJson, Json.val, Json.store, get_insertEntry, replies,
    JsonVal.string, timeFromJson, JsonVal.number, Thread.mapTime, reloadTime, if_true, if_false]

theorem channelFromJson_val (channel : Channel) :
    channelFromJson fp ((channelJson channel).val fp) = channel.mapTime (reloadTime fp) := by
  have threads := map_array_val fp (threadFromJson_val fp) channel.threads
  simp only [Json.val] at threads
  simp +decide only [channelFromJson, channelJson, Json.val, Json.store, get_insertEntry, threads,
    JsonVal.string, Channel.mapTime, if_true, if_false]

/-- An array of strings is read as it was. -/
theorem map_string_val (values : List Bytes) :
    ((Json.arr (values.map Json.str)).val fp).array.map JsonVal.string = values := by
  have reads : ∀ value : Bytes, ((Json.str value).val fp).string = id value := fun value => by
    rw [Json.val]
    rfl
  have same := map_array_val fp reads values
  rwa [List.map_id] at same

theorem teamFromJson_val (team : Team) :
    teamFromJson fp ((teamJson team).val fp) = team.mapTime (reloadTime fp) := by
  have subscribers := map_string_val fp team.subscriberUuids
  have channels := map_array_val fp (channelFromJson_val fp) team.channels
  simp only [Json.val] at subscribers channels
  simp +decide only [teamFromJson, teamJson, Json.val, Json.store, get_insertEntry, subscribers,
    channels, JsonVal.string, Team.mapTime, if_true, if_false]

theorem store_eq_foldl (members : List (Bytes × Json)) (built : List (Bytes × JsonVal fp.Double)) :
    Json.store fp built members
      = (members.map fun member => (member.1, member.2.val fp)).foldl
          (fun built entry => insertEntry entry.1 entry.2 built) built := by
  induction members generalizing built with
  | nil => rw [Json.store]; rfl
  | cons member rest ih => rw [Json.store, ih]; rfl

/-- The members of an object whose keys are written in order. -/
theorem object_val {α : Type} (map : SortedMap Bytes α) (tree : α → Json) :
    ((Json.obj (map.entries.map fun entry => (entry.1, tree entry.2))).val fp).object
      = (map.mapWithKey fun _ value => (tree value).val fp).entries := by
  rw [Json.val, JsonVal.object, store_eq_foldl, List.map_map]
  exact entries_foldl_insertEntry (map.mapWithKey fun _ value => (tree value).val fp)

theorem userFromJson_val (user : User) :
    userFromJson fp ((userJson user).val fp) = user.reloaded (reloadTime fp) := by
  have teams := map_string_val fp user.teams
  have members := object_val fp user.messages fun messages => .arr (messages.map messageJson)
  have messages := fun list => map_array_val fp (messageFromJson_val fp) list
  simp only [Json.val] at teams members messages
  have conversations := foldl_insert
    (fun value : JsonVal fp.Double => value.array.map (messageFromJson fp))
    (user.messages.mapWithKey fun _ list => JsonVal.arr (Json.vals fp (list.map messageJson)))
  simp +decide only [userFromJson, userJson, Json.val, Json.store, get_insertEntry, teams, members,
    JsonVal.string, User.reloaded, conversations, if_true, if_false]
  simp only [mapWithKey, List.map_map, Function.comp_def, messages]

/-- **Loading what was saved** appends the saved database, as it is reloaded, to the present one. -/
theorem load_save (db base : Database) {fuel : Nat}
    (enough : 2 * (SaveManager.save db).length ≤ fuel) :
    SaveManager.load fp fuel (SaveManager.save db) base
      = some { users := base.users ++ (db.reloaded (reloadTime fp)).users
               teams := base.teams ++ (db.reloaded (reloadTime fp)).teams } := by
  have whole : (SaveManager.save db).drop 0 = [] ++ ((databaseJson db).compact ++ []) := by
    rw [List.drop_zero, List.nil_append, List.append_nil, save_compact]
  have parsed : JsonParser.parse fp (SaveManager.save db) fuel = some ((databaseJson db).val fp) := by
    rw [JsonParser.parse, JsonParser.parseValue_token fp (Json.token_compact (databaseJson db)) fuel 0
      [] [] Json.blank_nil (fun _ head => by cases head) whole (by rwa [← save_compact])]
    rfl
  have users := map_array_val fp (userFromJson_val fp) db.users
  have teams := map_array_val fp (teamFromJson_val fp) db.teams
  simp only [Json.val] at users teams
  rw [SaveManager.load, parsed, Option.map_some]
  simp +decide only [databaseJson, Json.val, Json.store, get_insertEntry, users, teams,
    Database.reloaded, if_true, if_false]

end Reading

/-! ### Exact timestamps -/

/-- The timestamps of a thread and its replies. -/
def Thread.timestamps (thread : Thread) : List Int :=
  thread.timestamp :: thread.replies.map Reply.timestamp

/-- The timestamps of a user's messages. -/
def User.timestamps (user : User) : List Int :=
  user.messages.entries.flatMap fun entry => entry.2.map Message.timestamp

/-- Every timestamp that is saved. -/
def Database.timestamps (db : Database) : List Int :=
  db.users.flatMap User.timestamps ++
    db.teams.flatMap fun team => team.channels.flatMap fun channel =>
      channel.threads.flatMap Thread.timestamps

/-- A database with every connection count at zero. -/
def Database.disconnected (db : Database) : Database :=
  { db with users := db.users.map fun user => { user with connectedCount := 0 } }

theorem map_eq_self {α : Type} {f : α → α} {items : List α} (keeps : ∀ item ∈ items, f item = item) :
    items.map f = items := by
  conv_rhs => rw [← List.map_id items]
  exact List.map_congr_left keeps

theorem Thread.mapTime_exact {f : Int → Int} {thread : Thread}
    (exact : ∀ time ∈ thread.timestamps, f time = time) : thread.mapTime f = thread := by
  obtain ⟨own, later⟩ := List.forall_mem_cons.mp exact
  have replies : thread.replies.map (Reply.mapTime f) = thread.replies :=
    map_eq_self fun reply member => by
      rw [Reply.mapTime, later _ (List.mem_map_of_mem member)]
  rw [Thread.mapTime, own, replies]

theorem Team.mapTime_exact {f : Int → Int} {team : Team}
    (exact : ∀ channel ∈ team.channels, ∀ thread ∈ channel.threads, ∀ time ∈ thread.timestamps,
      f time = time) : team.mapTime f = team := by
  have channels : team.channels.map (Channel.mapTime f) = team.channels :=
    map_eq_self fun channel member => by
      have threads : channel.threads.map (Thread.mapTime f) = channel.threads :=
        map_eq_self fun thread inside => Thread.mapTime_exact (exact channel member thread inside)
      rw [Channel.mapTime, threads]
  rw [Team.mapTime, channels]

theorem User.reloaded_exact {f : Int → Int} {user : User}
    (exact : ∀ time ∈ user.timestamps, f time = time) :
    user.reloaded f = { user with connectedCount := 0 } := by
  have messages : (user.messages.mapWithKey fun _ messages => messages.map (Message.mapTime f))
      = user.messages := by
    refine ext_entries (map_eq_self fun entry member => ?_)
    have list : entry.2.map (Message.mapTime f) = entry.2 := map_eq_self fun msg inside => by
      rw [Message.mapTime, exact _ (List.mem_flatMap.mpr
        ⟨entry, member, List.mem_map_of_mem inside⟩)]
    exact Prod.ext rfl list
  rw [User.reloaded, messages]

theorem Database.reloaded_exact {f : Int → Int} {db : Database}
    (exact : ∀ time ∈ db.timestamps, f time = time) : db.reloaded f = db.disconnected := by
  have users : db.users.map (User.reloaded f)
      = db.users.map fun user => { user with connectedCount := 0 } :=
    List.map_congr_left fun user member => User.reloaded_exact fun time inside =>
      exact time (List.mem_append_left _ (List.mem_flatMap.mpr ⟨user, member, inside⟩))
  have teams : db.teams.map (Team.mapTime f) = db.teams :=
    map_eq_self fun team member => Team.mapTime_exact fun channel ofTeam thread ofChannel time inside =>
      exact time (List.mem_append_right _ (List.mem_flatMap.mpr ⟨team, member,
        List.mem_flatMap.mpr ⟨channel, ofTeam, List.mem_flatMap.mpr ⟨thread, ofChannel, inside⟩⟩⟩))
  rw [Database.reloaded, Database.disconnected, users, teams]

/-- **Save then load is the identity**, connection counts apart, on every database whose
timestamps a `double` can hold. -/
theorem load_save_exact (fp : FloatingPoint) (db : Database)
    (representable : ∀ time ∈ db.timestamps, |time| ≤ 2 ^ 53) (fuel : Nat)
    (enough : 2 * (SaveManager.save db).length ≤ fuel) :
    SaveManager.load fp fuel (SaveManager.save db) {} = some db.disconnected := by
  have exact : db.reloaded (reloadTime fp) = db.disconnected :=
    Database.reloaded_exact fun time inside => fp.toTime_ofInt time (representable time inside)
  rw [load_save fp db {} enough, exact]
  rfl

/-! ### Integers as doubles

A floating-point library whose numbers are the integers: on a decimal integer it reads what
`std::from_chars` reads. -/

theorem takeWhile_decimalNat (value : Nat) {rest : Bytes}
    (stops : ∀ byte, rest.head? = some byte → continuesNumber byte = false) :
    (decimalNat value ++ rest).takeWhile isDigit = decimalNat value := by
  rw [List.takeWhile_append_of_pos (decimalNat_digits value)]
  cases rest with
  | nil => rw [List.takeWhile_nil, List.append_nil]
  | cons byte later =>
    have stop := stops byte rfl
    simp only [continuesNumber, Bool.or_eq_false_iff] at stop
    rw [List.takeWhile_cons, stop.1.1.1, if_neg (by decide), List.append_nil]

/-- `std::from_chars` on integers. -/
def integerChars (text : Bytes) : Int × Nat :=
  match text with
  | 45 :: rest =>
    if (rest.takeWhile isDigit).isEmpty then (0, 0)
    else (-(digitsValue (rest.takeWhile isDigit)), (rest.takeWhile isDigit).length + 1)
  | _ => (digitsValue (text.takeWhile isDigit), (text.takeWhile isDigit).length)

theorem integerChars_decimal (value : Int) (rest : Bytes)
    (stops : ∀ byte, rest.head? = some byte → continuesNumber byte = false) :
    integerChars (decimal value ++ rest) = (value, (decimal value).length) := by
  cases value with
  | ofNat value =>
    have unsigned : ∀ later, decimalNat value ++ rest ≠ 45 :: later := by
      intro later same
      cases shape : decimalNat value with
      | nil => exact decimalNat_ne_nil value shape
      | cons byte others =>
        have digit := decimalNat_digits value byte (by rw [shape]; exact List.mem_cons_self)
        rw [shape] at same
        cases same
        exact absurd digit (by decide)
    rw [decimal, integerChars, takeWhile_decimalNat value stops, digitsValue_decimalNat]
    · rfl
    · exact unsigned
  | negSucc value =>
    have some : ¬ (decimalNat (value + 1)).isEmpty = true := by
      rw [List.isEmpty_iff]
      exact decimalNat_ne_nil _
    rw [decimal, List.cons_append, integerChars, takeWhile_decimalNat (value + 1) stops,
      if_neg some, digitsValue_decimalNat]
    rfl

theorem integerChars_le (text : Bytes) : (integerChars text).2 ≤ text.length := by
  unfold integerChars
  split
  · split_ifs
    · exact Nat.zero_le _
    · exact Nat.succ_le_succ (List.takeWhile_prefix _).length_le
  · exact (List.takeWhile_prefix _).length_le

/-- Integers in place of floating-point numbers. -/
def integerDouble : FloatingPoint where
  Double := Int
  zero := 0
  ofInt := id
  fromChars := integerChars
  toTime := id
  fromChars_le := integerChars_le
  fromChars_integer := integerChars_decimal
  toTime_ofInt _ _ := rfl

/-- A user with one message, and a team with a subscriber and one thread. -/
def sampleDatabase : Database where
  users := [{
    uuid := ascii "u1"
    name := ascii "al\"ice"
    connectedCount := 2
    messages := SortedMap.empty.insert (ascii "u2") [⟨ascii "u2", ascii "u1", 7, ascii "hi\\"⟩] }]
  teams := [{
    uuid := ascii "t1"
    name := ascii "red"
    subscriberUuids := [ascii "u1"]
    channels := [⟨ascii "c1", ascii "]", [], [⟨ascii "h1", ascii "u1", -5, [], ascii "\x7b", []⟩]⟩] }]

theorem load_save_sample :
    SaveManager.load integerDouble (2 * (SaveManager.save sampleDatabase).length)
      (SaveManager.save sampleDatabase) {} = some sampleDatabase.disconnected :=
  load_save_exact integerDouble sampleDatabase (by decide) _ le_rfl

end MyTeams
