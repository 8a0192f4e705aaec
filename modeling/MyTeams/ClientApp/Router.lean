/-
**The router of the client.**

`ServerMessageRouter` reads the tokens of a message and calls the handler of its first word (for an
event, of its second); `ResponseStatusHandler` handles the status lines. What they do to the outside
world is a list of outputs: the calls of the logging library with their arguments, and a line on the
standard output.
-/

import MyTeams.Protocol.Tokens

namespace MyTeams

/-! ### The logging library -/

/-- The functions of `logging_client.h` that the client calls. -/
inductive Callback
  | eventLoggedIn | eventLoggedOut | eventPrivateMessageReceived | eventThreadReplyReceived
  | eventTeamCreated | eventChannelCreated | eventThreadCreated
  | printUsers | printTeams | teamPrintChannels | channelPrintThreads | threadPrintReplies
  | privateMessagePrintMessages
  | errorUnknownTeam | errorUnknownChannel | errorUnknownThread | errorUnknownUser
  | errorUnauthorized | errorAlreadyExist
  | printUser | printTeam | printChannel | printThread
  | printTeamCreated | printChannelCreated | printThreadCreated | printReplyCreated
  | printSubscribed | printUnsubscribed
deriving DecidableEq, Repr

/-- An argument of such a function: a `char const *`, a `time_t` or an `int`. -/
inductive Argument
  | text (value : Bytes)
  | integer (value : Int)
deriving DecidableEq

/-- `str.c_str()` -/
def Argument.cStr (str : Bytes) : Argument := .text (cString str)

/-- What the client shows. -/
inductive Output
  | call (callback : Callback) (arguments : List Argument)
  /-- `std::cout` -/
  | stdout (text : Bytes)
deriving DecidableEq

/-! ### `std::stoll`, `std::stoi` -/

/-- The integer at the start of a text, if there is one and it is in range. -/
def parseInteger (low high : Int) (str : Bytes) : Option Int :=
  let text := str.dropWhile isSpace
  let digits := match text with
    | 45 :: rest => rest.takeWhile isDigit
    | 43 :: rest => rest.takeWhile isDigit
    | _ => text.takeWhile isDigit
  let value : Int := if text.head? = some 45 then -digitsValue digits else digitsValue digits
  if digits = [] then none
  else if low ≤ value ∧ value ≤ high then some value
  else none

/-- `std::stoll`; an exception is `none`. -/
def stoll (str : Bytes) : Option Int := parseInteger (-2 ^ 63) (2 ^ 63 - 1) str

/-- `std::stoi`; an exception is `none`. -/
def stoi (str : Bytes) : Option Int := parseInteger (-2 ^ 31) (2 ^ 31 - 1) str

/-! ### State -/

/-- `client/User.hpp` -/
structure LocalUser where
  uuid : Bytes := []
  name : Bytes := []
  loggedIn : Bool := false
deriving DecidableEq

/-- `ServerMessageRouter`, with what its handlers have shown. -/
structure ServerMessageRouter where
  user : LocalUser := {}
  shouldDisconnect : Bool := false
  pendingCommand : Bytes := []
  listContext : Bytes := []
  output : List Output := []
deriving DecidableEq

namespace ServerMessageRouter

/-- A call of the logging library. -/
def call (callback : Callback) (arguments : List Argument) (router : ServerMessageRouter) :
    ServerMessageRouter :=
  { router with output := router.output ++ [.call callback arguments] }

/-- `ServerMessageRouter::setPendingCommand` -/
def setPendingCommand (cmd : Bytes) (router : ServerMessageRouter) : ServerMessageRouter :=
  { router with pendingCommand := cmd }

/-- A call of the logging library with the tokens at some positions as C strings, if there are enough
tokens. -/
def callTexts (minTokens : Nat) (callback : Callback) (positions : List Nat) (tokens : List Bytes)
    (router : ServerMessageRouter) : ServerMessageRouter :=
  if tokens.length < minTokens then router
  else router.call callback (positions.map fun position => .cStr (tokens.getD position []))

/-- The same with an integer between the texts, unless it cannot be read. -/
def callMixed (minTokens : Nat) (callback : Callback) (before : List Nat) (number : Nat)
    (parse : Bytes → Option Int) (after : List Nat) (tokens : List Bytes)
    (router : ServerMessageRouter) : ServerMessageRouter :=
  if tokens.length < minTokens then router
  else
    match parse (tokens.getD number []) with
    | none => router
    | some value =>
      router.call callback (before.map (fun position => .cStr (tokens.getD position [])) ++
        .integer value :: after.map fun position => .cStr (tokens.getD position []))

end ServerMessageRouter

/-- What a handler does with the tokens of a message. -/
abbrev Handler := List Bytes → ServerMessageRouter → ServerMessageRouter

open ServerMessageRouter

/-! ### Handlers of events -/

/-- `TeamCreatedHandler::handle` -/
def TeamCreatedHandler.handle : Handler := callTexts 5 .eventTeamCreated [2, 3, 4]

/-- `ChannelCreatedHandler::handle` -/
def ChannelCreatedHandler.handle : Handler := callTexts 5 .eventChannelCreated [2, 3, 4]

/-- `ThreadCreatedHandler::handle` -/
def ThreadCreatedHandler.handle : Handler := callMixed 7 .eventThreadCreated [2, 3] 4 stoll [5, 6]

/-- `ReplyCreatedHandler::handle` -/
def ReplyCreatedHandler.handle : Handler := callTexts 6 .eventThreadReplyReceived [2, 3, 4, 5]

/-- `UserLoggedInHandler::handle` -/
def UserLoggedInHandler.handle : Handler := callTexts 4 .eventLoggedIn [2, 3]

/-- `UserLoggedOutHandler::handle` -/
def UserLoggedOutHandler.handle : Handler := callTexts 4 .eventLoggedOut [2, 3]

/-- `PrivateMessageHandler::handle` -/
def PrivateMessageHandler.handle : Handler := callTexts 4 .eventPrivateMessageReceived [2, 3]

/-! ### `ResponseStatusHandler` -/

namespace ResponseStatusHandler

def handle200User : Handler := callMixed 5 .printUser [2, 3] 4 stoi []

def handle200Subscribe : Handler := callTexts 4 .printSubscribed [2, 3]

def handle200Unsubscribe : Handler := callTexts 4 .printUnsubscribed [2, 3]

def handle200InfoUser : Handler := callMixed 6 .printUser [3, 4] 5 stoi []

def handle200InfoTeam : Handler := callTexts 6 .printTeam [3, 4, 5]

def handle200InfoChannel : Handler := callTexts 6 .printChannel [3, 4, 5]

/-- The author (token 4) is passed as the second argument. -/
def handle200InfoThread : Handler := callMixed 8 .printThread [3, 4] 5 stoll [6, 7]

/-- `ResponseStatusHandler::handle200Info` -/
def handle200Info : Handler := fun tokens router =>
  if tokens.length < 3 then router
  else
    match [(ascii "USER", handle200InfoUser), (ascii "TEAM", handle200InfoTeam),
      (ascii "CHANNEL", handle200InfoChannel), (ascii "THREAD", handle200InfoThread)].lookup
        (tokens.getD 2 []) with
    | none => router
    | some handler => handler tokens router

/-- `ResponseStatusHandler::handle200Ok` -/
def handle200Ok : Handler := fun tokens router =>
  if 4 ≤ tokens.length then
    { router with user := { uuid := tokens.getD 2 [], name := tokens.getD 3 [], loggedIn := true } }
  else if router.pendingCommand = ascii "/logout" then
    { router with user := {}, shouldDisconnect := true }
  else router

/-- `ResponseStatusHandler::handle200` -/
def handle200 : Handler := fun tokens router =>
  if tokens.length < 2 then router
  else
    match [(ascii "OK", handle200Ok), (ascii "USER", handle200User),
      (ascii "SUBSCRIBE", handle200Subscribe), (ascii "UNSUBSCRIBE", handle200Unsubscribe),
      (ascii "INFO", handle200Info)].lookup (tokens.getD 1 []) with
    | none => router
    | some handler => handler tokens router

/-- `ResponseStatusHandler::handle201` -/
def handle201 : Handler := fun tokens router =>
  let type := tokens.getD 2 []
  if tokens.length < 3 then router
  else if type = ascii "TEAM" ∧ 6 ≤ tokens.length then
    callTexts 0 .printTeamCreated [3, 4, 5] tokens router
  else if type = ascii "CHANNEL" ∧ 6 ≤ tokens.length then
    callTexts 0 .printChannelCreated [3, 4, 5] tokens router
  else if type = ascii "THREAD" ∧ 8 ≤ tokens.length then
    callMixed 0 .printThreadCreated [3, 4] 5 stoll [6, 7] tokens router
  else if type = ascii "REPLY" ∧ 7 ≤ tokens.length then
    callMixed 0 .printReplyCreated [3, 4] 5 stoll [6] tokens router
  else router

def handle400 : Handler := fun _ router =>
  { router with output := router.output ++ [.stdout (ascii "Error: bad request\n")] }

def handle401 : Handler := fun _ router => router.call .errorUnauthorized []

def handle403 : Handler := fun _ router => router.call .errorUnauthorized []

/-- `ResponseStatusHandler::handle404` -/
def handle404 : Handler := fun tokens router =>
  let type := tokens.getD 2 []
  let uuid := Argument.cStr (tokens.getD 3 [])
  if 4 ≤ tokens.length then
    if type = ascii "TEAM" then router.call .errorUnknownTeam [uuid]
    else if type = ascii "CHANNEL" then router.call .errorUnknownChannel [uuid]
    else if type = ascii "THREAD" then router.call .errorUnknownThread [uuid]
    else if type = ascii "USER" then router.call .errorUnknownUser [uuid]
    else router
  else if 3 ≤ tokens.length then
    if router.pendingCommand = ascii "/user" ∨ router.pendingCommand = ascii "/send" ∨
        router.pendingCommand = ascii "/messages" then
      router.call .errorUnknownUser [.cStr type]
    else router
  else router

def handle409 : Handler := fun _ router => router.call .errorAlreadyExist []

end ResponseStatusHandler

/-! ### `ServerMessageRouter` -/

namespace ServerMessageRouter

open ResponseStatusHandler

/-- `_handlers`, as `registerCommandHandlers` fills it. -/
def handlers : List (Bytes × Handler) :=
  [(ascii "TEAM_CREATED", TeamCreatedHandler.handle),
    (ascii "CHANNEL_CREATED", ChannelCreatedHandler.handle),
    (ascii "THREAD_CREATED", ThreadCreatedHandler.handle),
    (ascii "REPLY_CREATED", ReplyCreatedHandler.handle),
    (ascii "USER_LOGGED_IN", UserLoggedInHandler.handle),
    (ascii "USER_LOGGED_OUT", UserLoggedOutHandler.handle),
    (ascii "PRIVATE_MESSAGE", PrivateMessageHandler.handle),
    (ascii "200", handle200), (ascii "201", handle201), (ascii "400", handle400),
    (ascii "401", handle401), (ascii "403", handle403), (ascii "404", handle404),
    (ascii "409", handle409)]

/-- `static_cast<int>` of a 64-bit integer. -/
def toInt (value : Int) : Int := value.bmod (2 ^ 32)

/-- `_listHandlers`, as `registerListHandlers` fills it. -/
def listHandlers : List (Bytes × Handler) :=
  [(ascii "USERS", callMixed 4 .printUsers [1, 2] 3 (fun str => (stoll str).map toInt) []),
    (ascii "TEAMS", callTexts 4 .printTeams [1, 2, 3]),
    (ascii "CHANNELS", callTexts 4 .teamPrintChannels [1, 2, 3]),
    (ascii "THREADS", callMixed 6 .channelPrintThreads [1, 2] 3 stoll [4, 5]),
    (ascii "REPLIES", callMixed 5 .threadPrintReplies [1, 2] 3 stoll [4]),
    (ascii "MESSAGES", callMixed 4 .privateMessagePrintMessages [1] 2 stoll [3])]

/-- The tail of `routeFrame`: the handler of the command, if there is one. -/
def dispatch (command : Bytes) (tokens : List Bytes) (router : ServerMessageRouter) :
    ServerMessageRouter :=
  match handlers.lookup command with
  | none => router
  | some handler => handler tokens router

/-- `ServerMessageRouter::routeFrame`, on the tokens of the frame. -/
def routeTokens (tokens : List Bytes) (router : ServerMessageRouter) : ServerMessageRouter :=
  match tokens with
  | [] => router
  | first :: rest =>
    if first = ascii "210-BEGIN" then
      match rest with
      | [] => router
      | type :: _ => { router with listContext := type }
    else if first = ascii "210-END" then { router with listContext := [] }
    else if first = ascii "210" then
      match listHandlers.lookup router.listContext with
      | none => router
      | some handler => handler tokens router
    else if first = ascii "EVENT" then
      match rest with
      | [] => router
      | command :: _ => router.dispatch command tokens
    else router.dispatch first tokens

/-- `ServerMessageRouter::routeFrame` -/
def routeFrame (frame : Bytes) (router : ServerMessageRouter) : ServerMessageRouter :=
  match TokenParser.parse frame with
  | none => router
  | some tokens => router.routeTokens tokens

end ServerMessageRouter

end MyTeams
