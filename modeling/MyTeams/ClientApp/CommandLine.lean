/-
**Command lines of the client.**

`CommandSchemas.hpp`, `CommandLineDispatcher.cpp` and the checks of
`ClientApplication::dispatchCommandLine`: what the client does with a line that was typed. `Dispatch`
is the result: nothing, a text on the standard output, or a frame for the server.
-/

import MyTeams.Protocol.Tokens

namespace MyTeams

/-! ### `CommandSchemas.hpp` -/

structure ArgSchema where
  maxLen : Nat := 0
  name : Bytes := []

/-- `CommandSchema`; the array of three argument schemas ends in default ones. -/
structure CommandSchema where
  name : Bytes
  usage : Bytes
  minArgs : Nat := 0
  maxArgs : Nat := 0
  args : List ArgSchema := []

namespace CommandSchema

def maxName : Nat := 32

def maxBody : Nat := 512

def maxUuid : Nat := 36

/-- `schemas` -/
def schemas : List CommandSchema :=
  [{ name := ascii "/login"
     usage := ascii "/login \"user_name\""
     minArgs := 1
     maxArgs := 1
     args := [⟨maxName, ascii "user_name"⟩] },
   { name := ascii "/logout", usage := ascii "/logout" },
   { name := ascii "/users", usage := ascii "/users" },
   { name := ascii "/user"
     usage := ascii "/user \"user_uuid\""
     minArgs := 1
     maxArgs := 1
     args := [⟨maxUuid, ascii "user_uuid"⟩] },
   { name := ascii "/send"
     usage := ascii "/send \"user_uuid\" \"message_body\""
     minArgs := 2
     maxArgs := 2
     args := [⟨maxUuid, ascii "user_uuid"⟩, ⟨maxBody, ascii "message_body"⟩] },
   { name := ascii "/messages"
     usage := ascii "/messages \"user_uuid\""
     minArgs := 1
     maxArgs := 1
     args := [⟨maxUuid, ascii "user_uuid"⟩] },
   { name := ascii "/subscribe"
     usage := ascii "/subscribe \"team_uuid\""
     minArgs := 1
     maxArgs := 1
     args := [⟨maxUuid, ascii "team_uuid"⟩] },
   { name := ascii "/subscribed"
     usage := ascii "/subscribed ?\"team_uuid\""
     minArgs := 0
     maxArgs := 1
     args := [⟨maxUuid, ascii "team_uuid"⟩] },
   { name := ascii "/unsubscribe"
     usage := ascii "/unsubscribe \"team_uuid\""
     minArgs := 1
     maxArgs := 1
     args := [⟨maxUuid, ascii "team_uuid"⟩] },
   { name := ascii "/use"
     usage := ascii "/use ?\"team_uuid\" ?\"channel_uuid\" ?\"thread_uuid\""
     minArgs := 0
     maxArgs := 3
     args :=
      [⟨maxUuid, ascii "team_uuid"⟩, ⟨maxUuid, ascii "channel_uuid"⟩,
        ⟨maxUuid, ascii "thread_uuid"⟩] },
   { name := ascii "/create"
     usage := ascii "/create \"comment_body\" (after /use team channel thread)"
     minArgs := 1
     maxArgs := 1
     args := [⟨maxBody, ascii "comment_body"⟩] },
   { name := ascii "/create"
     usage := ascii "/create \"name\" \"description/message\" (team, channel, or thread)"
     minArgs := 2
     maxArgs := 2
     args := [⟨maxName, ascii "name"⟩, ⟨maxBody, ascii "description/message"⟩] },
   { name := ascii "/list", usage := ascii "/list" },
   { name := ascii "/info", usage := ascii "/info" }]

end CommandSchema

/-! ### `CommandLineDispatcher.cpp` -/

namespace CommandLineDispatcher

open CommandSchema

/-- The loops of `hasUnquotedArgs`; the flag says that the scan is between two quotes. -/
def hasUnquoted : Bool → Bytes → Bool
  | inside, [] => inside
  | false, byte :: rest =>
    if isSpace byte then hasUnquoted false rest
    else if byte = doubleQuote then hasUnquoted true rest
    else true
  | true, byte :: rest => if byte = doubleQuote then hasUnquoted false rest else hasUnquoted true rest

/-- `hasUnquotedArgs` -/
def hasUnquotedArgs (argsView : Bytes) : Bool := hasUnquoted false argsView

/-- `findSchema` -/
def findSchema (command : Bytes) (argc : Nat) : Option CommandSchema :=
  schemas.find? fun schema => schema.name = command && schema.minArgs ≤ argc && argc ≤ schema.maxArgs

/-- `CommandLineDispatcher::trimLeft` -/
def trimLeft (line : Bytes) : Bytes := line.dropWhile isSpace

/-- `CommandLineDispatcher::extractCommand` -/
def extractCommand (line : Bytes) : Option Bytes :=
  match TokenParser.parse line with
  | some (command :: _) => some command
  | _ => none

/-- `CommandLineDispatcher::isSupportedServerCommand` -/
def isSupportedServerCommand (command : Bytes) : Bool := schemas.any (·.name = command)

/-- The loop over the tokens in `validateArgs`. -/
def findTooLong : List Bytes → List ArgSchema → Option Bytes
  | [], _ => none
  | token :: rest, args =>
    let schema := args.headD {}
    if schema.maxLen < token.length then
      some (schema.name ++ ascii " exceeds max length of " ++ decimal schema.maxLen)
    else findTooLong rest args.tail

/-- `CommandLineDispatcher::validateArgs`: the error, if there is one. -/
def validateArgs (command argsView : Bytes) : Option Bytes :=
  if hasUnquotedArgs argsView then some (ascii "Invalid command format: arguments must be quoted")
  else
    match TokenParser.parse argsView with
    | none => some (ascii "Invalid command format")
    | some tokens =>
      match findSchema command tokens.length with
      | none => some (ascii "Wrong number of arguments for " ++ command)
      | some schema => findTooLong tokens schema.args

/-- The output of `CommandLineDispatcher::printHelp`. -/
def printHelp : Bytes := ascii "/help\n" ++ schemas.flatMap fun schema => schema.usage ++ [newline]

end CommandLineDispatcher

/-! ### `ClientApplication.cpp` -/

/-- What a typed line leads to. -/
inductive Dispatch
  | nothing
  | printed (text : Bytes)
  /-- `setPendingCommand(command)` and `sendCommandFrame(frame)`. -/
  | sent (command frame : Bytes)
deriving DecidableEq

namespace ClientApplication

open CommandLineDispatcher

/-- `ClientApplication::dispatchCommandLine` -/
def dispatchCommandLine (line : Bytes) : Dispatch :=
  let trimmedLine := trimLeft line
  if trimmedLine = [] then .nothing
  else
    match extractCommand trimmedLine with
    | none => .printed (ascii "Invalid command format\n")
    | some command =>
      if command = ascii "/help" then .printed printHelp
      else if command.head? ≠ some 47 then .printed (ascii "Invalid command format\n")
      else if !isSupportedServerCommand command then
        .printed (ascii "Unknown command: " ++ command ++ [newline])
      else
        let argsView := trimmedLine.drop command.length
        match validateArgs command argsView with
        | some err => .printed (err ++ [newline])
        | none => .sent command (command ++ argsView)

/-- The bytes that `ClientApplication::sendCommandFrame` gives to the socket. -/
def wireFrame (frame : Bytes) : Bytes := frame ++ [carriageReturn, newline]

end ClientApplication

end MyTeams
