/-
**The log of the server.**

The server reports what happens to the functions of `libs/myteams/logging_server.h`, which print it. A call is
a `LogEvent`: the function, and its arguments as it reads them, which is up to the first zero byte.

The commands of `Commands` do not say which calls they make. `Verb.log` does, with the same checks in the same
order as the command itself; so do `Server.disconnectLog` and `SaveManager.loadLog` for the two places outside
the commands. `Logging` is the server together with everything that it has logged.
-/

import MyTeams.Server.Machine

namespace MyTeams

/-- A call of `libs/myteams/logging_server.h`. -/
inductive LogEvent
  | teamCreated (teamUuid teamName userUuid : Bytes)
  | channelCreated (teamUuid channelUuid channelName : Bytes)
  | threadCreated (channelUuid threadUuid userUuid threadTitle threadBody : Bytes)
  | replyCreated (threadUuid userUuid replyBody : Bytes)
  | userSubscribed (teamUuid userUuid : Bytes)
  | userUnsubscribed (teamUuid userUuid : Bytes)
  | userCreated (userUuid userName : Bytes)
  | userLoaded (userUuid userName : Bytes)
  | userLoggedIn (userUuid : Bytes)
  | userLoggedOut (userUuid : Bytes)
  | privateMessageSended (senderUuid receiverUuid messageBody : Bytes)
deriving DecidableEq

/-! ### The commands -/

namespace Login

/-- `createNewUser` -/
def createNewUserLog (env : Env) (username : Bytes) (server : Server) : List LogEvent :=
  [.userCreated (cString (server.nextUuid env)) (cString username),
    .userLoggedIn (cString (server.nextUuid env))]

/-- `logUserIn` -/
def logUserInLog (username : Bytes) (server : Server) : List LogEvent :=
  match server.db.findUserByName username with
  | none => []
  | some user => [.userLoggedIn (cString user.uuid)]

/-- `Login::execute` -/
def log (env : Env) (client : Client) (server : Server) : List LogEvent :=
  if client.args.length < 2 then []
  else if client.userUuid ≠ [] then []
  else if client.arg 1 = [] ∨ maxNameLength < (client.arg 1).length then []
  else if server.db.findUserByName (client.arg 1) = none then
    createNewUserLog env (client.arg 1) server
  else logUserInLog (client.arg 1) server

end Login

/-- `Logout::execute` -/
def Logout.log (client : Client) (server : Server) : List LogEvent :=
  if client.userUuid = [] then []
  else
    match server.db.findUser client.userUuid with
    | none => []
    | some user =>
      if user.decrementConnection.isConnected then [] else [.userLoggedOut (cString client.userUuid)]

namespace Create

/-- `emitTeamCreated` -/
def emitTeamCreatedLog (client : Client) (team : Team) : List LogEvent :=
  [.teamCreated (cString team.uuid) (cString team.name) (cString client.userUuid)]

/-- `emitChannelCreated` -/
def emitChannelCreatedLog (teamUuid : Bytes) (channel : Channel) : List LogEvent :=
  [.channelCreated (cString teamUuid) (cString channel.uuid) (cString channel.name)]

/-- `emitThreadCreated` -/
def emitThreadCreatedLog (client : Client) (channelUuid : Bytes) (thread : Thread) : List LogEvent :=
  [.threadCreated (cString channelUuid) (cString thread.uuid) (cString client.userUuid)
    (cString thread.title) (cString thread.body)]

/-- `emitReplyCreated` -/
def emitReplyCreatedLog (client : Client) (threadUuid : Bytes) (reply : Reply) : List LogEvent :=
  [.replyCreated (cString threadUuid) (cString client.userUuid) (cString reply.body)]

/-- `Create::executeTeam` -/
def executeTeamLog (env : Env) (client : Client) (server : Server) : List LogEvent :=
  if client.args.length < 3 then []
  else if isInvalidLength (client.arg 1) maxNameLength
      || isInvalidLength (client.arg 2) maxDescriptionLength then []
  else if server.db.teams.any (·.name = client.arg 1) then []
  else
    emitTeamCreatedLog client
      { uuid := server.nextUuid env, name := client.arg 1, description := client.arg 2 }

/-- `Create::executeChannel` -/
def executeChannelLog (env : Env) (client : Client) (server : Server) : List LogEvent :=
  match findAccessibleTeam client server.db client.context.teamUuid with
  | .error _ => []
  | .ok team =>
    if client.args.length < 3 then []
    else if isInvalidLength (client.arg 1) maxNameLength
        || isInvalidLength (client.arg 2) maxDescriptionLength then []
    else if team.channels.any (·.name = client.arg 1) then []
    else
      emitChannelCreatedLog client.context.teamUuid
        { uuid := server.nextUuid env, name := client.arg 1, description := client.arg 2 }

/-- `Create::executeThread` -/
def executeThreadLog (env : Env) (client : Client) (server : Server) : List LogEvent :=
  match findAccessibleTeam client server.db client.context.teamUuid with
  | .error _ => []
  | .ok _ =>
    match findChannelOrSend404 server.db client.context.teamUuid client.context.channelUuid with
    | .error _ => []
    | .ok channel =>
      if client.args.length < 3 then []
      else if isInvalidLength (client.arg 1) maxNameLength
          || isInvalidLength (client.arg 2) maxBodyLength then []
      else if channel.threads.any (·.title = client.arg 1) then []
      else
        emitThreadCreatedLog client client.context.channelUuid
          { uuid := server.nextUuid env, userUuid := client.userUuid, title := client.arg 1,
            body := client.arg 2, timestamp := server.nextTime env }

/-- `Create::executeReply` -/
def executeReplyLog (env : Env) (client : Client) (server : Server) : List LogEvent :=
  match findAccessibleTeam client server.db client.context.teamUuid with
  | .error _ => []
  | .ok _ =>
    match findChannelOrSend404 server.db client.context.teamUuid client.context.channelUuid with
    | .error _ => []
    | .ok _ =>
      match findThreadOrSend404 server.db client.context.channelUuid client.context.threadUuid with
      | .error _ => []
      | .ok _ =>
        if client.args.length < 2 then []
        else if isInvalidLength (client.arg 1) maxBodyLength then []
        else
          emitReplyCreatedLog client client.context.threadUuid
            { uuid := server.nextUuid env, userUuid := client.userUuid, body := client.arg 1,
              timestamp := server.nextTime env }

/-- `Create::execute` -/
def log (env : Env) (client : Client) (server : Server) : List LogEvent :=
  if client.userUuid = [] then []
  else if client.context.teamUuid = [] then executeTeamLog env client server
  else if client.context.channelUuid = [] then executeChannelLog env client server
  else if client.context.threadUuid = [] then executeThreadLog env client server
  else executeReplyLog env client server

end Create

/-- `Subscribe::execute` -/
def Subscribe.log (client : Client) (server : Server) : List LogEvent :=
  if client.userUuid = [] then []
  else if client.args.length < 2 ∨ client.arg 1 = [] then []
  else
    match server.db.findTeam (client.arg 1) with
    | none => []
    | some team =>
      if team.isUserSubscribed client.userUuid then []
      else if (team.addSubscriber client.userUuid).1 = false then []
      else [.userSubscribed (cString (client.arg 1)) (cString client.userUuid)]

/-- `Unsubscribe::execute` -/
def Unsubscribe.log (client : Client) (server : Server) : List LogEvent :=
  if client.userUuid = [] then []
  else if client.args.length < 2 ∨ client.arg 1 = [] then []
  else
    match server.db.findTeam (client.arg 1) with
    | none => []
    | some team =>
      if team.isUserSubscribed client.userUuid = false then []
      else if (team.removeSubscriber client.userUuid).1 = false then []
      else [.userUnsubscribed (cString (client.arg 1)) (cString client.userUuid)]

/-- `Send::execute` -/
def Send.log (client : Client) (server : Server) : List LogEvent :=
  if client.args.length < 3 then []
  else if client.arg 1 = [] ∨ client.arg 2 = [] ∨ maxBodyLength < (client.arg 2).length then []
  else
    match server.db.findUser client.userUuid with
    | none => []
    | some senderUser =>
      match server.db.findUser (client.arg 1) with
      | none => []
      | some receiverUser =>
        [.privateMessageSended (cString senderUser.uuid) (cString receiverUser.uuid)
          (cString (client.arg 2))]

/-- What a command logs. The other seven call nothing. -/
def Verb.log (env : Env) (client : Client) (server : Server) : Verb → List LogEvent
  | .create => Create.log env client server
  | .subscribe => Subscribe.log client server
  | .unsubscribe => Unsubscribe.log client server
  | .login => Login.log env client server
  | .logout => Logout.log client server
  | .send => Send.log client server
  | .list | .use | .info | .subscribed | .messages | .user | .users => []

/-- `CommandHandling::handleCommand` -/
def CommandHandling.log (env : Env) (rawCommand : Bytes) (fd : Int) (server : Server) : List LogEvent :=
  match server.clients.find? fd, parseArgs rawCommand with
  | some client, name :: rest =>
    let server := server.modifyClient fd (Client.setArgs (name :: rest))
    match verbs.lookup name with
    | none => []
    | some verb => verb.log env (client.setArgs (name :: rest)) server
  | _, _ => []

/-! ### The server -/

/-- `Server::_disconnectClient` -/
def Server.disconnectLog (fd : Int) (server : Server) : List LogEvent :=
  match server.clients.find? fd with
  | none => []
  | some client =>
    if client.userUuid = [] then []
    else
      match server.db.findUser client.userUuid with
      | none => []
      | some user =>
        if user.decrementConnection.isConnected then [] else [.userLoggedOut (cString user.uuid)]

/-- `SaveManager::load`, by the users of the database that it has filled. -/
def SaveManager.loadLog (loaded : Database) : List LogEvent :=
  loaded.users.map fun user => .userLoaded (cString user.uuid) (cString user.name)

/-- What a step logs. -/
def Server.stepLog (env : Env) (server : Server) : Event → List LogEvent
  | .line fd rawCommand => CommandHandling.log env rawCommand fd server
  | .disconnect fd => server.disconnectLog fd
  | .restart => SaveManager.loadLog (server.restart env).db
  | .accept _ | .buffer _ _ | .consume _ _ | .write _ _ | .updateFlags => []

/-- The server, and what it has logged. -/
structure Logging where
  server : Server
  log : List LogEvent

/-- A process that has loaded a database. -/
def Logging.start (db : Database) : Logging := ⟨{ db := db }, SaveManager.loadLog db⟩

/-- A step, with its calls. -/
def Logging.step (env : Env) (logging : Logging) (event : Event) : Logging where
  server := logging.server.step env event
  log := logging.log ++ logging.server.stepLog env event

end MyTeams
