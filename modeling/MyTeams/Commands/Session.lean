/-
**LOGIN, LOGOUT and USE.**

A command is a function of the descriptor and the state of the requester (as it is when the command
starts) and of the server; it returns the server after the command.
-/

import MyTeams.Server.State

namespace MyTeams

/-! ### `login.cpp` -/

namespace Login

/-- `MAX_NAME_LENGTH` -/
def maxNameLength : Nat := 32

/-- `createNewUser` -/
def createNewUser (env : Env) (fd : Int) (username : Bytes) (server : Server) : Server :=
  let newUser := User.incrementConnection { uuid := server.nextUuid env, name := username }
  server.generateUuid
    |>.modifyDb (fun db => { db with users := db.users ++ [newUser] })
    |>.modifyClient fd (fun client => { client with userUuid := newUser.uuid })
    |>.sendToClient (Frame.okLogin newUser.uuid newUser.name) fd
    |>.broadcast (Frame.eventLoggedIn newUser)

/-- `logUserIn` -/
def logUserIn (fd : Int) (username : Bytes) (server : Server) : Server :=
  match server.db.findUserByName username with
  | none => server.sendToClient Frame.notFound fd
  | some user =>
    server.modifyDb (·.modifyUserByName username User.incrementConnection)
      |>.modifyClient fd (fun client => { client with userUuid := user.uuid })
      |>.sendToClient (Frame.okLogin user.uuid user.name) fd
      |>.broadcast (Frame.eventLoggedIn user)

/-- `Login::execute` -/
def execute (env : Env) (fd : Int) (client : Client) (server : Server) : Server :=
  if client.args.length < 2 then server.sendToClient Frame.badRequest fd
  else if client.userUuid ≠ [] then server.sendToClient Frame.unauthorized fd
  else if client.arg 1 = [] ∨ maxNameLength < (client.arg 1).length then
    server.sendToClient Frame.badRequest fd
  else if server.db.findUserByName (client.arg 1) = none then
    createNewUser env fd (client.arg 1) server
  else logUserIn fd (client.arg 1) server

end Login

/-! ### `logout.cpp` -/

namespace Logout

/-- `Logout::execute`. The context of the client is not touched. -/
def execute (fd : Int) (client : Client) (server : Server) : Server :=
  if client.userUuid = [] then server.sendToClient Frame.unauthorized fd
  else
    let left :=
      match server.db.findUser client.userUuid with
      | none => server
      | some user =>
        if user.decrementConnection.isConnected then
          server.modifyDb (·.modifyUser client.userUuid User.decrementConnection)
        else
          server.modifyDb (·.modifyUser client.userUuid User.decrementConnection)
            |>.broadcast (Frame.eventLoggedOut user)
    left.modifyClient fd (fun client => { client with userUuid := [] })
      |>.sendToClient Frame.ok fd

end Logout

/-! ### `use.cpp` -/

namespace Use

/-- `validateAndSetTeam`: the returned flag, the context and the server after the call. -/
def validateAndSetTeam (fd : Int) (client : Client) (ctx : Context) (server : Server) :
    Bool × Context × Server :=
  if client.args.length < 2 then (true, {}, server.sendToClient Frame.ok fd)
  else
    match server.db.findTeam (client.arg 1) with
    | none => (false, ctx, server.sendToClient (Frame.notFoundKind .team (client.arg 1)) fd)
    | some team =>
      if team.isUserSubscribed client.userUuid then
        (true, { teamUuid := client.arg 1 }, server.sendToClient Frame.ok fd)
      else (false, ctx, server.sendToClient Frame.forbidden fd)

/-- `validateAndSetChannel` -/
def validateAndSetChannel (fd : Int) (client : Client) (ctx : Context) (server : Server) :
    Bool × Context × Server :=
  if client.args.length < 3 then (true, ctx, server)
  else
    match server.db.findChannel ctx.teamUuid (client.arg 2) with
    | none => (false, ctx, server.sendToClient (Frame.notFoundKind .channel (client.arg 2)) fd)
    | some _ =>
      (true, { ctx with channelUuid := client.arg 2, threadUuid := [] },
        server.sendToClient Frame.ok fd)

/-- `validateAndSetThread` -/
def validateAndSetThread (fd : Int) (client : Client) (ctx : Context) (server : Server) :
    Bool × Context × Server :=
  if client.args.length < 4 then (true, ctx, server)
  else
    match server.db.findThread ctx.channelUuid (client.arg 3) with
    | none => (false, ctx, server.sendToClient (Frame.notFoundKind .thread (client.arg 3)) fd)
    | some _ => (true, { ctx with threadUuid := client.arg 3 }, server.sendToClient Frame.ok fd)

/-- `Use::execute`. The context of the client is set only when every level was found; the replies
to the levels before a failing one are already sent. -/
def execute (fd : Int) (client : Client) (server : Server) : Server :=
  if client.userUuid = [] then server.sendToClient Frame.unauthorized fd
  else if 4 < client.args.length then server.sendToClient Frame.badRequest fd
  else
    match validateAndSetTeam fd client {} server with
    | (false, _, server) => server
    | (true, ctx, server) =>
      match validateAndSetChannel fd client ctx server with
      | (false, _, server) => server
      | (true, ctx, server) =>
        match validateAndSetThread fd client ctx server with
        | (false, _, server) => server
        | (true, ctx, server) =>
          server.modifyClient fd fun client => { client with context := ctx }

end Use

end MyTeams
