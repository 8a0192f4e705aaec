/-
**CREATE, LIST and INFO.**

The three commands that follow the context of the requester: a team, a channel of it, a thread of
the channel.
-/

import MyTeams.Server.State

namespace MyTeams

/-- A lookup that either yields a value or answers the requester and ends the command. -/
def Server.orSend {α : Type} (found : Except Frame α) (fd : Int) (server : Server)
    (next : α → Server) : Server :=
  match found with
  | .error frame => server.sendToClient frame fd
  | .ok value => next value

/-! ### `create.cpp` -/

namespace Create

/-- `MAX_NAME_LENGTH` -/
def maxNameLength : Nat := 32

/-- `MAX_DESCRIPTION_LENGTH` -/
def maxDescriptionLength : Nat := 255

/-- `MAX_BODY_LENGTH` -/
def maxBodyLength : Nat := 512

/-- `isInvalidLength` -/
def isInvalidLength (value : Bytes) (maxLength : Nat) : Bool :=
  value.isEmpty || maxLength < value.length

theorem isInvalidLength_eq_false_iff {value : Bytes} {maxLength : Nat} :
    isInvalidLength value maxLength = false ↔ value ≠ [] ∧ value.length ≤ maxLength := by
  unfold isInvalidLength
  rw [Bool.or_eq_false_iff, List.isEmpty_eq_false_iff, decide_eq_false_iff_not, not_lt]

/-- `findAccessibleTeam`: the team, or the answer that is sent instead. -/
def findAccessibleTeam (client : Client) (db : Database) (teamUuid : Bytes) : Except Frame Team :=
  match db.findTeam teamUuid with
  | none => .error (Frame.notFoundUuid teamUuid)
  | some team =>
    if team.isUserSubscribed client.userUuid then .ok team else .error Frame.forbidden

/-- `findChannelOrSend404` -/
def findChannelOrSend404 (db : Database) (teamUuid channelUuid : Bytes) : Except Frame Channel :=
  match db.findChannel teamUuid channelUuid with
  | none => .error (Frame.notFoundUuid channelUuid)
  | some channel => .ok channel

/-- `findThreadOrSend404` -/
def findThreadOrSend404 (db : Database) (channelUuid threadUuid : Bytes) : Except Frame Thread :=
  match db.findThread channelUuid threadUuid with
  | none => .error (Frame.notFoundUuid threadUuid)
  | some thread => .ok thread

/-- `emitTeamCreated` -/
def emitTeamCreated (fd : Int) (team : Team) (server : Server) : Server :=
  server.sendToClient (Frame.createdTeam team) fd |>.broadcast (Frame.eventTeamCreated team)

/-- `emitChannelCreated` -/
def emitChannelCreated (fd : Int) (teamUuid : Bytes) (channel : Channel) (server : Server) : Server :=
  server.sendToClient (Frame.createdChannel channel) fd
    |>.notifySubscribers teamUuid (Frame.eventChannelCreated channel)

/-- `emitThreadCreated` -/
def emitThreadCreated (fd : Int) (teamUuid : Bytes) (thread : Thread) (server : Server) : Server :=
  server.sendToClient (Frame.createdThread thread) fd
    |>.notifySubscribers teamUuid (Frame.eventThreadCreated thread)

/-- `emitReplyCreated` -/
def emitReplyCreated (fd : Int) (teamUuid threadUuid : Bytes) (reply : Reply) (server : Server) :
    Server :=
  server.sendToClient (Frame.createdReply threadUuid reply) fd
    |>.notifySubscribers teamUuid (Frame.eventReplyCreated teamUuid threadUuid reply)

/-- `Create::executeTeam` -/
def executeTeam (env : Env) (fd : Int) (client : Client) (server : Server) : Server :=
  if client.args.length < 3 then server.sendToClient Frame.badRequest fd
  else if isInvalidLength (client.arg 1) maxNameLength
      || isInvalidLength (client.arg 2) maxDescriptionLength then
    server.sendToClient Frame.badRequest fd
  else if server.db.teams.any (·.name = client.arg 1) then
    server.sendToClient Frame.alreadyExists fd
  else
    let newTeam : Team :=
      { uuid := server.nextUuid env, name := client.arg 1, description := client.arg 2 }
    let newTeam :=
      if client.userUuid = [] then newTeam else (newTeam.addSubscriber client.userUuid).2
    server.generateUuid
      |>.modifyDb (fun db => { db with teams := db.teams ++ [newTeam] })
      |> emitTeamCreated fd newTeam

/-- `Create::executeChannel` -/
def executeChannel (env : Env) (fd : Int) (client : Client) (server : Server) : Server :=
  server.orSend (findAccessibleTeam client server.db client.context.teamUuid) fd fun team =>
    if client.args.length < 3 then server.sendToClient Frame.badRequest fd
    else if isInvalidLength (client.arg 1) maxNameLength
        || isInvalidLength (client.arg 2) maxDescriptionLength then
      server.sendToClient Frame.badRequest fd
    else if team.channels.any (·.name = client.arg 1) then
      server.sendToClient Frame.alreadyExists fd
    else
      let channel : Channel :=
        { uuid := server.nextUuid env, name := client.arg 1, description := client.arg 2 }
      server.generateUuid
        |>.modifyDb (·.modifyTeam client.context.teamUuid fun team =>
          { team with channels := team.channels ++ [channel] })
        |> emitChannelCreated fd client.context.teamUuid channel

/-- `Create::executeThread` -/
def executeThread (env : Env) (fd : Int) (client : Client) (server : Server) : Server :=
  server.orSend (findAccessibleTeam client server.db client.context.teamUuid) fd fun _ =>
  server.orSend (findChannelOrSend404 server.db client.context.teamUuid client.context.channelUuid)
    fd fun channel =>
    if client.args.length < 3 then server.sendToClient Frame.badRequest fd
    else if isInvalidLength (client.arg 1) maxNameLength
        || isInvalidLength (client.arg 2) maxBodyLength then
      server.sendToClient Frame.badRequest fd
    else if channel.threads.any (·.title = client.arg 1) then
      server.sendToClient Frame.alreadyExists fd
    else
      let newThread : Thread :=
        { uuid := server.nextUuid env, userUuid := client.userUuid, title := client.arg 1,
          body := client.arg 2, timestamp := server.nextTime env }
      server.generateUuid.readTime
        |>.modifyDb (·.modifyChannel client.context.teamUuid client.context.channelUuid
          fun channel => { channel with threads := channel.threads ++ [newThread] })
        |> emitThreadCreated fd client.context.teamUuid newThread

/-- `Create::executeReply` -/
def executeReply (env : Env) (fd : Int) (client : Client) (server : Server) : Server :=
  server.orSend (findAccessibleTeam client server.db client.context.teamUuid) fd fun _ =>
  server.orSend (findChannelOrSend404 server.db client.context.teamUuid client.context.channelUuid)
    fd fun _ =>
  server.orSend (findThreadOrSend404 server.db client.context.channelUuid client.context.threadUuid)
    fd fun _ =>
    if client.args.length < 2 then server.sendToClient Frame.badRequest fd
    else if isInvalidLength (client.arg 1) maxBodyLength then
      server.sendToClient Frame.badRequest fd
    else
      let newReply : Reply :=
        { uuid := server.nextUuid env, userUuid := client.userUuid, body := client.arg 1,
          timestamp := server.nextTime env }
      server.generateUuid.readTime
        |>.modifyDb (·.modifyThread client.context.channelUuid client.context.threadUuid
          fun thread => { thread with replies := thread.replies ++ [newReply] })
        |> emitReplyCreated fd client.context.teamUuid client.context.threadUuid newReply

/-- `Create::execute` -/
def execute (env : Env) (fd : Int) (client : Client) (server : Server) : Server :=
  if client.userUuid = [] then server.sendToClient Frame.unauthorized fd
  else if client.context.teamUuid = [] then executeTeam env fd client server
  else if client.context.channelUuid = [] then executeChannel env fd client server
  else if client.context.threadUuid = [] then executeThread env fd client server
  else executeReply env fd client server

end Create

/-! ### `list.cpp` -/

namespace ListCommand

/-- `List::executeReply` -/
def executeReply (fd : Int) (client : Client) (server : Server) : Server :=
  match server.db.findThread client.context.channelUuid client.context.threadUuid with
  | none =>
    server.sendToClient (Frame.notFoundKind .thread client.context.threadUuid) fd
  | some thread =>
    server.sendAllToClient
      (Frame.listing .replies (thread.replies.map (Frame.replyFields thread.uuid))) fd

/-- `List::executeThread` -/
def executeThread (fd : Int) (client : Client) (server : Server) : Server :=
  match server.db.findChannel client.context.teamUuid client.context.channelUuid with
  | none =>
    server.sendToClient (Frame.notFoundKind .channel client.context.channelUuid) fd
  | some channel =>
    server.sendAllToClient (Frame.listing .threads (channel.threads.map Frame.threadFields)) fd

/-- `List::executeChannel` -/
def executeChannel (fd : Int) (client : Client) (server : Server) : Server :=
  match server.db.findTeam client.context.teamUuid with
  | none => server.sendToClient (Frame.notFoundKind .team client.context.teamUuid) fd
  | some team =>
    server.sendAllToClient
      (Frame.listing .channels (team.channels.map fun channel =>
        Frame.namedFields channel.uuid channel.name channel.description)) fd

/-- `List::executeTeam` -/
def executeTeam (fd : Int) (server : Server) : Server :=
  server.sendAllToClient
    (Frame.listing .teams (server.db.teams.map fun team =>
      Frame.namedFields team.uuid team.name team.description)) fd

/-- The check in front of `List::execute` and `Info::execute`: with a team in the context, the
requester must be one of its subscribers. -/
def checkTeam (client : Client) (db : Database) : Except Frame Unit :=
  if client.context.teamUuid = [] then .ok ()
  else
    match db.findTeam client.context.teamUuid with
    | none => .error (Frame.notFoundKind .team client.context.teamUuid)
    | some team =>
      if team.isUserSubscribed client.userUuid then .ok () else .error Frame.forbidden

/-- `List::execute` -/
def execute (fd : Int) (client : Client) (server : Server) : Server :=
  if client.userUuid = [] then server.sendToClient Frame.unauthorized fd
  else
    server.orSend (checkTeam client server.db) fd fun _ =>
      if client.context.channelUuid ≠ [] ∧ client.context.threadUuid ≠ []
          ∧ client.context.teamUuid ≠ [] then executeReply fd client server
      else if client.context.channelUuid ≠ [] ∧ client.context.teamUuid ≠ [] then
        executeThread fd client server
      else if client.context.teamUuid ≠ [] then executeChannel fd client server
      else executeTeam fd server

end ListCommand

/-! ### `info.cpp` -/

namespace Info

/-- `Info::executeTeam` -/
def executeTeam (fd : Int) (client : Client) (server : Server) : Server :=
  match server.db.findTeam client.context.teamUuid with
  | none => server.sendToClient (Frame.notFoundKind .team client.context.teamUuid) fd
  | some team => server.sendToClient (Frame.infoTeam team) fd

/-- `Info::executeChannel` -/
def executeChannel (fd : Int) (client : Client) (server : Server) : Server :=
  match server.db.findChannel client.context.teamUuid client.context.channelUuid with
  | none => server.sendToClient (Frame.notFoundKind .channel client.context.channelUuid) fd
  | some channel => server.sendToClient (Frame.infoChannel channel) fd

/-- `Info::executeThread` -/
def executeThread (fd : Int) (client : Client) (server : Server) : Server :=
  match server.db.findThread client.context.channelUuid client.context.threadUuid with
  | none => server.sendToClient (Frame.notFoundKind .thread client.context.threadUuid) fd
  | some thread => server.sendToClient (Frame.infoThread thread) fd

/-- `Info::executeUser` -/
def executeUser (fd : Int) (client : Client) (server : Server) : Server :=
  if client.userUuid = [] then server.sendToClient Frame.unauthorized fd
  else
    match server.db.findUser client.userUuid with
    | none => server.sendToClient (Frame.notFoundKind .user client.userUuid) fd
    | some user => server.sendToClient (Frame.infoUser user) fd

/-- `Info::execute`: the levels are tried from the thread up. -/
def execute (fd : Int) (client : Client) (server : Server) : Server :=
  if client.userUuid = [] then server.sendToClient Frame.unauthorized fd
  else
    server.orSend (ListCommand.checkTeam client server.db) fd fun _ =>
      if client.context.threadUuid ≠ [] then executeThread fd client server
      else if client.context.channelUuid ≠ [] then executeChannel fd client server
      else if client.context.teamUuid ≠ [] then executeTeam fd client server
      else executeUser fd client server

end Info

end MyTeams
