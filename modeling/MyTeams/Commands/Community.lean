/-
**Subscriptions, users and private messages.**
-/

import MyTeams.Server.State

namespace MyTeams

/-! ### `subscribe.cpp`, `unsubscribe.cpp`, `subscribed.cpp` -/

/-- `Subscribe::execute` -/
def Subscribe.execute (fd : Int) (client : Client) (server : Server) : Server :=
  if client.userUuid = [] then server.sendToClient Frame.unauthorized fd
  else if client.args.length < 2 ∨ client.arg 1 = [] then server.sendToClient Frame.badRequest fd
  else
    match server.db.findTeam (client.arg 1) with
    | none => server.sendToClient (Frame.notFoundKind .team (client.arg 1)) fd
    | some team =>
      if team.isUserSubscribed client.userUuid then
        server.sendToClient (Frame.okSubscribe client.userUuid (client.arg 1)) fd
      else if (team.addSubscriber client.userUuid).1 = false then
        server.sendToClient Frame.badRequest fd
      else
        server.modifyDb (·.modifyTeam (client.arg 1) fun team =>
            (team.addSubscriber client.userUuid).2)
          |>.notifySubscribers (client.arg 1) (Frame.userSubscribed (client.arg 1) client.userUuid)
          |>.sendToClient (Frame.okSubscribe client.userUuid (client.arg 1)) fd

/-- `Unsubscribe::execute` -/
def Unsubscribe.execute (fd : Int) (client : Client) (server : Server) : Server :=
  if client.userUuid = [] then server.sendToClient Frame.unauthorized fd
  else if client.args.length < 2 ∨ client.arg 1 = [] then server.sendToClient Frame.badRequest fd
  else
    match server.db.findTeam (client.arg 1) with
    | none => server.sendToClient (Frame.notFoundKind .team (client.arg 1)) fd
    | some team =>
      if team.isUserSubscribed client.userUuid = false then server.sendToClient Frame.forbidden fd
      else if (team.removeSubscriber client.userUuid).1 = false then
        server.sendToClient Frame.badRequest fd
      else
        server.modifyDb (·.modifyTeam (client.arg 1) fun team =>
            (team.removeSubscriber client.userUuid).2)
          |>.notifySubscribers (client.arg 1)
            (Frame.userUnsubscribed (client.arg 1) client.userUuid)
          |>.sendToClient (Frame.okUnsubscribe client.userUuid (client.arg 1)) fd

namespace Subscribed

/-- `listAllTeams` -/
def listAllTeams (fd : Int) (client : Client) (server : Server) : Server :=
  server.sendAllToClient
    (Frame.listing .teams ((server.db.teams.filter (·.isUserSubscribed client.userUuid)).map
      fun team => Frame.namedFields team.uuid team.name team.description)) fd

/-- `listSubscribedUsers`: a subscriber who is not in the database is skipped. -/
def listSubscribedUsers (fd : Int) (teamUuid : Bytes) (server : Server) : Server :=
  match server.db.findTeam teamUuid with
  | none => server.sendToClient (Frame.notFoundKind .team teamUuid) fd
  | some team =>
    server.sendAllToClient
      (Frame.listing .users ((team.subscriberUuids.filterMap server.db.findUser).map
        Frame.userFields)) fd

/-- `Subscribed::execute` -/
def execute (fd : Int) (client : Client) (server : Server) : Server :=
  if client.userUuid = [] then server.sendToClient Frame.unauthorized fd
  else if client.args.length < 2 then listAllTeams fd client server
  else if client.args.length = 2 then
    if client.arg 1 = [] then server.sendToClient Frame.badRequest fd
    else listSubscribedUsers fd (client.arg 1) server
  else server.sendToClient Frame.badRequest fd

end Subscribed

/-! ### `user.cpp`, `users.cpp` -/

/-- `UserCommand::execute` -/
def UserCommand.execute (fd : Int) (client : Client) (server : Server) : Server :=
  if client.userUuid = [] then server.sendToClient Frame.unauthorized fd
  else if client.args.length < 2 then server.sendToClient Frame.badRequest fd
  else
    match server.db.findUser (client.arg 1) with
    | none => server.sendToClient (Frame.notFoundUuid (client.arg 1)) fd
    | some user => server.sendToClient (Frame.okUser user) fd

/-- `UsersCommand::execute` -/
def UsersCommand.execute (fd : Int) (client : Client) (server : Server) : Server :=
  if client.userUuid = [] then server.sendToClient Frame.unauthorized fd
  else server.sendAllToClient (Frame.listing .users (server.db.users.map Frame.userFields)) fd

/-! ### `send.cpp`, `messages.cpp` -/

namespace Send

/-- `MAX_BODY_LENGTH` -/
def maxBodyLength : Nat := 512

/-- `Send::execute`. The arguments are checked before the session. -/
def execute (env : Env) (fd : Int) (client : Client) (server : Server) : Server :=
  if client.args.length < 3 then server.sendToClient Frame.badRequest fd
  else if client.arg 1 = [] ∨ client.arg 2 = [] ∨ maxBodyLength < (client.arg 2).length then
    server.sendToClient Frame.badRequest fd
  else
    match server.db.findUser client.userUuid with
    | none => server.sendToClient Frame.unauthorized fd
    | some senderUser =>
      match server.db.findUser (client.arg 1) with
      | none => server.sendToClient (Frame.notFoundKind .user (client.arg 1)) fd
      | some receiverUser =>
        let message : Message :=
          { senderUuid := senderUser.uuid, receiverUuid := receiverUser.uuid,
            timestamp := server.nextTime env, body := client.arg 2 }
        server.readTime
          |>.modifyDb (·.modifyUser client.userUuid (User.addMessage receiverUser.uuid message))
          |>.modifyDb (·.modifyUser (client.arg 1) (User.addMessage senderUser.uuid message))
          |>.sendToUser receiverUser.uuid (Frame.eventPrivateMessage senderUser.uuid (client.arg 2))
          |>.sendToClient Frame.ok fd

end Send

namespace Messages

/-- The fields of `sendMessageLine`. -/
def messageFields (message : Message) : List Field :=
  [.quoted message.senderUuid, .number message.timestamp, .quoted message.body]

/-- `Messages::execute` -/
def execute (fd : Int) (client : Client) (server : Server) : Server :=
  if client.userUuid = [] then server.sendToClient Frame.unauthorized fd
  else if client.args.length < 2 then server.sendToClient Frame.badRequest fd
  else if client.arg 1 = [] then server.sendToClient Frame.badRequest fd
  else
    match server.db.findUser client.userUuid with
    | none => server.sendToClient Frame.unauthorized fd
    | some senderUser =>
      match server.db.findUser (client.arg 1) with
      | none => server.sendToClient (Frame.notFoundKind .user (client.arg 1)) fd
      | some _ =>
        match senderUser.messages.find? (client.arg 1) with
        | none => server.sendAllToClient (Frame.listing .messages []) fd
        | some messages =>
          server.sendAllToClient (Frame.listing .messages (messages.map messageFields)) fd

end Messages

end MyTeams
