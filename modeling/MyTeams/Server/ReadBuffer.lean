/-
**Commands and read buffers.**

The loop of `_parseCommands` walks over the read buffer of a client while the handlers run. No
command looks at a read buffer or writes to one, so a command does the same whatever the buffer holds
(`handleCommand_setReadBuffer`), and every client keeps its buffer (`readBuffer_handleCommand`).
-/

import MyTeams.Server.Observation

namespace MyTeams

/-! ### Replacing a read buffer -/

/-- The same client with another read buffer. -/
def Client.setReadBuffer (buffer : Bytes) (client : Client) : Client :=
  { client with readBuffer := buffer }

namespace Server

/-- The read buffer of a client is replaced. -/
def setReadBuffer (fd : Int) (buffer : Bytes) (server : Server) : Server :=
  server.modifyClient fd (Client.setReadBuffer buffer)

/-- `client.getReadBuffer()` -/
def readBuffer (fd : Int) (server : Server) : Bytes :=
  (server.observed Client.readBuffer fd).getD []

section Commute

variable {fd : Int} {buffer : Bytes} {server : Server}

@[simp] theorem setReadBuffer_db : (server.setReadBuffer fd buffer).db = server.db := rfl

@[simp] theorem setReadBuffer_nextUuid (env : Env) :
    (server.setReadBuffer fd buffer).nextUuid env = server.nextUuid env := rfl

@[simp] theorem setReadBuffer_nextTime (env : Env) :
    (server.setReadBuffer fd buffer).nextTime env = server.nextTime env := rfl

@[simp] theorem setReadBuffer_generateUuid :
    (server.setReadBuffer fd buffer).generateUuid = server.generateUuid.setReadBuffer fd buffer := rfl

@[simp] theorem setReadBuffer_readTime :
    (server.setReadBuffer fd buffer).readTime = server.readTime.setReadBuffer fd buffer := rfl

@[simp] theorem setReadBuffer_modifyDb (f : Database → Database) :
    (server.setReadBuffer fd buffer).modifyDb f = (server.modifyDb f).setReadBuffer fd buffer := rfl

/-- A write to the clients that neither reads a read buffer nor writes to one. -/
theorem setReadBuffer_mapWithKey {f : Int → Client → Client}
    (blind : ∀ other client, f other (client.setReadBuffer buffer)
      = (f other client).setReadBuffer buffer) :
    { server.setReadBuffer fd buffer with
        clients := (server.setReadBuffer fd buffer).clients.mapWithKey f }
      = ({ server with clients := server.clients.mapWithKey f } : Server).setReadBuffer fd buffer := by
  unfold setReadBuffer modifyClient SortedMap.modify SortedMap.mapWithKey
  simp only [List.map_map]
  congr 2
  refine List.map_congr_left fun entry _ => ?_
  simp only [Function.comp_apply]
  split_ifs
  · rw [blind]
  · rfl

theorem setReadBuffer_modifyClient {f : Client → Client}
    (blind : ∀ client, f (client.setReadBuffer buffer) = (f client).setReadBuffer buffer)
    (other : Int) :
    (server.setReadBuffer fd buffer).modifyClient other f
      = (server.modifyClient other f).setReadBuffer fd buffer := by
  refine setReadBuffer_mapWithKey fun key client => ?_
  split_ifs
  · exact blind client
  · rfl

@[simp] theorem setReadBuffer_setUserUuid (other : Int) (userUuid : Bytes) :
    (server.setReadBuffer fd buffer).modifyClient other
        (fun client => { client with userUuid := userUuid })
      = (server.modifyClient other
          fun client => { client with userUuid := userUuid }).setReadBuffer fd buffer := by
  refine setReadBuffer_modifyClient ?_ other
  exact fun _ => rfl

@[simp] theorem setReadBuffer_setContext (other : Int) (context : Context) :
    (server.setReadBuffer fd buffer).modifyClient other
        (fun client => { client with context := context })
      = (server.modifyClient other
          fun client => { client with context := context }).setReadBuffer fd buffer := by
  refine setReadBuffer_modifyClient ?_ other
  exact fun _ => rfl

@[simp] theorem setReadBuffer_deliver (letters : Letters) :
    (server.setReadBuffer fd buffer).deliver letters
      = (server.deliver letters).setReadBuffer fd buffer :=
  setReadBuffer_mapWithKey fun _ _ => rfl

@[simp] theorem setReadBuffer_sendToClient (frame : Frame) (other : Int) :
    (server.setReadBuffer fd buffer).sendToClient frame other
      = (server.sendToClient frame other).setReadBuffer fd buffer := by
  rw [sendToClient_eq, sendToClient_eq, setReadBuffer_deliver]

@[simp] theorem setReadBuffer_sendAllToClient (frames : List Frame) (other : Int) :
    (server.setReadBuffer fd buffer).sendAllToClient frames other
      = (server.sendAllToClient frames other).setReadBuffer fd buffer := by
  rw [sendAllToClient_eq, sendAllToClient_eq, setReadBuffer_deliver]

@[simp] theorem setReadBuffer_broadcast (frame : Frame) :
    (server.setReadBuffer fd buffer).broadcast frame
      = (server.broadcast frame).setReadBuffer fd buffer := by
  rw [broadcast_eq, broadcast_eq, setReadBuffer_deliver]

@[simp] theorem setReadBuffer_sendToUser (userUuid : Bytes) (frame : Frame) :
    (server.setReadBuffer fd buffer).sendToUser userUuid frame
      = (server.sendToUser userUuid frame).setReadBuffer fd buffer := by
  rw [sendToUser_eq, sendToUser_eq, setReadBuffer_deliver]

@[simp] theorem setReadBuffer_notifySubscribers (teamUuid : Bytes) (frame : Frame) :
    (server.setReadBuffer fd buffer).notifySubscribers teamUuid frame
      = (server.notifySubscribers teamUuid frame).setReadBuffer fd buffer := by
  by_cases named : teamUuid = []
  · subst named
    rfl
  · cases found : server.db.findTeam teamUuid with
    | none => simp [notifySubscribers, found]
    | some team =>
      rw [notifySubscribers_eq named frame found, ← setReadBuffer_deliver]
      exact notifySubscribers_eq named frame found

@[simp] theorem setReadBuffer_orSend {α : Type} (found : Except Frame α) (other : Int)
    (next : α → Server) :
    (server.setReadBuffer fd buffer).orSend found other
        (fun value => (next value).setReadBuffer fd buffer)
      = (server.orSend found other next).setReadBuffer fd buffer := by
  cases found with
  | error frame => exact setReadBuffer_sendToClient frame other
  | ok value => rfl

end Commute

end Server

/-! ### The commands -/

section Commands

variable {env : Env} {fd other : Int} {buffer : Bytes} {server : Server} {client : Client}

theorem login_setReadBuffer :
    Login.execute env other client (server.setReadBuffer fd buffer)
      = (Login.execute env other client server).setReadBuffer fd buffer := by
  unfold Login.execute Login.createNewUser Login.logUserIn
  cases found : server.db.findUserByName (client.arg 1) with
  | none => split_ifs <;> simp_all
  | some user => split_ifs <;> simp_all

theorem logout_setReadBuffer :
    Logout.execute other client (server.setReadBuffer fd buffer)
      = (Logout.execute other client server).setReadBuffer fd buffer := by
  unfold Logout.execute
  simp only [Server.setReadBuffer_db]
  split_ifs
  · simp
  · cases server.db.findUser client.userUuid with
    | none => simp
    | some user => by_cases stays : user.decrementConnection.isConnected <;> simp [stays]

/-- The levels of USE, one after the other. -/
theorem useTeam_setReadBuffer (context : Context) :
    Use.validateAndSetTeam other client context (server.setReadBuffer fd buffer)
      = Prod.map id (Prod.map id (Server.setReadBuffer fd buffer))
        (Use.validateAndSetTeam other client context server) := by
  unfold Use.validateAndSetTeam
  simp only [Server.setReadBuffer_db]
  split_ifs
  · simp
  · cases server.db.findTeam (client.arg 1) with
    | none => simp
    | some team => cases subscribed : team.isUserSubscribed client.userUuid <;> simp [subscribed]

theorem useChannel_setReadBuffer (context : Context) :
    Use.validateAndSetChannel other client context (server.setReadBuffer fd buffer)
      = Prod.map id (Prod.map id (Server.setReadBuffer fd buffer))
        (Use.validateAndSetChannel other client context server) := by
  unfold Use.validateAndSetChannel
  simp only [Server.setReadBuffer_db]
  cases server.db.findChannel context.teamUuid (client.arg 2) <;> split_ifs <;> simp

theorem useThread_setReadBuffer (context : Context) :
    Use.validateAndSetThread other client context (server.setReadBuffer fd buffer)
      = Prod.map id (Prod.map id (Server.setReadBuffer fd buffer))
        (Use.validateAndSetThread other client context server) := by
  unfold Use.validateAndSetThread
  simp only [Server.setReadBuffer_db]
  cases server.db.findThread context.channelUuid (client.arg 3) <;> split_ifs <;> simp

theorem use_setReadBuffer :
    Use.execute other client (server.setReadBuffer fd buffer)
      = (Use.execute other client server).setReadBuffer fd buffer := by
  unfold Use.execute
  simp only [useTeam_setReadBuffer]
  split_ifs
  · simp
  · simp
  · obtain ⟨teamFound, ctx, server⟩ := Use.validateAndSetTeam other client {} server
    cases teamFound with
    | false => rfl
    | true =>
      simp only [Prod.map, id, useChannel_setReadBuffer]
      obtain ⟨channelFound, ctx, server⟩ := Use.validateAndSetChannel other client ctx server
      cases channelFound with
      | false => rfl
      | true =>
        simp only [Prod.map, id, useThread_setReadBuffer]
        obtain ⟨threadFound, ctx, server⟩ := Use.validateAndSetThread other client ctx server
        cases threadFound with
        | false => rfl
        | true => simp

theorem create_setReadBuffer :
    Create.execute env other client (server.setReadBuffer fd buffer)
      = (Create.execute env other client server).setReadBuffer fd buffer := by
  unfold Create.execute
  split_ifs
  · simp
  · unfold Create.executeTeam Create.emitTeamCreated
    simp only [Server.setReadBuffer_db]
    split_ifs <;> simp
  · unfold Create.executeChannel Create.emitChannelCreated
    simp only [Server.setReadBuffer_db]
    rw [← Server.setReadBuffer_orSend]
    congr 1
    funext team
    split_ifs <;> simp
  · unfold Create.executeThread Create.emitThreadCreated
    simp only [Server.setReadBuffer_db]
    rw [← Server.setReadBuffer_orSend]
    congr 1
    funext team
    rw [← Server.setReadBuffer_orSend]
    congr 1
    funext channel
    split_ifs <;> simp
  · unfold Create.executeReply Create.emitReplyCreated
    simp only [Server.setReadBuffer_db]
    rw [← Server.setReadBuffer_orSend]
    congr 1
    funext team
    rw [← Server.setReadBuffer_orSend]
    congr 1
    funext channel
    rw [← Server.setReadBuffer_orSend]
    congr 1
    funext thread
    split_ifs <;> simp

theorem list_setReadBuffer :
    ListCommand.execute other client (server.setReadBuffer fd buffer)
      = (ListCommand.execute other client server).setReadBuffer fd buffer := by
  unfold ListCommand.execute ListCommand.executeReply ListCommand.executeThread
    ListCommand.executeChannel ListCommand.executeTeam
  simp only [Server.setReadBuffer_db]
  split_ifs
  · simp
  all_goals
    rw [← Server.setReadBuffer_orSend]
    congr 1
    funext _
  · split <;> simp
  · split <;> simp
  · split <;> simp
  · simp

theorem info_setReadBuffer :
    Info.execute other client (server.setReadBuffer fd buffer)
      = (Info.execute other client server).setReadBuffer fd buffer := by
  unfold Info.execute Info.executeThread Info.executeChannel Info.executeTeam Info.executeUser
  simp only [Server.setReadBuffer_db]
  split_ifs
  · simp
  all_goals
    rw [← Server.setReadBuffer_orSend]
    congr 1
    funext _
  · split <;> simp
  · split <;> simp
  · split <;> simp
  · split <;> simp

theorem subscribe_setReadBuffer :
    Subscribe.execute other client (server.setReadBuffer fd buffer)
      = (Subscribe.execute other client server).setReadBuffer fd buffer := by
  unfold Subscribe.execute
  simp only [Server.setReadBuffer_db]
  split_ifs
  · simp
  · simp
  · cases server.db.findTeam (client.arg 1) with
    | none => simp
    | some team =>
      simp only []
      split_ifs <;> simp

theorem unsubscribe_setReadBuffer :
    Unsubscribe.execute other client (server.setReadBuffer fd buffer)
      = (Unsubscribe.execute other client server).setReadBuffer fd buffer := by
  unfold Unsubscribe.execute
  simp only [Server.setReadBuffer_db]
  split_ifs
  · simp
  · simp
  · cases server.db.findTeam (client.arg 1) with
    | none => simp
    | some team =>
      simp only []
      split_ifs <;> simp

theorem subscribed_setReadBuffer :
    Subscribed.execute other client (server.setReadBuffer fd buffer)
      = (Subscribed.execute other client server).setReadBuffer fd buffer := by
  unfold Subscribed.execute Subscribed.listAllTeams Subscribed.listSubscribedUsers
  simp only [Server.setReadBuffer_db]
  cases server.db.findTeam (client.arg 1) <;> split_ifs <;> simp

theorem user_setReadBuffer :
    UserCommand.execute other client (server.setReadBuffer fd buffer)
      = (UserCommand.execute other client server).setReadBuffer fd buffer := by
  unfold UserCommand.execute
  simp only [Server.setReadBuffer_db]
  cases server.db.findUser (client.arg 1) <;> split_ifs <;> simp

theorem users_setReadBuffer :
    UsersCommand.execute other client (server.setReadBuffer fd buffer)
      = (UsersCommand.execute other client server).setReadBuffer fd buffer := by
  unfold UsersCommand.execute
  simp only [Server.setReadBuffer_db]
  split_ifs <;> simp

theorem send_setReadBuffer :
    Send.execute env other client (server.setReadBuffer fd buffer)
      = (Send.execute env other client server).setReadBuffer fd buffer := by
  unfold Send.execute
  simp only [Server.setReadBuffer_db]
  split_ifs
  · simp
  · simp
  · cases server.db.findUser client.userUuid with
    | none => simp
    | some sender => cases server.db.findUser (client.arg 1) <;> simp

theorem messages_setReadBuffer :
    Messages.execute other client (server.setReadBuffer fd buffer)
      = (Messages.execute other client server).setReadBuffer fd buffer := by
  unfold Messages.execute
  simp only [Server.setReadBuffer_db]
  split_ifs
  · simp
  · simp
  · simp
  · cases server.db.findUser client.userUuid with
    | none => simp
    | some sender =>
      cases server.db.findUser (client.arg 1) with
      | none => simp
      | some receiver =>
        simp only []
        split <;> simp

/-- **A command does the same whatever a read buffer holds.** -/
theorem command_setReadBuffer (verb : Verb) :
    verb.command env other client (server.setReadBuffer fd buffer)
      = (verb.command env other client server).setReadBuffer fd buffer := by
  cases verb with
  | create => exact create_setReadBuffer
  | list => exact list_setReadBuffer
  | use => exact use_setReadBuffer
  | info => exact info_setReadBuffer
  | subscribe => exact subscribe_setReadBuffer
  | unsubscribe => exact unsubscribe_setReadBuffer
  | subscribed => exact subscribed_setReadBuffer
  | login => exact login_setReadBuffer
  | logout => exact logout_setReadBuffer
  | send => exact send_setReadBuffer
  | messages => exact messages_setReadBuffer
  | user => exact user_setReadBuffer
  | users => exact users_setReadBuffer

/-- **A line does the same whatever a read buffer holds.** -/
theorem handleCommand_setReadBuffer (env : Env) (rawCommand : Bytes) (other : Int) :
    CommandHandling.handleCommand env rawCommand other (server.setReadBuffer fd buffer)
      = (CommandHandling.handleCommand env rawCommand other server).setReadBuffer fd buffer := by
  have buffered : (server.setReadBuffer fd buffer).clients.find? other = (server.clients.find? other).map
      fun client => if other = fd then client.setReadBuffer buffer else client :=
    SortedMap.find?_mapWithKey _ _ _
  have args : ∀ args, (server.setReadBuffer fd buffer).modifyClient other (Client.setArgs args)
      = (server.modifyClient other (Client.setArgs args)).setReadBuffer fd buffer := by
    intro args
    refine Server.setReadBuffer_modifyClient ?_ other
    exact fun _ => rfl
  cases found : server.clients.find? other with
  | none =>
    rw [found] at buffered
    rw [handleCommand_of_none env rawCommand found, handleCommand_of_none env rawCommand buffered]
  | some client =>
    rw [found, Option.map_some] at buffered
    unfold CommandHandling.handleCommand
    rw [buffered, found]
    cases CommandHandling.parseArgs rawCommand with
    | nil => rfl
    | cons name rest =>
      simp only []
      cases CommandHandling.verbs.lookup name with
      | none => exact args (name :: rest)
      | some verb =>
        have same : verb.command env other
            ((if other = fd then client.setReadBuffer buffer else client).setArgs (name :: rest))
            ((server.setReadBuffer fd buffer).modifyClient other (Client.setArgs (name :: rest)))
          = verb.command env other (client.setArgs (name :: rest))
            ((server.setReadBuffer fd buffer).modifyClient other (Client.setArgs (name :: rest))) := by
          split_ifs
          · cases verb <;> rfl
          · rfl
        exact same.trans (by rw [args, command_setReadBuffer]; rfl)

theorem untouched_readBuffer : Untouched Client.readBuffer :=
  ⟨fun _ _ => rfl, fun _ _ _ => rfl, fun _ _ => rfl⟩

/-- **A line leaves the read buffers as they are.** -/
theorem readBuffer_handleCommand (env : Env) (rawCommand : Bytes) (other : Int) :
    (CommandHandling.handleCommand env rawCommand other server).observed Client.readBuffer fd
      = server.observed Client.readBuffer fd :=
  observed_handleCommand untouched_readBuffer rawCommand other fd

end Commands

end MyTeams
