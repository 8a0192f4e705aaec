/-
**What LIST and USERS answer.**

A logged-in client asks, and the answer is read off the database.

* `reply_users`, `reply_teams` — the users, and the teams where no team is in the context;
* `reply_list` — LIST in any context answers one line that refuses, or the list of the selected level
  (`Database.Lists`).
-/

import MyTeams.Server.Session

namespace MyTeams

/-- A logged-in client gives a command. -/
structure Server.Asks (server : Server) (fd : Int) (verb : Verb) (rawCommand : Bytes) : Prop where
  session : ∃ uuid, uuid ≠ [] ∧ server.IsSessionOf fd uuid
  named : (CommandHandling.parseArgs rawCommand).head? = some verb.text

/-- What the server answers to a line. -/
def Server.reply (env : Env) (fd : Int) (rawCommand : Bytes) (server : Server) : List Frame :=
  server.newFrames fd (server.step env (.line fd rawCommand))

/-- The list that LIST shows in a context. -/
inductive Database.Lists (db : Database) (context : Context) : Keyword → List (List Field) → Prop
  | teams : context.teamUuid = [] →
      db.Lists context .teams (db.teams.map fun team =>
        Frame.namedFields team.uuid team.name team.description)
  | channels {team : Team} : context.teamUuid ≠ [] → context.channelUuid = [] →
      db.findTeam context.teamUuid = some team →
      db.Lists context .channels (team.channels.map fun channel =>
        Frame.namedFields channel.uuid channel.name channel.description)
  | threads {channel : Channel} : context.teamUuid ≠ [] → context.channelUuid ≠ [] →
      context.threadUuid = [] → db.findChannel context.teamUuid context.channelUuid = some channel →
      db.Lists context .threads (channel.threads.map Frame.threadFields)
  | replies {thread : Thread} : context.teamUuid ≠ [] → context.channelUuid ≠ [] →
      context.threadUuid ≠ [] → db.findThread context.channelUuid context.threadUuid = some thread →
      db.Lists context .replies (thread.replies.map (Frame.replyFields thread.uuid))

/-- A list determines its type and its lines. -/
theorem Frame.listing_inj {type other : Keyword} {items others : List (List Field)}
    (same : Frame.listing type items = Frame.listing other others) : type = other ∧ items = others := by
  obtain ⟨first, rest⟩ := List.cons.inj same
  have words : [Keyword.code210Begin, type] = [.code210Begin, other] := congrArg Frame.keywords first
  refine ⟨(List.cons.inj (List.cons.inj words).2).1, ?_⟩
  have lines := (List.append_inj' rest rfl).1
  exact List.map_injective_iff.mpr (fun one two equal => congrArg Frame.fields equal) lines

/-- One line is no list. -/
theorem Frame.listing_ne_singleton {type : Keyword} {items : List (List Field)} {frame : Frame} :
    Frame.listing type items ≠ [frame] := by
  intro same
  have lengths := congrArg List.length same
  simp [Frame.listing] at lengths

section Replies

variable {env : Env} {server : Server} {fd : Int} {rawCommand : Bytes}

/-- The line of a client that asks runs its command. -/
theorem Server.Asks.handled {verb : Verb} (asks : server.Asks fd verb rawCommand) :
    ∃ client, server.clients.find? fd = some client ∧
      (client.setArgs (CommandHandling.parseArgs rawCommand)).userUuid ≠ [] ∧
      server.step env (.line fd rawCommand) = verb.command env fd
        (client.setArgs (CommandHandling.parseArgs rawCommand))
        (server.modifyClient fd (Client.setArgs (CommandHandling.parseArgs rawCommand))) := by
  obtain ⟨uuid, nonempty, session⟩ := asks.session
  obtain ⟨client, found, rfl⟩ := session.exists_client
  exact ⟨client, found, nonempty, handleCommand_of_named env found asks.named⟩

theorem reply_users (asks : server.Asks fd .users rawCommand) :
    server.reply env fd rawCommand = Frame.listing .users (server.db.users.map Frame.userFields) := by
  obtain ⟨client, found, loggedIn, handled⟩ := @asks.handled env
  rw [Server.reply, handled]
  show server.newFrames fd (UsersCommand.execute fd _ _) = _
  rw [UsersCommand.execute, if_neg loggedIn]
  exact newFrames_answered _ _ found

theorem reply_teams (asks : server.Asks fd .list rawCommand)
    (outside : (server.session fd).map (·.context.teamUuid) = some []) :
    server.reply env fd rawCommand = Frame.listing .teams (server.db.teams.map fun team =>
      Frame.namedFields team.uuid team.name team.description) := by
  obtain ⟨client, found, loggedIn, handled⟩ := @asks.handled env
  have context : (client.setArgs (CommandHandling.parseArgs rawCommand)).context.teamUuid = [] := by
    rw [session_of_found found] at outside
    exact Option.some.inj outside
  rw [Server.reply, handled]
  show server.newFrames fd (ListCommand.execute fd _ _) = _
  rw [ListCommand.execute, if_neg loggedIn, ListCommand.checkTeam, if_pos context]
  simp only [Server.orSend, context, ne_eq, not_true_eq_false, and_false, if_false]
  exact newFrames_answered _ _ found

/-- **LIST answers one line that refuses, or the list of the selected level.** -/
theorem reply_list (asks : server.Asks fd .list rawCommand) {context : Context}
    (selected : (server.session fd).map Session.context = some context) :
    (∃ frame, server.reply env fd rawCommand = [frame]) ∨
      ∃ type items, server.reply env fd rawCommand = Frame.listing type items ∧
        server.db.Lists context type items := by
  obtain ⟨client, found, loggedIn, handled⟩ := @asks.handled env
  have level : client.context = context := by
    rw [session_of_found found] at selected
    exact Option.some.inj selected
  subst level
  have refuses : ∀ frame, server.newFrames fd ((server.modifyClient fd
      (Client.setArgs (CommandHandling.parseArgs rawCommand))).sendToClient frame fd) = [frame] :=
    fun frame => newFrames_answered _ [frame] found
  rw [Server.reply, handled]
  show (∃ frame, server.newFrames fd (ListCommand.execute fd _ _) = [frame]) ∨
    ∃ type items, server.newFrames fd (ListCommand.execute fd _ _) = Frame.listing type items ∧ _
  rw [ListCommand.execute, if_neg loggedIn]
  cases ListCommand.checkTeam (client.setArgs (CommandHandling.parseArgs rawCommand))
    (server.modifyClient fd (Client.setArgs (CommandHandling.parseArgs rawCommand))).db with
  | error frame => exact Or.inl ⟨frame, refuses frame⟩
  | ok =>
    simp only [Server.orSend]
    split_ifs with thread channel team
    · unfold ListCommand.executeReply
      split
      · exact Or.inl ⟨_, refuses _⟩
      · rename_i found'
        exact Or.inr ⟨_, _, newFrames_answered _ _ found, .replies thread.2.2 thread.1 thread.2.1 found'⟩
    · unfold ListCommand.executeThread
      split
      · exact Or.inl ⟨_, refuses _⟩
      · rename_i found'
        have top : client.context.threadUuid = [] := by
          by_contra deep
          exact thread ⟨channel.1, deep, channel.2⟩
        exact Or.inr ⟨_, _, newFrames_answered _ _ found, .threads channel.2 channel.1 top found'⟩
    · unfold ListCommand.executeChannel
      split
      · exact Or.inl ⟨_, refuses _⟩
      · rename_i found'
        have top : client.context.channelUuid = [] := by
          by_contra deep
          exact channel ⟨deep, team⟩
        exact Or.inr ⟨_, _, newFrames_answered _ _ found, .channels team top found'⟩
    · exact Or.inr ⟨_, _, newFrames_answered _ _ found, .teams (not_not.mp team)⟩

/-- A list that LIST has answered is the one of the selected level. -/
theorem lists_of_reply (asks : server.Asks fd .list rawCommand) {context : Context}
    (selected : (server.session fd).map Session.context = some context) {type : Keyword}
    {items : List (List Field)} (answer : server.reply env fd rawCommand = Frame.listing type items) :
    server.db.Lists context type items := by
  rcases @reply_list env server fd rawCommand asks context selected with
    ⟨frame, refused⟩ | ⟨other, others, listed, lists⟩
  · exact absurd (answer.symm.trans refused) Frame.listing_ne_singleton
  · obtain ⟨rfl, rfl⟩ := Frame.listing_inj (answer.symm.trans listed)
    exact lists

end Replies

end MyTeams
