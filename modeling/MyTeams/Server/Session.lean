/-
**The session of one connection.**

What the protocol calls the state of a client is its user and its context. `SessionStep` is the state
machine of one connection: a session opens without a user, LOGIN sets the user, LOGOUT clears it, USE
sets the context, and nothing else changes either (`step_session`). In particular no step of another
client does.
-/

import MyTeams.Server.Machine

namespace MyTeams

/-- The user and the context of a client. -/
structure Session where
  userUuid : Bytes := []
  context : Context := {}
deriving DecidableEq

def Client.session (client : Client) : Session := ⟨client.userUuid, client.context⟩

/-- The session behind a descriptor. -/
def Server.session (fd : Int) (server : Server) : Option Session :=
  (server.clients.find? fd).map Client.session

/-- The connection behind `fd` belongs to the user `uuid`. -/
def Server.IsSessionOf (server : Server) (fd : Int) (uuid : Bytes) : Prop :=
  (server.session fd).map Session.userUuid = some uuid

instance (server : Server) (fd : Int) (uuid : Bytes) : Decidable (server.IsSessionOf fd uuid) := by
  unfold Server.IsSessionOf
  infer_instance

theorem Server.IsSessionOf.exists_client {server : Server} {fd : Int} {uuid : Bytes}
    (session : server.IsSessionOf fd uuid) :
    ∃ client, server.clients.find? fd = some client ∧ client.userUuid = uuid := by
  obtain ⟨found, shown, same⟩ := Option.map_eq_some_iff.mp session
  obtain ⟨client, present, rfl⟩ := Option.map_eq_some_iff.mp shown
  exact ⟨client, present, same⟩

/-- A context that USE sets: each level was found. -/
inductive Context.Found (db : Database) : Context → Prop
  | nothing : Found db {}
  | team {teamUuid : Bytes} {team : Team} : db.findTeam teamUuid = some team →
      Found db { teamUuid := teamUuid }
  | channel {teamUuid channelUuid : Bytes} {channel : Channel} :
      db.findChannel teamUuid channelUuid = some channel →
      Found db { teamUuid := teamUuid, channelUuid := channelUuid }
  | thread {teamUuid channelUuid threadUuid : Bytes} {channel : Channel} {thread : Thread} :
      db.findChannel teamUuid channelUuid = some channel →
      db.findThread channelUuid threadUuid = some thread →
      Found db { teamUuid := teamUuid, channelUuid := channelUuid, threadUuid := threadUuid }

/-- A line of a command. -/
def Event.IsCommand (event : Event) (fd : Int) (verb : Verb) : Prop :=
  ∃ rawCommand, event = .line fd rawCommand ∧
    (CommandHandling.parseArgs rawCommand).head? = some verb.text

/-- **What a step does to the session behind a descriptor.** -/
inductive SessionStep (db : Database) (fd : Int) (event : Event) :
    Option Session → Option Session → Prop
  | kept (session : Option Session) : SessionStep db fd event session session
  | opened : event = .accept fd → SessionStep db fd event none (some {})
  | closed (session : Option Session) : event = .disconnect fd ∨ event = .restart →
      SessionStep db fd event session none
  | login {context : Context} (userUuid : Bytes) : event.IsCommand fd .login →
      SessionStep db fd event (some ⟨[], context⟩) (some ⟨userUuid, context⟩)
  | logout {userUuid : Bytes} {context : Context} : event.IsCommand fd .logout → userUuid ≠ [] →
      SessionStep db fd event (some ⟨userUuid, context⟩) (some ⟨[], context⟩)
  | use {userUuid : Bytes} {old new : Context} : event.IsCommand fd .use → userUuid ≠ [] →
      new.Found db →
      SessionStep db fd event (some ⟨userUuid, old⟩) (some ⟨userUuid, new⟩)

section Steps

variable {env : Env} {fd : Int} {client : Client} {server after : Server} {verb : Verb}
  {outcome : Outcome}

theorem session_of_found (found : server.clients.find? fd = some client) :
    server.session fd = some client.session := by
  rw [Server.session, found]
  rfl

theorem session_modifyClients {f : Int → Client → Client} (quiet : ∀ fd, Quiet (f fd))
    (other : Int) : (server.modifyClients f).session other = server.session other := by
  rw [Server.session, Server.modifyClients, SortedMap.find?_mapWithKey, Option.map_map]
  congr 1
  funext client
  rw [Function.comp_apply, Client.session, (quiet other).userUuid, (quiet other).context,
    Client.session]

theorem session_modifyClient {f : Client → Client} (quiet : Quiet f) (fd other : Int) :
    (server.modifyClient fd f).session other = server.session other :=
  session_modifyClients (quiet_at quiet fd) other

theorem session_deliver (letters : Letters) (server : Server) (other : Int) :
    (server.deliver letters).session other = server.session other := by
  rw [Server.session, Server.find?_deliver, Option.map_map]
  rfl

/-- A command sets the session of its requester. -/
theorem session_commit_self (outcome : Outcome) (found : server.clients.find? fd = some client) :
    (outcome.commit fd server).session fd = some ⟨outcome.userUuid, outcome.context⟩ := by
  rw [Server.session, outcome.find?_commit_self found]
  rfl

/-- It keeps the sessions of the other clients. -/
theorem session_commit_of_ne (outcome : Outcome) {other : Int} (different : other ≠ fd) :
    (outcome.commit fd server).session other = server.session other := by
  rw [Server.session, outcome.find?_commit_of_ne different, Option.map_map]
  rfl

/-- What a command does to the session of its requester. -/
theorem serves_session {event : Event} (named : event.IsCommand fd verb)
    (serves : Serves env fd client server verb outcome) :
    SessionStep server.db fd event (some client.session)
      (some ⟨outcome.userUuid, outcome.context⟩) := by
  cases serves with
  | loginNew _ session =>
    rw [Client.session, session]
    exact .login _ named
  | loginAgain _ session =>
    rw [Client.session, session]
    exact .login _ named
  | logout session => exact .logout named session
  | logoutLast session => exact .logout named session
  | logoutUnknown session => exact .logout named session
  | useNothing session => exact .use named session .nothing
  | useTeam session _ present => exact .use named session (.team present)
  | useChannel session _ _ _ channel => exact .use named session (.channel channel)
  | useThread session _ _ _ channel thread => exact .use named session (.thread channel thread)
  | _ => exact .kept _

theorem session_erase (fd other : Int) (db : Database) :
    ({ server with clients := server.clients.erase fd, db := db } : Server).session other
      = if other = fd then none else server.session other := by
  unfold Server.session
  rw [SortedMap.find?_erase]
  split_ifs <;> rfl

/-- **Every step is one of these for every connection.** -/
theorem step_session {event : Event} (steps : Steps env server event after) (other : Int) :
    SessionStep server.db other event (server.session other) (after.session other) := by
  have same : ∀ {session : Option Session}, session = server.session other →
      SessionStep server.db other event (server.session other) session :=
    fun equal => equal ▸ .kept _
  -- a disconnection closes one session
  have erased : ∀ (fd : Int) (db : Database), event = .disconnect fd →
      SessionStep server.db other event (server.session other)
        (({ server with clients := server.clients.erase fd, db := db } : Server).session other) := by
    intro fd db leaves
    rw [session_erase]
    split_ifs with gone
    · exact .closed _ (Or.inl (gone ▸ leaves))
    · exact .kept _
  cases steps with
  | quiet _ quiet => exact same (session_modifyClients quiet other)
  | @accepted fd missing =>
    unfold Server.session
    rw [SortedMap.find?_insert]
    split_ifs with new
    · subst new
      rw [missing]
      exact .opened rfl
    · exact .kept _
  | @served fd rawCommand client verb outcome found named serves =>
    have stored := find?_setArgs found (CommandHandling.parseArgs rawCommand)
    by_cases requester : other = fd
    · subst requester
      rw [session_commit_self outcome stored, session_of_found found]
      have command : Event.IsCommand (.line other rawCommand) other verb := ⟨rawCommand, rfl, named⟩
      have step := serves_session command serves
      exact step
    · refine same ?_
      rw [session_commit_of_ne outcome requester, session_modifyClient (quiet_setArgs _)]
  | @left fd => exact erased fd server.db rfl
  | @leftUser fd => exact erased fd _ rfl
  | @leftLast fd =>
    rw [session_deliver]
    exact erased fd _ rfl
  | restarted => exact .closed _ (Or.inr rfl)

/-- **What holds of every session holds after a step**, if it holds of a session that opens and of the one
that a command sets. -/
theorem step_sessions {P : Session → Prop} {event : Event} (steps : Steps env server event after)
    (opened : P {}) (before : ∀ other session, server.session other = some session → P session)
    (served : ∀ (fd : Int) (rawCommand : Bytes) (client : Client) (verb : Verb) (outcome : Outcome),
      event = .line fd rawCommand → server.clients.find? fd = some client →
      Serves env fd (client.setArgs (CommandHandling.parseArgs rawCommand))
        (server.modifyClient fd (Client.setArgs (CommandHandling.parseArgs rawCommand))) verb outcome →
      after.db = outcome.db → P ⟨outcome.userUuid, outcome.context⟩) :
    ∀ other session, after.session other = some session → P session := by
  have erased : ∀ (fd : Int) (db : Database) (other : Int) (session : Session),
      ({ server with clients := server.clients.erase fd, db := db } : Server).session other = some session →
      P session := by
    intro fd db other session present
    rw [session_erase] at present
    split_ifs at present
    exact before other session present
  cases steps with
  | quiet _ quiet =>
    intro other session present
    rw [session_modifyClients quiet] at present
    exact before other session present
  | accepted =>
    intro other session present
    unfold Server.session at present
    rw [SortedMap.find?_insert] at present
    split_ifs at present
    · cases present
      exact opened
    · exact before other session present
  | @served fd rawCommand client verb outcome found _ serves =>
    intro other session present
    by_cases requester : other = fd
    · subst requester
      rw [session_commit_self outcome (find?_setArgs found _)] at present
      cases present
      exact served _ rawCommand client verb outcome rfl found serves rfl
    · rw [session_commit_of_ne outcome requester, session_modifyClient (quiet_setArgs _)] at present
      exact before other session present
  | @left fd => exact erased fd server.db
  | @leftUser fd => exact erased fd _
  | @leftLast fd =>
    intro other session present
    rw [session_deliver] at present
    exact erased fd _ other session present
  | restarted => exact fun _ _ present => by cases present

end Steps

end MyTeams
