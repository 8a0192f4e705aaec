/-
**What commands do not touch.**

An observation of a client that depends neither on its session, nor on its arguments, nor on what was
written to it (`Untouched`) is the same after every command (`observed_handleCommand`); a disconnection
only takes its own client (`observed_disconnectClient`).
-/

import MyTeams.Server.Machine

namespace MyTeams

/-- An observation of a client that no command reaches. -/
structure Untouched {α : Type} (observe : Client → α) : Prop where
  receive : ∀ frames client, observe (client.receive frames) = observe client
  session : ∀ userUuid context client,
    observe ({ client with userUuid := userUuid, context := context } : Client) = observe client
  args : ∀ args client, observe (client.setArgs args) = observe client

/-- What is observed of the client behind a descriptor. -/
def Server.observed {α : Type} (observe : Client → α) (fd : Int) (server : Server) : Option α :=
  (server.clients.find? fd).map observe

section Observed

variable {α : Type} {observe : Client → α} {env : Env} {server : Server}

theorem observed_modifyClients {f : Int → Client → Client}
    (keeps : ∀ fd client, observe (f fd client) = observe client) (fd : Int) :
    (server.modifyClients f).observed observe fd = server.observed observe fd := by
  unfold Server.observed Server.modifyClients
  rw [SortedMap.find?_mapWithKey, Option.map_map]
  exact congrArg (Option.map · (server.clients.find? fd)) (funext (keeps fd))

theorem observed_modifyClient {f : Client → Client} (keeps : ∀ client, observe (f client) = observe client)
    (fd other : Int) :
    (server.modifyClient fd f).observed observe other = server.observed observe other := by
  refine @observed_modifyClients _ observe _ (fun key client => if key = fd then f client else client)
    (fun key client => ?_) other
  show observe (if key = fd then f client else client) = observe client
  split_ifs
  · exact keeps client
  · rfl

variable (untouched : Untouched observe)
include untouched

theorem observed_deliver (letters : Letters) (fd : Int) :
    (server.deliver letters).observed observe fd = server.observed observe fd :=
  observed_modifyClients (fun _ _ => untouched.receive _ _) fd

theorem observed_commit (outcome : Outcome) (fd other : Int) :
    (outcome.commit fd server).observed observe other = server.observed observe other := by
  unfold Outcome.commit
  rw [observed_deliver untouched]
  exact observed_modifyClient (fun client => untouched.session _ _ client) fd other

/-- **A line does not touch it.** -/
theorem observed_handleCommand (rawCommand : Bytes) (fd other : Int) :
    (CommandHandling.handleCommand env rawCommand fd server).observed observe other
      = server.observed observe other := by
  cases found : server.clients.find? fd with
  | none => rw [handleCommand_of_none env rawCommand found]
  | some client =>
    have stored : ∀ args : List Bytes, (server.modifyClient fd (Client.setArgs args)).observed observe other
        = server.observed observe other :=
      fun args => observed_modifyClient (fun client => untouched.args args client) fd other
    rcases handleCommand_serves env rawCommand found with
      ⟨-, still⟩ | ⟨name, rest, -, ⟨-, kept⟩ | ⟨verb, -, outcome, -, committed⟩⟩
    · rw [still]
    · rw [kept, stored]
    · rw [committed, observed_commit untouched, stored]

/-- **A disconnection takes its client and touches no other.** -/
theorem observed_disconnectClient (fd other : Int) :
    (server.disconnectClient fd).observed observe other
      = if other = fd then none else server.observed observe other := by
  have erased : ∀ db : Database,
      ({ server with clients := server.clients.erase fd, db := db } : Server).observed observe other
        = if other = fd then none else server.observed observe other := by
    intro db
    show ((server.clients.erase fd).find? other).map observe = _
    rw [SortedMap.find?_erase]
    split_ifs <;> rfl
  unfold Server.disconnectClient
  cases found : server.clients.find? fd with
  | none =>
    split_ifs with same
    · rw [same, Server.observed, found]
      rfl
    · rfl
  | some client =>
    by_cases session : client.userUuid = []
    · simp only [if_pos session]
      exact erased server.db
    simp only [if_neg session]
    cases server.db.findUser client.userUuid with
    | none => exact erased server.db
    | some user =>
      cases connected : user.decrementConnection.isConnected with
      | true =>
        simp only [connected, if_true]
        exact erased (server.db.modifyUser client.userUuid User.decrementConnection)
      | false =>
        simp only [connected, Bool.false_eq_true, if_false]
        rw [Server.broadcast_eq, observed_deliver untouched]
        exact erased (server.db.modifyUser client.userUuid User.decrementConnection)

end Observed

end MyTeams
