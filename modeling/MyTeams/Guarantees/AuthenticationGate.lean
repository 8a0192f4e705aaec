/-
**The authentication gate.**

For a client without a user, a registered command other than LOGIN leaves the state as it was except
for one `401 UNAUTHORIZED` to the requester (`authentication_gate`). Every command asks for the user
before it looks at anything else but SEND, which checks its arguments first: a SEND with bad arguments
gets `400 BAD_REQUEST`.
-/

import MyTeams.Guarantees.Anonymity
import MyTeams.Invariants.Identities

namespace MyTeams

open Transition

section Gate

variable {env : Env} {fd : Int} {server : Server} {client : Client} {verb : Verb} {args : List Bytes}

/-- The answers of the gate. -/
theorem anonymousReply_of_verb (command : args.head? = some verb.text) (other : verb ≠ .login) :
    anonymousReply args
      = [if verb = .send → Sendable args then Frame.unauthorized else Frame.badRequest] := by
  obtain ⟨rest, rfl⟩ := List.head?_eq_some_iff.mp command
  have known := CommandHandling.lookup_verbs_iff.mpr (rfl : verb.text = verb.text)
  rw [anonymousReply, known]
  cases verb with
  | login => exact absurd rfl other
  | send => by_cases sendable : Sendable (Verb.send.text :: rest) <;> simp [sendable]
  | _ => simp

/-- Two messages leave different states behind. -/
theorem sendToClient_injective (found : server.clients.find? fd = some client) {first second : Frame}
    (same : server.sendToClient first fd = server.sendToClient second fd) : first = second := by
  have appended : ∀ frame, (server.sendToClient frame fd).clients.find? fd
      = some (client.appendToWriteBuffer frame) := fun frame => by
    rw [Server.sendToClient, Server.modifyClient, SortedMap.find?_modify_self, found]
    rfl
  have equal : client.appendToWriteBuffer first = client.appendToWriteBuffer second := by
    rw [← Option.some.injEq, ← appended, ← appended, same]
  have lists : client.appended ++ [first] = client.appended ++ [second] :=
    congrArg Client.appended equal
  exact List.singleton_inj.mp (List.append_cancel_left lists)

/-- **What a client without a user gets for a command.** -/
theorem gate_answer (env : Env) {rawCommand : Bytes} (found : server.clients.find? fd = some client)
    (nobody : client.userUuid = []) (named : [] ∉ server.db.uuids)
    (command : (CommandHandling.parseArgs rawCommand).head? = some verb.text)
    (other : verb ≠ .login) :
    CommandHandling.handleCommand env rawCommand fd server
      = (server.modifyClient fd (Client.setArgs (CommandHandling.parseArgs rawCommand))).sendToClient
          (if verb = .send → Sendable (CommandHandling.parseArgs rawCommand) then Frame.unauthorized
            else Frame.badRequest) fd := by
  have silent : ¬ LogsIn (CommandHandling.parseArgs rawCommand) := fun logsIn =>
    other (Verb.text_injective (Option.some.inj (command.symm.trans logsIn.1)))
  have reply : verb.command env fd (client.setArgs (CommandHandling.parseArgs rawCommand)) _ = _ :=
    anonymous_command env fd
      (server.modifyClient fd (Client.setArgs (CommandHandling.parseArgs rawCommand)))
      nobody named command silent
  have answer : anonymousReply (client.setArgs (CommandHandling.parseArgs rawCommand)).args = _ :=
    anonymousReply_of_verb command other
  rw [handleCommand_of_named env found command, reply, answer]
  rfl

/-- **The gate is closed**, in every state that is reached from an empty database, for every command
but a SEND with bad arguments. -/
theorem authentication_gate (env : Env) (events : List Event) (fd : Int) (rawCommand : Bytes)
    {client : Client} {verb : Verb}
    (found : (run (Server.step env) {} events).clients.find? fd = some client)
    (nobody : client.userUuid = [])
    (command : (CommandHandling.parseArgs rawCommand).head? = some verb.text)
    (other : verb ≠ .login) :
    let server := run (Server.step env) {} events
    CommandHandling.handleCommand env rawCommand fd server
        = (server.modifyClient fd
            (Client.setArgs (CommandHandling.parseArgs rawCommand))).sendToClient
              Frame.unauthorized fd
      ↔ (verb = .send → Sendable (CommandHandling.parseArgs rawCommand)) := by
  intro server
  have named : [] ∉ server.db.uuids := run_named (by decide) events
  have answer := gate_answer env found nobody named command other
  by_cases accepted : verb = .send → Sendable (CommandHandling.parseArgs rawCommand)
  · rw [if_pos accepted] at answer
    exact ⟨fun _ => accepted, fun _ => answer⟩
  · rw [if_neg accepted] at answer
    refine ⟨fun refused => ?_, fun sendable => absurd sendable accepted⟩
    have stored := find?_setArgs found (CommandHandling.parseArgs rawCommand)
    have same := sendToClient_injective stored (answer.symm.trans refused)
    exact absurd same (by decide)

/-- A client that has not logged in asks for the users, and sends a message. -/
theorem authentication_gate_sample :
    let server := run (Server.step sampleEnv) {} [.accept 4]
    (CommandHandling.handleCommand sampleEnv (ascii "/users") 4 server
        = (server.modifyClient 4 (Client.setArgs [ascii "/users"])).sendToClient
            Frame.unauthorized 4) ∧
      CommandHandling.handleCommand sampleEnv (ascii "/send \"bob\" \"hi\"") 4 server
        = (server.modifyClient 4
            (Client.setArgs [ascii "/send", ascii "bob", ascii "hi"])).sendToClient
              Frame.unauthorized 4 :=
  ⟨(authentication_gate sampleEnv [.accept 4] 4 (ascii "/users") rfl rfl rfl
      (by decide : Verb.users ≠ .login)).mpr fun send => absurd send (by decide),
    (authentication_gate sampleEnv [.accept 4] 4 (ascii "/send \"bob\" \"hi\"") rfl rfl rfl
      (by decide : Verb.send ≠ .login)).mpr fun _ => by decide⟩

/-- **A SEND with an empty receiver passes the gate**: its arguments are refused, not its sender. -/
theorem send_passes_gate :
    let server := run (Server.step sampleEnv) {} [.accept 4]
    let after := CommandHandling.handleCommand sampleEnv (ascii "/send \"\" \"hi\"") 4 server
    server.session 4 = some { userUuid := [], context := {} } ∧
      server.newFrames 4 after = [Frame.badRequest] ∧ Frame.unauthorized ∉ server.newFrames 4 after := by
  decide

end Gate

end MyTeams
