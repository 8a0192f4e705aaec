/-
**The command table and `handleCommand`.**
-/

import MyTeams.Commands.Session
import MyTeams.Commands.Content
import MyTeams.Commands.Community
import MyTeams.Protocol.Tokens

namespace MyTeams

/-- The registered commands. -/
inductive Verb
  | create | list | use | info | subscribe | unsubscribe | subscribed | login | logout | send
  | messages | user | users
deriving DecidableEq, Repr

/-- The name under which a command is registered. -/
def Verb.text : Verb → Bytes
  | .create => ascii "/create"
  | .list => ascii "/list"
  | .use => ascii "/use"
  | .info => ascii "/info"
  | .subscribe => ascii "/subscribe"
  | .unsubscribe => ascii "/unsubscribe"
  | .subscribed => ascii "/subscribed"
  | .login => ascii "/login"
  | .logout => ascii "/logout"
  | .send => ascii "/send"
  | .messages => ascii "/messages"
  | .user => ascii "/user"
  | .users => ascii "/users"

/-- `ICommand`: a command, given the descriptor and the state of the requester. -/
abbrev Command := Env → Int → Client → Server → Server

/-- The class of a command. -/
def Verb.command : Verb → Command
  | .create => Create.execute
  | .list => fun _ => ListCommand.execute
  | .use => fun _ => Use.execute
  | .info => fun _ => Info.execute
  | .subscribe => fun _ => Subscribe.execute
  | .unsubscribe => fun _ => Unsubscribe.execute
  | .subscribed => fun _ => Subscribed.execute
  | .login => Login.execute
  | .logout => fun _ => Logout.execute
  | .send => Send.execute
  | .messages => fun _ => Messages.execute
  | .user => fun _ => UserCommand.execute
  | .users => fun _ => UsersCommand.execute

namespace CommandHandling

/-- The keys of `_commands`, as the constructor fills it. -/
def verbs : List (Bytes × Verb) :=
  [.create, .list, .use, .info, .subscribe, .unsubscribe, .subscribed, .login, .logout, .send,
    .messages, .user, .users].map fun verb => (Verb.text verb, verb)

/-- `CommandHandling::handleCommand` for the client behind a descriptor. -/
def handleCommand (env : Env) (rawCommand : Bytes) (fd : Int) (server : Server) : Server :=
  match server.clients.find? fd, parseArgs rawCommand with
  | some client, name :: rest =>
    let client := { client with args := name :: rest }
    let server := server.modifyClient fd fun client => { client with args := name :: rest }
    match verbs.lookup name with
    | none => server
    | some verb => verb.command env fd client server
  | _, _ => server

/-- A registered name belongs to one command. -/
theorem lookup_verbs_iff {name : Bytes} {verb : Verb} :
    verbs.lookup name = some verb ↔ name = verb.text := by
  constructor
  · intro found
    have each : ∀ entry ∈ verbs, entry.1 = entry.2.text := by decide
    obtain ⟨before, after, split, -⟩ := List.lookup_eq_some_iff.mp found
    exact each (name, verb) (split ▸ List.mem_append_right _ List.mem_cons_self)
  · rintro rfl
    cases verb <;> decide

end CommandHandling

theorem Verb.text_injective : Function.Injective Verb.text := by
  intro verb other same
  have found := CommandHandling.lookup_verbs_iff.mpr same
  rw [CommandHandling.lookup_verbs_iff.mpr (rfl : verb.text = verb.text)] at found
  exact Option.some.inj found

end MyTeams
