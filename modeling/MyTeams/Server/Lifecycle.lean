/-
**The server program, from its start to its end.**

`main` reads the port, `Server::init` listens and loads the save file, `Server::run` serves and saves behind its
loop. A `Life` is all that one process meets: the command line, the answers of the operating system, the values
of `uuid_generate` and `std::time`, and what the disk does to the save file. `Life.main` is how far the program
comes in it, `Life.store` the file that it leaves behind.
-/

import MyTeams.Model.Arguments
import MyTeams.Server.EventLoop

namespace MyTeams

open Transition

/-- The answers to the calls of `Server::init`. -/
structure InitAnswers where
  socket : Except Errno Int := .ok 3
  reuseAddress : Except Errno Unit := .ok ()
  ipv6Only : Except Errno Unit := .ok ()
  getFlags : Except Errno Unit := .ok ()
  setFlags : Except Errno Unit := .ok ()
  bind : Nat → Except Errno Unit := fun _ => .ok ()
  listen : Except Errno Unit := .ok ()

/-- The calls of `Server::init`. The wrappers throw on every error. -/
def InitAnswers.listenOn (port : Nat) (answers : InitAnswers) : Except Errno Int := do
  let serverFd ← answers.socket
  answers.reuseAddress
  answers.ipv6Only
  answers.getFlags
  answers.setFlags
  answers.bind port
  answers.listen
  return serverFd

/-- `SaveManager::load` into the empty database, from a file that may be missing; `none` while it reads. -/
def SaveManager.loadFile (fp : FloatingPoint) (fuel : Nat) : Option Bytes → Option Database
  | none => some {}
  | some content => SaveManager.load fp fuel content {}

/-- The server at the start of the loop of `Server::run`. -/
def Loop.listening (serverFd : Int) (db : Database) : Loop :=
  { server := { db := db }, serverFd := serverFd, fds := [{ fd := serverFd }] }

/-- How far the program has come. -/
inductive Program
  /-- `main` has returned this status. -/
  | exited (status : Nat)
  /-- The process listens and reads the save file. -/
  | loading
  /-- `Server::run` was called. -/
  | serving (process : Process)

/-- The status of a program that has returned from `main`. -/
def Program.status : Program → Option Nat
  | .exited status => some status
  | .serving (.returned _ _) => some 0
  | .serving (.thrown _ _) => some exitError
  | _ => none

/-- The server behind a program that is in its loop. -/
def Program.server : Program → Option Server
  | .serving (.looping loop) => some loop.server
  | _ => none

/-- The server that an orderly stop has left. -/
def Program.stopped : Program → Option Server
  | .serving (.returned loop _) => some loop.server
  | _ => none

/-- The content that a program has saved. -/
def Program.saved : Program → Bytes
  | .serving (.returned _ saved) => saved
  | _ => []

/-- What one process meets. It is killed where its rounds end, if it has not ended before. -/
structure Life where
  uuid : Nat → Uuid
  time : Nat → Int
  args : List Bytes
  answers : InitAnswers := {}
  /-- The save file can be opened by `std::ifstream`, if it is there. -/
  readable : Bool := true
  fuel : Nat
  rounds : List Round
  /-- How many bytes of the content `save` brings to the disk; `none` if it cannot open the file. -/
  disk : Option Nat

namespace Life

/-- The environment of the process. -/
def env (fp : FloatingPoint) (life : Life) : Env := ⟨life.uuid, life.time, fp⟩

/-- What the process loads. -/
def loaded (fp : FloatingPoint) (file : Option Bytes) (life : Life) : Option Database :=
  SaveManager.loadFile fp life.fuel (if life.readable then file else none)

/-- `main`, with what is loaded. -/
def mainWith (fp : FloatingPoint) (db : Option Database) (life : Life) : Program :=
  match life.args with
  | [arg] =>
    if arg = ascii "--help" then .exited 0
    else
      match readPort arg with
      | none => .exited exitError
      | some port =>
        match life.answers.listenOn port, db with
        | .error _, _ => .exited exitError
        | .ok _, none => .loading
        | .ok serverFd, some db =>
          .serving (run (Process.round (life.env fp)) (.looping (.listening serverFd db)) life.rounds)
  | _ => .exited exitError

/-- `main` -/
def main (fp : FloatingPoint) (file : Option Bytes) (life : Life) : Program :=
  life.mainWith fp (life.loaded fp file)

/-- The save file after the process. Opening it for writing empties it. -/
def store (fp : FloatingPoint) (file : Option Bytes) (life : Life) : Option Bytes :=
  match life.main fp file, life.disk with
  | .serving (.returned _ saved), some count => some (saved.take count)
  | _, _ => file

end Life

end MyTeams
