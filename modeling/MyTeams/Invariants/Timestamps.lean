/-
**Where the timestamps come from.**

Every timestamp in the database was returned by `std::time`, or is such a value after it was written to
the save file and read back. So what holds of these (`Clocked`) holds of all timestamps (`Dated`).

* `serves_dated`, `step_dated` — a command and a step make no other timestamp;
* `run_dated` — nor does a run.
-/

import MyTeams.Invariants.Growth

namespace MyTeams

open Transition FirstMatch

section Definitions

variable (Q : Int → Prop)

structure Thread.Dated (thread : Thread) : Prop where
  timestamp : Q thread.timestamp
  replies : ∀ reply ∈ thread.replies, Q reply.timestamp

def Channel.Dated (channel : Channel) : Prop := ∀ thread ∈ channel.threads, thread.Dated Q

def Team.Dated (team : Team) : Prop := ∀ channel ∈ team.channels, channel.Dated Q

def User.Dated (user : User) : Prop := ∀ key, ∀ message ∈ user.conversation key, Q message.timestamp

structure Database.Dated (db : Database) : Prop where
  users : ∀ user ∈ db.users, user.Dated Q
  teams : ∀ team ∈ db.teams, team.Dated Q

/-- `Q` holds of the first `calls` readings of the clock, and still holds after a save and a load. -/
structure Clocked (env : Env) (calls : Nat) : Prop where
  time : ∀ n < calls, Q (env.time n)
  reload : ∀ time, Q time → Q (reloadTime env.fp time)

end Definitions

theorem Clocked.of_le {Q : Int → Prop} {env : Env} {calls fewer : Nat} (clocked : Clocked Q env calls)
    (le : fewer ≤ calls) : Clocked Q env fewer :=
  ⟨fun n read => clocked.time n (read.trans_le le), clocked.reload⟩

/-- A value of `std::time_t`, a signed integer of 64 bits. -/
def IsTime (time : Int) : Prop := -2 ^ 63 ≤ time ∧ time < 2 ^ 63

instance (time : Int) : Decidable (IsTime time) := instDecidableAnd

variable {Q : Int → Prop}

/-! ### Writes -/

section Writes

theorem Channel.Dated.addThread {channel : Channel} (dated : channel.Dated Q) {thread : Thread}
    (new : thread.Dated Q) : Channel.Dated Q { channel with threads := channel.threads ++ [thread] } :=
  forall_concat dated new

theorem Thread.Dated.addReply {thread : Thread} (dated : thread.Dated Q) {reply : Reply}
    (new : Q reply.timestamp) : Thread.Dated Q { thread with replies := thread.replies ++ [reply] } :=
  ⟨dated.timestamp, forall_concat dated.replies new⟩

theorem Channel.Dated.modifyThread {channel : Channel} (dated : channel.Dated Q) (uuid : Bytes)
    {f : Thread → Thread} (keeps : ∀ thread : Thread, thread.Dated Q → (f thread).Dated Q) :
    (channel.modifyThread uuid f).Dated Q :=
  forall_modifyFirst dated keeps

theorem Team.Dated.modifyChannel {team : Team} (dated : team.Dated Q) (uuid : Bytes)
    {f : Channel → Channel} (keeps : ∀ channel : Channel, channel.Dated Q → (f channel).Dated Q) :
    (team.modifyChannel uuid f).Dated Q :=
  forall_modifyFirst dated keeps

/-- A team with the same channels. -/
theorem Team.Dated.of_channels {team after : Team} (dated : team.Dated Q)
    (same : after.channels = team.channels) : after.Dated Q :=
  fun channel member => dated channel (same ▸ member)

theorem User.Dated.decrementConnection {user : User} (dated : user.Dated Q) :
    user.decrementConnection.Dated Q := by
  intro key message member
  unfold User.conversation at member
  rw [User.decrementConnection_messages] at member
  exact dated key message member

theorem User.Dated.addMessage {user : User} (dated : user.Dated Q) (key : Bytes) {message : Message}
    (new : Q message.timestamp) : (user.addMessage key message).Dated Q := by
  intro other old member
  rw [User.conversation_addMessage] at member
  split_ifs at member
  · exact forall_concat (dated other) new old member
  · exact dated other old member

/-- A restart converts every timestamp. -/
theorem Database.Dated.reloaded {db : Database} (dated : db.Dated Q) {f : Int → Int}
    (keeps : ∀ time, Q time → Q (f time)) : (db.reloaded f).Dated Q := by
  refine ⟨List.forall_mem_map.mpr fun user member key => ?_,
    List.forall_mem_map.mpr fun team member => ?_⟩
  · rw [User.conversation_reloaded]
    exact List.forall_mem_map.mpr fun message inside => keeps _ (dated.users user member key message inside)
  · refine List.forall_mem_map.mpr fun channel inside => List.forall_mem_map.mpr fun thread within => ?_
    have old := dated.teams team member channel inside thread within
    exact ⟨keeps _ old.timestamp, List.forall_mem_map.mpr fun reply listed => keeps _ (old.replies reply listed)⟩

end Writes

/-! ### Commands, steps and runs -/

section Steps

variable {env : Env} {fd : Int} {client : Client} {server after : Server} {verb : Verb}
  {outcome : Outcome}

theorem serves_timeCalls (serves : Serves env fd client server verb outcome) :
    server.timeCalls ≤ outcome.timeCalls := by
  cases serves with
  | createThread | createReply | send => exact Nat.le_succ server.timeCalls
  | _ => exact le_refl server.timeCalls

/-- No reading of the clock is taken back. -/
theorem step_timeCalls {event : Event} (steps : Steps env server event after) :
    server.timeCalls ≤ after.timeCalls := by
  cases steps with
  | served _ _ serves =>
    have later := serves_timeCalls serves
    exact later
  | _ => exact le_rfl

/-- **A command makes no other timestamp.** -/
theorem serves_dated (clocked : Clocked Q env outcome.timeCalls) (dated : server.db.Dated Q)
    (serves : Serves env fd client server verb outcome) : outcome.db.Dated Q := by
  have read : outcome.timeCalls = server.timeCalls + 1 → Q (server.nextTime env) :=
    fun called => clocked.time _ (called ▸ Nat.lt_succ_self _)
  have users : ∀ {p : User → Bool} {f : User → User}, (∀ user : User, user.Dated Q → (f user).Dated Q) →
      Database.Dated Q { server.db with users := modifyFirst p f server.db.users } :=
    fun keeps => ⟨forall_modifyFirst dated.users keeps, dated.teams⟩
  have teams : ∀ {p : Team → Bool} {f : Team → Team}, (∀ team : Team, team.Dated Q → (f team).Dated Q) →
      Database.Dated Q { server.db with teams := modifyFirst p f server.db.teams } :=
    fun keeps => ⟨dated.users, forall_modifyFirst dated.teams keeps⟩
  cases serves with
  | loginNew _ _ _ _ _ made =>
    subst made
    exact ⟨forall_concat dated.users fun key message member => absurd member List.not_mem_nil, dated.teams⟩
  | loginAgain => exact users fun _ user => user
  | logout => exact users fun _ user => user.decrementConnection
  | logoutLast => exact users fun _ user => user.decrementConnection
  | createTeam _ _ _ _ _ _ made =>
    subst made
    exact ⟨dated.users, forall_concat dated.teams fun channel member => absurd member List.not_mem_nil⟩
  | createChannel _ _ _ _ _ _ _ _ made =>
    subst made
    exact teams fun _ team => forall_concat team fun thread member => absurd member List.not_mem_nil
  | createThread _ _ _ _ _ _ _ _ _ _ made =>
    subst made
    exact teams fun _ team => team.modifyChannel _ fun _ channel =>
      channel.addThread ⟨read rfl, fun _ member => absurd member List.not_mem_nil⟩
  | createReply _ _ _ _ _ _ _ _ _ made =>
    subst made
    exact teams fun _ team => team.modifyChannel _ fun _ channel =>
      channel.modifyThread _ fun _ thread => thread.addReply (read rfl)
  | subscribe =>
    refine teams fun team old => old.of_channels ?_
    exact Team.addSubscriber_channels _ team
  | unsubscribe =>
    refine teams fun team old => old.of_channels ?_
    exact Team.removeSubscriber_channels _ team
  | @send sender receiver message _ _ _ _ _ _ made =>
    have new : Q message.timestamp := by
      rw [made]
      exact read rfl
    have first := users (p := fun user => user.uuid = client.userUuid) fun user old =>
      old.addMessage receiver.uuid new
    exact ⟨forall_modifyFirst first.users fun _ user => user.addMessage _ new, dated.teams⟩
  | _ => exact dated

/-- **A step makes no other timestamp.** -/
theorem step_dated {event : Event} (steps : Steps env server event after)
    (clocked : Clocked Q env after.timeCalls) (dated : server.db.Dated Q) : after.db.Dated Q := by
  have left : ∀ uuid : Bytes, (server.db.modifyUser uuid User.decrementConnection).Dated Q := fun uuid =>
    ⟨forall_modifyFirst dated.users fun _ user => user.decrementConnection, dated.teams⟩
  cases steps with
  | @served fd rawCommand _ _ _ _ _ serves =>
    have stored : (server.modifyClient fd (Client.setArgs (CommandHandling.parseArgs rawCommand))).db.Dated Q :=
      dated
    have made := serves_dated clocked stored serves
    exact made
  | leftUser => exact left _
  | leftLast => exact left _
  | restarted => exact dated.reloaded clocked.reload
  | _ => exact dated

theorem run_timeCalls (server : Server) (events : List Event) :
    server.timeCalls ≤ (run (Server.step env) server events).timeCalls := by
  induction events generalizing server with
  | nil => exact le_rfl
  | cons event rest ih =>
    exact (step_timeCalls (step_steps env server event)).trans (ih (server.step env event))

/-- **What holds of all readings of the clock holds of all timestamps.** -/
theorem run_dated (events : List Event)
    (clocked : Clocked Q env (run (Server.step env) {} events).timeCalls) :
    (run (Server.step env) {} events).db.Dated Q :=
  run_invariant_of_assumption (fun server => server.db.Dated Q)
    (fun server => Clocked Q env server.timeCalls)
    (fun server event clocked => clocked.of_le (step_timeCalls (step_steps env server event)))
    (fun server event clocked dated => step_dated (step_steps env server event) clocked dated)
    ⟨fun _ member => absurd member List.not_mem_nil, fun _ member => absurd member List.not_mem_nil⟩
    events clocked

end Steps

end MyTeams
