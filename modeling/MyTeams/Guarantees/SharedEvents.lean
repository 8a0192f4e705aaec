/-
**The sessions of one user see the same events.**

The server picks the recipients of an event or a subscription notice by the user of their session, and
never by their descriptor. `Alike` says this of letters: what they bring to a session, apart from the
replies, is the same behind every descriptor.

* `serves_alike` — the letters of every command;
* `step_letters` — every step delivers such letters, by the sessions after it;
* `shared_events` — two connections that belong to one user throughout a run are told the same.
-/

import Mathlib.Data.List.Infix
import MyTeams.Invariants.Identities
import MyTeams.Server.Session

namespace MyTeams

open Transition

/-- The events and subscription notices among some messages. -/
def notices (frames : List Frame) : List Frame := frames.filter Frame.isNotice

/-- The notices among the letters for a session are the same behind every descriptor. -/
def Letters.Alike (letters : Letters) : Prop :=
  ∀ first second session, notices (letters first session) = notices (letters second session)

/-! ### Letters -/

section Letters

theorem notices_append (first second : List Frame) :
    notices (first ++ second) = notices first ++ notices second := List.filter_append ..

theorem notices_replies {frames : List Frame} (replies : ∀ frame ∈ frames, frame.isNotice = false) :
    notices frames = [] :=
  List.filter_eq_nil_iff.mpr fun frame member => by simp [replies frame member]

/-- Replies are no notices, so they make no difference. -/
theorem alike_replies (fd : Int) {frames : List Frame}
    (replies : ∀ frame ∈ frames, frame.isNotice = false) : (Letters.toClient fd frames).Alike := by
  have none : ∀ other session, notices (Letters.toClient fd frames other session) = [] :=
    fun other session => notices_replies fun frame member =>
      replies frame (Letters.mem_toClient member).2
  exact fun first second session => by rw [none, none]

theorem alike_reply (fd : Int) {frame : Frame} (reply : frame.isNotice = false) :
    (Letters.toClient fd [frame]).Alike :=
  alike_replies fd fun _ member => List.mem_singleton.mp member ▸ reply

/-- Letters that do not look at the descriptor. -/
theorem alike_toAll (frame : Frame) : (Letters.toAll frame).Alike := fun _ _ _ => rfl

theorem alike_toUser (userUuid : Bytes) (frame : Frame) : (Letters.toUser userUuid frame).Alike :=
  fun _ _ _ => rfl

theorem alike_toSubscribers (team : Team) (frame : Frame) : (Letters.toSubscribers team frame).Alike :=
  fun _ _ _ => rfl

theorem Letters.Alike.followedBy {early late : Letters} (first : early.Alike) (second : late.Alike) :
    (early.followedBy late).Alike := by
  intro fd other session
  rw [Letters.followedBy, notices_append, first fd other session, second fd other session,
    Letters.followedBy, notices_append]

end Letters

/-! ### Steps -/

section Steps

variable {env : Env} {fd : Int} {client : Client} {server after : Server} {verb : Verb}
  {outcome : Outcome} {event : Event}

theorem shown_replies {db : Database} {frames : List Frame} (shown : Shown client db verb frames) :
    ∀ frame ∈ frames, frame.isNotice = false :=
  shown.forall_frames (fun _ _ _ => rfl) (fun _ => rfl) (fun _ => rfl) fun _ => rfl

/-- **The letters of every command** tell all sessions of a user the same. -/
theorem serves_alike (serves : Serves env fd client server verb outcome) : outcome.letters.Alike := by
  cases serves with
  | refused refusal => exact alike_reply fd (by cases refusal <;> rfl)
  | shown shown => exact alike_replies fd (shown_replies shown)
  | loginNew | loginAgain | createTeam => exact (alike_reply fd rfl).followedBy (alike_toAll _)
  | logout | logoutUnknown | useNothing | useTeam => exact alike_reply fd rfl
  | logoutLast => exact (alike_toAll _).followedBy (alike_reply fd rfl)
  | useChannel | useThread | useNoChannel | useNoThread =>
    exact alike_replies fd (by simp [Frame.isNotice, Frame.ok, Frame.notFoundKind])
  | createChannel | createThread | createReply =>
    exact (alike_reply fd rfl).followedBy (alike_toSubscribers _ _)
  | subscribe | unsubscribe => exact (alike_toSubscribers _ _).followedBy (alike_reply fd rfl)
  | send => exact (alike_toUser _ _).followedBy (alike_reply fd rfl)

/-- **Every step delivers such letters**: they say what was appended for each client that is there
after the step. -/
theorem step_letters (steps : Steps env server event after) :
    ∃ letters : Letters, letters.Alike ∧ ∀ other holder, after.clients.find? other = some holder →
      holder.appended = server.appendedTo other ++ letters other holder.userUuid := by
  obtain ⟨letters, heard, appended⟩ := step_says steps
  refine ⟨letters, ?_, appended⟩
  cases heard with
  | nothing => exact fun _ _ _ => rfl
  | command _ _ serves => exact serves_alike serves
  | gone => exact alike_toAll _

end Steps

/-! ### Runs -/

/-- What two connections of one user were sent during a run: more or less replies, but the same
notices. -/
theorem run_shared {env : Env} {start : Server} {first second : Int} {uuid : Bytes} (events : List Event)
    (together : ∀ early, early <+: events → (run (Server.step env) start early).IsSessionOf first uuid ∧
      (run (Server.step env) start early).IsSessionOf second uuid) :
    ∃ added others, notices added = notices others ∧
      (run (Server.step env) start events).appendedTo first = start.appendedTo first ++ added ∧
      (run (Server.step env) start events).appendedTo second = start.appendedTo second ++ others := by
  induction events using List.reverseRecOn with
  | nil => exact ⟨[], [], rfl, (List.append_nil _).symm, (List.append_nil _).symm⟩
  | append_singleton events event ih =>
    obtain ⟨added, others, same, toFirst, toSecond⟩ :=
      ih fun early initial => together early (initial.trans (List.prefix_append _ _))
    obtain ⟨one, other⟩ := together (events ++ [event]) (List.prefix_refl _)
    obtain ⟨holder, present, user⟩ := one.exists_client
    obtain ⟨partner, there, owner⟩ := other.exists_client
    rw [run_concat] at present there ⊢
    obtain ⟨letters, alike, appended⟩ := step_letters (step_steps env (run (Server.step env) start events) event)
    refine ⟨added ++ letters first uuid, others ++ letters second uuid, ?_, ?_, ?_⟩
    · rw [notices_append, notices_append, same, alike first second uuid]
    · rw [appendedTo_of_found present, appended first holder present, toFirst, user, List.append_assoc]
    · rw [appendedTo_of_found there, appended second partner there, toSecond, owner, List.append_assoc]

/-- **The sessions of one user see the same events.** While two connections belong to the same user, the
events and subscription notices that are appended to their write buffers are the same, in the same order,
whoever sends the commands. -/
theorem shared_events (env : Env) (start : Server) (events : List Event) (first second : Int)
    (uuid : Bytes) (together : ∀ early, early <+: events →
      (run (Server.step env) start early).IsSessionOf first uuid ∧
      (run (Server.step env) start early).IsSessionOf second uuid) :
    notices (start.newFrames first (run (Server.step env) start events))
      = notices (start.newFrames second (run (Server.step env) start events)) := by
  obtain ⟨added, others, same, toFirst, toSecond⟩ := run_shared events together
  rw [Server.newFrames, toFirst, List.drop_left, Server.newFrames, toSecond, List.drop_left, same]

/-- One of two sessions of a user creates a team and lists the teams, the other one writes to the user itself. -/
theorem shared_events_sample :
    let start := run (Server.step sampleEnv) {} [.accept 4, .accept 5, .line 4 (ascii "/login \"ann\""),
      .line 5 (ascii "/login \"ann\"")]
    let after := run (Server.step sampleEnv) start [.line 4 (ascii "/create \"red\" \"first\""),
      .line 4 (ascii "/list"), .line 5 (ascii "/send \"" ++ (digitUuid 0).1 ++ ascii "\" \"hi\"")]
    notices (start.newFrames 4 after) = notices (start.newFrames 5 after) ∧
      (notices (start.newFrames 4 after)).length = 2 ∧ (start.newFrames 4 after).length = 6 := by
  intro start after
  refine ⟨shared_events sampleEnv start _ 4 5 (digitUuid 0).1 fun early initial => ?_, by decide, by decide⟩
  have each : ∀ prior ∈ List.inits [.line 4 (ascii "/create \"red\" \"first\""), .line 4 (ascii "/list"),
      .line 5 (ascii "/send \"" ++ (digitUuid 0).1 ++ ascii "\" \"hi\"")],
      (run (Server.step sampleEnv) start prior).IsSessionOf 4 (digitUuid 0).1 ∧
      (run (Server.step sampleEnv) start prior).IsSessionOf 5 (digitUuid 0).1 := by decide
  exact each early ((List.mem_inits _ _).mpr initial)

end MyTeams
