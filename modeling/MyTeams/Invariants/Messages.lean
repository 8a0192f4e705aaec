/-
**Who gets what kind of message.**

Every message of the server starts with the words that tell what it is (`isHeaded`), and a client that
did not send the line of a step gets nothing but events and notices.

* `serves_proper` — the letters of a command;
* `step_proper` — the messages that a step appends.
-/

import MyTeams.Server.Machine

namespace MyTeams

/-- A list item or a subscription notice, which have one word, or a message with two words. -/
def Frame.isHeaded (frame : Frame) : Bool :=
  match frame.keywords with
  | [.code210] | [.userSubscribed] | [.userUnsubscribed] => true
  | _ :: _ :: _ => true
  | _ => false

/-- Headed messages; the requester may get any of them, others only notices. -/
def Letters.Proper (fd : Int) (letters : Letters) : Prop :=
  ∀ other session, ∀ frame ∈ letters other session,
    frame.isHeaded = true ∧ (other = fd ∨ frame.isNotice = true)

namespace Letters

variable {fd : Int}

theorem Proper.toClient {frames : List Frame} (headed : ∀ frame ∈ frames, frame.isHeaded = true) :
    (toClient fd frames).Proper fd := by
  intro other session frame member
  obtain ⟨same, inside⟩ := mem_toClient member
  exact ⟨headed frame inside, Or.inl same⟩

theorem Proper.reply {frame : Frame} (headed : frame.isHeaded = true) :
    (Letters.toClient fd [frame]).Proper fd :=
  .toClient fun _ member => List.mem_singleton.mp member ▸ headed

theorem Proper.toAll {frame : Frame} (headed : frame.isHeaded = true)
    (notice : frame.isNotice = true) : (Letters.toAll frame).Proper fd :=
  fun _ _ _ member => mem_toAll member ▸ ⟨headed, Or.inr notice⟩

theorem Proper.toUser {frame : Frame} (headed : frame.isHeaded = true)
    (notice : frame.isNotice = true) (userUuid : Bytes) : (Letters.toUser userUuid frame).Proper fd :=
  fun _ _ _ member => (mem_toUser member).2 ▸ ⟨headed, Or.inr notice⟩

theorem Proper.toSubscribers {frame : Frame} (headed : frame.isHeaded = true)
    (notice : frame.isNotice = true) (team : Team) : (Letters.toSubscribers team frame).Proper fd :=
  fun _ _ _ member => (mem_toSubscribers member).2 ▸ ⟨headed, Or.inr notice⟩

theorem Proper.followedBy {first second : Letters} (early : first.Proper fd)
    (late : second.Proper fd) : (first.followedBy second).Proper fd := by
  intro other session frame member
  rcases List.mem_append.mp member with inside | inside
  · exact early other session frame inside
  · exact late other session frame inside

end Letters

section Steps

variable {env : Env} {fd : Int} {client : Client} {server after : Server} {verb : Verb}
  {outcome : Outcome}

theorem shown_headed {db : Database} {frames : List Frame} (shown : Shown client db verb frames) :
    ∀ frame ∈ frames, frame.isHeaded = true :=
  shown.forall_frames (fun _ _ _ => rfl) (fun _ => rfl) (fun _ => rfl) fun _ => rfl

open Letters in
/-- **The letters of a command.** -/
theorem serves_proper (serves : Serves env fd client server verb outcome) :
    outcome.letters.Proper fd := by
  have several : ∀ {frame : Frame} {frames : List Frame}, frame.isHeaded = true →
      (toClient fd frames).Proper fd → (toClient fd (frame :: frames)).Proper fd := by
    intro frame frames headed later
    refine .toClient (List.forall_mem_cons.mpr ⟨headed, fun other member => ?_⟩)
    exact (later fd [] other (by rwa [toClient_self])).1
  cases serves with
  | refused refusal => cases refusal <;> exact .reply rfl
  | shown shown => exact .toClient (shown_headed shown)
  | loginNew => exact (Proper.reply rfl).followedBy (.toAll rfl rfl)
  | loginAgain => exact (Proper.reply rfl).followedBy (.toAll rfl rfl)
  | logoutLast => exact (Proper.toAll rfl rfl).followedBy (.reply rfl)
  | useChannel => exact several rfl (.reply rfl)
  | useThread => exact several rfl (several rfl (.reply rfl))
  | useNoChannel => exact several rfl (.reply rfl)
  | useNoThread => exact several rfl (several rfl (.reply rfl))
  | createTeam => exact (Proper.reply rfl).followedBy (.toAll rfl rfl)
  | createChannel => exact (Proper.reply rfl).followedBy (.toSubscribers rfl rfl _)
  | createThread => exact (Proper.reply rfl).followedBy (.toSubscribers rfl rfl _)
  | createReply => exact (Proper.reply rfl).followedBy (.toSubscribers rfl rfl _)
  | subscribe => exact (Proper.toSubscribers rfl rfl _).followedBy (.reply rfl)
  | unsubscribe => exact (Proper.toSubscribers rfl rfl _).followedBy (.reply rfl)
  | send => exact (Proper.toUser rfl rfl _).followedBy (.reply rfl)
  | _ => exact .reply rfl

/-- **The messages that a step appends**: headed, and notices unless the client sent the line. -/
theorem step_proper {event : Event} (steps : Steps env server event after) {other : Int}
    {frame : Frame} (member : frame ∈ server.newFrames other after) :
    frame.isHeaded = true ∧
      ((∃ rawCommand, event = .line other rawCommand) ∨ frame.isNotice = true) := by
  rcases step_newFrames steps member with
    ⟨fd, rawCommand, client, holder, verb, outcome, rfl, -, -, -, serves, -, inside⟩ |
    ⟨fd, client, user, -, -, -, rfl⟩
  · obtain ⟨headed, same | notice⟩ := serves_proper serves _ _ _ inside
    · exact ⟨headed, Or.inl ⟨rawCommand, by rw [same]⟩⟩
    · exact ⟨headed, Or.inr notice⟩
  · exact ⟨rfl, Or.inr rfl⟩

end Steps

end MyTeams
