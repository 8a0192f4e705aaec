/-
**A refused line changes nothing.**

An error line is an answer that leaves everything else as it was (`serves_error`): every check of a
command comes before its first write, also in USE, which answers the levels that it has already found
before it refuses the next one, and sets the context at the end.
-/

import MyTeams.Invariants.Identities
import MyTeams.Server.Session

namespace MyTeams

/-- A status line of one of the five kinds of errors. -/
def Frame.isError (frame : Frame) : Bool :=
  match frame.keywords.head? with
  | some .code400 | some .code401 | some .code403 | some .code404 | some .code409 => true
  | _ => false

section Command

variable {env : Env} {fd : Int} {client : Client} {server : Server} {verb : Verb} {outcome : Outcome}

/-- A letter without error lines. -/
def Letters.Fine (letters : Letters) : Prop := letters.All fun frame => frame.isError = false

open Letters in
/-- A command only answers, or it sends no error line. -/
theorem serves_fine (serves : Serves env fd client server verb outcome) :
    (∃ frames, outcome = Outcome.answer fd client server frames) ∨ outcome.letters.Fine := by
  have answered : ∀ {answer : Frame} {others : Letters}, answer.isError = false → others.Fine →
      ((toClient fd [answer]).followedBy others).Fine :=
    fun fine others => (all_answer fd fine).followedBy others
  have confirmed : ∀ {answer : Frame} {others : Letters}, answer.isError = false → others.Fine →
      (others.followedBy (toClient fd [answer])).Fine :=
    fun fine others => others.followedBy (all_answer fd fine)
  have oks : ∀ count : Nat, (toClient fd (List.replicate count Frame.ok)).Fine :=
    fun count => all_toClient fd fun _ member => List.eq_of_mem_replicate member ▸ rfl
  cases serves with
  | refused => exact Or.inl ⟨_, rfl⟩
  | shown => exact Or.inl ⟨_, rfl⟩
  | useNoChannel => exact Or.inl ⟨_, rfl⟩
  | useNoThread => exact Or.inl ⟨_, rfl⟩
  | loginNew => exact Or.inr (answered rfl (all_toAll rfl))
  | loginAgain => exact Or.inr (answered rfl (all_toAll rfl))
  | logout => exact Or.inr (oks 1)
  | logoutLast => exact Or.inr (confirmed rfl (all_toAll rfl))
  | logoutUnknown => exact Or.inr (oks 1)
  | useNothing => exact Or.inr (oks 1)
  | useTeam => exact Or.inr (oks 1)
  | useChannel => exact Or.inr (oks 2)
  | useThread => exact Or.inr (oks 3)
  | createTeam => exact Or.inr (answered rfl (all_toAll rfl))
  | createChannel => exact Or.inr (answered rfl (all_toSubscribers _ rfl))
  | createThread => exact Or.inr (answered rfl (all_toSubscribers _ rfl))
  | createReply => exact Or.inr (answered rfl (all_toSubscribers _ rfl))
  | subscribe => exact Or.inr (confirmed rfl (all_toSubscribers _ rfl))
  | unsubscribe => exact Or.inr (confirmed rfl (all_toSubscribers _ rfl))
  | send => exact Or.inr (confirmed rfl (all_toUser _ rfl))

/-- **A command that appends an error line only answers.** -/
theorem serves_error (serves : Serves env fd client server verb outcome) {session : Bytes}
    {frame : Frame} (member : frame ∈ outcome.letters fd session) (error : frame.isError = true) :
    ∃ frames, outcome = Outcome.answer fd client server frames := by
  rcases serves_fine serves with answers | fine
  · exact answers
  · have none : frame.isError = false := fine fd session frame member
    rw [error] at none
    cases none

/-- An answer keeps the database, the sessions and the other clients. -/
theorem answer_untouched (found : server.clients.find? fd = some client) (frames : List Frame) :
    let after := (Outcome.answer fd client server frames).commit fd server
    after.db = server.db ∧ (∀ other, after.session other = server.session other) ∧
      ∀ other, other ≠ fd → after.clients.find? other = server.clients.find? other := by
  rw [Outcome.commit_answer found, Server.sendAllToClient_eq]
  refine ⟨rfl, fun other => session_deliver _ _ other, fun other different => ?_⟩
  rw [Server.find?_deliver]
  simp only [Letters.toClient_of_ne different, Client.receive_nil]
  exact Option.map_id_apply

end Command

/-- **Error atomicity.** In any state, a line writes its messages behind what is still in the write
buffer of the requester. If one of them is an error, the database and all sessions and contexts are
what they were, and so is every other client, its write buffer included. -/
theorem error_atomicity (env : Env) (server : Server) (fd : Int) (rawCommand : Bytes)
    {client : Client} (found : server.clients.find? fd = some client) :
    let after := CommandHandling.handleCommand env rawCommand fd server
    (∃ requester, after.clients.find? fd = some requester ∧ requester.writeBuffer
      = client.writeBuffer ++ (server.newFrames fd after).flatMap Frame.render) ∧
    ((∃ frame ∈ server.newFrames fd after, frame.isError = true) →
      after.db = server.db ∧ (∀ other, after.session other = server.session other) ∧
      ∀ other, other ≠ fd → after.clients.find? other = server.clients.find? other) := by
  intro after
  refine ⟨line_writes env rawCommand fd found, ?_⟩
  rintro ⟨frame, member, error⟩
  have steps : Steps env server (.line fd rawCommand) after :=
    line_steps env server fd rawCommand
  rcases step_newFrames steps member with
    ⟨sender, raw, requester, holder, verb, outcome, same, present, here, -, serves, committed, letter⟩ |
    ⟨_, _, _, other, -⟩
  · cases same
    rw [if_pos rfl] at letter
    obtain ⟨frames, rfl⟩ := serves_error serves letter error
    have stored := find?_setArgs present (CommandHandling.parseArgs rawCommand)
    obtain ⟨db, sessions, others⟩ := answer_untouched stored frames
    rw [committed]
    refine ⟨db, fun other => ?_, fun other different => ?_⟩
    · rw [sessions other, session_modifyClient (quiet_setArgs _)]
    · rw [others other different, Server.modifyClient, SortedMap.find?_modify_of_ne different]
  · cases other

/-- A USE that finds its team and then refuses the channel. -/
theorem error_atomicity_sample :
    let server := Transition.run (Server.handle sampleEnv) { db := {} } [.accept 4,
      .read 4 (ascii "/login \"ann\"\n/create \"red\" \"first\"\n")]
    let line := ascii "/use \"" ++ (digitUuid 1).1 ++ ascii "\" \"nowhere\""
    let after := CommandHandling.handleCommand sampleEnv line 4 server
    server.newFrames 4 after = [Frame.ok, Frame.notFoundKind .channel (ascii "nowhere")] ∧
      after.db = server.db ∧ after.session 4 = server.session 4 := by
  intro server line after
  have appended : server.newFrames 4 after
      = [Frame.ok, Frame.notFoundKind .channel (ascii "nowhere")] := by decide
  obtain ⟨client, found⟩ : ∃ client, server.clients.find? 4 = some client :=
    Option.isSome_iff_exists.mp (by decide)
  obtain ⟨db, sessions, -⟩ := (error_atomicity sampleEnv server 4 line found).2
    ⟨_, by rw [appended]; exact List.mem_cons_of_mem _ List.mem_cons_self, rfl⟩
  exact ⟨appended, db, sessions 4⟩

end MyTeams
