/-
**One request, one response.**

A response is a status line or a complete list. A registered command appends exactly one to the
buffer of its requester, apart from events and notices, with one exception: USE replies to every
level that it checks, so with a team and a channel it sends at least two lines
(`one_response_iff`).
-/

import MyTeams.Invariants.Identities

namespace MyTeams

open Transition

/-- A status line: success or error. -/
def Frame.isStatus (frame : Frame) : Bool :=
  match frame.keywords.head? with
  | some .code200 | some .code201 | some .code400 | some .code401 | some .code403 | some .code404
  | some .code409 => true
  | _ => false

/-- One complete response: a status line, or a list from its first to its last line. -/
inductive Response : List Frame → Prop
  | status {frame : Frame} : frame.isStatus = true → Response [frame]
  | list (type : Keyword) (items : List (List Field)) : Response (Frame.listing type items)

/-- What remains of a sequence of messages without events and notices. -/
def responses (frames : List Frame) : List Frame := frames.filter fun frame => !frame.isNotice

/-- A USE that goes below the level of a team: the requester is logged in, names a channel too, and
is a subscriber of the team. -/
def BelowTeam (db : Database) (client : Client) (args : List Bytes) : Prop :=
  args.head? = some Verb.use.text ∧ client.userUuid ≠ [] ∧ 3 ≤ args.length ∧ args.length ≤ 4 ∧
    ∃ team, db.findTeam (args.getD 1 []) = some team ∧ client.userUuid ∈ team.subscriberUuids

section Command

variable {env : Env} {fd : Int} {client : Client} {server : Server} {verb : Verb} {outcome : Outcome}

theorem responses_append (first second : List Frame) :
    responses (first ++ second) = responses first ++ responses second := List.filter_append ..

theorem responses_notices {frames : List Frame} (notices : ∀ frame ∈ frames, frame.isNotice = true) :
    responses frames = [] := by
  refine List.filter_eq_nil_iff.mpr fun frame member => ?_
  simp [notices frame member]

theorem refusal_response {frame : Frame} (refusal : Refusal client frame) :
    Response (responses [frame]) := by
  cases refusal <;> exact .status rfl

theorem responses_listing (type : Keyword) (items : List (List Field)) :
    responses (Frame.listing type items) = Frame.listing type items :=
  List.filter_eq_self.mpr (Frame.forall_listing rfl (fun _ _ => rfl) rfl)

theorem shown_response {db : Database} {frames : List Frame} (shown : Shown client db verb frames) :
    Response (responses frames) := by
  rcases shown.form with ⟨word, rest, fields, rfl⟩ | ⟨type, items, rfl⟩
  · exact .status rfl
  · rw [responses_listing]
    exact .list type items

/-- An answer with notices behind it. -/
theorem answer_response {frame : Frame} {others : Letters} {session : Bytes}
    (status : frame.isStatus = true) (answer : frame.isNotice = false) (notices : others.Notices) :
    Response (responses (((Letters.toClient fd [frame]).followedBy others) fd session)) := by
  rw [Letters.followedBy, responses_append, responses_notices (notices fd session),
    Letters.toClient_self, responses, List.filter_cons_of_pos (by simp [answer])]
  exact .status status

/-- An answer with notices before it. -/
theorem confirmation_response {frame : Frame} {others : Letters} {session : Bytes}
    (status : frame.isStatus = true) (answer : frame.isNotice = false) (notices : others.Notices) :
    Response (responses ((others.followedBy (Letters.toClient fd [frame])) fd session)) := by
  rw [Letters.followedBy, responses_append, responses_notices (notices fd session),
    Letters.toClient_self, responses, List.filter_cons_of_pos (by simp [answer])]
  exact .status status

open Letters in
/-- A command that has not replied to several levels of USE gives one response. -/
theorem serves_response (serves : Serves env fd client server verb outcome)
    (single : ¬ (verb = .use ∧ 3 ≤ client.args.length ∧ client.args.length ≤ 4 ∧
      client.userUuid ≠ [] ∧ ∃ team, server.db.findTeam (client.arg 1) = some team ∧
        client.userUuid ∈ team.subscriberUuids)) :
    Response (responses (outcome.letters fd outcome.userUuid)) := by
  have alone : ∀ {frames : List Frame}, Response (responses frames) →
      Response (responses (toClient fd frames fd outcome.userUuid)) := by
    intro frames response
    rwa [toClient_self]
  cases serves with
  | refused refusal => exact alone (refusal_response refusal)
  | shown shown => exact alone (shown_response shown)
  | loginNew => exact answer_response rfl rfl (notices_toAll rfl)
  | loginAgain => exact answer_response rfl rfl (notices_toAll rfl)
  | logout => exact alone (.status rfl)
  | logoutLast => exact confirmation_response rfl rfl (notices_toAll rfl)
  | logoutUnknown => exact alone (.status rfl)
  | useNothing => exact alone (.status rfl)
  | useTeam => exact alone (.status rfl)
  | useChannel session count team member =>
    exact absurd ⟨rfl, by omega, by omega, session, _, team, member⟩ single
  | useThread session count team member =>
    exact absurd ⟨rfl, by omega, by omega, session, _, team, member⟩ single
  | useNoChannel session enough bounded team member =>
    exact absurd ⟨rfl, enough, bounded, session, _, team, member⟩ single
  | useNoThread session count team member =>
    exact absurd ⟨rfl, by omega, by omega, session, _, team, member⟩ single
  | createTeam => exact answer_response rfl rfl (notices_toAll rfl)
  | createChannel => exact answer_response rfl rfl (notices_toSubscribers rfl _)
  | createThread => exact answer_response rfl rfl (notices_toSubscribers rfl _)
  | createReply => exact answer_response rfl rfl (notices_toSubscribers rfl _)
  | subscribe => exact confirmation_response rfl rfl (notices_toSubscribers rfl _)
  | unsubscribe => exact confirmation_response rfl rfl (notices_toSubscribers rfl _)
  | send => exact confirmation_response rfl rfl (notices_toUser rfl _)

/-- Two replies are not one response. -/
theorem not_response_of_ok {next : Frame} {rest : List Frame} (answer : next.isNotice = false) :
    ¬ Response (responses (Frame.ok :: next :: rest)) := by
  have shape : responses (Frame.ok :: next :: rest) = Frame.ok :: next :: responses rest := by
    rw [responses, List.filter_cons_of_pos (by decide), List.filter_cons_of_pos (by simp [answer])]
    rfl
  rw [shape]
  generalize responses rest = others
  intro response
  cases response

end Command

section Line

variable {env : Env} {fd : Int} {client : Client} {server : Server} {verb : Verb}

/-- A line of a registered command gives one response, unless it is a USE below the level of a
team. -/
theorem line_response_iff (env : Env) {rawCommand : Bytes}
    (found : server.clients.find? fd = some client)
    (named : (CommandHandling.parseArgs rawCommand).head? = some verb.text) :
    Response (responses (server.newFrames fd
        (CommandHandling.handleCommand env rawCommand fd server))) ↔
      ¬ BelowTeam server.db client (CommandHandling.parseArgs rawCommand) := by
  have handled := handleCommand_of_named env found named
  have stored := find?_setArgs found (CommandHandling.parseArgs rawCommand)
  constructor
  · rintro response ⟨isUse, session, enough, bounded, team, present, subscribed⟩
    have isVerb : verb = .use := by
      rw [named, Option.some.injEq] at isUse
      exact Verb.text_injective isUse
    subst isVerb
    obtain ⟨outcome, next, rest, -, executed, -, letters, answer⟩ :=
      Use.execute_levels env stored session enough bounded present subscribed
    rw [handled.trans executed, newFrames_served found, letters, Letters.toClient_self] at response
    exact not_response_of_ok answer response
  · intro single
    obtain ⟨outcome, serves, committed⟩ := served_of_named env found named
    rw [committed, newFrames_served found]
    refine serves_response serves ?_
    rintro ⟨rfl, enough, bounded, session, team, present, subscribed⟩
    exact single ⟨named, session, enough, bounded, team, present, subscribed⟩

end Line

section Runs

/-- **One request, one response.** In every reachable state, a line of a registered command appends
exactly one response for its requester, if and only if it is not a USE below the level of a team. -/
theorem one_response_iff (env : Env) (db : Database) (events : List Event) (fd : Int)
    (rawCommand : Bytes) {client : Client} {verb : Verb}
    (found : (run (Server.step env) { db := db } events).clients.find? fd = some client)
    (named : (CommandHandling.parseArgs rawCommand).head? = some verb.text) :
    Response (responses ((run (Server.step env) { db := db } events).newFrames fd
        (run (Server.step env) { db := db } (events ++ [.line fd rawCommand])))) ↔
      ¬ BelowTeam (run (Server.step env) { db := db } events).db client
        (CommandHandling.parseArgs rawCommand) := by
  rw [run_concat]
  exact line_response_iff env found named

/-- A client logs in and creates a team, of which it is the only subscriber. -/
def teamOwner : List Event :=
  [.accept 4, .line 4 (ascii "/login \"ann\""), .line 4 (ascii "/create \"red\" \"first\"")]

/-- USE of a channel that does not exist, in a team of which the requester is a subscriber. -/
def useMissing : Bytes := ascii "/use \"" ++ digitUuid 1 ++ ascii "\" \"nowhere\""

/-- The reply to the level of the team is sent before the channel is looked up. -/
theorem use_missing_twice :
    (run (Server.step sampleEnv) { db := {} } teamOwner).newFrames 4
        (run (Server.step sampleEnv) { db := {} } (teamOwner ++ [.line 4 useMissing]))
      = [Frame.ok, Frame.notFoundKind .channel (ascii "nowhere")] := by
  decide

/-- It is not so for every line. -/
theorem not_one_response :
    ¬ ∀ (env : Env) (db : Database) (events : List Event) (fd : Int) (rawCommand : Bytes)
      (client : Client) (verb : Verb),
      (run (Server.step env) { db := db } events).clients.find? fd = some client →
      (CommandHandling.parseArgs rawCommand).head? = some verb.text →
      Response (responses ((run (Server.step env) { db := db } events).newFrames fd
        (run (Server.step env) { db := db } (events ++ [.line fd rawCommand])))) := by
  intro each
  have found : ∃ client, (run (Server.step sampleEnv) { db := {} } teamOwner).clients.find? 4
      = some client := Option.isSome_iff_exists.mp (by decide)
  obtain ⟨client, found⟩ := found
  have response := each sampleEnv {} teamOwner 4 useMissing client .use found (by decide)
  rw [use_missing_twice] at response
  exact not_response_of_ok rfl response

/-- One response to the line that creates the team. -/
theorem one_response_sample :
    Response (responses ((run (Server.step sampleEnv) { db := {} } (teamOwner.take 2)).newFrames 4
      (run (Server.step sampleEnv) { db := {} } (teamOwner.take 2 ++
        [.line 4 (ascii "/create \"red\" \"first\"")])))) := by
  have found : ∃ client, (run (Server.step sampleEnv) { db := {} } (teamOwner.take 2)).clients.find? 4
      = some client := Option.isSome_iff_exists.mp (by decide)
  obtain ⟨client, found⟩ := found
  have named : (CommandHandling.parseArgs (ascii "/create \"red\" \"first\"")).head?
      = some (Verb.text .create) := by decide
  refine (one_response_iff sampleEnv {} (teamOwner.take 2) 4 _ found named).mpr fun below => ?_
  exact absurd below.1 (by decide)

end Runs

end MyTeams
