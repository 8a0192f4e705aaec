/-
**Which command a reply answers.**

The client remembers the last command that it sent, while replies are on their way. So a reply is
taken for the reply to another command as soon as a line is typed before the replies to earlier
commands have arrived. Replies are attributed correctly while no line is sent before every earlier
command with another name is settled: read by the server, and all its OK and NOT_FOUND lines routed. A
USERS, which has no such reply, need not be settled (`reply_attribution`).
-/

import MyTeams.ClientApp.Link
import MyTeams.Invariants.Messages
import MyTeams.Invariants.Provenance

namespace MyTeams

open Transition

/-- A reply whose handling depends on the pending command: 200 OK or 404. -/
def IsAnswer (frame : Frame) : Prop :=
  frame.keywords.take 2 = [.code200, .ok] ∨ frame.keywords.head? = some .code404

instance (frame : Frame) : Decidable (IsAnswer frame) := by
  unfold IsAnswer
  infer_instance

/-- What a step does with the pending command. -/
structure Attributed (env : Env) (fd : Int) (link : Link) (event : LinkEvent) : Prop where
  /-- A 200 OK or 404 line is routed while the command that it answers is pending. -/
  pending : event = .route → link.router.shouldDisconnect = false →
    ∀ frame answered rest, link.replies = (frame, answered) :: rest → IsAnswer frame →
      answered = some link.router.pendingCommand
  /-- The client disconnects at the 200 OK line that answers a LOGOUT. -/
  disconnect : link.router.shouldDisconnect = false →
    (link.step env fd event).router.shouldDisconnect = true →
    event = .route ∧ ∃ frame rest, link.replies = (frame, some (ascii "/logout")) :: rest ∧
      frame.keywords.take 2 = [.code200, .ok]

/-- A request on its way can only be answered under this name: it has the name, or no such reply. -/
def AnswersAs (command request : Bytes) : Prop :=
  (CommandHandling.parseArgs request).head? = some command ∨
    (CommandHandling.parseArgs request).head? = some Verb.users.text

/-- A line is sent only when every earlier command with another name, USERS apart, is settled. -/
def Settled (link : Link) (event : LinkEvent) : Prop :=
  ∀ line command frame, event = .type line → link.router.shouldDisconnect = false →
    ClientApplication.dispatchCommandLine line = .sent command frame →
    (∀ request ∈ link.requests, AnswersAs command request) ∧
    ∀ reply answered, (reply, answered) ∈ link.replies → IsAnswer reply → answered = some command

/-- A client that has just been connected to a server after a run. -/
def Link.start (env : Env) (before : List Event) : Link :=
  { server := run (Server.step env) {} before }

/-- Everything on its way belongs to the pending command. -/
structure Link.Pending (link : Link) : Prop where
  requests : ∀ request ∈ link.requests, AnswersAs link.router.pendingCommand request
  replies : ∀ frame answered, (frame, answered) ∈ link.replies → IsAnswer frame →
    answered = some link.router.pendingCommand
  headed : ∀ frame answered, (frame, answered) ∈ link.replies → frame.isHeaded = true
  storable : ∀ frame answered, (frame, answered) ∈ link.replies → frame.Carries Storable
  stored : link.server.Carries Storable

section Steps

variable {env : Env} {fd : Int} {link : Link}

theorem not_answer_of_notice {frame : Frame} (notice : frame.isNotice = true) : ¬ IsAnswer frame := by
  unfold Frame.isNotice at notice
  rintro (ok | missing)
  · cases words : frame.keywords with
    | nil =>
      rw [words] at ok
      cases ok
    | cons first rest =>
      rw [words, List.take_succ_cons] at ok
      rw [words, List.head?_cons, (List.cons.inj ok).1] at notice
      cases notice
  · rw [missing] at notice
    cases notice

theorem pending_type (pending : link.Pending) {line : Bytes} (settled : Settled link (.type line)) :
    (link.type line).Pending := by
  unfold Link.type
  split_ifs with gone
  · exact pending
  · cases dispatched : ClientApplication.dispatchCommandLine line with
    | nothing => exact pending
    | printed text =>
      exact ⟨pending.requests, pending.replies, pending.headed, pending.storable, pending.stored⟩
    | sent command frame =>
      obtain ⟨requests, replies⟩ := settled line command frame rfl (by simpa using gone) dispatched
      refine ⟨fun request member => ?_, replies, pending.headed, pending.storable, pending.stored⟩
      rcases List.mem_append.mp member with old | new
      · exact requests request old
      · rw [List.mem_singleton.mp new]
        exact Or.inl (sent_command dispatched)

/-- USERS is answered by a list or by 401. -/
theorem users_not_answer {server : Server} {request : Bytes}
    (named : (CommandHandling.parseArgs request).head? = some Verb.users.text) {frame : Frame}
    (member : frame ∈ server.newFrames fd (server.step env (.line fd request))) : ¬ IsAnswer frame := by
  cases found : server.clients.find? fd with
  | none =>
    have still : server.step env (.line fd request) = server := handleCommand_of_none env request found
    rw [still, Server.newFrames, List.drop_length] at member
    cases member
  | some client =>
    have handled : server.step env (.line fd request) = UsersCommand.execute fd
        (client.setArgs (CommandHandling.parseArgs request))
        (server.modifyClient fd (Client.setArgs (CommandHandling.parseArgs request))) :=
      handleCommand_of_named env found named
    rw [handled] at member
    unfold UsersCommand.execute at member
    split_ifs at member
    · have refused : frame ∈ [Frame.unauthorized] :=
        newFrames_answered (CommandHandling.parseArgs request) [Frame.unauthorized] found ▸ member
      rw [List.mem_singleton.mp refused]
      decide
    · rw [newFrames_answered _ _ found] at member
      have item : ∀ fields, ¬ IsAnswer (Frame.item fields) := by
        rintro fields (ok | missing)
        · cases ok
        · cases missing
      have each := @Frame.forall_listing (fun frame => ¬ IsAnswer frame) .users
        (server.db.users.map Frame.userFields) (by decide) (fun fields _ => item fields) (by decide)
      exact each frame member

theorem pending_serve (pending : link.Pending) : (link.serve env fd).Pending := by
  unfold Link.serve
  cases waiting : link.requests with
  | nil => exact pending
  | cons request rest =>
    have carries : (link.server.step env (.line fd request)).Carries Storable :=
      step_carries source_storable (event_storable _) pending.stored
    have first := pending.requests request (by rw [waiting]; exact List.mem_cons_self)
    have steps := step_steps env link.server (.line fd request)
    have new : ∀ frame answered, (frame, answered) ∈ (link.server.newFrames fd
        (link.server.step env (.line fd request))).map (fun frame => (frame, answeredBy request frame)) →
        frame ∈ link.server.newFrames fd (link.server.step env (.line fd request)) ∧
          answered = answeredBy request frame := by
      intro frame answered member
      obtain ⟨sent, inside, same⟩ := List.mem_map.mp member
      cases same
      exact ⟨inside, rfl⟩
    refine ⟨fun other member => ?_, fun frame answered member answer => ?_,
      fun frame answered member => ?_, fun frame answered member => ?_, carries⟩
    · exact pending.requests other (by rw [waiting]; exact List.mem_cons_of_mem _ member)
    · rcases List.mem_append.mp member with old | appended
      · exact pending.replies frame answered old answer
      · obtain ⟨-, rfl⟩ := new frame answered appended
        have named := first.resolve_right fun users =>
          users_not_answer users (new frame (answeredBy request frame) appended).1 answer
        unfold answeredBy
        rw [if_neg fun notice => not_answer_of_notice notice answer, named]
    · rcases List.mem_append.mp member with old | appended
      · exact pending.headed frame answered old
      · exact (step_proper steps (new frame answered appended).1).1
    · rcases List.mem_append.mp member with old | appended
      · exact pending.storable frame answered old
      · exact newFrames_carries carries (new frame answered appended).1

theorem pending_route (pending : link.Pending) : link.route.Pending := by
  unfold Link.route
  split_ifs with gone
  · exact pending
  · cases waiting : link.replies with
    | nil => exact pending
    | cons first rest =>
      obtain ⟨frame, answered⟩ := first
      have kept : (link.router.routeFrame frame.line).pendingCommand = link.router.pendingCommand := by
        rcases ServerMessageRouter.routeFrame_cases link.router frame.line with keeps | ⟨_, -, -, quits⟩
        · exact keeps.pendingCommand
        · exact quits.pendingCommand
      have later : ∀ {reply}, reply ∈ rest → reply ∈ link.replies := fun member => by
        rw [waiting]
        exact List.mem_cons_of_mem _ member
      refine ⟨?_, ?_, fun reply answered member => pending.headed reply answered (later member),
        fun reply answered member => pending.storable reply answered (later member), pending.stored⟩
      · simp only [kept]
        exact pending.requests
      · simp only [kept]
        exact fun reply answered member => pending.replies reply answered (later member)

theorem pending_other (pending : link.Pending) (event : Event) : (link.other env fd event).Pending := by
  unfold Link.other
  split_ifs with elsewhere
  · have carries : (link.server.step env event).Carries Storable :=
      step_carries source_storable (event_storable event) pending.stored
    have steps := step_steps env link.server event
    have notice : ∀ frame ∈ link.server.newFrames fd (link.server.step env event),
        frame.isNotice = true := by
      intro frame member
      rcases (step_proper steps member).2 with ⟨rawCommand, rfl⟩ | notice
      · simp [Event.elsewhere] at elsewhere
      · exact notice
    refine ⟨pending.requests, fun frame answered member answer => ?_,
      fun frame answered member => ?_, fun frame answered member => ?_, carries⟩
    all_goals rcases List.mem_append.mp member with old | appended
    · exact pending.replies frame answered old answer
    · obtain ⟨sent, inside, same⟩ := List.mem_map.mp appended
      cases same
      exact absurd answer (not_answer_of_notice (notice frame inside))
    · exact pending.headed frame answered old
    · obtain ⟨sent, inside, same⟩ := List.mem_map.mp appended
      cases same
      exact (step_proper steps inside).1
    · exact pending.storable frame answered old
    · obtain ⟨sent, inside, same⟩ := List.mem_map.mp appended
      cases same
      exact newFrames_carries carries inside
  · exact pending

/-- **A step keeps the attribution**, if a line is sent only when it may be. -/
theorem step_pending (pending : link.Pending) {event : LinkEvent} (settled : Settled link event) :
    (link.step env fd event).Pending := by
  cases event with
  | type line => exact pending_type pending settled
  | serve => exact pending_serve pending
  | route => exact pending_route pending
  | other event => exact pending_other pending event

/-- The client disconnects at a 200 OK line, while a LOGOUT is pending. -/
theorem route_disconnects {frame : Frame} (headed : frame.isHeaded = true)
    (storable : frame.Carries Storable) (stays : link.router.shouldDisconnect = false)
    (leaves : (link.router.routeFrame frame.line).shouldDisconnect = true) :
    frame.keywords.take 2 = [.code200, .ok] ∧ link.router.pendingCommand = ascii "/logout" := by
  rcases ServerMessageRouter.routeFrame_cases link.router frame.line with
    keeps | ⟨tokens, read, first, quits⟩
  · rw [keeps.shouldDisconnect, stays] at leaves
    cases leaves
  refine ⟨?_, quits.logout⟩
  rw [parse_line storable, Option.some_inj] at read
  subst read
  have ok := quits.ok
  unfold Frame.isHeaded at headed
  unfold Frame.wire at first ok
  -- the first two tokens are the first two words
  cases words : frame.keywords with
  | nil =>
    rw [words] at headed
    cases headed
  | cons code later =>
    rw [words] at headed first ok
    have isCode : code = .code200 := by
      have same : code.text = ascii "200" := Option.some.inj first
      cases code <;> first | rfl | exact absurd same (by decide)
    subst isCode
    cases later with
    | nil => cases headed
    | cons word rest =>
      have isOk : word = .ok := by
        have same : word.text = ascii "OK" := ok
        cases word <;> first | rfl | exact absurd same (by decide)
      rw [isOk]
      rfl

theorem pending_attributed (pending : link.Pending) (event : LinkEvent) :
    Attributed env fd link event := by
  refine ⟨fun _ _ frame answered rest waiting answer => ?_, fun stays leaves => ?_⟩
  · exact pending.replies frame answered (by rw [waiting]; exact List.mem_cons_self) answer
  cases event with
  | route =>
    refine ⟨rfl, ?_⟩
    change link.route.router.shouldDisconnect = true at leaves
    unfold Link.route at leaves
    rw [if_neg (by rw [stays]; exact Bool.false_ne_true)] at leaves
    cases waiting : link.replies with
    | nil =>
      rw [waiting] at leaves
      rw [stays] at leaves
      cases leaves
    | cons head rest =>
      obtain ⟨frame, answered⟩ := head
      rw [waiting] at leaves
      have member : (frame, answered) ∈ link.replies := by
        rw [waiting]
        exact List.mem_cons_self
      obtain ⟨ok, logout⟩ := route_disconnects (pending.headed frame answered member)
        (pending.storable frame answered member) stays leaves
      have answers := pending.replies frame answered member (Or.inl ok)
      rw [logout] at answers
      exact ⟨frame, rest, by rw [answers], ok⟩
  | type line =>
    change (link.type line).router.shouldDisconnect = true at leaves
    unfold Link.type at leaves
    rw [if_neg (by rw [stays]; exact Bool.false_ne_true)] at leaves
    split at leaves
    all_goals
      change link.router.shouldDisconnect = true at leaves
      rw [stays] at leaves
      cases leaves
  | serve =>
    change (link.serve env fd).router.shouldDisconnect = true at leaves
    unfold Link.serve at leaves
    split at leaves
    all_goals
      change link.router.shouldDisconnect = true at leaves
      rw [stays] at leaves
      cases leaves
  | other event =>
    change (link.other env fd event).router.shouldDisconnect = true at leaves
    unfold Link.other at leaves
    split_ifs at leaves
    all_goals
      change link.router.shouldDisconnect = true at leaves
      rw [stays] at leaves
      cases leaves

end Steps

theorem start_pending (env : Env) (before : List Event) : (Link.start env before).Pending :=
  ⟨fun _ member => absurd member List.not_mem_nil, fun _ _ member => absurd member List.not_mem_nil,
    fun _ _ member => absurd member List.not_mem_nil, fun _ _ member => absurd member List.not_mem_nil,
    run_storable before⟩

/-- **Replies are attributed correctly** in every run in which a line is sent only when every earlier
command with another name is settled. -/
theorem reply_attribution (env : Env) (fd : Int) (before : List Event) (events : List LinkEvent)
    (settled : Throughout (Link.step env fd) Settled (Link.start env before) events) :
    Throughout (Link.step env fd) (Attributed env fd) (Link.start env before) events := by
  have reached : ∀ early, early <+: events →
      (run (Link.step env fd) (Link.start env before) early).Pending := by
    intro early initial
    induction early using List.reverseRecOn with
    | nil => exact start_pending env before
    | append_singleton early event ih =>
      rw [run_concat]
      exact step_pending (ih ((List.prefix_append _ _).trans initial)) (settled early event initial)
  intro early event initial
  exact pending_attributed (reached early ((List.prefix_append _ _).trans initial)) event

theorem settled_of_empty {link : Link} {line : Bytes} (requests : link.requests = [])
    (replies : link.replies = []) : Settled link (.type line) := by
  intro _ _ _ _ _ _
  rw [requests, replies]
  exact ⟨fun _ member => absurd member List.not_mem_nil,
    fun _ _ member => absurd member List.not_mem_nil⟩

/-- A login, and a logout after its two messages have been routed. -/
def patientSession : List LinkEvent :=
  [.type (ascii "/login \"ann\""), .serve, .route, .route, .type (ascii "/logout"), .serve, .route,
    .route]

theorem reply_attribution_sample :
    Throughout (Link.step sampleEnv 4) (Attributed sampleEnv 4) (Link.start sampleEnv [.accept 4])
      patientSession := by
  refine reply_attribution sampleEnv 4 [.accept 4] patientSession ?_
  unfold patientSession
  have other : ∀ {link : Link} {event : LinkEvent}, (∀ line, event ≠ .type line) →
      Settled link event := fun different line _ _ same => absurd same (different line)
  simp only [throughout_cons, throughout_nil, and_true]
  exact ⟨settled_of_empty rfl rfl, other (by simp), other (by simp), other (by simp),
    settled_of_empty rfl rfl, other (by simp), other (by simp), other (by simp)⟩

/-- A logout that is typed before the reply to USE has arrived. -/
def hastySession : List LinkEvent :=
  [.type (ascii "/login \"ann\""), .serve, .route, .route, .type (ascii "/use"),
    .type (ascii "/logout"), .serve]

/-- The client disconnects at the reply to USE, before the server has read its LOGOUT. -/
theorem not_reply_attribution : ¬ ∀ (env : Env) (fd : Int) (before : List Event)
    (events : List LinkEvent), Throughout (Link.step env fd) (Attributed env fd)
      (Link.start env before) events := by
  intro each
  have attributed := each sampleEnv 4 [.accept 4] (hastySession ++ [.route]) hastySession .route
    (List.prefix_refl _)
  have waiting : (run (Link.step sampleEnv 4) (Link.start sampleEnv [.accept 4]) hastySession).replies
      = [(Frame.ok, some (ascii "/use"))] := by decide
  obtain ⟨-, frame, rest, replies, -⟩ := attributed.disconnect (by decide) (by decide)
  rw [waiting] at replies
  have answered := (List.cons.inj replies).1
  exact absurd (Prod.mk.inj answered).2 (by decide)

end MyTeams
