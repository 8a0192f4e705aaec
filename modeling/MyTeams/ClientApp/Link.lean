/-
**A client connected to the server.**

The frames of the client and the messages of the server travel in order: `Link` has the client's
router, the frames that the server has not read, the server, and the messages that the client has not
routed. Lines may be typed at any time, and the other clients of the server may do anything.

Each message on its way to the client is kept with the name of the command that it answers, which
neither program reads.
-/

import MyTeams.ClientApp.Router
import MyTeams.ClientApp.Segments
import MyTeams.Server.Machine

namespace MyTeams

structure Link where
  router : ServerMessageRouter := {}
  /-- What was given to `sendCommandFrame` and has not reached the server. -/
  requests : List Bytes := []
  server : Server := {}
  /-- What was appended for the client and has not been routed. -/
  replies : List (Frame × Option Bytes) := []

inductive LinkEvent
  /-- A line on the standard input of the client. -/
  | type (line : Bytes)
  /-- The server handles the next line of the client. -/
  | serve
  /-- The client routes the next message. -/
  | route
  /-- Anything else that happens to the server. -/
  | other (event : Event)

/-- An event that leaves the connection of a client alone. -/
def Event.elsewhere (fd : Int) : Event → Bool
  | .accept other => other ≠ fd
  | .line other _ => other ≠ fd
  | .disconnect other => other ≠ fd
  | .restart => false
  | _ => true

/-- The command that a message appended for the sender of a line answers. -/
def answeredBy (request : Bytes) (frame : Frame) : Option Bytes :=
  if frame.isNotice then none else (CommandHandling.parseArgs request).head?

namespace Link

/-- A typed line; a client that disconnects has left its event loop. -/
def type (line : Bytes) (link : Link) : Link :=
  if link.router.shouldDisconnect then link
  else
    match ClientApplication.dispatchCommandLine line with
    | .nothing => link
    | .printed text =>
      { link with router := { link.router with output := link.router.output ++ [.stdout text] } }
    | .sent command frame =>
      { link with
        router := link.router.setPendingCommand command
        requests := link.requests ++ [frame] }

/-- The next line of the client on the server. -/
def serve (env : Env) (fd : Int) (link : Link) : Link :=
  match link.requests with
  | [] => link
  | request :: rest =>
    let after := link.server.step env (.line fd request)
    { link with
      requests := rest
      server := after
      replies := link.replies ++
        (link.server.newFrames fd after).map fun frame => (frame, answeredBy request frame) }

/-- The next message on the client. -/
def route (link : Link) : Link :=
  if link.router.shouldDisconnect then link
  else
    match link.replies with
    | [] => link
    | (frame, _) :: rest =>
      { link with
        router := link.router.routeFrame frame.line
        replies := rest }

/-- Something else on the server. -/
def other (env : Env) (fd : Int) (event : Event) (link : Link) : Link :=
  if event.elsewhere fd then
    let after := link.server.step env event
    { link with
      server := after
      replies := link.replies ++ (link.server.newFrames fd after).map fun frame => (frame, none) }
  else link

def step (env : Env) (fd : Int) (link : Link) : LinkEvent → Link
  | .type line => link.type line
  | .serve => link.serve env fd
  | .route => link.route
  | .other event => link.other env fd event

end Link

/-! ### What the router keeps -/

namespace ServerMessageRouter

/-- The pending command and the wish to disconnect are as before. -/
structure Keeps (before after : ServerMessageRouter) : Prop where
  pendingCommand : after.pendingCommand = before.pendingCommand
  shouldDisconnect : after.shouldDisconnect = before.shouldDisconnect

variable (tokens : List Bytes) (router : ServerMessageRouter)

theorem keeps_refl : Keeps router router := ⟨rfl, rfl⟩

theorem keeps_call (callback : Callback) (arguments : List Argument) :
    Keeps router (router.call callback arguments) := ⟨rfl, rfl⟩

theorem keeps_callTexts (minTokens : Nat) (callback : Callback) (positions : List Nat) :
    Keeps router (callTexts minTokens callback positions tokens router) := by
  unfold callTexts
  split_ifs
  · exact keeps_refl router
  · exact keeps_call router _ _

theorem keeps_callMixed (minTokens : Nat) (callback : Callback) (before : List Nat) (number : Nat)
    (parse : Bytes → Option Int) (after : List Nat) :
    Keeps router (callMixed minTokens callback before number parse after tokens router) := by
  unfold callMixed
  split_ifs
  · exact keeps_refl router
  · cases parse (tokens.getD number []) with
    | none => exact keeps_refl router
    | some value => exact keeps_call router _ _

open ResponseStatusHandler

/-- What the handler that is found in a table does. -/
theorem lookup_handled {table : List (Bytes × Handler)} {key : Bytes}
    (R : ServerMessageRouter → Prop) (missing : R router)
    (each : ∀ entry ∈ table, entry.1 = key → R (entry.2 tokens router)) :
    R (match table.lookup key with
      | none => router
      | some handler => handler tokens router) := by
  cases found : table.lookup key with
  | none => exact missing
  | some handler =>
    obtain ⟨before, after, split, -⟩ := List.lookup_eq_some_iff.mp found
    exact each (key, handler) (split ▸ List.mem_append_right _ List.mem_cons_self) rfl

theorem keeps_listHandlers : ∀ entry ∈ listHandlers, Keeps router (entry.2 tokens router) := by
  unfold listHandlers
  simp only [List.forall_mem_cons]
  exact ⟨keeps_callMixed .., keeps_callTexts .., keeps_callTexts .., keeps_callMixed ..,
    keeps_callMixed .., keeps_callMixed .., List.forall_mem_nil _⟩

theorem keeps_handle200Info : Keeps router (handle200Info tokens router) := by
  unfold handle200Info
  split_ifs
  · exact keeps_refl router
  · have each : ∀ entry ∈ [(ascii "USER", handle200InfoUser), (ascii "TEAM", handle200InfoTeam),
        (ascii "CHANNEL", handle200InfoChannel), (ascii "THREAD", handle200InfoThread)],
        Keeps router (entry.2 tokens router) := by
      simp only [List.forall_mem_cons]
      exact ⟨keeps_callMixed .., keeps_callTexts .., keeps_callTexts .., keeps_callMixed ..,
        List.forall_mem_nil _⟩
    exact lookup_handled tokens router (Keeps router) (keeps_refl router) fun entry member _ => each entry member

theorem keeps_handle201 : Keeps router (handle201 tokens router) := by
  unfold handle201
  simp only
  split_ifs
  · exact keeps_refl router
  · exact keeps_callTexts ..
  · exact keeps_callTexts ..
  · exact keeps_callMixed ..
  · exact keeps_callMixed ..
  · exact keeps_refl router

theorem keeps_handle404 : Keeps router (handle404 tokens router) := by
  unfold handle404
  simp only
  split_ifs <;> exact ⟨rfl, rfl⟩

/-- A message after which the client disconnects: OK to a LOGOUT, without further fields. -/
structure Quits (after : ServerMessageRouter) : Prop where
  pendingCommand : after.pendingCommand = router.pendingCommand
  ok : tokens.getD 1 [] = ascii "OK"
  logout : router.pendingCommand = ascii "/logout"

theorem handle200_cases : Keeps router (handle200 tokens router) ∨
    Quits tokens router (handle200 tokens router) := by
  unfold handle200
  split_ifs
  · exact Or.inl (keeps_refl router)
  refine lookup_handled tokens router
    (fun after => Keeps router after ∨ Quits tokens router after) (Or.inl (keeps_refl router)) ?_
  simp only [List.forall_mem_cons]
  refine ⟨fun key => ?_, fun _ => Or.inl (keeps_callMixed ..), fun _ => Or.inl (keeps_callTexts ..),
    fun _ => Or.inl (keeps_callTexts ..), fun _ => Or.inl (keeps_handle200Info ..),
    List.forall_mem_nil _⟩
  simp only [handle200Ok]
  split_ifs with enough logout
  · exact Or.inl ⟨rfl, rfl⟩
  · exact Or.inr ⟨rfl, key.symm, logout⟩
  · exact Or.inl (keeps_refl router)

theorem dispatch_cases (command : Bytes) : Keeps router (router.dispatch command tokens) ∨
    command = ascii "200" ∧ Quits tokens router (router.dispatch command tokens) := by
  unfold dispatch
  refine lookup_handled tokens router
    (fun after => Keeps router after ∨ command = ascii "200" ∧ Quits tokens router after)
    (Or.inl (keeps_refl router)) ?_
  unfold handlers
  simp only [List.forall_mem_cons]
  refine ⟨fun _ => Or.inl (keeps_callTexts ..), fun _ => Or.inl (keeps_callTexts ..),
    fun _ => Or.inl (keeps_callMixed ..), fun _ => Or.inl (keeps_callTexts ..),
    fun _ => Or.inl (keeps_callTexts ..), fun _ => Or.inl (keeps_callTexts ..),
    fun _ => Or.inl (keeps_callTexts ..), fun key => ?_, fun _ => Or.inl (keeps_handle201 ..),
    fun _ => Or.inl ⟨rfl, rfl⟩, fun _ => Or.inl ⟨rfl, rfl⟩, fun _ => Or.inl ⟨rfl, rfl⟩,
    fun _ => Or.inl (keeps_handle404 ..), fun _ => Or.inl ⟨rfl, rfl⟩, List.forall_mem_nil _⟩
  exact (handle200_cases tokens router).imp_right fun quits => ⟨key.symm, quits⟩

/-- **The router makes the client disconnect only at a message that starts with 200 OK**, while the
pending command is a LOGOUT. -/
theorem routeTokens_cases : Keeps router (router.routeTokens tokens) ∨
    tokens.head? = some (ascii "200") ∧ Quits tokens router (router.routeTokens tokens) := by
  cases tokens with
  | nil => exact Or.inl (keeps_refl router)
  | cons first rest =>
    simp only [routeTokens]
    split_ifs
    · cases rest <;> exact Or.inl ⟨rfl, rfl⟩
    · exact Or.inl ⟨rfl, rfl⟩
    · exact Or.inl (lookup_handled _ router (Keeps router) (keeps_refl router)
        fun entry member _ => keeps_listHandlers _ router entry member)
    · cases rest with
      | nil => exact Or.inl (keeps_refl router)
      | cons command others =>
        rcases dispatch_cases (first :: command :: others) router command with keeps | ⟨code, quits⟩
        · exact Or.inl keeps
        · have ok : command = ascii "OK" := quits.ok
          rw [code] at ok
          exact absurd ok (by decide)
    · exact (dispatch_cases (first :: rest) router first).imp_right fun ⟨code, quits⟩ =>
        ⟨by rw [code]; rfl, quits⟩

theorem routeFrame_cases (frame : Bytes) : Keeps router (router.routeFrame frame) ∨
    ∃ tokens, TokenParser.parse frame = some tokens ∧ tokens.head? = some (ascii "200") ∧
      Quits tokens router (router.routeFrame frame) := by
  unfold routeFrame
  cases read : TokenParser.parse frame with
  | none => exact Or.inl (keeps_refl router)
  | some tokens =>
    exact (routeTokens_cases tokens router).imp_right fun ⟨first, quits⟩ => ⟨tokens, rfl, first, quits⟩

end ServerMessageRouter

end MyTeams
