/-
**The poll registry.**

Between two waits the loop walks a batch of events that may be stale: a client may have gone, and its
descriptor may be in use again. `Tracked` adds to the loop which `Client` object is registered under
which descriptor, so that one can say which object an event reaches. The listening socket is the first
in the list, so a batch accepts before it closes, and no descriptor that an event of the batch names is
free when `accept` picks one.

* `registered_batch`, `atWait_waiting` — the registry at every wait;
* `batch_objects` — an event of a batch reaches the object that was polled;
* `poll_registry` — the two together.
-/

import MyTeams.Invariants.Identities
import MyTeams.Invariants.Registry

namespace MyTeams

open FirstMatch

/-! ### `Poller::waitForEvents` -/

/-- The bits of `revents` that are tested. -/
structure Revents where
  pollIn : Bool := false
  pollOut : Bool := false
  pollHup : Bool := false
  pollErr : Bool := false

/-- `Poller::waitForEvents`. `poll` has written `revents` behind every entry; `none` is zero. -/
def waitForEvents (revents : List (Option Revents)) (fds : List Watched) : List PollEvent :=
  (fds.zip revents).filterMap fun entry => entry.2.map fun bits =>
    { fd := entry.1.fd, pollIn := bits.pollIn, pollOut := bits.pollOut, pollHup := bits.pollHup,
      pollErr := bits.pollErr }

/-- The events come in the order of the list, at most one for each entry. -/
theorem waitForEvents_sublist (revents : List (Option Revents)) (fds : List Watched) :
    ((waitForEvents revents fds).map PollEvent.fd).Sublist (fds.map Watched.fd) := by
  unfold waitForEvents
  induction fds generalizing revents with
  | nil => exact List.nil_sublist _
  | cons entry rest ih =>
    cases revents with
    | nil => exact List.nil_sublist _
    | cons bits others =>
      have later := ih others
      cases bits with
      | none => exact later.cons entry.fd
      | some bits => exact later.cons_cons entry.fd

/-! ### Objects -/

/-- The loop, with the `Client` object that is registered under each descriptor and the number of
objects made so far. -/
structure Tracked where
  loop : Loop
  objects : SortedMap Int Nat := SortedMap.empty
  created : Nat := 0

namespace Tracked

/-- What an event does to the objects: `_acceptClient` makes one and registers it with `emplace`, and
`_disconnectClient` erases one. -/
def follow (event : PollEvent × Answers) (after : Loop) (tracked : Tracked) : Tracked :=
  if event.1.fd = tracked.loop.serverFd then
    match event.1.pollIn, event.2.accept with
    | true, .ok fd =>
      { loop := after, objects := tracked.objects.emplace fd tracked.created,
        created := tracked.created + 1 }
    | _, _ => { tracked with loop := after }
  else if (after.server.clients.find? event.1.fd).isNone then
    { tracked with loop := after, objects := tracked.objects.erase event.1.fd }
  else { tracked with loop := after }

/-- `Server::_processEvent`, with the objects. -/
def processEvent (env : Env) (tracked : Tracked) (event : PollEvent × Answers) :
    Except Fault Tracked :=
  match tracked.loop.processEvent env event with
  | .error fault => .error fault
  | .ok after => .ok (tracked.follow event after)

end Tracked

/-- The events of a batch are processed without an exception, and `accept` never returns a descriptor
that is open. -/
inductive Batch (env : Env) : Tracked → List (PollEvent × Answers) → Tracked → Prop
  | nil (tracked : Tracked) : Batch env tracked [] tracked
  | cons {tracked between after : Tracked} {event : PollEvent × Answers}
      {rest : List (PollEvent × Answers)} :
      (∀ fd, event.1.fd = tracked.loop.serverFd → event.2.accept = .ok fd →
        ¬ tracked.loop.IsOpen fd) →
      tracked.processEvent env event = .ok between → Batch env between rest after →
      Batch env tracked (event :: rest) after

/-- The loop as it enters `Server::run`: the list holds the listening socket. -/
def Loop.start (db : Database) (serverFd : Int) : Loop where
  server := { db := db }
  serverFd := serverFd
  fds := [{ fd := serverFd }]

/-- The states in which `Server::run` calls `waitForEvents`. -/
inductive AtWait (env : Env) : Tracked → Prop
  | start (db : Database) (serverFd : Int) :
      AtWait env { loop := (Loop.start db serverFd).updatePollFlags }
  | next {tracked after : Tracked} {revents : List (Option Revents)}
      {events : List (PollEvent × Answers)} : AtWait env tracked →
      events.map Prod.fst = waitForEvents revents tracked.loop.fds →
      Batch env tracked events after →
      AtWait env { after with loop := after.loop.updatePollFlags }

/-! ### The invariant -/

/-- The objects are those of the client map, and are numbered in the order in which they were made. -/
structure Registered (tracked : Tracked) : Prop where
  synced : Synced tracked.loop
  present : ∀ fd, tracked.objects.find? fd = none ↔ tracked.loop.server.link fd = none
  numbered : ∀ fd object, tracked.objects.find? fd = some object → object < tracked.created

section Batches

variable {env : Env} {tracked between after : Tracked} {event : PollEvent × Answers}

theorem follow_loop (event : PollEvent × Answers) (after : Loop) (tracked : Tracked) :
    (tracked.follow event after).loop = after := by
  unfold Tracked.follow
  split_ifs
  · split <;> rfl
  · rfl
  · rfl

/-- **What an event does to the objects.** -/
inductive Handled (tracked : Tracked) (event : PollEvent × Answers) (after : Tracked) : Prop
  | same : (∀ fd, after.objects.find? fd = tracked.objects.find? fd) →
      (∀ fd, after.loop.server.link fd = tracked.loop.server.link fd) →
      after.created = tracked.created → Handled tracked event after
  | made {fd : Int} : event.1.fd = tracked.loop.serverFd → ¬ tracked.loop.IsOpen fd →
      (∀ other, after.objects.find? other
        = if other = fd then some tracked.created else tracked.objects.find? other) →
      (∀ other, after.loop.server.link other
        = if other = fd then some (fd, false) else tracked.loop.server.link other) →
      after.created = tracked.created + 1 → Handled tracked event after
  | erased : event.1.fd ≠ tracked.loop.serverFd →
      (∀ fd, after.objects.find? fd
        = if fd = event.1.fd then none else tracked.objects.find? fd) →
      (∀ fd, after.loop.server.link fd
        = if fd = event.1.fd then none else tracked.loop.server.link fd) →
      after.created = tracked.created → Handled tracked event after

theorem handled_follow {loop : Loop} (registered : Registered tracked)
    (change : Change tracked.loop event loop)
    (fresh : ∀ fd, event.1.fd = tracked.loop.serverFd → event.2.accept = .ok fd →
      ¬ tracked.loop.IsOpen fd) : Handled tracked event (tracked.follow event loop) := by
  unfold Tracked.follow
  cases change with
  | kept quiet fds links =>
    split_ifs with server gone
    · rw [quiet server]
      exact .same (fun _ => rfl) links rfl
    · -- the client had gone before the event
      have absent : tracked.objects.find? event.1.fd = none := by
        rw [registered.present, ← links]
        exact Option.map_eq_none_iff.mpr (Option.isNone_iff_eq_none.mp gone)
      refine .same (fun fd => ?_) links rfl
      rw [SortedMap.find?_erase]
      split_ifs with same
      · rw [same, absent]
      · rfl
    · exact .same (fun _ => rfl) links rfl
  | @accepted fd named ready answered fds accepted =>
    have closed := fresh fd named answered
    rw [if_pos named, ready, answered]
    have unlinked : tracked.loop.server.link fd = none := not_not.mp (not_or.mp closed).2
    refine .made named closed (fun other => ?_) (accepted ▸ link_acceptClient unlinked) rfl
    have absent : tracked.objects.find? fd = none :=
      (registered.present fd).mpr unlinked
    show (tracked.objects.emplace fd tracked.created).find? other = _
    rw [SortedMap.find?_emplace, absent]
    rfl
  | closed own fds links =>
    have gone : (loop.server.clients.find? event.1.fd).isNone = true := by
      have none := links event.1.fd
      rw [if_pos rfl] at none
      exact Option.isNone_iff_eq_none.mpr (Option.map_eq_none_iff.mp none)
    rw [if_neg own, if_pos gone]
    exact .erased own (fun fd => SortedMap.find?_erase event.1.fd fd tracked.objects) links rfl

/-- The objects stay those of the client map. -/
theorem Handled.registered (registered : Registered tracked) (synced : Synced after.loop)
    (handled : Handled tracked event after) : Registered after := by
  cases handled with
  | same objects links created =>
    refine ⟨synced, fun fd => ?_, fun fd object found => ?_⟩
    · rw [objects, links]
      exact registered.present fd
    · rw [objects] at found
      rw [created]
      exact registered.numbered fd object found
  | @made fd _ _ objects links created =>
    refine ⟨synced, fun other => ?_, fun other object found => ?_⟩
    · rw [objects, links]
      split_ifs
      · exact iff_of_false nofun nofun
      · exact registered.present other
    · rw [objects] at found
      rw [created]
      split_ifs at found
      · rw [← Option.some.inj found]
        exact Nat.lt_succ_self _
      · exact (registered.numbered other object found).trans (Nat.lt_succ_self _)
  | erased _ objects links created =>
    refine ⟨synced, fun other => ?_, fun other object found => ?_⟩
    · rw [objects, links]
      split_ifs
      · exact iff_of_true rfl rfl
      · exact registered.present other
    · rw [objects] at found
      rw [created]
      split_ifs at found
      exact registered.numbered other object found

/-- **An event keeps the registry.** -/
theorem registered_processEvent (registered : Registered tracked)
    (fresh : ∀ fd, event.1.fd = tracked.loop.serverFd → event.2.accept = .ok fd →
      ¬ tracked.loop.IsOpen fd)
    (processed : tracked.processEvent env event = .ok after) :
    Registered after ∧ Handled tracked event after ∧ after.loop.serverFd = tracked.loop.serverFd := by
  unfold Tracked.processEvent at processed
  cases step : tracked.loop.processEvent env event with
  | error fault =>
    rw [step] at processed
    cases processed
  | ok loop =>
    rw [step] at processed
    cases processed
    obtain ⟨server, change⟩ := processEvent_change step
    have handled := handled_follow registered change fresh
    have synced : Synced (tracked.follow event loop).loop := by
      rw [follow_loop]
      exact synced_change registered.synced server change fresh
    refine ⟨handled.registered registered synced, handled, ?_⟩
    rw [follow_loop, server]

/-- A batch keeps the registry. -/
theorem registered_batch {events : List (PollEvent × Answers)} (registered : Registered tracked)
    (batch : Batch env tracked events after) :
    Registered after ∧ after.loop.serverFd = tracked.loop.serverFd := by
  induction batch with
  | nil => exact ⟨registered, rfl⟩
  | cons fresh processed _ ih =>
    obtain ⟨step, -, server⟩ := registered_processEvent registered fresh processed
    obtain ⟨rest, later⟩ := ih step
    exact ⟨rest, later.trans server⟩

/-- Events of other clients leave an object where it is. -/
theorem objects_batch {events : List (PollEvent × Answers)} {fd : Int} (registered : Registered tracked)
    (batch : Batch env tracked events after)
    (others : ∀ event ∈ events, event.1.fd ≠ tracked.loop.serverFd ∧ event.1.fd ≠ fd) :
    after.objects.find? fd = tracked.objects.find? fd := by
  induction batch with
  | nil => rfl
  | cons fresh processed _ ih =>
    obtain ⟨notServer, notClient⟩ := others _ List.mem_cons_self
    obtain ⟨step, handled, server⟩ := registered_processEvent registered fresh processed
    have rest := ih step fun event member => by
      rw [server]
      exact others event (List.mem_cons_of_mem _ member)
    rw [rest]
    cases handled with
    | same objects => exact objects fd
    | made named => exact absurd named notServer
    | erased _ objects => rw [objects, if_neg (Ne.symm notClient)]

/-- **An event of a batch reaches the object that was polled.** The listening socket is first in the
list, so the one `accept` of a batch comes before every event of a client, while the descriptors of all
of them are open. -/
theorem batch_objects {revents : List (Option Revents)} {early late : List (PollEvent × Answers)}
    (registered : Registered tracked)
    (polled : (early ++ event :: late).map Prod.fst = waitForEvents revents tracked.loop.fds)
    (batch : Batch env tracked early after) (client : event.1.fd ≠ tracked.loop.serverFd) :
    after.objects.find? event.1.fd = tracked.objects.find? event.1.fd := by
  obtain ⟨head, start, server⟩ := Option.map_eq_some_iff.mp registered.synced.first
  obtain ⟨entries, split⟩ := List.head?_eq_some_iff.mp start
  have events := waitForEvents_sublist revents tracked.loop.fds
  rw [← polled, List.map_map] at events
  have distinct := registered.synced.distinct.sublist events
  have listed : event.1.fd ∈ tracked.loop.fds.map Watched.fd := events.subset (by simp)
  have linked : tracked.loop.server.link event.1.fd ≠ none :=
    ((registered.synced.mem_iff _).mp listed).resolve_left client
  cases batch with
  | nil => rfl
  | @cons _ between _ first others fresh processed rest =>
    obtain ⟨step, handled, serverSame⟩ := registered_processEvent registered fresh processed
    rw [List.cons_append, List.map_cons] at events distinct
    obtain ⟨alone, apart⟩ := List.nodup_cons.mp distinct
    have here : first.1.fd ≠ event.1.fd := fun same => alone (by simp [same])
    -- the listening socket can only come first
    have behind : ((others ++ event :: late).map (PollEvent.fd ∘ Prod.fst)).Sublist
        (entries.map Watched.fd) := by
      rw [split, List.map_cons] at events
      exact List.Sublist.of_cons_cons events
    have clients : ∀ later ∈ others, later.1.fd ≠ between.loop.serverFd ∧ later.1.fd ≠ event.1.fd := by
      intro later member
      have sorted := registered.synced.distinct
      rw [split, List.map_cons, server] at sorted
      refine ⟨fun same => ?_, fun same => ?_⟩
      · refine (List.nodup_cons.mp sorted).1 (behind.subset ?_)
        rw [← serverSame, ← same]
        exact List.mem_map_of_mem (f := PollEvent.fd ∘ Prod.fst) (List.mem_append_left _ member)
      · rw [List.map_append, List.nodup_append] at apart
        exact apart.2.2 _ (List.mem_map_of_mem member) _ (List.mem_cons_self) same
    rw [objects_batch step rest clients]
    cases handled with
    | same objects => exact objects _
    | made _ closed objects =>
      rw [objects, if_neg]
      rintro rfl
      exact closed (Or.inr linked)
    | erased _ objects => rw [objects, if_neg (Ne.symm here)]

theorem registered_updatePollFlags (registered : Registered tracked) :
    Registered { tracked with loop := tracked.loop.updatePollFlags } := by
  refine ⟨(waiting_updatePollFlags registered.synced).synced, fun fd => ?_, registered.numbered⟩
  rw [link_updatePollFlags]
  exact registered.present fd

theorem registered_start (db : Database) (serverFd : Int) :
    Registered { loop := Loop.start db serverFd } := by
  refine ⟨⟨rfl, List.pairwise_singleton _ _, fun fd => ?_, rfl, fun entry member own => ?_⟩,
    fun fd => iff_of_true rfl rfl, fun fd object found => by cases found⟩
  · show fd ∈ [serverFd] ↔ fd = serverFd ∨ none ≠ none
    simp
  · rw [List.mem_singleton.mp member] at own
    exact absurd rfl own

/-- **The registry at every wait.** -/
theorem atWait_registered (atWait : AtWait env tracked) : Waiting tracked.loop ∧ Registered tracked := by
  induction atWait with
  | start db serverFd =>
    have start := registered_start db serverFd
    exact ⟨waiting_updatePollFlags start.synced, registered_updatePollFlags start⟩
  | next _ _ batch ih =>
    have after := (registered_batch ih.2 batch).1
    exact ⟨waiting_updatePollFlags after.synced, registered_updatePollFlags after⟩

end Batches

/-- The list of the poller, the client map and the flags agree. -/
structure PollRegistry (loop : Loop) : Prop where
  list : ∃ clientFds, loop.fds.map Watched.fd = loop.serverFd :: clientFds ∧
    (loop.serverFd :: clientFds).Nodup ∧
    ∀ fd, fd ∈ clientFds ↔ (loop.server.clients.find? fd).isSome
  stored : ∀ fd client, loop.server.clients.find? fd = some client → client.fd = fd
  flags : ∀ fd client, loop.server.clients.find? fd = some client → ∀ watched ∈ loop.fds,
    watched.fd = fd → watched.pollOut = client.pollOutEnabled ∧
      client.pollOutEnabled = !client.writeBuffer.isEmpty

theorem Waiting.pollRegistry {loop : Loop} (waiting : Waiting loop) : PollRegistry loop := by
  obtain ⟨synced, flags⟩ := waiting
  refine ⟨?_, fun fd client found => ?_, fun fd client found watched member same => ?_⟩
  · obtain ⟨head, start, server⟩ := Option.map_eq_some_iff.mp synced.first
    obtain ⟨entries, split⟩ := List.head?_eq_some_iff.mp start
    have list : loop.fds.map Watched.fd = loop.serverFd :: entries.map Watched.fd := by
      rw [split, List.map_cons, server]
    have distinct := synced.distinct
    rw [list] at distinct
    refine ⟨entries.map Watched.fd, list, distinct, fun fd => ?_⟩
    have linked : loop.server.link fd ≠ none ↔ (loop.server.clients.find? fd).isSome = true := by
      unfold Server.link
      cases loop.server.clients.find? fd <;> simp
    have member := synced.mem_iff fd
    rw [list, List.mem_cons, linked] at member
    constructor
    · intro inside
      refine (member.mp (Or.inr inside)).resolve_left ?_
      rintro rfl
      exact (List.nodup_cons.mp distinct).1 inside
    · intro present
      refine (member.mpr (Or.inr present)).resolve_left ?_
      rintro rfl
      exact (linked.mpr present) synced.apart
  · have listed : fd ∈ loop.fds.map Watched.fd := by
      refine (synced.mem_iff fd).mpr (Or.inr ?_)
      rw [Server.link, found]
      exact Option.some_ne_none _
    obtain ⟨watched, member, same⟩ := List.mem_map.mp listed
    subst same
    exact congrArg Prod.fst (synced.entry found member)
  · subst same
    exact ⟨(congrArg Prod.snd (synced.entry found member)).symm, flags _ client found⟩

/-- **The poll registry**, at every wait of `Server::run`, and what the events of the next batch reach:
the object that was registered under their descriptor when the batch was polled, so none that `accept`
makes later. -/
theorem poll_registry (env : Env) {tracked : Tracked} (atWait : AtWait env tracked) :
    PollRegistry tracked.loop ∧
    ∀ revents early event late after,
      (early ++ event :: late).map Prod.fst = waitForEvents revents tracked.loop.fds →
      Batch env tracked early after → event.1.fd ≠ tracked.loop.serverFd →
      ∃ object < tracked.created, tracked.objects.find? event.1.fd = some object ∧
        after.objects.find? event.1.fd = some object ∧
        (after.loop.server.clients.find? event.1.fd).isSome := by
  obtain ⟨waiting, registered⟩ := atWait_registered atWait
  refine ⟨waiting.pollRegistry, fun revents early event late after polled batch client => ?_⟩
  have listed : event.1.fd ∈ tracked.loop.fds.map Watched.fd := by
    refine (waitForEvents_sublist revents tracked.loop.fds).subset ?_
    rw [← polled]
    simp
  have linked := ((waiting.synced.mem_iff _).mp listed).resolve_left client
  obtain ⟨object, found⟩ := Option.ne_none_iff_exists'.mp (mt (registered.present _).mp linked)
  have reached := batch_objects registered polled batch client
  rw [found] at reached
  refine ⟨object, registered.numbered _ object found, found, reached, ?_⟩
  have later := (registered_batch registered batch).1
  have present : after.loop.server.link event.1.fd ≠ none := by
    intro gone
    rw [(later.present _).mpr gone] at reached
    cases reached
  unfold Server.link at present
  rw [Ne, Option.map_eq_none_iff] at present
  exact Option.isSome_iff_ne_none.mpr present

/-- The client 4 is there; a batch accepts the client 5 and then brings bytes for 4. -/
theorem poll_registry_sample :
    let accept := fun fd : Int =>
      (({ fd := 3, pollIn := true }, { accept := .ok fd }) : PollEvent × Answers)
    let bytes : PollEvent × Answers := ({ fd := 4, pollIn := true }, {})
    let tracked : Tracked :=
      { loop := Loop.updatePollFlags
          { server := { clients := SortedMap.empty.insert 4 { fd := 4 } }
            serverFd := 3
            fds := [{ fd := 3 }, { fd := 4 }] }
        objects := SortedMap.empty.insert 4 0
        created := 1 }
    AtWait sampleEnv tracked ∧ PollRegistry tracked.loop ∧
      ∃ after, Batch sampleEnv tracked [accept 5] after ∧
        waitForEvents [some { pollIn := true }, some { pollIn := true }] tracked.loop.fds
          = [accept 5, bytes].map Prod.fst ∧
        after.objects.find? 4 = tracked.objects.find? 4 := by
  intro accept bytes tracked
  have closed : ∀ (state : Tracked) (fd : Int), ¬ state.loop.IsOpen fd → ∀ other,
      (accept fd).1.fd = state.loop.serverFd → (accept fd).2.accept = .ok other →
      ¬ state.loop.IsOpen other := by
    intro state fd free other _ answered
    cases answered
    exact free
  have atWait : AtWait sampleEnv tracked := by
    have polled : [accept 4].map Prod.fst
        = waitForEvents [some { pollIn := true }] (Loop.start {} 3).updatePollFlags.fds := rfl
    have unwritten : Loop.opened 4 (Loop.start {} 3).updatePollFlags = fun _ => [] :=
      Function.update_eq_self (4 : Int) (fun _ => [])
    have accepted : AtWait sampleEnv { tracked with loop := { tracked.loop with
        accepted := Loop.opened 4 (Loop.start {} 3).updatePollFlags } } := by
      refine .next (.start {} 3) polled (.cons (closed _ 4 ?_) rfl (.nil _))
      unfold Loop.IsOpen
      decide
    rw [unwritten] at accepted
    exact accepted
  obtain ⟨registry, reached⟩ := poll_registry sampleEnv atWait
  have batch : ∃ after, Batch sampleEnv tracked [accept 5] after := by
    refine ⟨_, .cons (closed _ 5 ?_) rfl (.nil _)⟩
    unfold Loop.IsOpen
    decide
  obtain ⟨after, batch⟩ := batch
  obtain ⟨object, -, before, now, -⟩ := reached
    [some { pollIn := true }, some { pollIn := true }] [accept 5] bytes [] after rfl batch (by decide)
  exact ⟨atWait, registry, after, batch, rfl, now.trans before.symm⟩

end MyTeams
