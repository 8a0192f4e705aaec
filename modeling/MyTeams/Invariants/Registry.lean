/-
**The poller, the client map and the flags of the clients.**

The event loop keeps the same information three times: the list of the poller, the keys of `_clients`,
and in every client its descriptor and its `POLLOUT` flag (`Client.link`).

* `Change`, `processEvent_change` — what one event does to them: nothing, a new client, or one client
  less;
* `Synced` — the three copies agree; `synced_change` — every event keeps this;
* `watched_updatePollFlags` — before the loop waits, the flags are those of the write buffers.
-/

import Mathlib.Data.List.Nodup
import MyTeams.Server.EventLoop
import MyTeams.Server.Observation

namespace MyTeams

open FirstMatch

/-! ### Links -/

/-- What the event loop knows of a client. -/
def Client.link (client : Client) : Int × Bool := (client.fd, client.pollOutEnabled)

/-- The link of the client behind a descriptor. -/
def Server.link (fd : Int) (server : Server) : Option (Int × Bool) :=
  (server.clients.find? fd).map Client.link

section Links

variable {env : Env} {server : Server}

theorem untouched_link : Untouched Client.link := ⟨fun _ _ => rfl, fun _ _ _ => rfl, fun _ _ => rfl⟩

theorem link_modifyClient (f : Client → Client) (keeps : ∀ client, (f client).link = client.link)
    (fd other : Int) : (server.modifyClient fd f).link other = server.link other :=
  observed_modifyClient keeps fd other

/-- A command touches no link. -/
theorem link_handleCommand (rawCommand : Bytes) (fd other : Int) :
    (CommandHandling.handleCommand env rawCommand fd server).link other = server.link other :=
  observed_handleCommand untouched_link rawCommand fd other

theorem link_handleLine (fd : Int) (text : Bytes) (other : Int) :
    (Server.handleLine env fd server text).link other = server.link other := by
  unfold Server.handleLine
  split_ifs
  · rfl
  · exact link_handleCommand _ fd other

theorem link_foldl_handleLine (fd : Int) (texts : List Bytes) (other : Int) :
    (texts.foldl (Server.handleLine env fd) server).link other = server.link other := by
  induction texts generalizing server with
  | nil => rfl
  | cons text rest ih => rw [List.foldl_cons, ih, link_handleLine]

theorem link_appendToReadBuffer (fd : Int) (data : Bytes) (other : Int) :
    (server.appendToReadBuffer fd data).link other = server.link other :=
  link_modifyClient (fun client => { client with readBuffer := client.readBuffer ++ data })
    (fun _ => rfl) fd other

theorem link_consumeFromReadBuffer (fd : Int) (count : Nat) (other : Int) :
    (server.consumeFromReadBuffer fd count).link other = server.link other :=
  link_modifyClient (fun client => { client with readBuffer := client.readBuffer.drop count })
    (fun _ => rfl) fd other

theorem link_consumeFromWriteBuffer (fd : Int) (count : Nat) (other : Int) :
    (server.consumeFromWriteBuffer fd count).link other = server.link other :=
  link_modifyClient (fun client => { client with writeBuffer := client.writeBuffer.drop count })
    (fun _ => rfl) fd other

/-- Received bytes touch no link. -/
theorem link_handleRead (fd : Int) (data : Bytes) (other : Int) :
    (server.handleRead env fd data).link other = server.link other := by
  refine Eq.trans ?_ (link_appendToReadBuffer fd data other)
  unfold Server.handleRead
  generalize server.appendToReadBuffer fd data = buffered
  unfold Server.parseCommands
  cases buffered.clients.find? fd with
  | none => rfl
  | some client =>
    show (Server.consumeFromReadBuffer fd _ _).link other = _
    rw [link_consumeFromReadBuffer, link_foldl_handleLine]

/-- A disconnection takes the link of its client. -/
theorem link_disconnectClient (fd other : Int) :
    (server.disconnectClient fd).link other = if other = fd then none else server.link other :=
  observed_disconnectClient untouched_link fd other

/-- A new client gets its descriptor, and no `POLLOUT`. -/
theorem link_acceptClient {fd : Int} (closed : server.link fd = none) (other : Int) :
    (server.acceptClient fd).link other = if other = fd then some (fd, false) else server.link other := by
  have missing : server.clients.find? fd = none := Option.map_eq_none_iff.mp closed
  show ((server.clients.emplace fd { fd := fd }).find? other).map Client.link = _
  rw [SortedMap.find?_emplace]
  split_ifs with same
  · subst same
    rw [missing]
    rfl
  · rfl

end Links

/-! ### One event -/

/-- **What an event does** to the list of the poller and to the links. -/
inductive Change (loop : Loop) (event : PollEvent × Answers) (after : Loop) : Prop
  | kept : (event.1.fd = loop.serverFd → event.1.pollIn = false) → after.fds = loop.fds →
      (∀ fd, after.server.link fd = loop.server.link fd) → Change loop event after
  | accepted {fd : Int} : event.1.fd = loop.serverFd → event.1.pollIn = true →
      event.2.accept = .ok fd → after.fds = loop.fds ++ [{ fd := fd }] →
      after.server = loop.server.acceptClient fd → Change loop event after
  | closed : event.1.fd ≠ loop.serverFd → after.fds = removeFileDescriptor event.1.fd loop.fds →
      (∀ fd, after.server.link fd = if fd = event.1.fd then none else loop.server.link fd) →
      Change loop event after

section Event

variable {env : Env} {loop after : Loop} {answers : Answers} {event : PollEvent × Answers}

/-- A read touches no link, or marks its client at the end of the stream. -/
theorem handleRead_links {fd : Int} (received : loop.handleRead env fd answers = .ok after) :
    (after.fds = loop.fds ∧ after.serverFd = loop.serverFd) ∧
      ((∀ other, after.server.link other = loop.server.link other) ∨
        after.server = loop.server.modifyClient fd fun client => { client with fd := -1 }) := by
  unfold Loop.handleRead at received
  split at received
  · cases received
  · cases received
    exact ⟨⟨rfl, rfl⟩, Or.inl fun _ => rfl⟩
  · cases received
    exact ⟨⟨rfl, rfl⟩, Or.inr rfl⟩
  · cases received
    exact ⟨⟨rfl, rfl⟩, Or.inl fun other => link_handleRead fd _ other⟩

theorem handleWrite_links {fd : Int} (written : loop.handleWrite fd answers = .ok after) :
    (after.fds = loop.fds ∧ after.serverFd = loop.serverFd) ∧
      ∀ other, after.server.link other = loop.server.link other := by
  unfold Loop.handleWrite at written
  split at written
  · cases written
    exact ⟨⟨rfl, rfl⟩, fun _ => rfl⟩
  · split_ifs at written
    · cases written
      exact ⟨⟨rfl, rfl⟩, fun _ => rfl⟩
    · split at written
      · cases written
      · cases written
        exact ⟨⟨rfl, rfl⟩, fun other => link_consumeFromWriteBuffer fd _ other⟩

theorem disconnectClient_links {fd : Int} (closed : loop.disconnectClient fd answers = .ok after) :
    after.serverFd = loop.serverFd ∧ after.fds = removeFileDescriptor fd loop.fds ∧
      ∀ other, after.server.link other = if other = fd then none else loop.server.link other := by
  unfold Loop.disconnectClient at closed
  split at closed
  · cases closed
  · cases closed
    exact ⟨rfl, rfl, fun other => link_disconnectClient fd other⟩

/-- **An event of a client** touches no link, or takes that of the client. -/
theorem processClientEvent_change {client : Client}
    (found : loop.server.clients.find? event.1.fd = some client) (own : event.1.fd ≠ loop.serverFd)
    (processed : loop.processClientEvent env event.1 event.2 = .ok after) :
    after.serverFd = loop.serverFd ∧ Change loop event after := by
  unfold Loop.processClientEvent at processed
  by_cases hangUp : (event.1.pollHup || event.1.pollErr) = true
  · rw [if_pos hangUp] at processed
    obtain ⟨server, fds, links⟩ := disconnectClient_links processed
    exact ⟨server, .closed own fds links⟩
  rw [if_neg hangUp] at processed
  cases received : if event.1.pollIn then loop.handleRead env event.1.fd event.2 else .ok loop with
  | error fault =>
    rw [received] at processed
    cases processed
  | ok between =>
    rw [received] at processed
    have read : (between.fds = loop.fds ∧ between.serverFd = loop.serverFd) ∧
        ((∀ other, between.server.link other = loop.server.link other) ∨ event.1.pollIn = true ∧
          between.server = loop.server.modifyClient event.1.fd fun client => { client with fd := -1 }) := by
      split_ifs at received with ready
      · obtain ⟨same, links⟩ := handleRead_links received
        exact ⟨same, links.imp_right fun marked => ⟨ready, marked⟩⟩
      · cases received
        exact ⟨⟨rfl, rfl⟩, Or.inl fun _ => rfl⟩
    obtain ⟨⟨fds, server⟩, links⟩ := read
    rcases links with links | ⟨ready, marked⟩
    · simp only at processed
      split_ifs at processed
      · obtain ⟨serverAfter, fdsAfter, gone⟩ := disconnectClient_links processed
        refine ⟨serverAfter.trans server, .closed own (fds ▸ fdsAfter) fun other => ?_⟩
        rw [gone, links]
      · obtain ⟨⟨fdsAfter, serverAfter⟩, same⟩ := handleWrite_links processed
        exact ⟨serverAfter.trans server, .kept (absurd · own) (fdsAfter.trans fds) fun other =>
          (same other).trans (links other)⟩
      · cases processed
        exact ⟨server, .kept (absurd · own) fds links⟩
    · have isMarked : between.isMarked event.1.fd = true := by
        rw [Loop.isMarked, marked, Server.modifyClient, SortedMap.find?_modify_self, found]
        rfl
      simp only [ready, isMarked, Bool.and_self, if_true] at processed
      obtain ⟨serverAfter, fdsAfter, gone⟩ := disconnectClient_links processed
      refine ⟨serverAfter.trans server, .closed own (fds ▸ fdsAfter) fun other => ?_⟩
      rw [gone]
      split_ifs with same
      · rfl
      · rw [marked, Server.link, Server.modifyClient, SortedMap.find?_modify_of_ne same]
        rfl

/-- **Every event is one of these.** -/
theorem processEvent_change (processed : loop.processEvent env event = .ok after) :
    after.serverFd = loop.serverFd ∧ Change loop event after := by
  unfold Loop.processEvent at processed
  split_ifs at processed with server ready
  · unfold Loop.acceptClient at processed
    cases accepted : event.2.accept with
    | error errno =>
      rw [accepted] at processed
      cases processed
    | ok fd =>
      rw [accepted] at processed
      simp only [Posix.accept, Posix.orThrow] at processed
      split at processed
      · cases processed
      · cases processed
        exact ⟨rfl, .accepted server ready accepted rfl rfl⟩
  · cases processed
    exact ⟨rfl, .kept (fun _ => Bool.eq_false_iff.mpr ready) rfl fun _ => rfl⟩
  · cases found : loop.server.clients.find? event.1.fd with
    | none =>
      rw [found] at processed
      cases processed
      exact ⟨rfl, .kept (absurd · server) rfl fun _ => rfl⟩
    | some client =>
      rw [found] at processed
      exact processClientEvent_change found server processed

end Event

/-! ### The invariant -/

/-- **The three copies agree**: the server comes first in the list of the poller, then come the clients,
and what is watched is what their flags say. -/
structure Synced (loop : Loop) : Prop where
  first : loop.fds.head?.map Watched.fd = some loop.serverFd
  distinct : (loop.fds.map Watched.fd).Nodup
  mem_iff : ∀ fd, fd ∈ loop.fds.map Watched.fd ↔ fd = loop.serverFd ∨ loop.server.link fd ≠ none
  apart : loop.server.link loop.serverFd = none
  links : ∀ entry ∈ loop.fds, entry.fd ≠ loop.serverFd →
    loop.server.link entry.fd = some (entry.fd, entry.pollOut)

/-- A descriptor that the process has open. -/
def Loop.IsOpen (fd : Int) (loop : Loop) : Prop := fd = loop.serverFd ∨ loop.server.link fd ≠ none

/-- In a list of different descriptors, the removed one is gone and the others stay. -/
theorem removeFileDescriptor_eq_filter {fds : List Watched} (distinct : (fds.map Watched.fd).Nodup)
    (fd : Int) : removeFileDescriptor fd fds = fds.filter fun entry => entry.fd ≠ fd := by
  unfold removeFileDescriptor
  induction fds with
  | nil => rfl
  | cons entry rest ih =>
    obtain ⟨alone, others⟩ := List.nodup_cons.mp distinct
    by_cases hit : entry.fd = fd
    · rw [List.eraseP_cons_of_pos (by simpa using hit), List.filter_cons_of_neg (by simpa using hit)]
      refine (List.filter_eq_self.mpr fun other member => ?_).symm
      have different : other.fd ≠ fd := fun same =>
        alone (hit.trans same.symm ▸ List.mem_map_of_mem member)
      exact decide_eq_true different
    · rw [List.eraseP_cons_of_neg (by simpa using hit), List.filter_cons_of_pos (by simpa using hit),
        ih others]

section Invariant

variable {env : Env} {loop after : Loop} {event : PollEvent × Answers}

theorem Synced.kept (synced : Synced loop) (server : after.serverFd = loop.serverFd)
    (fds : after.fds = loop.fds) (links : ∀ fd, after.server.link fd = loop.server.link fd) :
    Synced after := by
  refine ⟨?_, ?_, fun fd => ?_, ?_, fun entry member other => ?_⟩
  · rw [fds, server]
    exact synced.first
  · rw [fds]
    exact synced.distinct
  · rw [fds, server, links]
    exact synced.mem_iff fd
  · rw [server, links]
    exact synced.apart
  · rw [links]
    exact synced.links entry (fds ▸ member) (server ▸ other)

/-- A client under a new descriptor comes last. -/
theorem Synced.accepted (synced : Synced loop) {fd : Int} (closed : ¬ loop.IsOpen fd)
    (server : after.serverFd = loop.serverFd) (fds : after.fds = loop.fds ++ [{ fd := fd }])
    (accepted : after.server = loop.server.acceptClient fd) : Synced after := by
  obtain ⟨notServer, unlinked⟩ := not_or.mp closed
  have missing : loop.server.link fd = none := not_not.mp unlinked
  have link := link_acceptClient missing
  have unlisted : fd ∉ loop.fds.map Watched.fd := fun member =>
    ((synced.mem_iff fd).mp member).elim notServer (absurd missing)
  refine ⟨?_, ?_, fun other => ?_, ?_, fun entry member other => ?_⟩
  · obtain ⟨head, start, same⟩ := Option.map_eq_some_iff.mp synced.first
    rw [fds, server, List.head?_append, start]
    exact congrArg some same
  · rw [fds, List.map_append, List.map_singleton, ← List.concat_eq_append]
    exact List.Nodup.concat unlisted synced.distinct
  · rw [fds, server, accepted, link, List.map_append, List.mem_append, synced.mem_iff,
      List.map_singleton, List.mem_singleton]
    split_ifs with same
    · simp [same]
    · simp [same]
  · rw [server, accepted, link, if_neg (Ne.symm notServer)]
    exact synced.apart
  · rw [server] at other
    rw [accepted, link]
    rw [fds] at member
    rcases List.mem_append.mp member with old | new
    · have different : entry.fd ≠ fd := fun same => unlisted (same ▸ List.mem_map_of_mem old)
      rw [if_neg different]
      exact synced.links entry old other
    · rw [List.mem_singleton.mp new, if_pos rfl]

/-- A client that is closed leaves the list. -/
theorem Synced.closed (synced : Synced loop) {fd : Int} (own : fd ≠ loop.serverFd)
    (server : after.serverFd = loop.serverFd) (fds : after.fds = removeFileDescriptor fd loop.fds)
    (links : ∀ other, after.server.link other = if other = fd then none else loop.server.link other) :
    Synced after := by
  rw [removeFileDescriptor_eq_filter synced.distinct] at fds
  refine ⟨?_, ?_, fun other => ?_, ?_, fun entry member other => ?_⟩
  · obtain ⟨head, start, same⟩ := Option.map_eq_some_iff.mp synced.first
    obtain ⟨rest, split⟩ := List.head?_eq_some_iff.mp start
    rw [fds, server, split, List.filter_cons_of_pos (by rw [same]; simpa using own.symm)]
    exact congrArg some same
  · rw [fds]
    exact synced.distinct.sublist (List.filter_sublist.map Watched.fd)
  · have listed : other ∈ after.fds.map Watched.fd ↔
        other ∈ loop.fds.map Watched.fd ∧ other ≠ fd := by
      rw [fds]
      simp only [List.mem_map, List.mem_filter, decide_eq_true_eq]
      constructor
      · rintro ⟨entry, ⟨member, different⟩, rfl⟩
        exact ⟨⟨entry, member, rfl⟩, different⟩
      · rintro ⟨⟨entry, member, rfl⟩, different⟩
        exact ⟨entry, ⟨member, different⟩, rfl⟩
    rw [listed, synced.mem_iff, server, links]
    split_ifs with same
    · subst same
      simp [own]
    · simp [same]
  · rw [server, links, if_neg (Ne.symm own)]
    exact synced.apart
  · rw [fds] at member
    obtain ⟨old, different⟩ := List.mem_filter.mp member
    rw [links, if_neg (of_decide_eq_true different)]
    exact synced.links entry old (server ▸ other)

/-- **An event keeps the three copies in step.** -/
theorem synced_change (synced : Synced loop) (server : after.serverFd = loop.serverFd)
    (change : Change loop event after)
    (fresh : ∀ fd, event.1.fd = loop.serverFd → event.2.accept = .ok fd → ¬ loop.IsOpen fd) :
    Synced after := by
  cases change with
  | kept _ fds links => exact synced.kept server fds links
  | accepted named _ answered fds accepted =>
    exact synced.accepted (fresh _ named answered) server fds accepted
  | closed own fds links => exact synced.closed own server fds links

/-- A client and its entry. -/
theorem Synced.entry (synced : Synced loop) {client : Client} {watched : Watched}
    (found : loop.server.clients.find? watched.fd = some client) (member : watched ∈ loop.fds) :
    client.link = (watched.fd, watched.pollOut) := by
  have own : watched.fd ≠ loop.serverFd := by
    intro server
    have apart := synced.apart
    rw [← server, Server.link, found] at apart
    cases apart
  have link := synced.links watched member own
  rw [Server.link, found] at link
  exact Option.some.inj link

/-! ### The flags -/

/-- The body of the loop of `_updatePollFlags`. -/
def watchClient (fds : List Watched) (entry : Int × Client) : List Watched :=
  if (!entry.2.writeBuffer.isEmpty) = entry.2.pollOutEnabled then fds
  else updateWatchedEvents entry.1 (!entry.2.writeBuffer.isEmpty) fds

theorem watchClient_fds (fds : List Watched) (entry : Int × Client) :
    (watchClient fds entry).map Watched.fd = fds.map Watched.fd := by
  unfold watchClient
  split_ifs
  · rfl
  · exact map_modifyFirst fun _ => rfl

theorem foldl_watchClient_fds (entries : List (Int × Client)) (fds : List Watched) :
    (entries.foldl watchClient fds).map Watched.fd = fds.map Watched.fd := by
  induction entries generalizing fds with
  | nil => rfl
  | cons entry rest ih => rw [List.foldl_cons, ih, watchClient_fds]

/-- The entry of one client is updated if its flag changes. -/
theorem mem_watchClient {fds : List Watched} (distinct : (fds.map Watched.fd).Nodup)
    {entry : Int × Client} (flag : ∀ watched ∈ fds, watched.fd = entry.1 →
      watched.pollOut = entry.2.pollOutEnabled) {watched : Watched}
    (member : watched ∈ watchClient fds entry) :
    (watched.fd = entry.1 → watched.pollOut = !entry.2.writeBuffer.isEmpty) ∧
      (watched.fd ≠ entry.1 → watched ∈ fds) := by
  unfold watchClient at member
  split_ifs at member with same
  · exact ⟨fun hit => (flag watched member hit).trans same.symm, fun _ => member⟩
  · unfold updateWatchedEvents at member
    rw [modifyFirst_eq_map distinct] at member
    obtain ⟨old, stored, rfl⟩ := List.mem_map.mp member
    split_ifs with hit
    · exact ⟨fun _ => rfl, fun other => absurd hit other⟩
    · exact ⟨fun same => absurd same hit, fun _ => stored⟩

/-- **The loop over the clients** sets the entry of every client to what its write buffer needs, and
leaves the others alone. -/
theorem mem_foldl_watchClient {entries : List (Int × Client)} (keys : (entries.map Prod.fst).Nodup)
    {fds : List Watched} (distinct : (fds.map Watched.fd).Nodup)
    (flags : ∀ entry ∈ entries, ∀ watched ∈ fds, watched.fd = entry.1 →
      watched.pollOut = entry.2.pollOutEnabled) {watched : Watched}
    (member : watched ∈ entries.foldl watchClient fds) :
    (∀ entry ∈ entries, watched.fd = entry.1 → watched.pollOut = !entry.2.writeBuffer.isEmpty) ∧
      ((∀ entry ∈ entries, watched.fd ≠ entry.1) → watched ∈ fds) := by
  induction entries generalizing fds with
  | nil => exact ⟨fun _ inside => absurd inside List.not_mem_nil, fun _ => member⟩
  | cons first rest ih =>
    obtain ⟨alone, others⟩ := List.nodup_cons.mp keys
    have step : ∀ {found : Watched}, found ∈ watchClient fds first →
        (found.fd = first.1 → found.pollOut = !first.2.writeBuffer.isEmpty) ∧
          (found.fd ≠ first.1 → found ∈ fds) :=
      fun inside => mem_watchClient distinct (flags first List.mem_cons_self) inside
    have apart : ∀ entry ∈ rest, entry.1 ≠ first.1 := fun entry inside same =>
      alone (same ▸ List.mem_map_of_mem inside)
    obtain ⟨set, kept⟩ := ih others (watchClient_fds fds first ▸ distinct)
      (fun entry inside found stored hit =>
        flags entry (List.mem_cons_of_mem _ inside) found
          ((step stored).2 (hit ▸ apart entry inside)) hit) member
    refine ⟨fun entry inside hit => ?_, fun missing => ?_⟩
    · rcases List.mem_cons.mp inside with rfl | later
      · exact (step (kept fun other later => hit ▸ (apart other later).symm)).1 hit
      · exact set entry later hit
    · exact (step (kept fun other later => missing other (List.mem_cons_of_mem _ later))).2
        (missing first List.mem_cons_self)

/-- The state in which the loop waits: the copies agree, and the flags are those of the write
buffers. -/
structure Waiting (loop : Loop) : Prop where
  synced : Synced loop
  flags : ∀ fd client, loop.server.clients.find? fd = some client →
    client.pollOutEnabled = !client.writeBuffer.isEmpty

theorem find?_updatePollFlags (loop : Loop) (fd : Int) :
    loop.updatePollFlags.server.clients.find? fd = (loop.server.clients.find? fd).map fun client =>
      { client with pollOutEnabled := !client.writeBuffer.isEmpty } :=
  SortedMap.find?_mapWithKey _ _ _

theorem link_updatePollFlags (loop : Loop) (fd : Int) :
    loop.updatePollFlags.server.link fd = none ↔ loop.server.link fd = none := by
  unfold Server.link
  rw [find?_updatePollFlags, Option.map_map, Option.map_eq_none_iff, Option.map_eq_none_iff]

/-- **`_updatePollFlags`** brings the flags up to date, in the clients and in the list. -/
theorem waiting_updatePollFlags (synced : Synced loop) : Waiting loop.updatePollFlags := by
  have fds : loop.updatePollFlags.fds.map Watched.fd = loop.fds.map Watched.fd :=
    foldl_watchClient_fds loop.server.clients.entries loop.fds
  have absent := link_updatePollFlags loop
  refine ⟨⟨?_, ?_, fun fd => ?_, (absent _).mpr synced.apart, fun entry member own => ?_⟩, ?_⟩
  · rw [← List.head?_map, fds, List.head?_map]
    exact synced.first
  · rw [fds]
    exact synced.distinct
  · rw [fds, Ne, absent]
    exact synced.mem_iff fd
  · -- the client behind the entry, and its old entry
    have listed : entry.fd ∈ loop.fds.map Watched.fd := fds ▸ List.mem_map_of_mem member
    obtain ⟨old, stored, same⟩ := List.mem_map.mp listed
    have link := synced.links old stored (same ▸ own)
    rw [same] at link
    obtain ⟨client, found, linked⟩ := Option.map_eq_some_iff.mp link
    have keys : (loop.server.clients.entries.map Prod.fst).Nodup :=
      List.pairwise_map.mpr (loop.server.clients.sorted.imp fun below => below.ne)
    have flags : ∀ held ∈ loop.server.clients.entries, ∀ watched ∈ loop.fds, watched.fd = held.1 →
        watched.pollOut = held.2.pollOutEnabled := by
      intro held inside watched within hit
      have present : loop.server.clients.find? watched.fd = some held.2 :=
        hit ▸ SortedMap.find?_eq_some_iff.mpr inside
      exact (congrArg Prod.snd (synced.entry present within)).symm
    have set := (mem_foldl_watchClient keys synced.distinct flags member).1 (entry.fd, client)
      (SortedMap.find?_eq_some_iff.mp found) rfl
    rw [Server.link, find?_updatePollFlags, found, set]
    exact congrArg (fun fd => some (fd, !client.writeBuffer.isEmpty)) (congrArg Prod.fst linked)
  · intro fd client found
    rw [find?_updatePollFlags] at found
    obtain ⟨before, -, rfl⟩ := Option.map_eq_some_iff.mp found
    rfl

end Invariant

end MyTeams
