/-
**CREATE, LIST and INFO agree about the context.**

The three commands read the three strings of a context with different tests (`Create.level`,
`ListCommand.level`, `Info.level`). In a valid context the tests agree, and every lookup that the
commands make finds something, so that they never answer 404.

* `Context.Valid` — the context is hierarchical and each level is found inside the one above;
* `create_quiet`, `list_quiet`, `info_quiet` — no 404 in a valid context;
* `context_validity` — every context of every run is valid.
-/

import MyTeams.Invariants.Contexts

namespace MyTeams

open Transition

/-- A hierarchical context whose levels are found, the thread in the channel that `findChannel` finds. -/
structure Context.Valid (db : Database) (context : Context) : Prop where
  belowChannel : context.threadUuid ≠ [] → context.channelUuid ≠ []
  belowTeam : context.channelUuid ≠ [] → context.teamUuid ≠ []
  team : context.teamUuid ≠ [] → ∃ team, db.findTeam context.teamUuid = some team
  channel : context.channelUuid ≠ [] → ∃ team channel, db.findTeam context.teamUuid = some team ∧
    db.findChannel context.teamUuid context.channelUuid = some channel ∧ channel ∈ team.channels
  thread : context.threadUuid ≠ [] → ∃ channel thread,
    db.findChannel context.teamUuid context.channelUuid = some channel ∧
    db.findThread context.channelUuid context.threadUuid = some thread ∧ thread ∈ channel.threads

section Levels

variable {db : Database} {context : Context}

/-- What `Context.Within` finds step by step, the lookups of the database find. -/
theorem Context.Within.valid (within : context.Within db) (distinct : Distinct db.uuids) :
    context.Valid db := by
  have below : context.channelUuid ≠ [] ∨ context.threadUuid ≠ [] → context.teamUuid ≠ [] :=
    fun deep => (within.inside distinct.named deep).1
  refine ⟨fun deep => ?_, fun deep => below (Or.inl deep), fun selected => ?_, fun selected => ?_,
    fun selected => ?_⟩
  · obtain ⟨-, team, channel, present, inside⟩ := within.inside distinct.named (Or.inr deep)
    obtain ⟨stored, key⟩ := FirstMatch.find?_key inside
    obtain ⟨holder, -⟩ := FirstMatch.find?_key present
    -- the channel is stored, so its uuid is one of the uuids of the database
    refine fun empty => distinct.named ?_
    rw [← empty, ← key]
    exact List.mem_append_right _ (List.mem_flatMap.mpr ⟨team, holder, List.mem_cons_of_mem _
      (List.mem_flatMap.mpr ⟨channel, stored, List.mem_cons_self⟩)⟩)
  · cases within with
    | nothing => exact absurd rfl selected
    | team present => exact ⟨_, present⟩
    | channel present => exact ⟨_, present⟩
    | thread present => exact ⟨_, present⟩
  · cases within with
    | nothing => exact absurd rfl selected
    | team => exact absurd rfl selected
    | channel present inside =>
      exact ⟨_, _, present, Database.findChannel_eq_some_iff.mpr ⟨_, present, inside⟩,
        (FirstMatch.find?_key inside).1⟩
    | thread present inside =>
      exact ⟨_, _, present, Database.findChannel_eq_some_iff.mpr ⟨_, present, inside⟩,
        (FirstMatch.find?_key inside).1⟩
  · cases within with
    | nothing => exact absurd rfl selected
    | team => exact absurd rfl selected
    | channel => exact absurd rfl selected
    | thread present inside deeper =>
      have channel := Database.findChannel_eq_some_iff.mpr ⟨_, present, inside⟩
      exact ⟨_, _, channel, (Database.findThread_of_findChannel distinct.nodup channel _).trans deeper,
        (FirstMatch.find?_key deeper).1⟩

end Levels

/-! ### The tests of the three commands -/

/-- What a command works on: the server, or the deepest level that is selected. -/
inductive Level
  | server | team | channel | thread
deriving DecidableEq

/-- The tests of `Create::execute`, from the team down. -/
def Create.level (context : Context) : Level :=
  if context.teamUuid = [] then .server
  else if context.channelUuid = [] then .team
  else if context.threadUuid = [] then .channel
  else .thread

/-- The tests of `List::execute`. -/
def ListCommand.level (context : Context) : Level :=
  if context.channelUuid ≠ [] ∧ context.threadUuid ≠ [] ∧ context.teamUuid ≠ [] then .thread
  else if context.channelUuid ≠ [] ∧ context.teamUuid ≠ [] then .channel
  else if context.teamUuid ≠ [] then .team
  else .server

/-- The tests of `Info::execute`, from the thread up. -/
def Info.level (context : Context) : Level :=
  if context.threadUuid ≠ [] then .thread
  else if context.channelUuid ≠ [] then .channel
  else if context.teamUuid ≠ [] then .team
  else .server

theorem Create.execute_level (env : Env) (fd : Int) (client : Client) (server : Server) :
    Create.execute env fd client server =
      if client.userUuid = [] then server.sendToClient Frame.unauthorized fd
      else match Create.level client.context with
        | .server => Create.executeTeam env fd client server
        | .team => Create.executeChannel env fd client server
        | .channel => Create.executeThread env fd client server
        | .thread => Create.executeReply env fd client server := by
  unfold Create.execute Create.level
  split_ifs <;> rfl

theorem ListCommand.execute_level (fd : Int) (client : Client) (server : Server) :
    ListCommand.execute fd client server =
      if client.userUuid = [] then server.sendToClient Frame.unauthorized fd
      else server.orSend (ListCommand.checkTeam client server.db) fd fun _ =>
        match ListCommand.level client.context with
        | .server => ListCommand.executeTeam fd server
        | .team => ListCommand.executeChannel fd client server
        | .channel => ListCommand.executeThread fd client server
        | .thread => ListCommand.executeReply fd client server := by
  unfold ListCommand.execute ListCommand.level
  split_ifs <;> rfl

theorem Info.execute_level (fd : Int) (client : Client) (server : Server) :
    Info.execute fd client server =
      if client.userUuid = [] then server.sendToClient Frame.unauthorized fd
      else server.orSend (ListCommand.checkTeam client server.db) fd fun _ =>
        match Info.level client.context with
        | .server => Info.executeUser fd client server
        | .team => Info.executeTeam fd client server
        | .channel => Info.executeChannel fd client server
        | .thread => Info.executeThread fd client server := by
  unfold Info.execute Info.level
  split_ifs <;> rfl

/-- **In a valid context the three commands work on the same level.** -/
theorem Context.Valid.levels {db : Database} {context : Context} (valid : context.Valid db) :
    ListCommand.level context = Create.level context ∧ Info.level context = Create.level context := by
  unfold ListCommand.level Info.level Create.level
  by_cases team : context.teamUuid = []
  · have channel : context.channelUuid = [] := by_contra fun deep => valid.belowTeam deep team
    have thread : context.threadUuid = [] := by_contra fun deep => valid.belowChannel deep channel
    simp [team, channel, thread]
  · by_cases channel : context.channelUuid = []
    · have thread : context.threadUuid = [] := by_contra fun deep => valid.belowChannel deep channel
      simp [team, channel, thread]
    · by_cases thread : context.threadUuid = [] <;> simp [team, channel, thread]

/-! ### No 404 -/

/-- A message of the 404 kind. -/
def Frame.isNotFound (frame : Frame) : Bool := frame.keywords.head? = some .code404

/-- A command appends no 404 for the client behind a descriptor. -/
def NoNotFound (fd : Int) (server after : Server) : Prop :=
  ∀ frame ∈ server.newFrames fd after, frame.isNotFound = false

section Quiet

variable {env : Env} {fd : Int} {client : Client} {server : Server}

/-- A delivery in which the client gets no 404. -/
theorem noNotFound_deliver (found : server.clients.find? fd = some client) {letters : Letters}
    (fine : ∀ frame ∈ letters fd client.userUuid, frame.isNotFound = false) (db : Database)
    (uuidCalls timeCalls : Nat) :
    NoNotFound fd server (Server.deliver letters
      { server with db := db, uuidCalls := uuidCalls, timeCalls := timeCalls }) := by
  intro frame member
  unfold Server.newFrames Server.appendedTo at member
  rw [Server.find?_deliver, found] at member
  exact fine frame (by rwa [Option.map_some, Option.map_some, Option.getD_some, Option.map_some,
    Option.getD_some, Client.receive, List.drop_left] at member)

theorem noNotFound_sendToClient (found : server.clients.find? fd = some client) {frame : Frame}
    (fine : frame.isNotFound = false) : NoNotFound fd server (server.sendToClient frame fd) := by
  rw [Server.sendToClient_eq]
  refine noNotFound_deliver found (fun other member => ?_) server.db server.uuidCalls server.timeCalls
  rw [List.mem_singleton.mp (Letters.mem_toClient member).2]
  exact fine

theorem noNotFound_sendAllToClient (found : server.clients.find? fd = some client)
    {frames : List Frame} (fine : ∀ frame ∈ frames, frame.isNotFound = false) :
    NoNotFound fd server (server.sendAllToClient frames fd) := by
  rw [Server.sendAllToClient_eq]
  exact noNotFound_deliver found (fun other member => fine other (Letters.mem_toClient member).2)
    server.db server.uuidCalls server.timeCalls

/-- An answer and an announcement, neither of them a 404. -/
theorem noNotFound_announced (found : server.clients.find? fd = some client) {created : Frame}
    {others : Letters} {db : Database} {uuidCalls timeCalls : Nat}
    (fine : created.isNotFound = false)
    (events : ∀ frame ∈ others fd client.userUuid, frame.isNotFound = false) :
    NoNotFound fd server ((Server.sendToClient created fd
      { server with db := db, uuidCalls := uuidCalls, timeCalls := timeCalls }).deliver others) := by
  rw [Server.sendToClient_eq, Server.deliver_deliver]
  refine noNotFound_deliver found (fun frame member => ?_) db uuidCalls timeCalls
  rcases List.mem_append.mp member with own | other
  · rw [List.mem_singleton.mp (Letters.mem_toClient own).2]
    exact fine
  · exact events frame other

/-- The notice to the subscribers of a team is a delivery of this notice only. -/
theorem notifySubscribers_letters (teamUuid : Bytes) (notice : Frame) (server : Server) :
    ∃ letters : Letters, server.notifySubscribers teamUuid notice = server.deliver letters ∧
      ∀ fd session, ∀ frame ∈ letters fd session, frame = notice := by
  by_cases named : teamUuid = []
  · refine ⟨fun _ _ => [], ?_, fun _ _ _ member => absurd member List.not_mem_nil⟩
    rw [Server.notifySubscribers, if_pos (by simp [named]), Server.deliver]
    simp [SortedMap.mapWithKey]
  · cases present : server.db.findTeam teamUuid with
    | none =>
      refine ⟨fun _ _ => [], ?_, fun _ _ _ member => absurd member List.not_mem_nil⟩
      rw [Server.notifySubscribers, if_neg (by simpa using named), present, Server.deliver]
      simp [SortedMap.mapWithKey]
    | some team =>
      exact ⟨_, Server.notifySubscribers_eq named notice present,
        fun _ _ _ member => (Letters.mem_toSubscribers member).2⟩

theorem noNotFound_notified (found : server.clients.find? fd = some client) {created event : Frame}
    {db : Database} {uuidCalls timeCalls : Nat} (teamUuid : Bytes)
    (fine : created.isNotFound = false) (quiet : event.isNotFound = false) :
    NoNotFound fd server (Server.notifySubscribers teamUuid event (Server.sendToClient created fd
      { server with db := db, uuidCalls := uuidCalls, timeCalls := timeCalls })) := by
  obtain ⟨letters, delivered, only⟩ := notifySubscribers_letters teamUuid event
    (Server.sendToClient created fd
      { server with db := db, uuidCalls := uuidCalls, timeCalls := timeCalls })
  rw [delivered]
  exact noNotFound_announced found fine fun frame member => by rw [only _ _ frame member, quiet]

/-- The team of a valid context is found: its check sends 403 at most. -/
theorem findAccessibleTeam_quiet (found : server.clients.find? fd = some client)
    (valid : client.context.Valid server.db) (selected : client.context.teamUuid ≠ [])
    (next : Team → Server) (quiet : ∀ team, NoNotFound fd server (next team)) :
    NoNotFound fd server (server.orSend
      (Create.findAccessibleTeam client server.db client.context.teamUuid) fd next) := by
  obtain ⟨team, present⟩ := valid.team selected
  unfold Create.findAccessibleTeam
  rw [present]
  simp only
  split_ifs
  · exact quiet team
  · exact noNotFound_sendToClient found rfl

theorem findChannelOrSend404_quiet (valid : client.context.Valid server.db)
    (selected : client.context.channelUuid ≠ []) (next : Channel → Server)
    (quiet : ∀ channel, NoNotFound fd server (next channel)) :
    NoNotFound fd server (server.orSend (Create.findChannelOrSend404 server.db
      client.context.teamUuid client.context.channelUuid) fd next) := by
  obtain ⟨-, channel, -, present, -⟩ := valid.channel selected
  unfold Create.findChannelOrSend404
  rw [present]
  exact quiet channel

theorem findThreadOrSend404_quiet (valid : client.context.Valid server.db)
    (selected : client.context.threadUuid ≠ []) (next : Thread → Server)
    (quiet : ∀ thread, NoNotFound fd server (next thread)) :
    NoNotFound fd server (server.orSend (Create.findThreadOrSend404 server.db
      client.context.channelUuid client.context.threadUuid) fd next) := by
  obtain ⟨-, thread, -, present, -⟩ := valid.thread selected
  unfold Create.findThreadOrSend404
  rw [present]
  exact quiet thread

/-- **CREATE does not answer 404 in a valid context.** -/
theorem create_quiet (found : server.clients.find? fd = some client)
    (valid : client.context.Valid server.db) :
    NoNotFound fd server (Create.execute env fd client server) := by
  have refused : ∀ {frame : Frame}, frame.isNotFound = false →
      NoNotFound fd server (server.sendToClient frame fd) := noNotFound_sendToClient found
  unfold Create.execute
  split_ifs with session team channel thread
  · exact refused rfl
  · unfold Create.executeTeam
    split_ifs
    · exact refused rfl
    · exact refused rfl
    · exact refused rfl
    all_goals
      simp only [Create.emitTeamCreated, Server.broadcast_eq]
      exact noNotFound_announced found rfl fun frame member => Letters.mem_toAll member ▸ rfl
  · refine findAccessibleTeam_quiet found valid team _ fun team => ?_
    split_ifs
    · exact refused rfl
    · exact refused rfl
    · exact refused rfl
    · exact noNotFound_notified found _ rfl rfl
  · refine findAccessibleTeam_quiet found valid team _ fun team => ?_
    refine findChannelOrSend404_quiet valid channel _ fun channel => ?_
    split_ifs
    · exact refused rfl
    · exact refused rfl
    · exact refused rfl
    · exact noNotFound_notified found _ rfl rfl
  · refine findAccessibleTeam_quiet found valid team _ fun team => ?_
    refine findChannelOrSend404_quiet valid channel _ fun channel => ?_
    refine findThreadOrSend404_quiet valid thread _ fun thread => ?_
    split_ifs
    · exact refused rfl
    · exact refused rfl
    · exact noNotFound_notified found _ rfl rfl

/-- The lines of a list are no 404. -/
theorem listing_quiet (type : Keyword) (items : List (List Field)) :
    ∀ frame ∈ Frame.listing type items, frame.isNotFound = false :=
  Frame.forall_listing rfl (fun _ _ => rfl) rfl

/-- The check of LIST and INFO sends 403 at most. -/
theorem checkTeam_quiet (found : server.clients.find? fd = some client)
    (valid : client.context.Valid server.db) {next : Unit → Server}
    (quiet : NoNotFound fd server (next ())) :
    NoNotFound fd server (server.orSend (ListCommand.checkTeam client server.db) fd next) := by
  unfold ListCommand.checkTeam
  by_cases selected : client.context.teamUuid = []
  · rw [if_pos selected]
    exact quiet
  · obtain ⟨team, present⟩ := valid.team selected
    rw [if_neg selected, present]
    simp only
    split_ifs
    · exact quiet
    · exact noNotFound_sendToClient found rfl

/-- **LIST does not answer 404 in a valid context.** -/
theorem list_quiet (found : server.clients.find? fd = some client)
    (valid : client.context.Valid server.db) :
    NoNotFound fd server (ListCommand.execute fd client server) := by
  have shown : ∀ type items, NoNotFound fd server
      (server.sendAllToClient (Frame.listing type items) fd) :=
    fun type items => noNotFound_sendAllToClient found (listing_quiet type items)
  unfold ListCommand.execute
  by_cases session : client.userUuid = []
  · rw [if_pos session]
    exact noNotFound_sendToClient found rfl
  rw [if_neg session]
  refine checkTeam_quiet found valid ?_
  split_ifs with thread channel team
  · obtain ⟨-, thread, -, present, -⟩ := valid.thread thread.2.1
    unfold ListCommand.executeReply
    rw [present]
    exact shown _ _
  · obtain ⟨-, channel, -, present, -⟩ := valid.channel channel.1
    unfold ListCommand.executeThread
    rw [present]
    exact shown _ _
  · obtain ⟨team, present⟩ := valid.team team
    unfold ListCommand.executeChannel
    rw [present]
    exact shown _ _
  · exact shown _ _

/-- **INFO does not answer 404 in a valid context**, below the level of the server. -/
theorem info_quiet (found : server.clients.find? fd = some client)
    (valid : client.context.Valid server.db) (below : Info.level client.context ≠ .server) :
    NoNotFound fd server (Info.execute fd client server) := by
  unfold Info.level at below
  unfold Info.execute
  by_cases session : client.userUuid = []
  · rw [if_pos session]
    exact noNotFound_sendToClient found rfl
  rw [if_neg session]
  refine checkTeam_quiet found valid ?_
  split_ifs at below ⊢ with thread channel team
  · obtain ⟨-, thread, -, present, -⟩ := valid.thread thread
    unfold Info.executeThread
    rw [present]
    exact noNotFound_sendToClient found rfl
  · obtain ⟨-, channel, -, present, -⟩ := valid.channel channel
    unfold Info.executeChannel
    rw [present]
    exact noNotFound_sendToClient found rfl
  · obtain ⟨team, present⟩ := valid.team team
    unfold Info.executeTeam
    rw [present]
    exact noNotFound_sendToClient found rfl
  · exact absurd rfl below

/-- A line of one of the three commands appends no 404, if the context of its requester is valid. -/
theorem line_quiet (found : server.clients.find? fd = some client)
    (valid : client.context.Valid server.db) {rawCommand : Bytes} {verb : Verb}
    (named : (CommandHandling.parseArgs rawCommand).head? = some verb.text)
    (reads : verb = .create ∨ verb = .list ∨ verb = .info ∧ Info.level client.context ≠ .server) :
    NoNotFound fd server (CommandHandling.handleCommand env rawCommand fd server) := by
  have stored := find?_setArgs found (CommandHandling.parseArgs rawCommand)
  have same : ∀ after, NoNotFound fd
      (server.modifyClient fd (Client.setArgs (CommandHandling.parseArgs rawCommand))) after →
      NoNotFound fd server after := by
    intro after quiet frame member
    unfold Server.newFrames at member
    rw [← appendedTo_modifyClient (quiet_setArgs _) fd] at member
    exact quiet frame member
  rw [handleCommand_of_named env found named]
  refine same _ ?_
  rcases reads with rfl | rfl | ⟨rfl, below⟩
  · exact create_quiet stored valid
  · exact list_quiet stored valid
  · exact info_quiet stored valid below

end Quiet

/-- **Context validity.** In every state of every run from a database that a server process can load,
the context of every client is valid; CREATE, LIST and INFO work on the same level of it; and none of
the three answers a line with 404, INFO below the level of the server. -/
theorem context_validity (env : Env) {db : Database} (start : SelfSaved db) (events : List Event)
    (fresh : env.Fresh db.uuids (run (Server.step env) { db := db } events).uuidCalls) :
    let server := run (Server.step env) { db := db } events
    ∀ fd client, server.clients.find? fd = some client →
      client.context.Valid server.db ∧
      ListCommand.level client.context = Create.level client.context ∧
      Info.level client.context = Create.level client.context ∧
      ∀ rawCommand verb, (CommandHandling.parseArgs rawCommand).head? = some (Verb.text verb) →
        verb = .create ∨ verb = .list ∨ verb = .info ∧ Info.level client.context ≠ .server →
        ∀ frame ∈ server.newFrames fd (server.step env (.line fd rawCommand)),
          frame.isNotFound = false := by
  intro server fd client found
  have distinct : Distinct server.db.uuids := run_distinct start.distinct events fresh
  have within : client.context.Within server.db :=
    run_within start.distinct events fresh fd client.session (session_of_found found)
  have valid := within.valid distinct
  exact ⟨valid, valid.levels.1, valid.levels.2, fun rawCommand verb named reads =>
    line_quiet found valid named reads⟩

/-- A client that has created a team, a channel and a thread, and selected the thread. -/
theorem context_validity_sample :
    let name (n : Nat) : Bytes := ascii " \"" ++ (digitUuid n).1 ++ ascii "\""
    let events := Input.trace sampleEnv { db := {} } [.accept 4,
      .read 4 (ascii "/login \"ann\"\n/create \"red\" \"first\"\n"),
      .read 4 (ascii "/use" ++ name 1 ++ ascii "\n/create \"plan\" \"talk\"\n"),
      .read 4 (ascii "/use" ++ name 1 ++ name 2 ++ ascii "\n/create \"day\" \"one\"\n"),
      .read 4 (ascii "/use" ++ name 1 ++ name 2 ++ name 3 ++ ascii "\n")]
    let server := run (Server.step sampleEnv) { db := {} } events
    ∃ client, server.clients.find? 4 = some client ∧
      Info.level client.context = .thread ∧ client.context.Valid server.db := by
  intro name events server
  obtain ⟨client, found⟩ : ∃ client, server.clients.find? 4 = some client :=
    Option.isSome_iff_exists.mp (by decide)
  have level : (server.clients.find? 4).map (fun client => Info.level client.context)
      = some .thread := by decide
  rw [found] at level
  exact ⟨client, found, Option.some.inj level,
    (context_validity sampleEnv .empty events (sampleEnv_fresh.of_le (by decide)) 4 client found).1⟩

end MyTeams
