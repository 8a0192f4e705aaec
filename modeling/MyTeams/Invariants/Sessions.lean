/-
**The connection count of a user is the number of its sessions.**

`Server.sessions uuid` counts the connected clients whose session belongs to the user `uuid`.
`Counted` is the invariant: every user of the database is counted right and named, and every session
belongs to a user of the database. The count changes in four places of the source (a first login, a
later login, LOGOUT, a lost connection), each of which changes one session along with it
(`counted_step`).

`connection_count` is the result for every run of the byte-level server, `shown_status` what it means
for the status that the server shows.
-/

import MyTeams.Invariants.Identities

namespace MyTeams

open FirstMatch Transition

/-! ### Sessions -/

/-- The session of a client belongs to this user. -/
def Client.isSessionOf (uuid : Bytes) (client : Client) : Bool := client.userUuid = uuid

/-- The number of connected clients with a session of this user. -/
def Server.sessions (uuid : Bytes) (server : Server) : Nat :=
  server.clients.count (Client.isSessionOf uuid)

section Sessions

variable {server : Server} {fd : Int} {client : Client}

theorem sessions_pos_iff {uuid : Bytes} :
    0 < server.sessions uuid ↔
      ∃ fd client, server.clients.find? fd = some client ∧ client.userUuid = uuid := by
  rw [Server.sessions, SortedMap.count_pos_iff]
  simp [Client.isSessionOf]

theorem sessions_deliver (letters : Letters) (uuid : Bytes) :
    (server.deliver letters).sessions uuid = server.sessions uuid :=
  SortedMap.count_mapWithKey (p := Client.isSessionOf uuid) fun _ _ => rfl

theorem sessions_modifyClients {f : Int → Client → Client} (quiet : ∀ fd, Quiet (f fd))
    (uuid : Bytes) : (server.modifyClients f).sessions uuid = server.sessions uuid := by
  refine SortedMap.count_mapWithKey (p := Client.isSessionOf uuid) fun key client => ?_
  rw [Client.isSessionOf, (quiet key).userUuid, Client.isSessionOf]

/-- The requester leaves its session and enters another. -/
theorem sessions_commit (outcome : Outcome) (found : server.clients.find? fd = some client)
    (uuid : Bytes) :
    (outcome.commit fd server).sessions uuid + (decide (client.userUuid = uuid)).toNat
      = server.sessions uuid + (decide (outcome.userUuid = uuid)).toNat := by
  rw [Outcome.commit, sessions_deliver]
  exact SortedMap.count_modify (p := Client.isSessionOf uuid) found

theorem sessions_erase (found : server.clients.find? fd = some client) (db : Database) (uuid : Bytes) :
    ({ server with clients := server.clients.erase fd, db := db } : Server).sessions uuid
      + (decide (client.userUuid = uuid)).toNat = server.sessions uuid :=
  SortedMap.count_erase (p := Client.isSessionOf uuid) found

end Sessions

/-! ### Users after a write -/

/-- The uuids of the users. -/
def Database.userUuids (db : Database) : List Bytes := db.users.map User.uuid

/-- What the invariant reads of a user. -/
def User.account (user : User) : Bytes × Nat := (user.uuid, user.connectedCount)

theorem User.addMessage_account (key : Bytes) (message : Message) (user : User) :
    (user.addMessage key message).account = user.account := rfl

theorem accounts_modifyFirst {users : List User} {p : User → Bool} {f : User → User}
    (keeps : ∀ user, (f user).account = user.account) :
    (modifyFirst p f users).map User.account = users.map User.account :=
  map_modifyFirst keeps

/-- After a write to one user, the others are the old ones, with other uuids. -/
theorem mem_modifyFirst_of_nodup {users : List User} (distinct : (users.map User.uuid).Nodup)
    {p : User → Bool} {f : User → User} {user other : User} (found : users.find? p = some user)
    (member : other ∈ modifyFirst p f users) :
    other = f user ∨ other ∈ users ∧ other.uuid ≠ user.uuid := by
  obtain ⟨before, after, split, -, update⟩ := modifyFirst_split found
  rw [split, List.map_append, List.map_cons, List.nodup_append] at distinct
  obtain ⟨-, right, across⟩ := distinct
  rw [update f] at member
  rw [split]
  rcases List.mem_append.mp member with front | rest
  · refine Or.inr ⟨List.mem_append_left _ front, ?_⟩
    exact across _ (List.mem_map_of_mem front) _ List.mem_cons_self
  · rcases List.mem_cons.mp rest with rfl | back
    · exact Or.inl rfl
    · refine Or.inr ⟨List.mem_append_right _ (List.mem_cons_of_mem _ back), fun same => ?_⟩
      exact (List.nodup_cons.mp right).1 (same ▸ List.mem_map_of_mem back)

/-! ### The invariant -/

/-- Every user is counted right, and every session belongs to a user. -/
structure Counted (server : Server) : Prop where
  counts : ∀ user ∈ server.db.users, user.connectedCount = server.sessions user.uuid
  named : ∀ user ∈ server.db.users, user.uuid ≠ []
  bound : ∀ fd client, server.clients.find? fd = some client →
    client.userUuid = [] ∨ client.userUuid ∈ server.db.userUuids

section Step

variable {env : Env} {server : Server}

/-- The invariant carries over when accounts and sessions stay. -/
theorem Counted.of_accounts {after : Server} (counted : Counted server)
    (accounts : after.db.users.map User.account = server.db.users.map User.account)
    (sessions : ∀ uuid, uuid ≠ [] → after.sessions uuid = server.sessions uuid)
    (bound : ∀ fd client, after.clients.find? fd = some client →
      client.userUuid = [] ∨ client.userUuid ∈ server.db.userUuids) : Counted after := by
  have old : ∀ user ∈ after.db.users, ∃ earlier ∈ server.db.users,
      earlier.uuid = user.uuid ∧ earlier.connectedCount = user.connectedCount := by
    intro user member
    have stored : user.account ∈ after.db.users.map User.account := List.mem_map_of_mem member
    rw [accounts] at stored
    obtain ⟨earlier, present, same⟩ := List.mem_map.mp stored
    exact ⟨earlier, present, congrArg Prod.fst same, congrArg Prod.snd same⟩
  have uuids : after.db.userUuids = server.db.userUuids := by
    have firsts := congrArg (List.map Prod.fst) accounts
    rwa [List.map_map, List.map_map] at firsts
  refine ⟨fun user member => ?_, fun user member => ?_, fun fd client found => ?_⟩
  · obtain ⟨earlier, present, sameUuid, sameCount⟩ := old user member
    have named := counted.named earlier present
    rw [sessions user.uuid (sameUuid ▸ named), ← sameCount, ← sameUuid,
      counted.counts earlier present]
  · obtain ⟨earlier, present, sameUuid, -⟩ := old user member
    exact sameUuid ▸ counted.named earlier present
  · rw [uuids]
    exact bound fd client found

/-- The invariant carries over when one user's count and sessions change together. -/
theorem Counted.of_account {after : Server} {user : User} {p : User → Bool} {f : User → User}
    (counted : Counted server) (distinct : server.db.userUuids.Nodup)
    (found : server.db.users.find? p = some user) (keeps : ∀ user, (f user).uuid = user.uuid)
    (users : after.db.users = modifyFirst p f server.db.users)
    (changed : (f user).connectedCount = after.sessions user.uuid)
    (others : ∀ uuid, uuid ≠ [] → uuid ≠ user.uuid → after.sessions uuid = server.sessions uuid)
    (bound : ∀ fd client, after.clients.find? fd = some client →
      client.userUuid = [] ∨ client.userUuid ∈ server.db.userUuids) : Counted after := by
  have stored : user ∈ server.db.users := List.mem_of_find?_eq_some found
  have uuids : after.db.userUuids = server.db.userUuids := by
    rw [Database.userUuids, users, map_modifyFirst keeps, Database.userUuids]
  refine ⟨fun other member => ?_, fun other member => ?_, fun fd client present => ?_⟩
  · rw [users] at member
    rcases mem_modifyFirst_of_nodup distinct found member with rfl | ⟨old, different⟩
    · rw [keeps]
      exact changed
    · rw [others _ (counted.named other old) different]
      exact counted.counts other old
  · rw [users] at member
    rcases mem_modifyFirst_of_nodup distinct found member with rfl | ⟨old, -⟩
    · rw [keeps]
      exact counted.named user stored
    · exact counted.named other old
  · rw [uuids]
    exact bound fd client present

variable {fd : Int} {client : Client} {verb : Verb} {outcome : Outcome}

/-- After a command, every session is an old one or the new one of the requester. -/
theorem commit_bound {known : List Bytes} (found : server.clients.find? fd = some client)
    (bound : ∀ fd client, server.clients.find? fd = some client →
      client.userUuid = [] ∨ client.userUuid ∈ known)
    (new : outcome.userUuid = [] ∨ outcome.userUuid ∈ known) (other : Int) (after : Client)
    (present : (outcome.commit fd server).clients.find? other = some after) :
    after.userUuid = [] ∨ after.userUuid ∈ known := by
  by_cases same : other = fd
  · rw [same, outcome.find?_commit_self found] at present
    cases present
    exact new
  · rw [outcome.find?_commit_of_ne same] at present
    obtain ⟨before, stored, rfl⟩ := Option.map_eq_some_iff.mp present
    exact bound other before stored

/-- A command that keeps the session and the accounts. -/
theorem Counted.commit (counted : Counted server) (found : server.clients.find? fd = some client)
    (session : outcome.userUuid = client.userUuid)
    (accounts : outcome.db.users.map User.account = server.db.users.map User.account) :
    Counted (outcome.commit fd server) := by
  refine counted.of_accounts accounts (fun uuid _ => ?_)
    (commit_bound found counted.bound (session ▸ counted.bound fd client found))
  have change := sessions_commit outcome found uuid
  rw [session] at change
  exact Nat.add_right_cancel change

/-- A user of the database is found by its uuid. -/
theorem mem_userUuids {uuid : Bytes} {user : User} (found : server.db.findUser uuid = some user) :
    user ∈ server.db.users ∧ user.uuid = uuid := find?_key found

theorem counted_logout (counted : Counted server) (distinct : server.db.userUuids.Nodup)
    (found : server.clients.find? fd = some client) {user : User}
    (present : server.db.findUser client.userUuid = some user)
    (users : outcome.db = server.db.modifyUser client.userUuid User.decrementConnection)
    (session : outcome.userUuid = []) : Counted (outcome.commit fd server) := by
  obtain ⟨member, key⟩ := mem_userUuids present
  have named := counted.named user member
  have change := sessions_commit outcome found
  refine counted.of_account distinct present User.decrementConnection_uuid (by
    rw [show (outcome.commit fd server).db = outcome.db from rfl, users]
    rfl) ?_ (fun uuid nonempty different => ?_)
    (commit_bound found counted.bound (Or.inl session))
  · have own := change user.uuid
    have count := counted.counts user member
    rw [session, decide_eq_false named.symm, decide_eq_true key.symm] at own
    simp only [Bool.toNat_true, Bool.toNat_false, Nat.add_zero] at own
    rw [User.decrementConnection_connectedCount]
    omega
  · have own := change uuid
    rw [session, decide_eq_false nonempty.symm, decide_eq_false (key ▸ different.symm)] at own
    exact own

theorem counted_login (counted : Counted server) (distinct : server.db.userUuids.Nodup)
    (found : server.clients.find? fd = some client) (anonymous : client.userUuid = []) {name : Bytes}
    {user : User} (present : server.db.findUserByName name = some user)
    (users : outcome.db = server.db.modifyUserByName name User.incrementConnection)
    (session : outcome.userUuid = user.uuid) : Counted (outcome.commit fd server) := by
  have member : user ∈ server.db.users := List.mem_of_find?_eq_some present
  have named := counted.named user member
  have change := sessions_commit outcome found
  refine counted.of_account distinct present User.incrementConnection_uuid (by
    rw [show (outcome.commit fd server).db = outcome.db from rfl, users]
    rfl) ?_ (fun uuid nonempty different => ?_)
    (commit_bound found counted.bound (Or.inr (session ▸ List.mem_map_of_mem member)))
  · have own := change user.uuid
    have count := counted.counts user member
    rw [session, anonymous, decide_eq_false named.symm, decide_eq_true rfl] at own
    simp only [Bool.toNat_true, Bool.toNat_false, Nat.add_zero] at own
    show user.connectedCount + 1 = _
    omega
  · have own := change uuid
    rw [session, anonymous, decide_eq_false nonempty.symm, decide_eq_false different.symm] at own
    exact own

theorem counted_create (counted : Counted server) (found : server.clients.find? fd = some client)
    (anonymous : client.userUuid = []) {newUser : User} (named : newUser.uuid ≠ [])
    (fresh : newUser.uuid ∉ server.db.userUuids) (count : newUser.connectedCount = 1)
    (users : outcome.db = { server.db with users := server.db.users ++ [newUser] })
    (session : outcome.userUuid = newUser.uuid) : Counted (outcome.commit fd server) := by
  have change := sessions_commit outcome found
  have list : (outcome.commit fd server).db.users = server.db.users ++ [newUser] := by
    rw [show (outcome.commit fd server).db = outcome.db from rfl, users]
  have uuids : (outcome.commit fd server).db.userUuids = server.db.userUuids ++ [newUser.uuid] := by
    rw [Database.userUuids, list, List.map_append]
    rfl
  -- nobody had a session of the new user
  have none : server.sessions newUser.uuid = 0 := by
    by_contra some
    obtain ⟨other, holder, present, same⟩ := sessions_pos_iff.mp (Nat.pos_of_ne_zero some)
    rcases counted.bound other holder present with empty | known
    · exact named (same ▸ empty)
    · exact fresh (same ▸ known)
  refine ⟨fun user member => ?_, fun user member => ?_, ?_⟩
  · rw [list] at member
    rcases List.mem_append.mp member with old | new
    · have own := change user.uuid
      have different : newUser.uuid ≠ user.uuid := fun same =>
        fresh (same ▸ List.mem_map_of_mem old)
      rw [session, anonymous, decide_eq_false (counted.named user old).symm,
        decide_eq_false different] at own
      rw [counted.counts user old]
      exact own.symm
    · have own := change newUser.uuid
      rw [session, anonymous, decide_eq_false named.symm, decide_eq_true rfl, none] at own
      rw [List.mem_singleton.mp new, count]
      exact own.symm
  · rw [list] at member
    rcases List.mem_append.mp member with old | new
    · exact counted.named user old
    · rw [List.mem_singleton.mp new]
      exact named
  · rw [uuids]
    refine commit_bound found (fun other holder present => ?_)
      (Or.inr (List.mem_append_right _ (List.mem_singleton.mpr session)))
    exact (counted.bound other holder present).imp_right (List.mem_append_left _)

/-- **A command keeps the counts right.** -/
theorem counted_serves {past : List Bytes} (counted : Counted server)
    (supplied : Supplied env past server.uuidCalls server.db.userUuids)
    (fresh : env.Fresh past outcome.uuidCalls) (found : server.clients.find? fd = some client)
    (serves : Serves env fd client server verb outcome) : Counted (outcome.commit fd server) := by
  cases serves with
  | loginNew _ anonymous _ _ _ made =>
    subst made
    exact counted_create counted found anonymous (Uuid.ne_nil _) (supplied.next_not_mem fresh) rfl rfl
      rfl
  | loginAgain _ anonymous _ _ present =>
    exact counted_login counted supplied.nodup found anonymous present rfl rfl
  | logout _ present => exact counted_logout counted supplied.nodup found present rfl rfl
  | logoutLast _ present => exact counted_logout counted supplied.nodup found present rfl rfl
  | logoutUnknown session missing =>
    rcases counted.bound fd client found with empty | known
    · exact absurd empty session
    · obtain ⟨user, member, same⟩ := List.mem_map.mp known
      exact absurd same (of_decide_eq_false (Bool.eq_false_iff.mpr
        (List.find?_eq_none.mp missing user member)))
  | send =>
    refine counted.commit found rfl ?_
    exact (accounts_modifyFirst (User.addMessage_account _ _)).trans
      (accounts_modifyFirst (User.addMessage_account _ _))
  | _ => exact counted.commit found rfl rfl

/-! ### Other steps -/

theorem counted_quiet (counted : Counted server) {f : Int → Client → Client}
    (quiet : ∀ fd, Quiet (f fd)) : Counted (server.modifyClients f) := by
  refine counted.of_accounts rfl (fun uuid _ => sessions_modifyClients quiet uuid)
    fun other holder present => ?_
  rw [Server.modifyClients, SortedMap.find?_mapWithKey] at present
  obtain ⟨before, stored, rfl⟩ := Option.map_eq_some_iff.mp present
  rw [(quiet other).userUuid]
  exact counted.bound other before stored

theorem counted_accept (counted : Counted server) (missing : server.clients.find? fd = none) :
    Counted { server with clients := server.clients.insert fd { fd := fd } } := by
  refine counted.of_accounts rfl (fun uuid named => ?_) fun other holder present => ?_
  · have count := SortedMap.count_insert_of_none (p := Client.isSessionOf uuid)
      ({ fd := fd } : Client) missing
    have bare : Client.isSessionOf uuid { fd := fd } = false := decide_eq_false named.symm
    rw [bare] at count
    exact count
  · change (server.clients.insert fd { fd := fd }).find? other = some holder at present
    rw [SortedMap.find?_insert] at present
    split_ifs at present with same
    · cases present
      exact Or.inl rfl
    · exact counted.bound other holder present

/-- Clients that are left after one was erased. -/
theorem erase_bound (counted : Counted server) (db : Database) (other : Int) (holder : Client)
    (present : ({ server with clients := server.clients.erase fd, db := db } : Server).clients.find?
      other = some holder) :
    holder.userUuid = [] ∨ holder.userUuid ∈ server.db.userUuids := by
  change (server.clients.erase fd).find? other = some holder at present
  rw [SortedMap.find?_erase] at present
  split_ifs at present with same
  exact counted.bound other holder present

theorem counted_leave (counted : Counted server) (distinct : server.db.userUuids.Nodup)
    (found : server.clients.find? fd = some client) {user : User}
    (present : server.db.findUser client.userUuid = some user) :
    Counted { server with
      clients := server.clients.erase fd
      db := server.db.modifyUser client.userUuid User.decrementConnection } := by
  obtain ⟨member, key⟩ := mem_userUuids present
  have change := sessions_erase found (server.db.modifyUser client.userUuid User.decrementConnection)
  refine counted.of_account distinct present User.decrementConnection_uuid rfl ?_
    (fun uuid _ different => ?_) (erase_bound counted _)
  · have own := change user.uuid
    have count := counted.counts user member
    rw [decide_eq_true key.symm, Bool.toNat_true] at own
    rw [User.decrementConnection_connectedCount]
    omega
  · have own := change uuid
    rw [decide_eq_false (key ▸ different.symm)] at own
    exact own

theorem counted_deliver (counted : Counted server) (letters : Letters) :
    Counted (server.deliver letters) := by
  refine counted.of_accounts rfl (fun uuid _ => sessions_deliver letters uuid)
    fun other holder present => ?_
  rw [Server.find?_deliver] at present
  obtain ⟨before, stored, rfl⟩ := Option.map_eq_some_iff.mp present
  exact counted.bound other before stored

theorem counted_restart (counted : Counted server) (f : Int → Int) :
    Counted { server with clients := SortedMap.empty, db := server.db.reloaded f } := by
  refine ⟨fun user member => ?_, fun user member => ?_, fun other holder present => ?_⟩
  · obtain ⟨earlier, -, rfl⟩ := List.mem_map.mp member
    rfl
  · obtain ⟨earlier, stored, rfl⟩ := List.mem_map.mp member
    exact counted.named earlier stored
  · cases present

/-- **Every step keeps the counts right.** -/
theorem counted_step {past : List Bytes} {event : Event} {after : Server} (counted : Counted server)
    (supplied : Supplied env past server.uuidCalls server.db.userUuids)
    (fresh : env.Fresh past after.uuidCalls) (steps : Steps env server event after) :
    Counted after := by
  cases steps with
  | quiet _ quiet => exact counted_quiet counted quiet
  | accepted missing => exact counted_accept counted missing
  | served found _ serves =>
    exact counted_serves (counted_quiet counted (quiet_at (quiet_setArgs _) _)) supplied fresh
      (find?_setArgs found _) serves
  | @left fd client found stray =>
    have anonymous : client.userUuid = [] := by
      rcases counted.bound fd client found with empty | known
      · exact empty
      · rcases stray with empty | missing
        · exact empty
        · obtain ⟨user, member, same⟩ := List.mem_map.mp known
          exact absurd same (of_decide_eq_false (Bool.eq_false_iff.mpr
            (List.find?_eq_none.mp missing user member)))
    refine counted.of_accounts rfl (fun uuid named => ?_) (erase_bound counted server.db)
    have own := sessions_erase found server.db uuid
    rw [anonymous, decide_eq_false named.symm] at own
    exact own
  | leftUser found _ present => exact counted_leave counted supplied.nodup found present
  | leftLast found _ present =>
    exact counted_deliver (counted_leave counted supplied.nodup found present) _
  | restarted => exact counted_restart counted _

end Step

/-! ### The status in a message -/

/-- The message shows the status of a user. -/
def Frame.ShowsStatus (frame : Frame) (uuid : Bytes) (shown : Int) : Prop :=
  ∃ name, frame.fields = [.quoted uuid, .quoted name, .number shown]

section Status

variable {env : Env} {server : Server} {fd : Int} {client : Client} {verb : Verb}
  {outcome : Outcome}

/-- A status shown is read off a user of the database. -/
def StatusOf (db : Database) (frame : Frame) : Prop :=
  ∀ uuid shown, frame.ShowsStatus uuid shown →
    ∃ user ∈ db.users, user.uuid = uuid ∧ shown = if user.isConnected then 1 else 0

theorem statusOf_userFields {db : Database} {user : User} (member : user ∈ db.users)
    (keywords : List Keyword) : StatusOf db ⟨keywords, Frame.userFields user⟩ := by
  rintro uuid shown ⟨name, same⟩
  simp only [Frame.userFields, Frame.status, List.cons.injEq, Field.quoted.injEq,
    Field.number.injEq, and_true] at same
  exact ⟨user, member, same.1, same.2.2.symm⟩

/-- A message whose third field is not a number shows no status. -/
theorem statusOf_other {db : Database} {frame : Frame}
    (other : ∀ shown, frame.fields[2]? ≠ some (.number shown)) : StatusOf db frame := by
  rintro uuid shown ⟨name, same⟩
  exact absurd (by rw [same]; rfl) (other shown)

/-- A message that has not three fields shows no status. -/
theorem statusOf_length {db : Database} {frame : Frame} (length : frame.fields.length ≠ 3) :
    StatusOf db frame := by
  rintro uuid shown ⟨name, same⟩
  rw [same] at length
  exact absurd rfl length

theorem statusOf_listing {db : Database} {type : Keyword} {items : List (List Field)} {frame : Frame}
    (each : ∀ fields ∈ items, StatusOf db (Frame.item fields))
    (member : frame ∈ Frame.listing type items) : StatusOf db frame :=
  Frame.forall_listing (statusOf_length (by simp [Frame.listBegin])) each
    (statusOf_length (by simp [Frame.listEnd])) frame member

theorem statusOf_named {db : Database} (keywords : List Keyword) (uuid name description : Bytes) :
    StatusOf db ⟨keywords, Frame.namedFields uuid name description⟩ :=
  statusOf_other fun _ => by simp [Frame.namedFields]

theorem refusal_status {db : Database} {frame : Frame} (refusal : Refusal client frame) :
    StatusOf db frame := by
  cases refusal <;> exact statusOf_length (by
    simp [Frame.badRequest, Frame.unauthorized, Frame.forbidden, Frame.alreadyExists,
      Frame.notFound, Frame.notFoundUuid, Frame.notFoundKind])

theorem shown_status {db : Database} {frames : List Frame} {frame : Frame}
    (shown : Shown client db verb frames) (member : frame ∈ frames) : StatusOf db frame := by
  cases shown with
  | infoUser _ present =>
    rw [List.mem_singleton.mp member]
    exact statusOf_userFields (List.mem_of_find?_eq_some present) _
  | user _ present =>
    rw [List.mem_singleton.mp member]
    exact statusOf_userFields (List.mem_of_find?_eq_some present) _
  | infoTeam | infoChannel =>
    rw [List.mem_singleton.mp member]
    exact statusOf_named _ _ _ _
  | infoThread =>
    rw [List.mem_singleton.mp member]
    exact statusOf_length (by simp [Frame.infoThread, Frame.threadFields])
  | alreadySubscribed =>
    rw [List.mem_singleton.mp member]
    exact statusOf_length (by simp [Frame.okSubscribe])
  | listTeams | listChannels | subscribedTeams =>
    refine statusOf_listing (fun fields listed => ?_) member
    obtain ⟨_, -, rfl⟩ := List.mem_map.mp listed
    exact statusOf_named _ _ _ _
  | listThreads =>
    refine statusOf_listing (fun fields listed => ?_) member
    obtain ⟨thread, -, rfl⟩ := List.mem_map.mp listed
    exact statusOf_length (by simp [Frame.item, Frame.threadFields])
  | listReplies =>
    refine statusOf_listing (fun fields listed => ?_) member
    obtain ⟨reply, -, rfl⟩ := List.mem_map.mp listed
    exact statusOf_length (by simp [Frame.item, Frame.replyFields])
  | messages =>
    refine statusOf_listing (fun fields listed => ?_) member
    obtain ⟨message, -, rfl⟩ := List.mem_map.mp listed
    exact statusOf_other fun _ => by simp [Frame.item, Messages.messageFields]
  | subscribers =>
    refine statusOf_listing (fun fields listed => ?_) member
    obtain ⟨user, found, rfl⟩ := List.mem_map.mp listed
    obtain ⟨uuid, -, present⟩ := List.mem_filterMap.mp found
    exact statusOf_userFields (List.mem_of_find?_eq_some present) _
  | users =>
    refine statusOf_listing (fun fields listed => ?_) member
    obtain ⟨user, present, rfl⟩ := List.mem_map.mp listed
    exact statusOf_userFields present _

open Letters in
/-- **Every status that a command shows is read off the database.** -/
theorem serves_status (serves : Serves env fd client server verb outcome) {other : Int} {session : Bytes}
    {frame : Frame} (member : frame ∈ outcome.letters other session) :
    StatusOf server.db frame := by
  -- the letters of a command are an answer, or an answer and a notice
  have single : ∀ {sent : Frame}, StatusOf server.db sent → frame ∈ toClient fd [sent] other session →
      StatusOf server.db frame := fun status inside =>
    List.mem_singleton.mp (mem_toClient inside).2 ▸ status
  have answers : ∀ {sent : List Frame}, (∀ frame ∈ sent, frame.fields.length ≠ 3) →
      frame ∈ toClient fd sent other session → StatusOf server.db frame := fun short inside =>
    statusOf_length (short frame (mem_toClient inside).2)
  cases serves with
  | refused refusal => exact single (refusal_status refusal) member
  | @shown _ frames shown =>
    have inside : frame ∈ toClient fd frames other session := member
    exact shown_status shown (mem_toClient inside).2
  | logout | logoutUnknown | useNothing | useTeam | useChannel | useThread | useNoChannel
  | useNoThread => exact answers (by simp [Frame.ok, Frame.notFoundKind]) member
  | loginNew | loginAgain =>
    rcases List.mem_append.mp member with own | all
    · exact answers (by simp [Frame.okLogin]) own
    · exact mem_toAll all ▸ statusOf_length (by simp [Frame.eventLoggedIn])
  | logoutLast =>
    rcases List.mem_append.mp member with all | own
    · exact mem_toAll all ▸ statusOf_length (by simp [Frame.eventLoggedOut])
    · exact answers (by simp [Frame.ok]) own
  | createTeam =>
    rcases List.mem_append.mp member with own | all
    · exact single (statusOf_named _ _ _ _) own
    · exact mem_toAll all ▸ statusOf_named _ _ _ _
  | createChannel =>
    rcases List.mem_append.mp member with own | others
    · exact single (statusOf_named _ _ _ _) own
    · exact (mem_toSubscribers others).2 ▸ statusOf_named _ _ _ _
  | createThread =>
    rcases List.mem_append.mp member with own | others
    · exact answers (by simp [Frame.createdThread, Frame.threadFields]) own
    · exact (mem_toSubscribers others).2 ▸
        statusOf_length (by simp [Frame.eventThreadCreated, Frame.threadFields])
  | createReply =>
    rcases List.mem_append.mp member with own | others
    · exact answers (by simp [Frame.createdReply, Frame.replyFields]) own
    · exact (mem_toSubscribers others).2 ▸ statusOf_length (by simp [Frame.eventReplyCreated])
  | subscribe =>
    rcases List.mem_append.mp member with others | own
    · exact (mem_toSubscribers others).2 ▸ statusOf_length (by simp [Frame.userSubscribed])
    · exact answers (by simp [Frame.okSubscribe]) own
  | unsubscribe =>
    rcases List.mem_append.mp member with others | own
    · exact (mem_toSubscribers others).2 ▸ statusOf_length (by simp [Frame.userUnsubscribed])
    · exact answers (by simp [Frame.okUnsubscribe]) own
  | send =>
    rcases List.mem_append.mp member with others | own
    · exact (mem_toUser others).2 ▸ statusOf_length (by simp [Frame.eventPrivateMessage])
    · exact answers (by simp [Frame.ok]) own

/-- **A status is 1 exactly while the user has a session.** -/
theorem step_status {event : Event} {after : Server} (counted : Counted server)
    (steps : Steps env server event after) {other : Int} {frame : Frame}
    (member : frame ∈ server.newFrames other after) {uuid : Bytes} {shown : Int}
    (status : frame.ShowsStatus uuid shown) :
    shown = if 0 < server.sessions uuid then 1 else 0 := by
  rcases step_newFrames steps member with
    ⟨_, _, _, _, _, _, -, -, -, -, serves, -, letter⟩ | ⟨_, _, user, -, -, -, rfl⟩
  · have status := serves_status serves letter uuid shown status
    obtain ⟨user, present, rfl, rfl⟩ := status
    have count := counted.counts user present
    simp [User.isConnected, ← count]
  · obtain ⟨name, same⟩ := status
    simp [Frame.eventLoggedOut] at same

end Status

/-! ### Runs -/

section Runs

variable {env : Env} {past : List Bytes}

theorem Database.reloaded_userUuids (f : Int → Int) (db : Database) :
    (db.reloaded f).userUuids = db.userUuids := by
  simp [Database.userUuids, Database.reloaded, User.reloaded, Function.comp_def]

/-- A step keeps the users, or adds one with the next generated uuid. -/
theorem step_userUuids {server after : Server} {event : Event}
    (steps : Steps env server event after) :
    Grows env server.uuidCalls after.uuidCalls server.db.userUuids after.db.userUuids := by
  have same : ∀ (db : Database) (calls : Nat), db.userUuids = server.db.userUuids →
      server.uuidCalls ≤ calls →
      Grows env server.uuidCalls calls server.db.userUuids db.userUuids :=
    fun db calls equal le => Or.inl ⟨equal ▸ List.Perm.refl _, le⟩
  have kept : ∀ {p : User → Bool} {f : User → User}, (∀ user, (f user).uuid = user.uuid) →
      ∀ users : List User, (modifyFirst p f users).map User.uuid = users.map User.uuid :=
    fun keeps users => map_modifyFirst keeps
  cases steps with
  | served _ _ serves =>
    cases serves with
    | loginNew _ _ _ _ _ made =>
      subst made
      refine Or.inr ⟨?_, rfl⟩
      show ((server.db.users ++ [_]).map User.uuid).Perm _
      rw [List.map_append]
      exact List.perm_append_singleton _ _
    | loginAgain => exact same _ _ (kept User.incrementConnection_uuid _) le_rfl
    | logout => exact same _ _ (kept User.decrementConnection_uuid _) le_rfl
    | logoutLast => exact same _ _ (kept User.decrementConnection_uuid _) le_rfl
    | send =>
      exact same _ _ ((kept (User.addMessage_uuid _ _) _).trans (kept (User.addMessage_uuid _ _) _))
        le_rfl
    | createTeam => exact same _ _ rfl (Nat.le_succ _)
    | createChannel => exact same _ _ rfl (Nat.le_succ _)
    | createThread => exact same _ _ rfl (Nat.le_succ _)
    | createReply => exact same _ _ rfl (Nat.le_succ _)
    | _ => exact same _ _ rfl le_rfl
  | leftUser => exact same _ _ (kept User.decrementConnection_uuid _) le_rfl
  | leftLast => exact same _ _ (kept User.decrementConnection_uuid _) le_rfl
  | restarted => exact same _ _ (Database.reloaded_userUuids _ _) le_rfl
  | _ => exact same _ _ rfl le_rfl

/-- The invariant after every run. -/
theorem run_counted {start : Server} (counted : Counted start)
    (supplied : Supplied env past start.uuidCalls start.db.userUuids) (events : List Event)
    (fresh : env.Fresh past (run (Server.step env) start events).uuidCalls) :
    Counted (run (Server.step env) start events) := by
  have both := run_invariant_of_assumption
    (fun server => Supplied env past server.uuidCalls server.db.userUuids ∧ Counted server)
    (fun server => env.Fresh past server.uuidCalls) fresh_earlier
    (fun server event fresh ⟨supplied, counted⟩ =>
      have steps := step_steps env server event
      ⟨supplied.grows fresh (step_userUuids steps), counted_step counted supplied fresh steps⟩)
    ⟨supplied, counted⟩ events fresh
  exact both.2

/-- A database that was just loaded. -/
theorem counted_start (db : Database) (named : [] ∉ db.userUuids)
    (loaded : ∀ user ∈ db.users, user.connectedCount = 0) : Counted { db := db } := by
  refine ⟨fun user member => loaded user member, fun user member empty => ?_,
    fun fd client present => by cases present⟩
  exact named (empty ▸ List.mem_map_of_mem member)

theorem supplied_start {db : Database} (distinct : db.userUuids.Nodup) :
    Supplied env db.userUuids 0 db.userUuids := ⟨distinct, fun _ => Or.inl⟩

/-- **The connection count**, from any loaded database and after any inputs: it is the number of
sessions, no session belongs to a missing user, and every status in a message that a step appends is
1 exactly while the user has a session. -/
theorem connection_count (env : Env) (db : Database) (distinct : db.userUuids.Nodup)
    (named : [] ∉ db.userUuids) (loaded : ∀ user ∈ db.users, user.connectedCount = 0) :
    (∀ inputs, env.Fresh db.userUuids (run (Server.handle env) { db := db } inputs).uuidCalls →
      let server := run (Server.handle env) { db := db } inputs
      (∀ user ∈ server.db.users, user.connectedCount = server.sessions user.uuid) ∧
      ∀ fd client, server.clients.find? fd = some client → client.userUuid ≠ [] →
        ∃ user ∈ server.db.users, user.uuid = client.userUuid) ∧
    ∀ events event,
      env.Fresh db.userUuids (run (Server.step env) { db := db } events).uuidCalls →
      let server := run (Server.step env) { db := db } events
      ∀ fd, ∀ frame ∈ server.newFrames fd (server.step env event), ∀ uuid shown,
        frame.ShowsStatus uuid shown →
        (shown = 0 ∨ shown = 1) ∧ (shown = 1 ↔ ∃ other client,
          server.clients.find? other = some client ∧ client.userUuid = uuid) := by
  have start := counted_start db named loaded
  constructor
  · intro inputs fresh server
    have here : server = run (Server.step env) { db := db } (Input.trace env { db := db } inputs) :=
      run_trace _ inputs
    rw [run_trace] at fresh
    have counted := run_counted start (supplied_start distinct) _ fresh
    rw [here]
    refine ⟨counted.counts, fun fd client found session => ?_⟩
    rcases counted.bound fd client found with empty | known
    · exact absurd empty session
    · obtain ⟨user, member, key⟩ := List.mem_map.mp known
      exact ⟨user, member, key⟩
  · intro events event fresh server fd frame member uuid shown status
    have counted := run_counted start (supplied_start distinct) events fresh
    have value : shown = if 0 < server.sessions uuid then 1 else 0 :=
      step_status counted (step_steps env server event) member status
    rw [← sessions_pos_iff]
    split_ifs at value with online
    · exact ⟨Or.inr value, fun _ => online, fun _ => value⟩
    · exact ⟨Or.inl value, fun one => by omega, fun some => absurd some online⟩

/-- Two connections of one user, of which one logs out again. -/
theorem connection_count_sample :
    let server := run (Server.handle sampleEnv) { db := {} }
      [.accept 4, .accept 5, .read 4 (ascii "/login \"ann\"\n"),
        .read 5 (ascii "/login \"ann\"\n/logout\n")]
    server.db.users ≠ [] ∧ ∀ user ∈ server.db.users, user.connectedCount = server.sessions user.uuid :=
  ⟨by decide, ((connection_count sampleEnv {} (by decide) (by decide) (by decide)).1 _
    (sampleEnv_fresh.of_le (by decide))).1⟩

end Runs

end MyTeams
