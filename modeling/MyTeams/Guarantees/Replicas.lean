/-
**A client can follow the list of users and the list of teams.**

A client that has listed the users (USERS) or the teams (LIST) is told of every later change by events. If
it applies them to its list, in the order in which it hears them, it has at every later moment the list that
the server would send again.

* `step_follows` — for any part of the database: the letters of a step make the new value out of the old one;
* `users_replica` — the list of users, with the status of each;
* `teams_replica` — the list of teams.
-/

import MyTeams.Guarantees.SharedEvents
import MyTeams.Invariants.WellFormed
import MyTeams.Lib.Replica
import MyTeams.Server.Answers

namespace MyTeams

open Transition Replica FirstMatch Letters

/-! ### One step -/

section Step

variable {ρ : Type} {observe : Database → ρ} {hear : ρ → Frame → ρ}

/-- The messages for a connection that change no copy. -/
def Frame.Deaf (hear : ρ → Frame → ρ) (frame : Frame) : Prop := ∀ copy, hear copy frame = copy

theorem foldl_all_deaf {letters : Letters} (deaf : letters.All (Frame.Deaf hear)) (fd : Int) (session : Bytes)
    (copy : ρ) : (letters fd session).foldl hear copy = copy :=
  foldl_deaf (deaf fd session) copy

/-- Where nothing is heard, nothing changes. -/
theorem heard_nothing {letters : Letters} {other : Int} {session : Bytes} {before now : ρ} (same : now = before)
    (deaf : letters.All (Frame.Deaf hear)) : now = (letters other session).foldl hear before :=
  same.trans (foldl_all_deaf deaf other session before).symm

/-- Nothing is heard of replies. -/
theorem all_replies_deaf {fd : Int} {frames : List Frame}
    (deaf : ∀ {frame : Frame}, frame.isNotice = false → frame.Deaf hear)
    (replies : ∀ frame ∈ frames, frame.isNotice = false) : (toClient fd frames).All (Frame.Deaf hear) :=
  all_toClient fd fun frame member => deaf (replies frame member)

/-- An event in front of an answer, or behind it, is all that is heard of the two. -/
theorem foldl_answer_followedBy {fd other : Int} {session : Bytes} {answer : Frame} {letters : Letters}
    (deaf : answer.Deaf hear) (copy : ρ) :
    (((toClient fd [answer]).followedBy letters) other session).foldl hear copy
      = (letters other session).foldl hear copy := by
  rw [followedBy, List.foldl_append, foldl_all_deaf (all_answer fd deaf)]

theorem foldl_followedBy_answer {fd other : Int} {session : Bytes} {answer : Frame} {letters : Letters}
    (deaf : answer.Deaf hear) (copy : ρ) :
    ((letters.followedBy (toClient fd [answer])) other session).foldl hear copy
      = (letters other session).foldl hear copy := by
  rw [followedBy, List.foldl_append, foldl_all_deaf (all_answer fd deaf)]

variable {env : Env} {server after : Server} {event : Event} {other : Int} {holder : Client}

/-- **What a step tells a connection makes the new value out of the old one**, if this holds of the letters of
every command and of every disconnection. -/
theorem step_follows (steps : Steps env server event after)
    (present : after.clients.find? other = some holder)
    (served : ∀ (fd : Int) (client : Client) (stored : Server) (verb : Verb) (outcome : Outcome),
      server.session fd = some client.session → stored.db = server.db → stored.uuidCalls = server.uuidCalls →
      Serves env fd client stored verb outcome → after.db = outcome.db → after.uuidCalls = outcome.uuidCalls →
      observe outcome.db = (outcome.letters other holder.userUuid).foldl hear (observe stored.db))
    (left : ∀ (uuid : Bytes) (user : User), server.db.findUser uuid = some user →
      user.decrementConnection.isConnected = true →
      observe (server.db.modifyUser uuid User.decrementConnection) = observe server.db)
    (leftLast : ∀ (uuid : Bytes) (user : User), server.db.findUser uuid = some user →
      user.decrementConnection.isConnected = false →
      observe (server.db.modifyUser uuid User.decrementConnection)
        = hear (observe server.db) (Frame.eventLoggedOut user)) :
    Follows (fun server : Server => observe server.db) (Server.appendedTo other) hear server after := by
  have silent : holder.appended = server.appendedTo other → observe after.db = observe server.db →
      Follows (fun server : Server => observe server.db) (Server.appendedTo other) hear server after := by
    intro same kept
    refine ⟨[], ?_, kept⟩
    rw [appendedTo_of_found present, same, List.append_nil]
  cases steps with
  | quiet _ quiet =>
    refine silent ?_ rfl
    rw [← appendedTo_of_found present, appendedTo_modifyClients quiet]
  | accepted missing => exact silent (appended_insert missing present) rfl
  | @served fd rawCommand client verb outcome found _ serves =>
    have session : server.session fd = some client.session := session_of_found found
    refine ⟨outcome.letters other holder.userUuid, ?_, served fd
      (client.setArgs (CommandHandling.parseArgs rawCommand))
      (server.modifyClient fd (Client.setArgs (CommandHandling.parseArgs rawCommand)))
      verb outcome session rfl rfl serves rfl rfl⟩
    rw [appendedTo_of_found present, appended_commit outcome _ found present]
  | left => exact silent (appended_erase present) rfl
  | @leftUser fd client user _ _ found still =>
    exact silent (appended_erase present) (left client.userUuid user found still)
  | @leftLast fd client user _ _ found gone =>
    refine ⟨[Frame.eventLoggedOut user], ?_, leftLast client.userUuid user found gone⟩
    rw [appendedTo_of_found present, appended_erase_notice present]
  | restarted => cases present

end Step

/-! ### The list of users -/

/-- One line of the list of users. -/
structure RosterEntry where
  uuid : Bytes
  name : Bytes
  online : Bool
deriving DecidableEq

/-- A list of users, as a client keeps it. -/
abbrev Roster := List RosterEntry

/-- What a 210 line of the list says. -/
def Frame.rosterEntry (frame : Frame) : Option RosterEntry :=
  match frame.keywords, frame.fields with
  | [.code210], [.quoted uuid, .quoted name, .number status] => some ⟨uuid, name, status = 1⟩
  | _, _ => none

/-- The line of a user is replaced, or added behind the others. -/
def Roster.mark (entry : RosterEntry) (roster : Roster) : Roster :=
  if roster.any (·.uuid = entry.uuid) then
    roster.map fun old => if old.uuid = entry.uuid then entry else old
  else roster ++ [entry]

/-- What a client does with a message. -/
def Roster.hear (roster : Roster) (frame : Frame) : Roster :=
  match frame.keywords, frame.fields with
  | [.event, .userLoggedIn], [.quoted uuid, .quoted name] => Roster.mark ⟨uuid, name, true⟩ roster
  | [.event, .userLoggedOut], [.quoted uuid, .quoted name] => Roster.mark ⟨uuid, name, false⟩ roster
  | _, _ => roster

def User.rosterEntry (user : User) : RosterEntry := ⟨user.uuid, user.name, user.isConnected⟩

def Database.roster (db : Database) : Roster := db.users.map User.rosterEntry

section Roster

variable {env : Env} {fd other : Int} {client : Client} {server after : Server} {verb : Verb}
  {outcome : Outcome} {db : Database} {past : List Bytes} {session : Bytes}

/-- The lines of a list of users say who they are. -/
theorem listing_roster (users : List User) :
    (Frame.listing .users (users.map Frame.userFields)).filterMap Frame.rosterEntry
      = users.map User.rosterEntry := by
  refine Frame.filterMap_listing rfl (fun user _ => ?_) rfl
  unfold Frame.rosterEntry Frame.item Frame.userFields Frame.status User.rosterEntry
  cases user.isConnected <;> rfl

theorem roster_deaf {frame : Frame} (other : frame.keywords ≠ [.event, .userLoggedIn])
    (different : frame.keywords ≠ [.event, .userLoggedOut]) : frame.Deaf Roster.hear := by
  intro roster
  unfold Roster.hear
  split
  · exact absurd ‹_› other
  · exact absurd ‹_› different
  · rfl

theorem roster_deaf_of_reply {frame : Frame} (reply : frame.isNotice = false) : frame.Deaf Roster.hear :=
  roster_deaf (Frame.keywords_ne_of_reply reply rfl) (Frame.keywords_ne_of_reply reply rfl)

/-- A line of a user who is in the list. -/
theorem mark_of_found {p : User → Bool} {f : User → User} {user : User}
    (distinct : db.userUuids.Nodup) (found : db.users.find? p = some user)
    (keeps : (f user).uuid = user.uuid) :
    ({ db with users := modifyFirst p f db.users } : Database).roster
      = Roster.mark (f user).rosterEntry db.roster := by
  have member : db.roster.any (·.uuid = (f user).rosterEntry.uuid) = true :=
    List.any_eq_true.mpr ⟨user.rosterEntry, List.mem_map_of_mem (List.mem_of_find?_eq_some found),
      decide_eq_true keeps.symm⟩
  rw [Roster.mark, if_pos member, Database.roster, Database.roster,
    modifyFirst_eq_map_of_found distinct found, List.map_map, List.map_map]
  refine List.map_congr_left fun stored _ => ?_
  show User.rosterEntry (if stored.uuid = user.uuid then f user else stored)
    = if stored.uuid = (f user).uuid then (f user).rosterEntry else stored.rosterEntry
  rw [keeps]
  split_ifs <;> rfl

/-- A line of a new user. -/
theorem mark_of_absent {user : User} (absent : user.uuid ∉ db.userUuids) :
    ({ db with users := db.users ++ [user] } : Database).roster = Roster.mark user.rosterEntry db.roster := by
  have missing : ¬ db.roster.any (·.uuid = user.rosterEntry.uuid) = true := by
    intro member
    obtain ⟨entry, listed, same⟩ := List.any_eq_true.mp member
    obtain ⟨stored, present, rfl⟩ := List.mem_map.mp listed
    exact absent (List.mem_map.mpr ⟨stored, present, of_decide_eq_true same⟩)
  rw [Roster.mark, if_neg missing, Database.roster, List.map_append]
  rfl

/-- A user who keeps a session keeps the line. -/
theorem roster_left {uuid : Bytes} {user : User} (found : db.findUser uuid = some user)
    (still : user.decrementConnection.isConnected = true) :
    (db.modifyUser uuid User.decrementConnection).roster = db.roster := by
  refine map_modifyFirst_of_found found ?_
  have connected : user.isConnected = true := by
    rw [User.isConnected, decide_eq_true_eq] at still ⊢
    rw [User.decrementConnection_connectedCount] at still
    omega
  unfold User.rosterEntry
  rw [still, connected, User.decrementConnection_uuid, User.decrementConnection_name]

theorem roster_leftLast {uuid : Bytes} {user : User} (distinct : db.userUuids.Nodup)
    (found : db.findUser uuid = some user) (gone : user.decrementConnection.isConnected = false) :
    (db.modifyUser uuid User.decrementConnection).roster
      = Roster.hear db.roster (Frame.eventLoggedOut user) := by
  have marked : (db.modifyUser uuid User.decrementConnection).roster
      = Roster.mark user.decrementConnection.rosterEntry db.roster :=
    mark_of_found distinct found user.decrementConnection_uuid
  rw [marked]
  unfold User.rosterEntry
  rw [gone, User.decrementConnection_uuid, User.decrementConnection_name]
  rfl

/-- **The letters of a command say what it does to the list.** -/
theorem serves_roster (supplied : Supplied env past server.uuidCalls server.db.userUuids)
    (fresh : env.Fresh past outcome.uuidCalls) (serves : Serves env fd client server verb outcome) :
    outcome.db.roster = (outcome.letters other session).foldl Roster.hear server.db.roster := by
  cases serves with
  | refused refusal => exact heard_nothing rfl (all_answer fd (roster_deaf_of_reply (by cases refusal <;> rfl)))
  | shown shown => exact heard_nothing rfl (all_replies_deaf roster_deaf_of_reply (shown_replies shown))
  | loginNew _ _ _ _ _ made =>
    subst made
    rw [foldl_answer_followedBy (roster_deaf_of_reply rfl)]
    exact mark_of_absent (supplied.next_not_mem fresh)
  | @loginAgain user _ _ _ _ found =>
    rw [foldl_answer_followedBy (roster_deaf_of_reply rfl)]
    have marked : (server.db.modifyUserByName (client.arg 1) User.incrementConnection).roster
        = Roster.mark user.incrementConnection.rosterEntry server.db.roster :=
      mark_of_found supplied.nodup found user.incrementConnection_uuid
    have online : user.incrementConnection.isConnected = true := decide_eq_true (Nat.succ_pos _)
    rw [marked]
    unfold User.rosterEntry
    rw [online]
    rfl
  | logout _ found still => exact heard_nothing (roster_left found still) (all_answer fd (roster_deaf_of_reply rfl))
  | logoutLast _ found gone =>
    rw [foldl_followedBy_answer (roster_deaf_of_reply rfl)]
    exact roster_leftLast supplied.nodup found gone
  | logoutUnknown | useNothing | useTeam => exact heard_nothing rfl (all_answer fd (roster_deaf_of_reply rfl))
  | useChannel | useThread | useNoChannel | useNoThread =>
    exact heard_nothing rfl (all_replies_deaf roster_deaf_of_reply
      (by simp [Frame.isNotice, Frame.ok, Frame.notFoundKind]))
  | createTeam => exact heard_nothing rfl ((all_answer fd (roster_deaf_of_reply rfl)).followedBy
      (all_toAll (roster_deaf (by rintro ⟨⟩) (by rintro ⟨⟩))))
  | createChannel | createThread | createReply =>
    exact heard_nothing rfl ((all_answer fd (roster_deaf_of_reply rfl)).followedBy
      (all_toSubscribers _ (roster_deaf (by rintro ⟨⟩) (by rintro ⟨⟩))))
  | subscribe | unsubscribe =>
    exact heard_nothing rfl
      ((all_toSubscribers _ (roster_deaf (by rintro ⟨⟩) (by rintro ⟨⟩))).followedBy
        (all_answer fd (roster_deaf_of_reply rfl)))
  | send =>
    refine heard_nothing ?_
      ((all_toUser _ (roster_deaf (by rintro ⟨⟩) (by rintro ⟨⟩))).followedBy
        (all_answer fd (roster_deaf_of_reply rfl)))
    exact (map_modifyFirst (f := User.addMessage _ _) fun _ => rfl).trans
      (map_modifyFirst (f := User.addMessage _ _) fun _ => rfl)

/-- **So do those of every step.** -/
theorem step_roster {event : Event} (supplied : Supplied env past server.uuidCalls server.db.userUuids)
    (fresh : env.Fresh past after.uuidCalls) (steps : Steps env server event after)
    (stays : (after.clients.find? fd).isSome = true) :
    Follows (fun server : Server => server.db.roster) (Server.appendedTo fd) Roster.hear server after := by
  obtain ⟨holder, present⟩ := Option.isSome_iff_exists.mp stays
  refine step_follows steps present (fun _ _ _ _ outcome _ db calls serves _ called => ?_)
    (fun uuid user found still => roster_left found still)
    fun uuid user found gone => roster_leftLast supplied.nodup found gone
  rw [← db, ← calls] at supplied
  exact serves_roster supplied (called ▸ fresh) serves

end Roster

/-! ### The list of teams -/

/-- One line of the list of teams: uuid, name, description. -/
abbrev TeamEntry := Bytes × Bytes × Bytes

/-- What a 210 line of the list says. -/
def Frame.teamEntry (frame : Frame) : Option TeamEntry :=
  match frame.keywords, frame.fields with
  | [.code210], [.quoted uuid, .quoted name, .quoted description] => some (uuid, name, description)
  | _, _ => none

/-- What a client does with a message: the line of a new team is added. -/
def hearTeam (entries : List TeamEntry) (frame : Frame) : List TeamEntry :=
  match frame.keywords, frame.fields with
  | [.event, .teamCreated], [.quoted uuid, .quoted name, .quoted description] =>
    entries ++ [(uuid, name, description)]
  | _, _ => entries

def Team.entry (team : Team) : TeamEntry := (team.uuid, team.name, team.description)

def Database.teamEntries (db : Database) : List TeamEntry := db.teams.map Team.entry

section Teams

variable {env : Env} {fd other : Int} {client : Client} {server after : Server} {verb : Verb}
  {outcome : Outcome} {session : Bytes}

/-- The lines of LIST say what the database holds. -/
theorem listing_teamEntries (db : Database) :
    (Frame.listing .teams (db.teams.map fun team =>
      Frame.namedFields team.uuid team.name team.description)).filterMap Frame.teamEntry
      = db.teamEntries :=
  Frame.filterMap_listing rfl (fun _ _ => rfl) rfl

theorem team_deaf {frame : Frame} (other : frame.keywords ≠ [.event, .teamCreated]) :
    frame.Deaf hearTeam := by
  intro entries
  unfold hearTeam
  split
  · exact absurd ‹_› other
  · rfl

theorem team_deaf_of_reply {frame : Frame} (reply : frame.isNotice = false) : frame.Deaf hearTeam :=
  team_deaf (Frame.keywords_ne_of_reply reply rfl)

/-- **The letters of a command say what it does to the teams.** -/
theorem serves_teamEntries (serves : Serves env fd client server verb outcome) :
    outcome.db.teamEntries = (outcome.letters other session).foldl hearTeam server.db.teamEntries := by
  cases serves with
  | refused refusal => exact heard_nothing rfl (all_answer fd (team_deaf_of_reply (by cases refusal <;> rfl)))
  | shown shown => exact heard_nothing rfl (all_replies_deaf team_deaf_of_reply (shown_replies shown))
  | loginNew | loginAgain =>
    exact heard_nothing rfl ((all_answer fd (team_deaf_of_reply rfl)).followedBy
      (all_toAll (team_deaf (by rintro ⟨⟩))))
  | logoutLast =>
    exact heard_nothing rfl ((all_toAll (team_deaf (by rintro ⟨⟩))).followedBy
      (all_answer fd (team_deaf_of_reply rfl)))
  | logout | logoutUnknown | useNothing | useTeam => exact heard_nothing rfl (all_answer fd (team_deaf_of_reply rfl))
  | useChannel | useThread | useNoChannel | useNoThread =>
    exact heard_nothing rfl (all_replies_deaf team_deaf_of_reply
      (by simp [Frame.isNotice, Frame.ok, Frame.notFoundKind]))
  | createTeam =>
    rw [foldl_answer_followedBy (team_deaf_of_reply rfl)]
    exact List.map_append
  | createChannel | createThread | createReply =>
    refine heard_nothing (map_modifyFirst fun _ => rfl) ?_
    exact (all_answer fd (team_deaf_of_reply rfl)).followedBy (all_toSubscribers _ (team_deaf (by rintro ⟨⟩)))
  | subscribe =>
    refine heard_nothing (map_modifyFirst fun team => ?_)
      ((all_toSubscribers _ (team_deaf (by rintro ⟨⟩))).followedBy (all_answer fd (team_deaf_of_reply rfl)))
    unfold Team.addSubscriber
    split_ifs <;> rfl
  | unsubscribe =>
    refine heard_nothing (map_modifyFirst fun team => ?_)
      ((all_toSubscribers _ (team_deaf (by rintro ⟨⟩))).followedBy (all_answer fd (team_deaf_of_reply rfl)))
    unfold Team.removeSubscriber
    split_ifs <;> rfl
  | send =>
    exact heard_nothing rfl ((all_toUser _ (team_deaf (by rintro ⟨⟩))).followedBy
      (all_answer fd (team_deaf_of_reply rfl)))

/-- **So do those of every step.** -/
theorem step_teamEntries {event : Event} (steps : Steps env server event after)
    (stays : (after.clients.find? fd).isSome = true) :
    Follows (fun server : Server => server.db.teamEntries) (Server.appendedTo fd) hearTeam server after := by
  obtain ⟨holder, present⟩ := Option.isSome_iff_exists.mp stays
  refine step_follows steps present (fun _ _ _ _ _ _ _ _ serves _ _ => serves_teamEntries serves)
    (fun _ _ _ _ => rfl) fun _ _ _ _ => ?_
  exact (team_deaf (by rintro ⟨⟩) _).symm

end Teams

/-! ### Runs -/

section Runs

variable {env : Env} {start server : Server} {fd : Int} {rawCommand : Bytes} {past : List Bytes}

/-- The connection is there at every moment of a run. -/
def Server.Stays (env : Env) (fd : Int) (server : Server) (events : List Event) : Prop :=
  ∀ early, early <+: events → ((run (Server.step env) server early).clients.find? fd).isSome = true

/-- Earlier states of a run have used fewer uuids. -/
theorem fresh_of_before {early events : List Event} (initial : early <+: events)
    (fresh : env.Fresh past (run (Server.step env) start events).uuidCalls) :
    env.Fresh past (run (Server.step env) start early).uuidCalls := by
  obtain ⟨rest, rfl⟩ := initial
  induction rest using List.reverseRecOn with
  | nil => rwa [List.append_nil] at fresh
  | append_singleton rest event ih =>
    rw [← List.append_assoc, run_concat] at fresh
    exact ih (fresh_earlier _ event fresh)

theorem Supplied.users {calls : Nat} {db : Database} (supplied : Supplied env past calls db.uuids) :
    Supplied env past calls db.userUuids :=
  ⟨supplied.nodup.of_append_left, fun uuid member => supplied.known uuid (List.mem_append_left _ member)⟩

/-- **A copy of the list of users follows a run.** -/
theorem run_roster (supplied : Supplied env past start.uuidCalls start.db.uuids) {events : List Event}
    (fresh : env.Fresh past (run (Server.step env) start events).uuidCalls)
    (stays : start.Stays env fd events) :
    Follows (fun server : Server => server.db.roster) (Server.appendedTo fd) Roster.hear start
      (run (Server.step env) start events) := by
  refine run_follows fun early event initial => ?_
  have present := stays (early ++ [event]) initial
  have now := fresh_of_before initial fresh
  rw [run_concat] at now present
  have earlier := run_supplied supplied early (fresh_earlier _ event now)
  exact step_roster earlier.users now (step_steps env _ event) present

end Runs

/-- **A copy of the list of users.** A logged-in client asks for the list of users and stays connected. If it
marks, in the lines of the reply, every user of whom it is told that they logged in or out, then it has what
the server replies when it asks again, line by line, whatever all clients have done in between. -/
theorem users_replica (env : Env) {db : Database} (start : SelfSaved db) (before between : List Event)
    (fd : Int) (first last : Bytes)
    (fresh : env.Fresh db.uuids
      (run (Server.step env) { db := db } (before ++ .line fd first :: between)).uuidCalls)
    (stays : (run (Server.step env) { db := db } before).Stays env fd (.line fd first :: between))
    (asked : (run (Server.step env) { db := db } before).Asks fd .users first)
    (again : (run (Server.step env) { db := db } (before ++ .line fd first :: between)).Asks fd .users last) :
    let server := run (Server.step env) { db := db } before
    let now := run (Server.step env) { db := db } (before ++ .line fd first :: between)
    (now.reply env fd last).filterMap Frame.rosterEntry
      = (server.newFrames fd now).foldl Roster.hear
        ((server.reply env fd first).filterMap Frame.rosterEntry) := by
  intro server now
  have supplied : Supplied env db.uuids 0 db.uuids := ⟨start.distinct.nodup, fun _ => Or.inl⟩
  have earlier := run_supplied supplied before (fresh_of_before (List.prefix_append _ _) fresh)
  have follows : Follows (fun server : Server => server.db.roster) (Server.appendedTo fd) Roster.hear server now := by
    have reached : now = run (Server.step env) server (.line fd first :: between) := run_append _ _ _
    rw [run_append] at fresh
    rw [reached]
    exact run_roster earlier fresh stays
  rw [reply_users asked, reply_users again, listing_roster, listing_roster]
  exact follows.observe_eq

/-- While one client keeps its list, others log in twice, create a team, hang up and come for the first time. -/
theorem users_replica_sample :
    let before := [Event.accept 4, .accept 5, .line 4 (ascii "/login \"ann\"")]
    let between := [Event.line 5 (ascii "/login \"bob\""), .accept 6, .line 6 (ascii "/login \"bob\""),
      .line 6 (ascii "/create \"red\" \"first\""), .disconnect 6, .accept 6, .line 6 (ascii "/login \"eve\""),
      .disconnect 5]
    let server := run (Server.step sampleEnv) {} before
    let now := run (Server.step sampleEnv) {} (before ++ .line 4 (ascii "/users") :: between)
    (now.reply sampleEnv 4 (ascii "/users")).filterMap Frame.rosterEntry
        = (server.newFrames 4 now).foldl Roster.hear
          ((server.reply sampleEnv 4 (ascii "/users")).filterMap Frame.rosterEntry) ∧
      ((now.reply sampleEnv 4 (ascii "/users")).filterMap Frame.rosterEntry).map RosterEntry.online
        = [true, false, true] := by
  intro before between server now
  refine ⟨users_replica sampleEnv .empty before between 4 (ascii "/users") (ascii "/users")
    (sampleEnv_fresh.of_le (by decide)) (fun early initial => ?_) ⟨⟨(digitUuid 0).1, by decide, by decide⟩, by decide⟩
    ⟨⟨(digitUuid 0).1, by decide, by decide⟩, by decide⟩, by decide⟩
  have each : ∀ prior ∈ List.inits (.line 4 (ascii "/users") :: between),
      ((run (Server.step sampleEnv) server prior).clients.find? 4).isSome = true := by decide
  exact each early ((List.mem_inits _ _).mpr initial)

/-- **A copy of the list of teams**, kept by a client that was in no team's context when it asked. -/
theorem teams_replica (env : Env) (server : Server) (between : List Event) (fd : Int) (first last : Bytes)
    (stays : server.Stays env fd (.line fd first :: between)) (asked : server.Asks fd .list first)
    (outside : (server.session fd).map (·.context.teamUuid) = some [])
    (again : (run (Server.step env) server (.line fd first :: between)).Asks fd .list last)
    (still : ((run (Server.step env) server (.line fd first :: between)).session fd).map
      (·.context.teamUuid) = some []) :
    let now := run (Server.step env) server (.line fd first :: between)
    (now.reply env fd last).filterMap Frame.teamEntry
      = (server.newFrames fd now).foldl hearTeam ((server.reply env fd first).filterMap Frame.teamEntry) := by
  intro now
  have follows : Follows (fun server : Server => server.db.teamEntries) (Server.appendedTo fd) hearTeam server
      now := by
    refine run_follows fun early event initial => ?_
    have present := stays (early ++ [event]) initial
    rw [run_concat] at present
    exact step_teamEntries (step_steps env _ event) present
  rw [reply_teams asked outside, reply_teams again still, listing_teamEntries, listing_teamEntries]
  exact follows.observe_eq

/-- Another client creates two teams, one of them under a name that is taken. -/
theorem teams_replica_sample :
    let server := run (Server.step sampleEnv) {} [.accept 4, .accept 5, .line 4 (ascii "/login \"ann\""),
      .line 4 (ascii "/create \"red\" \"first\""), .line 5 (ascii "/login \"bob\"")]
    let between := [Event.line 5 (ascii "/create \"blue\" \"second\""),
      .line 5 (ascii "/create \"red\" \"third\"")]
    let now := run (Server.step sampleEnv) server (.line 4 (ascii "/list") :: between)
    (now.reply sampleEnv 4 (ascii "/list")).filterMap Frame.teamEntry
        = (server.newFrames 4 now).foldl hearTeam
          ((server.reply sampleEnv 4 (ascii "/list")).filterMap Frame.teamEntry) ∧
      ((now.reply sampleEnv 4 (ascii "/list")).filterMap Frame.teamEntry).length = 2 := by
  intro server between now
  refine ⟨teams_replica sampleEnv server between 4 (ascii "/list") (ascii "/list") (fun early initial => ?_)
    ⟨⟨(digitUuid 0).1, by decide, by decide⟩, by decide⟩ (by decide)
    ⟨⟨(digitUuid 0).1, by decide, by decide⟩, by decide⟩ (by decide), by decide⟩
  have each : ∀ prior ∈ List.inits (.line 4 (ascii "/list") :: between),
      ((run (Server.step sampleEnv) server prior).clients.find? 4).isSome = true := by decide
  exact each early ((List.mem_inits _ _).mpr initial)

end MyTeams
