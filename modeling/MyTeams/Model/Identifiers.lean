/-
**The identifiers of a database.**

`Database.uuids` lists the uuids of all users, teams, channels, threads and replies. Every write of
the server either keeps this list or adds one uuid to it (`uuids_…`, up to order). While no uuid is
repeated, a lookup has one possible answer: `findThread_of_findChannel` says that the search of
`findThread`, which looks at the channels of all teams, meets the channel that `findChannel` finds in
the given team.
-/

import Mathlib.Data.List.Flatten
import Mathlib.Data.List.Nodup
import MyTeams.Model.Database

namespace MyTeams

open FirstMatch

/-- The uuids of a thread and its replies. -/
def Thread.uuids (thread : Thread) : List Bytes := thread.uuid :: thread.replies.map Reply.uuid

/-- The uuids of a channel and what it contains. -/
def Channel.uuids (channel : Channel) : List Bytes :=
  channel.uuid :: channel.threads.flatMap Thread.uuids

/-- The uuids of a team and what it contains. -/
def Team.uuids (team : Team) : List Bytes := team.uuid :: team.channels.flatMap Channel.uuids

namespace Database

/-- Every uuid of a database. -/
def uuids (db : Database) : List Bytes := db.users.map User.uuid ++ db.teams.flatMap Team.uuids

/-! ### Writes -/

theorem uuids_addUser (db : Database) (user : User) :
    ({ db with users := db.users ++ [user] } : Database).uuids.Perm (user.uuid :: db.uuids) := by
  simp only [uuids, List.map_append, List.map_cons, List.map_nil, List.append_assoc,
    List.singleton_append]
  exact List.perm_middle

theorem uuids_addTeam (db : Database) {team : Team} (bare : team.channels = []) :
    ({ db with teams := db.teams ++ [team] } : Database).uuids.Perm (team.uuid :: db.uuids) := by
  simp only [uuids, List.flatMap_append, List.flatMap_cons, List.flatMap_nil, List.append_nil,
    Team.uuids, bare, ← List.append_assoc]
  exact List.perm_append_singleton _ _

theorem uuids_modifyUser (db : Database) (uuid : Bytes) {f : User → User}
    (keeps : ∀ user, (f user).uuid = user.uuid) : (db.modifyUser uuid f).uuids = db.uuids := by
  rw [uuids, uuids, modifyUser, map_modifyFirst keeps]

theorem uuids_modifyUserByName (db : Database) (name : Bytes) {f : User → User}
    (keeps : ∀ user, (f user).uuid = user.uuid) : (db.modifyUserByName name f).uuids = db.uuids := by
  rw [uuids, uuids, modifyUserByName, map_modifyFirst keeps]

theorem uuids_modifyTeam (db : Database) (uuid : Bytes) {f : Team → Team}
    (keeps : ∀ team, (f team).uuids = team.uuids) : (db.modifyTeam uuid f).uuids = db.uuids := by
  rw [uuids, uuids, modifyTeam, flatMap_modifyFirst keeps]

theorem uuids_modifyTeam_perm {db : Database} {uuid : Bytes} {f : Team → Team} {team : Team}
    {added : Bytes} (found : db.findTeam uuid = some team)
    (grows : (f team).uuids.Perm (added :: team.uuids)) :
    (db.modifyTeam uuid f).uuids.Perm (added :: db.uuids) := by
  have teams := flatMap_modifyFirst_perm (g := Team.uuids) found grows
  exact (teams.append_left _).trans List.perm_middle

theorem uuids_addChannel {db : Database} {uuid : Bytes} {team : Team} {channel : Channel}
    (found : db.findTeam uuid = some team) (bare : channel.threads = []) :
    (db.modifyTeam uuid fun team => { team with channels := team.channels ++ [channel] }).uuids.Perm
      (channel.uuid :: db.uuids) := by
  refine uuids_modifyTeam_perm found ?_
  simp only [Team.uuids, List.flatMap_append, List.flatMap_cons, List.flatMap_nil, List.append_nil,
    Channel.uuids, bare]
  exact List.perm_append_singleton channel.uuid (team.uuid :: team.channels.flatMap Channel.uuids)

end Database

theorem Team.uuids_modifyChannel_perm {team : Team} {uuid added : Bytes} {f : Channel → Channel}
    {channel : Channel} (found : team.channels.find? (·.uuid = uuid) = some channel)
    (grows : (f channel).uuids.Perm (added :: channel.uuids)) :
    (team.modifyChannel uuid f).uuids.Perm (added :: team.uuids) := by
  have channels := flatMap_modifyFirst_perm (g := Channel.uuids) found grows
  exact (channels.cons team.uuid).trans (List.Perm.swap _ _ _)

theorem Channel.uuids_modifyThread_perm {channel : Channel} {uuid added : Bytes}
    {f : Thread → Thread} {thread : Thread}
    (found : channel.threads.find? (·.uuid = uuid) = some thread)
    (grows : (f thread).uuids.Perm (added :: thread.uuids)) :
    (channel.modifyThread uuid f).uuids.Perm (added :: channel.uuids) := by
  have threads := flatMap_modifyFirst_perm (g := Thread.uuids) found grows
  exact (threads.cons channel.uuid).trans (List.Perm.swap _ _ _)

theorem Channel.uuids_addThread (channel : Channel) {thread : Thread} (bare : thread.replies = []) :
    ({ channel with threads := channel.threads ++ [thread] } : Channel).uuids.Perm
      (thread.uuid :: channel.uuids) := by
  simp only [Channel.uuids, List.flatMap_append, List.flatMap_cons, List.flatMap_nil,
    List.append_nil, Thread.uuids, bare, List.map_nil]
  exact List.perm_append_singleton thread.uuid (channel.uuid :: channel.threads.flatMap Thread.uuids)

theorem Thread.uuids_addReply (thread : Thread) (reply : Reply) :
    ({ thread with replies := thread.replies ++ [reply] } : Thread).uuids.Perm
      (reply.uuid :: thread.uuids) := by
  simp only [Thread.uuids, List.map_append, List.map_cons, List.map_nil]
  exact List.perm_append_singleton reply.uuid (thread.uuid :: thread.replies.map Reply.uuid)

namespace Database

variable {db : Database}

/-! ### Lookups -/

/-- `findChannel` searches in the team that `findTeam` finds. -/
theorem findChannel_eq_some_iff {teamUuid channelUuid : Bytes} {channel : Channel} :
    db.findChannel teamUuid channelUuid = some channel ↔
      ∃ team, db.findTeam teamUuid = some team ∧
        team.channels.find? (·.uuid = channelUuid) = some channel := by
  unfold findChannel
  cases db.findTeam teamUuid <;> simp

/-- `findThread` searches in the first channel of any team that has the uuid. -/
theorem findThread_split {channelUuid threadUuid : Bytes} {thread : Thread}
    (found : db.findThread channelUuid threadUuid = some thread) :
    ∃ team channel,
      db.teams.find? (fun team => team.channels.any (·.uuid = channelUuid)) = some team ∧
      team.channels.find? (·.uuid = channelUuid) = some channel ∧
      channel.threads.find? (·.uuid = threadUuid) = some thread := by
  unfold findThread at found
  cases first : (db.teams.flatMap Team.channels).find? (·.uuid = channelUuid) with
  | none =>
    rw [first] at found
    cases found
  | some channel =>
    rw [first] at found
    obtain ⟨team, owner, inside⟩ := find?_flatMap first
    exact ⟨team, channel, owner, inside, found⟩

theorem uuids_addThread {teamUuid channelUuid : Bytes} {channel : Channel} {thread : Thread}
    (found : db.findChannel teamUuid channelUuid = some channel) (bare : thread.replies = []) :
    (db.modifyChannel teamUuid channelUuid fun channel =>
      { channel with threads := channel.threads ++ [thread] }).uuids.Perm
      (thread.uuid :: db.uuids) := by
  obtain ⟨team, present, inside⟩ := findChannel_eq_some_iff.mp found
  exact uuids_modifyTeam_perm present
    (Team.uuids_modifyChannel_perm inside (Channel.uuids_addThread channel bare))

theorem uuids_addReply {channelUuid threadUuid : Bytes} {thread : Thread} {reply : Reply}
    (found : db.findThread channelUuid threadUuid = some thread) :
    (db.modifyThread channelUuid threadUuid fun thread =>
      { thread with replies := thread.replies ++ [reply] }).uuids.Perm
      (reply.uuid :: db.uuids) := by
  obtain ⟨team, channel, owner, inside, within⟩ := findThread_split found
  have channelGrows := Channel.uuids_modifyThread_perm
    (f := fun thread => { thread with replies := thread.replies ++ [reply] }) within
    (Thread.uuids_addReply thread reply)
  have teams := flatMap_modifyFirst_perm (g := Team.uuids) owner
    (Team.uuids_modifyChannel_perm inside channelGrows)
  exact (teams.append_left _).trans List.perm_middle

/-! ### Databases without a repeated uuid -/

/-- The uuids of the teams are among the uuids. -/
theorem teams_nodup (distinct : db.uuids.Nodup) : (db.teams.map Team.uuid).Nodup := by
  have teams : (db.teams.flatMap Team.uuids).Nodup := List.Nodup.of_append_right distinct
  rw [List.map_eq_flatMap]
  exact (List.Sublist.flatMap_right _ fun team _ => (List.nil_sublist _).cons_cons _).nodup teams

/-- The uuids of the channels of all teams are among the uuids. -/
theorem channels_nodup (distinct : db.uuids.Nodup) :
    (db.teams.flatMap fun team => team.channels.map Channel.uuid).Nodup := by
  have teams : (db.teams.flatMap Team.uuids).Nodup := List.Nodup.of_append_right distinct
  refine List.Sublist.nodup (List.Sublist.flatMap_right _ fun team _ => ?_) teams
  have own : (team.channels.flatMap fun channel => [channel.uuid]).Sublist
      (team.channels.flatMap Channel.uuids) :=
    List.Sublist.flatMap_right _ fun channel _ => (List.nil_sublist _).cons_cons _
  rw [List.map_eq_flatMap]
  exact own.cons _

/-- A found channel lies in one team only: no team in front of its own has a channel with its
uuid. -/
theorem findChannel_owner (distinct : db.uuids.Nodup) {teamUuid channelUuid : Bytes}
    {channel : Channel} (found : db.findChannel teamUuid channelUuid = some channel) :
    ∃ team before after, db.findTeam teamUuid = some team ∧
      team.channels.find? (·.uuid = channelUuid) = some channel ∧
      db.teams = before ++ team :: after ∧
      (∀ other ∈ before, decide (other.uuid = teamUuid) = false) ∧
      (∀ other ∈ before, other.channels.any (·.uuid = channelUuid) = false) ∧
      team.channels.any (·.uuid = channelUuid) = true := by
  obtain ⟨team, present, inside⟩ := findChannel_eq_some_iff.mp found
  obtain ⟨before, after, split, misses, -⟩ := modifyFirst_split present
  obtain ⟨stored, named⟩ := find?_key inside
  have owned : team.channels.any (·.uuid = channelUuid) = true :=
    List.any_eq_true.mpr ⟨channel, stored, decide_eq_true named⟩
  refine ⟨team, before, after, present, inside, split, misses, fun other member => ?_, owned⟩
  have channels := channels_nodup distinct
  rw [split, List.flatMap_append, List.nodup_append] at channels
  by_contra hit
  rw [Bool.not_eq_false] at hit
  obtain ⟨stray, listed, same⟩ := List.any_eq_true.mp hit
  have inFront : channelUuid ∈ before.flatMap fun team => team.channels.map Channel.uuid :=
    List.mem_flatMap.mpr ⟨other, member, List.mem_map.mpr ⟨stray, listed, of_decide_eq_true same⟩⟩
  have inTeam : channelUuid ∈ (team :: after).flatMap fun team => team.channels.map Channel.uuid :=
    List.mem_flatMap.mpr ⟨team, List.mem_cons_self, List.mem_map.mpr ⟨channel, stored, named⟩⟩
  exact channels.2.2 _ inFront _ inTeam rfl

/-- **The search of `findThread` meets the channel that `findChannel` finds.** -/
theorem findThread_of_findChannel (distinct : db.uuids.Nodup) {teamUuid channelUuid : Bytes}
    {channel : Channel} (found : db.findChannel teamUuid channelUuid = some channel)
    (threadUuid : Bytes) :
    db.findThread channelUuid threadUuid = channel.threads.find? (·.uuid = threadUuid) := by
  obtain ⟨team, before, after, -, inside, split, -, misses, -⟩ := findChannel_owner distinct found
  have front : (before.flatMap Team.channels).find? (·.uuid = channelUuid) = none := by
    rw [List.find?_eq_none]
    intro stray member
    obtain ⟨other, stored, listed⟩ := List.mem_flatMap.mp member
    have miss := misses other stored
    rw [List.any_eq_false] at miss
    exact miss stray listed
  have first : (db.teams.flatMap Team.channels).find? (·.uuid = channelUuid) = some channel := by
    rw [split, List.flatMap_append, List.find?_append, front, Option.none_or, List.flatMap_cons,
      List.find?_append, inside, Option.some_or]
  rw [findThread, first]

/-- **A write through `findThread` stays inside the team of the channel.** -/
theorem modifyThread_of_findChannel (distinct : db.uuids.Nodup) {teamUuid channelUuid : Bytes}
    {channel : Channel} (found : db.findChannel teamUuid channelUuid = some channel)
    (threadUuid : Bytes) (f : Thread → Thread) :
    db.modifyThread channelUuid threadUuid f
      = db.modifyChannel teamUuid channelUuid (Channel.modifyThread threadUuid f) := by
  obtain ⟨team, before, after, present, -, split, named, misses, owned⟩ :=
    findChannel_owner distinct found
  have right : decide (team.uuid = teamUuid) = true := decide_eq_true (find?_key present).2
  rw [modifyThread, modifyChannel, modifyTeam, split, modifyFirst_append_cons misses owned,
    modifyFirst_append_cons named right]

end Database

end MyTeams
