/-
**Only subscribers of a team write and read its content.**

The content of a team is its channels, their threads and their replies. `Authorized` is what a
request for content needs: the requester is logged in and a subscriber of the team in its context.

* `step_contents` — content is added to a team by an authorized line only;
* `line_exhibits` — what a line shows to its requester is content of the team for which the requester
  is authorized;
* `team_authorization` — both, for every step of every run.
-/

import MyTeams.Invariants.Contexts

namespace MyTeams

open Transition FirstMatch

/-- The uuids of the channels, threads and replies of a team. -/
def Team.contents (team : Team) : List Bytes := team.channels.flatMap Channel.uuids

/-- The requester behind a descriptor is logged in and a subscriber of the team in its context. -/
structure Authorized (server : Server) (fd : Int) (team : Team) : Prop where
  stored : team ∈ server.db.teams
  session : ∃ session, server.session fd = some session ∧ session.userUuid ≠ [] ∧
    session.userUuid ∈ team.subscriberUuids ∧ session.context.teamUuid = team.uuid

/-! ### What is shown -/

/-- Something that a reply shows: its kind and its fields. -/
structure Exhibit where
  kind : Keyword
  fields : List Field
deriving DecidableEq

/-- The kind of the lines of a list. -/
def Keyword.listed : Keyword → Option Keyword
  | .channels => some .channel
  | .threads => some .thread
  | .replies => some .reply
  | _ => none

/-- What a message shows; `listed` is the kind of the list that it is in. -/
def Frame.exhibit (listed : Option Keyword) (frame : Frame) : Option Exhibit :=
  match frame.keywords with
  | [.code210] => listed.map fun kind => ⟨kind, frame.fields⟩
  | [.code201, .created, kind] =>
    if kind = .channel ∨ kind = .thread ∨ kind = .reply then some ⟨kind, frame.fields⟩ else none
  | [.code200, .info, kind] =>
    if kind = .team ∨ kind = .channel ∨ kind = .thread then some ⟨kind, frame.fields⟩ else none
  | _ => none

/-- The kind of the list that the next message is in. -/
def Frame.nextListed (listed : Option Keyword) (frame : Frame) : Option Keyword :=
  match frame.keywords with
  | [.code210Begin, type] => type.listed
  | [.code210End, _] => none
  | _ => listed

/-- What a sequence of messages shows. -/
def exhibits : Option Keyword → List Frame → List Exhibit
  | _, [] => []
  | listed, frame :: rest =>
    (frame.exhibit listed).toList ++ exhibits (frame.nextListed listed) rest

/-- A team has what is shown: it is the team itself, or a channel, a thread or a reply inside it. -/
inductive Team.Has (team : Team) : Exhibit → Prop
  | team : Has team ⟨.team, Frame.namedFields team.uuid team.name team.description⟩
  | channel {channel : Channel} : channel ∈ team.channels →
      Has team ⟨.channel, Frame.namedFields channel.uuid channel.name channel.description⟩
  | thread {channel : Channel} {thread : Thread} : channel ∈ team.channels →
      thread ∈ channel.threads → Has team ⟨.thread, Frame.threadFields thread⟩
  | reply {channel : Channel} {thread : Thread} {reply : Reply} : channel ∈ team.channels →
      thread ∈ channel.threads → reply ∈ thread.replies →
      Has team ⟨.reply, Frame.replyFields thread.uuid reply⟩

section Exhibits

variable {listed : Option Keyword}

theorem exhibit_notice {frame : Frame} (notice : frame.isNotice = true) :
    frame.exhibit listed = none ∧ frame.nextListed listed = listed := by
  obtain ⟨keywords, fields⟩ := frame
  unfold Frame.isNotice at notice
  unfold Frame.exhibit Frame.nextListed
  cases keywords with
  | nil => exact ⟨rfl, rfl⟩
  | cons word rest =>
    cases word <;> first | exact ⟨rfl, rfl⟩ | cases notice

/-- Events and notices show nothing. -/
theorem exhibits_notices {frames others : List Frame}
    (notices : ∀ frame ∈ frames, frame.isNotice = true) :
    exhibits listed (frames ++ others) = exhibits listed others := by
  induction frames with
  | nil => rfl
  | cons frame rest ih =>
    have silent : frame.exhibit listed = none ∧ frame.nextListed listed = listed :=
      exhibit_notice (notices frame List.mem_cons_self)
    obtain ⟨nothing, same⟩ := silent
    rw [List.cons_append, exhibits, nothing, same]
    exact ih fun other member => notices other (List.mem_cons_of_mem _ member)

theorem exhibits_of_notices {frames : List Frame}
    (notices : ∀ frame ∈ frames, frame.isNotice = true) : exhibits listed frames = [] := by
  have shown : exhibits listed (frames ++ []) = exhibits listed [] := exhibits_notices notices
  rwa [List.append_nil] at shown

/-- The lines of a list. -/
theorem exhibits_items (type : Keyword) (items : List (List Field)) :
    exhibits listed (items.map Frame.item ++ [Frame.listEnd type])
      = items.flatMap fun fields => (listed.map fun kind => Exhibit.mk kind fields).toList := by
  induction items with
  | nil => rfl
  | cons fields rest ih =>
    rw [List.map_cons, List.cons_append, List.flatMap_cons, ← ih]
    rfl

/-- A list shows its lines, if it is a list of content. -/
theorem mem_exhibits_listing {type : Keyword} {items : List (List Field)} {shown : Exhibit}
    (member : shown ∈ exhibits none (Frame.listing type items)) :
    type.listed = some shown.kind ∧ shown.fields ∈ items := by
  have list : exhibits none (Frame.listing type items)
      = exhibits type.listed (items.map Frame.item ++ [Frame.listEnd type]) := rfl
  rw [list, exhibits_items] at member
  obtain ⟨fields, stored, inside⟩ := List.mem_flatMap.mp member
  obtain ⟨kind, known, rfl⟩ := Option.map_eq_some_iff.mp (Option.mem_toList.mp inside)
  exact ⟨known, stored⟩

end Exhibits

section Commands

variable {env : Env} {fd : Int} {client : Client} {server : Server} {verb : Verb} {outcome : Outcome}

/-- What a request for the content of a team needs, as a command checks it. -/
def Client.Admitted (client : Client) (db : Database) : Prop :=
  Allowed client db ∧ client.context.teamUuid ≠ []

theorem mem_modifyTeam {db : Database} {teamUuid : Bytes} {f : Team → Team} {team : Team}
    (member : team ∈ (db.modifyTeam teamUuid f).teams) (keeps : ∀ team, (f team).uuid = team.uuid) :
    team ∈ db.teams ∨ team.uuid = teamUuid := by
  rcases mem_modifyFirst member with old | ⟨original, -, hit, rfl⟩
  · exact Or.inl old
  · exact Or.inr ((keeps original).trans (of_decide_eq_true hit))

/-- **Content is added to the team in the context only.** -/
theorem serves_contents (serves : Serves env fd client server verb outcome)
    (distinct : server.db.uuids.Nodup) {team : Team}
    (stored : team ∈ outcome.db.teams) {uuid : Bytes} (member : uuid ∈ team.contents) :
    (∃ old ∈ server.db.teams, old.uuid = team.uuid ∧ uuid ∈ old.contents) ∨
      client.Admitted server.db ∧ team.uuid = client.context.teamUuid := by
  have same : team ∈ server.db.teams →
      (∃ old ∈ server.db.teams, old.uuid = team.uuid ∧ uuid ∈ old.contents) ∨
        client.Admitted server.db ∧ team.uuid = client.context.teamUuid :=
    fun old => Or.inl ⟨team, old, rfl, member⟩
  -- a change of the subscribers changes no content
  have subscribers : ∀ {teamUuid : Bytes} {f : Team → Team},
      (∀ team, (f team).uuid = team.uuid ∧ (f team).contents = team.contents) →
      team ∈ (server.db.modifyTeam teamUuid f).teams →
      ∃ old ∈ server.db.teams, old.uuid = team.uuid ∧ uuid ∈ old.contents := by
    intro teamUuid f keeps inside
    rcases mem_modifyFirst inside with old | ⟨original, old, -, rfl⟩
    · exact ⟨team, old, rfl, member⟩
    · exact ⟨original, old, (keeps original).1.symm, (keeps original).2 ▸ member⟩
  cases serves with
  | createTeam _ _ _ _ _ _ made =>
    rcases List.mem_append.mp stored with old | new
    · exact same old
    · rw [List.mem_singleton.mp new, made] at member
      cases member
  | createChannel allowed selected =>
    rcases mem_modifyTeam stored fun _ => rfl with old | named
    · exact same old
    · exact Or.inr ⟨⟨allowed, selected⟩, named⟩
  | createThread allowed selected =>
    rcases mem_modifyTeam stored fun _ => rfl with old | named
    · exact same old
    · exact Or.inr ⟨⟨allowed, selected⟩, named⟩
  | @createReply _ channel _ _ allowed selected _ _ _ present =>
    have inTeam : team ∈ (server.db.modifyThread client.context.channelUuid
        client.context.threadUuid _).teams := stored
    rw [Database.modifyThread_of_findChannel distinct present] at inTeam
    rcases mem_modifyTeam inTeam fun _ => rfl with old | named
    · exact same old
    · exact Or.inr ⟨⟨allowed, selected⟩, named⟩
  | subscribe =>
    refine Or.inl (subscribers (fun team => ?_) stored)
    unfold Team.addSubscriber
    split_ifs <;> exact ⟨rfl, rfl⟩
  | unsubscribe =>
    refine Or.inl (subscribers (fun team => ?_) stored)
    unfold Team.removeSubscriber
    split_ifs <;> exact ⟨rfl, rfl⟩
  | _ => exact same stored

/-- A reply that is read off the database shows content of the team in the context. -/
theorem shown_exhibits {frames : List Frame} (shows : Shown client server.db verb frames)
    (distinct : Distinct server.db.uuids) (within : client.context.Within server.db)
    {shown : Exhibit} (member : shown ∈ exhibits none frames) :
    client.Admitted server.db ∧ ∃ team, server.db.findTeam client.context.teamUuid = some team ∧
      team.Has shown := by
  have nothing : ∀ {type : Keyword} {items : List (List Field)}, type.listed = none →
      shown ∈ exhibits none (Frame.listing type items) → False := by
    intro type items other inside
    have listed := (mem_exhibits_listing inside).1
    rw [other] at listed
    cases listed
  cases shows with
  | infoUser => cases member
  | alreadySubscribed => cases member
  | user => cases member
  | listTeams => exact (nothing rfl member).elim
  | subscribedTeams => exact (nothing rfl member).elim
  | subscribers => exact (nothing rfl member).elim
  | users => exact (nothing rfl member).elim
  | messages => exact (nothing rfl member).elim
  | infoTeam allowed selected present =>
    rw [List.mem_singleton.mp member]
    exact ⟨⟨allowed, selected⟩, _, present, .team⟩
  | @infoChannel channel allowed chosen present =>
    obtain ⟨selected, -⟩ := within.inside distinct.named (Or.inl chosen)
    obtain ⟨team, known, inside⟩ := Database.findChannel_eq_some_iff.mp present
    rw [List.mem_singleton.mp member]
    exact ⟨⟨allowed, selected⟩, team, known, .channel (List.mem_of_find?_eq_some inside)⟩
  | @infoThread thread allowed chosen present =>
    obtain ⟨selected, team, channel, known, inside⟩ := within.inside distinct.named (Or.inr chosen)
    have found := Database.findChannel_eq_some_iff.mpr ⟨team, known, inside⟩
    rw [Database.findThread_of_findChannel distinct.nodup found] at present
    rw [List.mem_singleton.mp member]
    exact ⟨⟨allowed, selected⟩, team, known,
      .thread (List.mem_of_find?_eq_some inside) (List.mem_of_find?_eq_some present)⟩
  | @listChannels team allowed selected present =>
    obtain ⟨kind, fields⟩ := shown
    obtain ⟨listed, item⟩ := mem_exhibits_listing member
    obtain ⟨channel, stored, rfl⟩ := List.mem_map.mp item
    cases listed
    exact ⟨⟨allowed, selected⟩, team, present, .channel stored⟩
  | @listThreads channel allowed selected chosen present =>
    obtain ⟨kind, fields⟩ := shown
    obtain ⟨listed, item⟩ := mem_exhibits_listing member
    obtain ⟨thread, stored, rfl⟩ := List.mem_map.mp item
    obtain ⟨team, known, inside⟩ := Database.findChannel_eq_some_iff.mp present
    cases listed
    exact ⟨⟨allowed, selected⟩, team, known, .thread (List.mem_of_find?_eq_some inside) stored⟩
  | @listReplies thread allowed selected chosen _ present =>
    obtain ⟨kind, fields⟩ := shown
    obtain ⟨listed, item⟩ := mem_exhibits_listing member
    obtain ⟨reply, stored, rfl⟩ := List.mem_map.mp item
    obtain ⟨-, team, channel, known, inside⟩ := within.inside distinct.named (Or.inl chosen)
    have found := Database.findChannel_eq_some_iff.mpr ⟨team, known, inside⟩
    rw [Database.findThread_of_findChannel distinct.nodup found] at present
    cases listed
    exact ⟨⟨allowed, selected⟩, team, known, .reply (List.mem_of_find?_eq_some inside)
      (List.mem_of_find?_eq_some present) stored⟩

theorem has_addChannel {db : Database} {teamUuid : Bytes} {team : Team} (channel : Channel)
    (present : db.findTeam teamUuid = some team) :
    ∃ now ∈ (db.modifyTeam teamUuid fun team =>
        { team with channels := team.channels ++ [channel] }).teams, now.uuid = teamUuid ∧
      now.Has ⟨.channel, Frame.namedFields channel.uuid channel.name channel.description⟩ := by
  have grown := mem_modifyFirst_of_find?
    (f := fun team : Team => { team with channels := team.channels ++ [channel] }) present
  exact ⟨_, grown, (find?_key present).2, .channel (List.mem_append_right _ List.mem_cons_self)⟩

theorem has_addThread {db : Database} {teamUuid channelUuid : Bytes} {channel : Channel}
    (thread : Thread) (present : db.findChannel teamUuid channelUuid = some channel) :
    ∃ now ∈ (db.modifyChannel teamUuid channelUuid fun channel =>
        { channel with threads := channel.threads ++ [thread] }).teams, now.uuid = teamUuid ∧
      now.Has ⟨.thread, Frame.threadFields thread⟩ := by
  obtain ⟨team, known, inside⟩ := Database.findChannel_eq_some_iff.mp present
  let addThread : Channel → Channel := fun channel =>
    { channel with threads := channel.threads ++ [thread] }
  have channelGrown : addThread channel ∈ (team.modifyChannel channelUuid addThread).channels :=
    mem_modifyFirst_of_find? inside
  have grown : team.modifyChannel channelUuid addThread ∈
      (db.modifyChannel teamUuid channelUuid addThread).teams := mem_modifyFirst_of_find? known
  exact ⟨_, grown, (find?_key known).2,
    .thread channelGrown (List.mem_append_right _ List.mem_cons_self)⟩

theorem has_addReply {db : Database} (distinct : db.uuids.Nodup)
    {teamUuid channelUuid threadUuid : Bytes} {channel : Channel} {thread : Thread} (reply : Reply)
    (present : db.findChannel teamUuid channelUuid = some channel)
    (deeper : db.findThread channelUuid threadUuid = some thread) :
    ∃ now ∈ (db.modifyThread channelUuid threadUuid fun thread =>
        { thread with replies := thread.replies ++ [reply] }).teams, now.uuid = teamUuid ∧
      now.Has ⟨.reply, Frame.replyFields threadUuid reply⟩ := by
  obtain ⟨team, known, inside⟩ := Database.findChannel_eq_some_iff.mp present
  rw [Database.findThread_of_findChannel distinct present] at deeper
  rw [Database.modifyThread_of_findChannel distinct present]
  let addReply : Thread → Thread := fun thread => { thread with replies := thread.replies ++ [reply] }
  have threadGrown : addReply thread ∈ (channel.modifyThread threadUuid addReply).threads :=
    mem_modifyFirst_of_find? deeper
  have channelGrown : channel.modifyThread threadUuid addReply ∈
      (team.modifyChannel channelUuid (Channel.modifyThread threadUuid addReply)).channels :=
    mem_modifyFirst_of_find? inside
  have grown : team.modifyChannel channelUuid (Channel.modifyThread threadUuid addReply) ∈
      (db.modifyChannel teamUuid channelUuid (Channel.modifyThread threadUuid addReply)).teams :=
    mem_modifyFirst_of_find? known
  have added : reply ∈ (addReply thread).replies :=
    List.mem_append_right thread.replies (List.mem_singleton_self reply)
  refine ⟨_, grown, (find?_key known).2, ?_⟩
  have has := Team.Has.reply channelGrown threadGrown added
  rwa [show (addReply thread).uuid = threadUuid from (find?_key deeper).2] at has

/-- What an answer with notices behind it shows. -/
theorem exhibits_answer {frame : Frame} {others : Letters} (notices : others.Notices)
    (session : Bytes) : exhibits none (((Letters.toClient fd [frame]).followedBy others) fd session)
      = exhibits none [frame] := by
  rw [Letters.followedBy, Letters.toClient_self, List.singleton_append, exhibits, exhibits,
    exhibits_of_notices (notices fd session)]
  rfl

/-- What an answer with notices before it shows. -/
theorem exhibits_confirmation {frame : Frame} {others : Letters} (notices : others.Notices)
    (session : Bytes) : exhibits none ((others.followedBy (Letters.toClient fd [frame])) fd session)
      = exhibits none [frame] := by
  rw [Letters.followedBy, Letters.toClient_self, exhibits_notices (notices fd session)]

open Letters in
/-- **A command shows content of the team in the context only**, as it is after the command. -/
theorem serves_exhibits (serves : Serves env fd client server verb outcome)
    (distinct : Distinct server.db.uuids) (within : client.context.Within server.db)
    {shown : Exhibit} (member : shown ∈ exhibits none (outcome.letters fd outcome.userUuid)) :
    client.Admitted server.db ∧ ∃ team ∈ outcome.db.teams, team.uuid = client.context.teamUuid ∧
      team.Has shown := by
  have nothing : ∀ {frames : List Frame}, exhibits none frames = [] → shown ∉ exhibits none frames :=
    fun empty inside => List.not_mem_nil (empty ▸ inside)
  have alone : ∀ {frames : List Frame}, exhibits none frames = [] →
      shown ∉ exhibits none (toClient fd frames fd outcome.userUuid) :=
    fun empty => nothing ((congrArg _ (toClient_self ..)).trans empty)
  have answered : ∀ {others : Letters} {frame : Frame}, others.Notices →
      exhibits none [frame] = [] →
      shown ∉ exhibits none (((toClient fd [frame]).followedBy others) fd outcome.userUuid) :=
    fun notices empty => nothing ((exhibits_answer notices _).trans empty)
  have confirmed : ∀ {others : Letters} {frame : Frame}, others.Notices →
      exhibits none [frame] = [] →
      shown ∉ exhibits none ((others.followedBy (toClient fd [frame])) fd outcome.userUuid) :=
    fun notices empty => nothing ((exhibits_confirmation notices _).trans empty)
  cases serves with
  | refused refusal => cases refusal <;> exact absurd member (alone rfl)
  | @shown _ frames shows =>
    have inside : shown ∈ exhibits none (toClient fd frames fd client.userUuid) := member
    rw [toClient_self] at inside
    obtain ⟨admitted, team, present, has⟩ := shown_exhibits shows distinct within inside
    obtain ⟨stored, named⟩ := find?_key present
    exact ⟨admitted, team, stored, named, has⟩
  | loginNew => exact absurd member (answered (notices_toAll rfl) rfl)
  | loginAgain => exact absurd member (answered (notices_toAll rfl) rfl)
  | logout => exact absurd member (alone rfl)
  | logoutLast => exact absurd member (confirmed (notices_toAll rfl) rfl)
  | logoutUnknown => exact absurd member (alone rfl)
  | useNothing => exact absurd member (alone rfl)
  | useTeam => exact absurd member (alone rfl)
  | useChannel => exact absurd member (alone rfl)
  | useThread => exact absurd member (alone rfl)
  | useNoChannel => exact absurd member (alone rfl)
  | useNoThread => exact absurd member (alone rfl)
  | createTeam => exact absurd member (answered (notices_toAll rfl) rfl)
  | createChannel allowed selected _ present =>
    rw [exhibits_answer (notices_toSubscribers rfl _)] at member
    rw [List.mem_singleton.mp member]
    exact ⟨⟨allowed, selected⟩, has_addChannel _ present⟩
  | createThread allowed selected _ _ _ present =>
    rw [exhibits_answer (notices_toSubscribers rfl _)] at member
    rw [List.mem_singleton.mp member]
    exact ⟨⟨allowed, selected⟩, has_addThread _ present⟩
  | createReply allowed selected _ _ _ present deeper =>
    rw [exhibits_answer (notices_toSubscribers rfl _)] at member
    rw [List.mem_singleton.mp member]
    exact ⟨⟨allowed, selected⟩, has_addReply distinct.nodup _ present deeper⟩
  | subscribe => exact absurd member (confirmed (notices_toSubscribers rfl _) rfl)
  | unsubscribe => exact absurd member (confirmed (notices_toSubscribers rfl _) rfl)
  | send => exact absurd member (confirmed (notices_toUser rfl _) rfl)

end Commands

section Steps

variable {env : Env} {server after : Server} {event : Event}

/-- A requester that a command admits is authorized. -/
theorem authorized_of_admitted {fd : Int} {client : Client}
    (found : server.clients.find? fd = some client) (admitted : client.Admitted server.db) :
    ∃ team, Authorized server fd team ∧ team.uuid = client.context.teamUuid := by
  obtain ⟨allowed, selected⟩ := admitted
  obtain ⟨team, present, member⟩ := allowed.subscribed selected
  obtain ⟨stored, named⟩ := find?_key present
  exact ⟨team, ⟨stored, _, session_of_found found, allowed.loggedIn, member, named.symm⟩, named⟩

theorem Team.mapTime_contents (f : Int → Int) (team : Team) :
    (team.mapTime f).contents = team.contents := by
  simp [Team.contents, Team.mapTime, List.flatMap_map, Channel.mapTime_uuids]

/-- **Content is added to a team by a line of an authorized requester only.** -/
theorem step_contents (steps : Steps env server event after) (distinct : server.db.uuids.Nodup)
    {team : Team} (stored : team ∈ after.db.teams) {uuid : Bytes} (member : uuid ∈ team.contents) :
    (∃ old ∈ server.db.teams, old.uuid = team.uuid ∧ uuid ∈ old.contents) ∨
      ∃ fd rawCommand checked, event = .line fd rawCommand ∧ Authorized server fd checked ∧
        team.uuid = checked.uuid := by
  cases steps with
  | @served fd rawCommand client verb outcome found _ serves =>
    rcases serves_contents serves distinct stored member with old | ⟨admitted, named⟩
    · exact Or.inl old
    · obtain ⟨checked, authorized, same⟩ := authorized_of_admitted found
        ⟨⟨admitted.1.loggedIn, admitted.1.subscribed⟩, admitted.2⟩
      exact Or.inr ⟨fd, rawCommand, checked, rfl, authorized, named.trans same.symm⟩
  | restarted =>
    obtain ⟨old, present, rfl⟩ := List.mem_map.mp stored
    rw [Team.mapTime_contents] at member
    exact Or.inl ⟨old, present, rfl, member⟩
  | _ => exact Or.inl ⟨team, stored, rfl, member⟩

/-- **A line shows its requester content of the team for which it is authorized.** -/
theorem line_exhibits {fd : Int} {rawCommand : Bytes}
    (steps : Steps env server (.line fd rawCommand) after) (distinct : Distinct server.db.uuids)
    (within : ContextsWithin server) {shown : Exhibit}
    (member : shown ∈ exhibits none (server.newFrames fd after)) :
    ∃ checked, Authorized server fd checked ∧
      ∃ team ∈ after.db.teams, team.uuid = checked.uuid ∧ team.Has shown := by
  cases steps with
  | quiet _ quiet =>
    rw [newFrames_quiet quiet] at member
    cases member
  | @served _ _ client verb outcome found _ serves =>
    rw [newFrames_served found] at member
    have valid : client.context.Within server.db := within fd client.session (session_of_found found)
    obtain ⟨admitted, team, stored, named, has⟩ := serves_exhibits serves distinct valid member
    obtain ⟨checked, authorized, same⟩ := authorized_of_admitted found
      ⟨⟨admitted.1.loggedIn, admitted.1.subscribed⟩, admitted.2⟩
    exact ⟨checked, authorized, team, stored, named.trans same.symm, has⟩

end Steps

section Runs

/-- **Only subscribers of a team write and read its content.** In every step of every run, content
is added by authorized requesters and shown to authorized requesters; it lies in the team for which
they are authorized, and in no other, as no uuid occurs twice. -/
theorem team_authorization (env : Env) (db : Database) (start : Distinct db.uuids)
    (events : List Event) (event : Event)
    (fresh : env.Fresh db.uuids
      (run (Server.step env) { db := db } (events ++ [event])).uuidCalls) :
    let server := run (Server.step env) { db := db } events
    let after := run (Server.step env) { db := db } (events ++ [event])
    (∀ team ∈ after.db.teams, ∀ uuid ∈ team.contents,
      (∃ old ∈ server.db.teams, old.uuid = team.uuid ∧ uuid ∈ old.contents) ∨
        ∃ fd rawCommand checked, event = .line fd rawCommand ∧ Authorized server fd checked ∧
          team.uuid = checked.uuid) ∧
    (∀ fd rawCommand, event = .line fd rawCommand →
      ∀ shown ∈ exhibits none (server.newFrames fd after),
        ∃ checked, Authorized server fd checked ∧
          ∃ team ∈ after.db.teams, team.uuid = checked.uuid ∧ team.Has shown) ∧
    after.db.uuids.Nodup := by
  have distinct := run_distinct start (events ++ [event]) fresh
  simp only
  rw [run_concat] at fresh distinct ⊢
  have earlier := fresh_earlier _ event fresh
  have before := run_distinct start events earlier
  have steps := step_steps env (run (Server.step env) { db := db } events) event
  refine ⟨fun team stored uuid member => step_contents steps before.nodup stored member, ?_,
    distinct.nodup⟩
  rintro fd rawCommand rfl shown member
  exact line_exhibits steps before (run_within start events earlier) member

/-- A channel in a new team. -/
theorem team_authorization_sample :
    let events : List Event := [.accept 4, .line 4 (ascii "/login \"ann\""),
      .line 4 (ascii "/create \"red\" \"first\""),
      .line 4 (ascii "/use \"" ++ digitUuid 1 ++ ascii "\"")]
    let server := run (Server.step sampleEnv) { db := {} } events
    let after := run (Server.step sampleEnv) { db := {} }
      (events ++ [.line 4 (ascii "/create \"hall\" \"talk\"")])
    exhibits none (server.newFrames 4 after)
        = [⟨.channel, [.quoted (digitUuid 2), .quoted (ascii "hall"), .quoted (ascii "talk")]⟩] ∧
      ∀ shown ∈ exhibits none (server.newFrames 4 after), ∃ checked, Authorized server 4 checked ∧
        ∃ team ∈ after.db.teams, team.uuid = checked.uuid ∧ team.Has shown := by
  refine ⟨by decide, ?_⟩
  have authorized := (team_authorization sampleEnv {} ⟨by decide, by decide⟩
    [.accept 4, .line 4 (ascii "/login \"ann\""), .line 4 (ascii "/create \"red\" \"first\""),
      .line 4 (ascii "/use \"" ++ digitUuid 1 ++ ascii "\"")]
    (.line 4 (ascii "/create \"hall\" \"talk\"")) (sampleEnv_fresh.of_le (by decide))).2.1
  exact authorized 4 _ rfl

end Runs

end MyTeams
