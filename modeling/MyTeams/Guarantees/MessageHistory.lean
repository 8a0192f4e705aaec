/-
**The history of private messages.**

A SEND stores its message twice: in the list of the sender for the receiver, and in the list of the
receiver for the sender. `sentMessages` is the list of the messages that the SENDs of a run sent, in
order, and `copies` the part of one message that ends up in one list.

* `step_mail` — what a step does to the conversations;
* `run_archives` — every list is the history, message by message, with its copies;
* `message_history_iff` — a conversation is listed exactly, with one exception: a message of a user to
  itself is listed twice.
-/

import MyTeams.Guarantees.AppendOnly
import MyTeams.Invariants.Timestamps

namespace MyTeams

open Transition FirstMatch

/-! ### What was sent -/

/-- The message that a step sends: the line is a SEND and it is answered 200 OK. -/
def Server.sent (env : Env) (server : Server) : Event → List Message
  | .line fd rawCommand =>
    match server.clients.find? fd with
    | none => []
    | some client =>
      if (CommandHandling.parseArgs rawCommand).head? = some Verb.send.text ∧
          Frame.ok ∈ server.newFrames fd (server.step env (.line fd rawCommand)) then
        [{ senderUuid := client.userUuid
           receiverUuid := (CommandHandling.parseArgs rawCommand).getD 1 []
           timestamp := server.nextTime env
           body := (CommandHandling.parseArgs rawCommand).getD 2 [] }]
      else []
  | _ => []

/-- The messages that were sent in a run, in the order in which the server processed them. -/
def sentMessages (env : Env) : Server → List Event → List Message
  | _, [] => []
  | server, event :: rest => server.sent env event ++ sentMessages env (server.step env event) rest

theorem sentMessages_concat (env : Env) (server : Server) (events : List Event) (event : Event) :
    sentMessages env server (events ++ [event])
      = sentMessages env server events ++ (run (Server.step env) server events).sent env event := by
  induction events generalizing server with
  | nil => simp [sentMessages]
  | cons first rest ih => rw [List.cons_append, sentMessages, ih, run_cons, sentMessages, List.append_assoc]

/-- A message from the one user to the other, or back. -/
def Message.isBetween (first second : Bytes) (message : Message) : Bool :=
  message.senderUuid = first ∧ message.receiverUuid = second ∨
    message.senderUuid = second ∧ message.receiverUuid = first

/-- What MESSAGES lists to the user `reader` for the user `partner`. -/
def Database.listed (reader partner : Bytes) (db : Database) : List Message :=
  ((db.findUser reader).map (User.conversation partner)).getD []

/-! ### One message -/

/-- What a message adds to the list of a user for another one: the first part for its sender, the
second part for its receiver. -/
def copies (userUuid key : Bytes) (message : Message) : List Message :=
  (if message.senderUuid = userUuid ∧ message.receiverUuid = key then [message] else []) ++
    if message.receiverUuid = userUuid ∧ message.senderUuid = key then [message] else []

theorem conversation_exchange (message : Message) (user : User) (key : Bytes) :
    (user.exchange message.senderUuid message.receiverUuid message).conversation key
      = user.conversation key ++ copies user.uuid key message := by
  have first : (if user.uuid = message.senderUuid then
        user.addMessage message.receiverUuid message else user).conversation key
      = user.conversation key ++ if message.senderUuid = user.uuid ∧ message.receiverUuid = key
        then [message] else [] := by
    by_cases sender : user.uuid = message.senderUuid
    · by_cases partner : key = message.receiverUuid
      · rw [if_pos sender, User.conversation_addMessage, if_pos partner,
          if_pos ⟨sender.symm, partner.symm⟩]
      · rw [if_pos sender, User.conversation_addMessage, if_neg partner,
          if_neg fun both => partner both.2.symm, List.append_nil]
    · rw [if_neg sender, if_neg fun both => sender both.1.symm, List.append_nil]
  have kept : (if user.uuid = message.senderUuid then
      user.addMessage message.receiverUuid message else user).uuid = user.uuid := by
    split_ifs <;> rfl
  unfold User.exchange copies
  simp only
  generalize (if user.uuid = message.senderUuid then
    user.addMessage message.receiverUuid message else user) = between at first kept ⊢
  rw [kept, ← List.append_assoc, ← first]
  by_cases receiver : user.uuid = message.receiverUuid
  · by_cases partner : key = message.senderUuid
    · rw [if_pos receiver, User.conversation_addMessage, if_pos partner,
        if_pos ⟨receiver.symm, partner.symm⟩]
    · rw [if_pos receiver, User.conversation_addMessage, if_neg partner,
        if_neg fun both => partner both.2.symm, List.append_nil]
  · rw [if_neg receiver, if_neg fun both => receiver both.1.symm, List.append_nil]

/-- Between two users, a message is stored once in each list. -/
theorem copies_of_ne {first second : Bytes} (different : first ≠ second) (history : List Message) :
    history.flatMap (copies first second) = history.filter (Message.isBetween first second) := by
  induction history with
  | nil => rfl
  | cons message rest ih =>
    rw [List.flatMap_cons, ih, List.filter_cons]
    unfold copies Message.isBetween
    by_cases sends : message.senderUuid = first ∧ message.receiverUuid = second
    · have back : ¬ (message.receiverUuid = first ∧ message.senderUuid = second) :=
        fun swapped => different (sends.1.symm.trans swapped.2)
      simp [sends, different, different.symm]
    · by_cases receives : message.receiverUuid = first ∧ message.senderUuid = second
      · simp [receives, different, different.symm]
      · have neither : ¬ (message.senderUuid = second ∧ message.receiverUuid = first) :=
          fun swapped => receives swapped.symm
        rw [if_neg sends, if_neg receives, if_neg (by simp [sends, neither])]
        rfl

/-- A message of a user to itself is stored twice in the same list. -/
theorem copies_self (user : Bytes) (history : List Message) :
    history.flatMap (copies user user)
      = (history.filter (Message.isBetween user user)).flatMap fun message => [message, message] := by
  induction history with
  | nil => rfl
  | cons message rest ih =>
    rw [List.flatMap_cons, ih, List.filter_cons]
    unfold copies Message.isBetween
    by_cases own : message.senderUuid = user ∧ message.receiverUuid = user
    · simp [own]
    · have swapped : ¬ (message.receiverUuid = user ∧ message.senderUuid = user) :=
        fun both => own both.symm
      rw [if_neg own, if_neg swapped, if_neg (by simp [own])]
      rfl

theorem isBetween_self {user : Bytes} {message : Message} : Message.isBetween user user message = true ↔
    message.senderUuid = user ∧ message.receiverUuid = user := by
  simp [Message.isBetween]

/-- **A conversation is exact**, but for the messages of a user to itself. -/
theorem copies_exact {first second : Bytes} {history : List Message} (apart : first ≠ second ∨
      ∀ message ∈ history, ¬ (message.senderUuid = first ∧ message.receiverUuid = first)) :
    history.flatMap (copies first second) = history.filter (Message.isBetween first second) := by
  by_cases same : first = second
  · subst same
    have none := apart.resolve_left (not_not.mpr rfl)
    have empty : history.filter (Message.isBetween first first) = [] :=
      List.filter_eq_nil_iff.mpr fun message member own => none message member (isBetween_self.mp own)
    rw [copies_self, empty]
    rfl
  · exact copies_of_ne same history

/-- With such a message there are too many copies. -/
theorem apart_of_length {first second : Bytes} {history : List Message}
    (lengths : (history.flatMap (copies first second)).length
      = (history.filter (Message.isBetween first second)).length) :
    first ≠ second ∨ ∀ message ∈ history,
      ¬ (message.senderUuid = first ∧ message.receiverUuid = first) := by
  by_cases same : first = second
  · subst same
    simp only [copies_self, List.length_flatMap, List.length_cons, List.length_nil, List.map_const',
      List.sum_replicate_nat] at lengths
    have none : history.filter (Message.isBetween first first) = [] :=
      List.length_eq_zero_iff.mp (by omega)
    exact Or.inr fun message member own =>
      List.filter_eq_nil_iff.mp none message member (isBetween_self.mpr own)
  · exact Or.inl same

/-! ### One step -/

/-- **What a step does to the conversations**, and what it sends. -/
inductive Mail (env : Env) (server : Server) (event : Event) (after : Server) : Prop
  | idle : (∀ user ∈ after.db.users, (∃ old ∈ server.db.users, user.uuid = old.uuid ∧
        user.messages = old.messages) ∨
        user.messages = SortedMap.empty ∧ user.uuid = (env.uuid server.uuidCalls).1 ∧
          after.uuidCalls = server.uuidCalls + 1) →
      server.sent env event = [] → Mail env server event after
  | exchanged (message : Message) : message.timestamp = env.time server.timeCalls →
      server.timeCalls < after.timeCalls →
      message.senderUuid ∈ server.db.userUuids → message.receiverUuid ∈ server.db.userUuids →
      after.db.users = server.db.users.map
        (User.exchange message.senderUuid message.receiverUuid message) →
      server.sent env event = [message] → Mail env server event after
  | reloaded : after.db = server.db.reloaded (reloadTime env.fp) →
      server.sent env event = [] → Mail env server event after

section Step

variable {env : Env} {fd : Int} {client : Client} {server after : Server} {verb : Verb}
  {outcome : Outcome} {rawCommand : Bytes}

/-- Users that differ in their connection counts only. -/
theorem same_mail {p : User → Bool} {f : User → User} (uuids : ∀ user : User, (f user).uuid = user.uuid)
    (messages : ∀ user : User, (f user).messages = user.messages) (users : List User) :
    ∀ user ∈ modifyFirst p f users, ∃ old ∈ users, user.uuid = old.uuid ∧
      user.messages = old.messages := by
  intro user member
  rcases mem_modifyFirst member with old | ⟨source, inside, -, rfl⟩
  · exact ⟨user, old, rfl, rfl⟩
  · exact ⟨source, inside, uuids source, messages source⟩

/-- A line that is no successful SEND sends nothing. -/
theorem sent_nothing (quiet : (CommandHandling.parseArgs rawCommand).head? = some Verb.send.text →
    Frame.ok ∉ server.newFrames fd (server.step env (.line fd rawCommand))) :
    server.sent env (.line fd rawCommand) = [] := by
  simp only [Server.sent]
  cases server.clients.find? fd with
  | none => rfl
  | some client =>
    refine if_neg ?_
    rintro ⟨named, member⟩
    exact quiet named member

/-- **A command is one of these.** -/
theorem serves_mail (distinct : server.db.uuids.Nodup) (found : server.clients.find? fd = some client)
    (named : (CommandHandling.parseArgs rawCommand).head? = some verb.text)
    (serves : Serves env fd (client.setArgs (CommandHandling.parseArgs rawCommand))
      (server.modifyClient fd (Client.setArgs (CommandHandling.parseArgs rawCommand))) verb outcome)
    (committed : server.step env (.line fd rawCommand) = outcome.commit fd
      (server.modifyClient fd (Client.setArgs (CommandHandling.parseArgs rawCommand)))) :
    Mail env server (.line fd rawCommand) (outcome.commit fd
      (server.modifyClient fd (Client.setArgs (CommandHandling.parseArgs rawCommand)))) := by
  have appended : server.newFrames fd (server.step env (.line fd rawCommand))
      = outcome.letters fd outcome.userUuid := by
    rw [committed]
    exact newFrames_served found
  have kept : ∀ users : List User, ∀ user ∈ users, (∃ old ∈ users, user.uuid = old.uuid ∧
      user.messages = old.messages) := fun users user member => ⟨user, member, rfl, rfl⟩
  -- a line of another command sends nothing
  have other : verb ≠ .send → server.sent env (.line fd rawCommand) = [] := by
    refine fun different => sent_nothing fun sends => ?_
    rw [named] at sends
    exact absurd (Verb.text_injective (Option.some.inj sends)) different
  cases serves with
  | @refused _ frame refusal =>
    refine .idle (fun user member => Or.inl (kept _ user member)) (sent_nothing fun _ member => ?_)
    rw [appended] at member
    have inside : Frame.ok ∈ Letters.toClient fd [frame] fd client.userUuid := member
    rw [← List.mem_singleton.mp (Letters.mem_toClient inside).2] at refusal
    cases refusal
  | shown shown =>
    refine .idle (fun user member => Or.inl (kept _ user member)) (other ?_)
    rintro rfl
    cases shown
  | loginNew _ _ _ _ _ made =>
    subst made
    refine .idle (fun user member => ?_) (other nofun)
    rcases List.mem_append.mp member with old | new
    · exact Or.inl (kept _ user old)
    · rw [List.mem_singleton.mp new]
      exact Or.inr ⟨rfl, rfl, rfl⟩
  | loginAgain =>
    exact .idle (fun user member => Or.inl (same_mail User.incrementConnection_uuid (fun _ => rfl) _
      user member)) (other nofun)
  | logout =>
    exact .idle (fun user member => Or.inl (same_mail User.decrementConnection_uuid
      User.decrementConnection_messages _ user member)) (other nofun)
  | logoutLast =>
    exact .idle (fun user member => Or.inl (same_mail User.decrementConnection_uuid
      User.decrementConnection_messages _ user member)) (other nofun)
  | @send sender receiver message _ _ _ _ sending receiving made =>
    obtain ⟨senderKnown, senderKey⟩ := userUuid_known sending
    obtain ⟨receiverKnown, receiverKey⟩ := userUuid_known receiving
    have ends : message.senderUuid = sender.uuid ∧ message.receiverUuid = receiver.uuid ∧
        message.timestamp = env.time server.timeCalls := by
      rw [made]
      exact ⟨rfl, rfl, rfl⟩
    refine .exchanged message ends.2.2 (Nat.lt_succ_self _) (ends.1 ▸ senderKnown)
      (ends.2.1 ▸ receiverKnown) ?_ ?_
    · have exchange := congrArg Database.users
        (modifyUser_exchange distinct.of_append_left sender.uuid receiver.uuid message)
      rw [ends.1, ends.2.1]
      refine Eq.trans ?_ exchange
      rw [senderKey, receiverKey]
      rfl
    · have sent : Frame.ok ∈ server.newFrames fd (server.step env (.line fd rawCommand)) := by
        rw [appended]
        exact List.mem_append_right _ (by rw [Letters.toClient_self]; exact List.mem_cons_self)
      simp only [Server.sent, found]
      rw [if_pos ⟨named, sent⟩, made, senderKey, receiverKey]
      rfl
  | _ => exact .idle (fun user member => Or.inl (kept _ user member)) (other nofun)

/-- **Every step is one of these.** -/
theorem step_mail (distinct : server.db.uuids.Nodup) (event : Event) :
    Mail env server event (server.step env event) := by
  have steps := step_steps env server event
  generalize same : server.step env event = after at steps ⊢
  have kept : ∀ users : List User, ∀ user ∈ users, (∃ old ∈ users, user.uuid = old.uuid ∧
      user.messages = old.messages) := fun users user member => ⟨user, member, rfl, rfl⟩
  cases steps with
  | quiet _ quiet =>
    refine .idle (fun user member => Or.inl (kept _ user member)) ?_
    cases event with
    | line fd rawCommand =>
      refine sent_nothing fun _ member => ?_
      rw [same, newFrames_quiet quiet] at member
      cases member
    | _ => rfl
  | accepted =>
    exact .idle (fun user member => Or.inl (kept _ user member)) rfl
  | served found named serves => exact serves_mail distinct found named serves same
  | left => exact .idle (fun user member => Or.inl (kept _ user member)) rfl
  | leftUser =>
    exact .idle (fun user member => Or.inl (same_mail User.decrementConnection_uuid
      User.decrementConnection_messages _ user member)) rfl
  | leftLast =>
    exact .idle (fun user member => Or.inl (same_mail User.decrementConnection_uuid
      User.decrementConnection_messages _ user member)) rfl
  | restarted => exact .reloaded rfl rfl

end Step

/-! ### Runs -/

/-- The first `calls` readings of the clock are dates that a `double` holds. -/
def Env.Calendar (env : Env) (calls : Nat) : Prop := ∀ n < calls, |env.time n| ≤ 2 ^ 53

/-- Every conversation is the history, with the copies of each message. -/
structure Archives (env : Env) (server : Server) (history : List Message) : Prop where
  conversations : ∀ user ∈ server.db.users, ∀ key,
    user.conversation key = history.flatMap (copies user.uuid key)
  known : ∀ message ∈ history,
    message.senderUuid ∈ server.db.userUuids ∧ message.receiverUuid ∈ server.db.userUuids
  times : ∀ message ∈ history, ∃ n < server.timeCalls, message.timestamp = env.time n

section Runs

variable {env : Env}

theorem mem_of_mem_copies {userUuid key : Bytes} {history : List Message} {message : Message}
    (member : message ∈ history.flatMap (copies userUuid key)) : message ∈ history := by
  obtain ⟨source, stored, inside⟩ := List.mem_flatMap.mp member
  unfold copies at inside
  have same : message = source := by
    rcases List.mem_append.mp inside with first | second
    · split_ifs at first
      · exact List.mem_singleton.mp first
      · cases first
    · split_ifs at second
      · exact List.mem_singleton.mp second
      · cases second
  exact same ▸ stored

/-- A user whom no message mentions has no messages. -/
theorem copies_stranger {userUuid : Bytes} (key : Bytes) {history : List Message}
    (stranger : ∀ message ∈ history, message.senderUuid ≠ userUuid ∧ message.receiverUuid ≠ userUuid) :
    history.flatMap (copies userUuid key) = [] := by
  refine List.flatMap_eq_nil_iff.mpr fun message member => ?_
  obtain ⟨sender, receiver⟩ := stranger message member
  unfold copies
  rw [if_neg fun both => sender both.1, if_neg fun both => receiver both.1]
  rfl

/-- **A step keeps the conversations exact.** -/
theorem archives_step {past : List Bytes} {server : Server} {history : List Message} (event : Event)
    (archives : Archives env server history)
    (supplied : Supplied env past server.uuidCalls server.db.uuids)
    (fresh : env.Fresh past (server.step env event).uuidCalls)
    (calendar : env.Calendar (server.step env event).timeCalls) :
    Archives env (server.step env event) (history ++ server.sent env event) := by
  have steps := step_steps env server event
  have later := step_timeCalls steps
  have grown := (step_userUuids steps).subset
  have old : ∀ message ∈ history, message.senderUuid ∈ (server.step env event).db.userUuids ∧
      message.receiverUuid ∈ (server.step env event).db.userUuids := fun message member =>
    ⟨grown _ (archives.known message member).1, grown _ (archives.known message member).2⟩
  have earlier : ∀ message ∈ history, ∃ n < (server.step env event).timeCalls,
      message.timestamp = env.time n := fun message member =>
    have ⟨n, read, same⟩ := archives.times message member
    ⟨n, read.trans_le later, same⟩
  cases step_mail supplied.nodup event with
  | idle users nothing =>
    rw [nothing, List.append_nil]
    refine ⟨fun user member key => ?_, old, earlier⟩
    rcases users user member with ⟨before, stored, uuid, messages⟩ | ⟨bare, uuid, called⟩
    · have conversation := archives.conversations before stored key
      unfold User.conversation at conversation ⊢
      rw [uuid, messages, conversation]
    · -- the uuid of the new user is fresh, so no message mentions it
      have new : user.uuid ∉ server.db.userUuids := by
        intro known
        rw [uuid] at known
        rw [called] at fresh
        exact supplied.next_not_mem fresh (List.mem_append_left _ known)
      have stranger : history.flatMap (copies user.uuid key) = [] :=
        copies_stranger key fun message inside =>
          ⟨fun same => new (same ▸ (archives.known message inside).1),
            fun same => new (same ▸ (archives.known message inside).2)⟩
      rw [stranger, User.conversation, bare]
      rfl
  | exchanged message time reads sender receiver users sent =>
    rw [sent]
    refine ⟨fun user member key => ?_, forall_concat old ⟨grown _ sender, grown _ receiver⟩,
      forall_concat earlier ⟨_, reads, time⟩⟩
    rw [users] at member
    obtain ⟨before, stored, rfl⟩ := List.mem_map.mp member
    rw [conversation_exchange, archives.conversations before stored key, List.flatMap_append,
      User.exchange_uuid, List.flatMap_singleton]
  | reloaded stored nothing =>
    rw [nothing, List.append_nil]
    refine ⟨fun user member key => ?_, old, earlier⟩
    rw [stored] at member
    obtain ⟨before, present, rfl⟩ := List.mem_map.mp member
    rw [User.conversation_reloaded, archives.conversations before present key]
    refine (List.map_congr_left fun message inside => ?_).trans (List.map_id _)
    obtain ⟨n, read, same⟩ := earlier message (mem_of_mem_copies inside)
    have exact : reloadTime env.fp message.timestamp = message.timestamp :=
      env.fp.toTime_ofInt _ (same ▸ calendar n read)
    rw [Message.mapTime, exact]
    rfl

/-- **The conversations of every run are exact.** -/
theorem run_archives (events : List Event)
    (fresh : env.Fresh [] (run (Server.step env) {} events).uuidCalls)
    (calendar : env.Calendar (run (Server.step env) {} events).timeCalls) :
    Archives env (run (Server.step env) {} events) (sentMessages env {} events) := by
  induction events using List.reverseRecOn with
  | nil =>
    exact ⟨fun _ member => absurd member List.not_mem_nil, fun _ member => absurd member
      List.not_mem_nil, fun _ member => absurd member List.not_mem_nil⟩
  | append_singleton events event ih =>
    rw [run_concat] at fresh calendar ⊢
    rw [sentMessages_concat]
    have before := fresh_earlier _ event fresh
    have supplied := run_supplied supplied_empty events before
    have steps := step_steps env (run (Server.step env) {} events) event
    exact archives_step event
      (ih before fun n read => calendar n (read.trans_le (step_timeCalls steps))) supplied fresh
      calendar

/-! ### What MESSAGES shows -/

/-- MESSAGES answers a user with the messages of its list for the user that the line names. -/
theorem messages_lists {server : Server} {fd : Int} {client : Client} {rawCommand : Bytes}
    (found : server.clients.find? fd = some client)
    (named : (CommandHandling.parseArgs rawCommand).head? = some Verb.messages.text)
    (reader : client.userUuid ∈ server.db.userUuids)
    (partner : (CommandHandling.parseArgs rawCommand).getD 1 [] ∈ server.db.userUuids)
    (nonempty : [] ∉ server.db.userUuids) :
    server.newFrames fd (server.step env (.line fd rawCommand))
      = Frame.listing .messages ((server.db.listed client.userUuid
          ((CommandHandling.parseArgs rawCommand).getD 1 [])).map Messages.messageFields) := by
  obtain ⟨user, present⟩ := exists_findUser reader
  obtain ⟨other, known⟩ := exists_findUser partner
  have session : client.userUuid ≠ [] := fun empty => nonempty (empty ▸ reader)
  have key : (CommandHandling.parseArgs rawCommand).getD 1 [] ≠ [] :=
    fun empty => nonempty (empty ▸ partner)
  have enough : ¬ (CommandHandling.parseArgs rawCommand).length < 2 := by
    intro short
    refine key ?_
    rw [List.getD_eq_getElem?_getD, List.getElem?_eq_none (by omega)]
    rfl
  have executed : Messages.execute fd (client.setArgs (CommandHandling.parseArgs rawCommand))
      (server.modifyClient fd (Client.setArgs (CommandHandling.parseArgs rawCommand)))
      = (server.modifyClient fd (Client.setArgs (CommandHandling.parseArgs rawCommand))).sendAllToClient
        (Frame.listing .messages ((server.db.listed client.userUuid
          ((CommandHandling.parseArgs rawCommand).getD 1 [])).map Messages.messageFields)) fd := by
    unfold Messages.execute Database.listed User.conversation
    simp only [Client.setArgs, Client.arg, Server.modifyClient, if_neg session, if_neg enough,
      if_neg key, present, known, Option.map_some, Option.getD_some]
    cases user.messages.find? ((CommandHandling.parseArgs rawCommand).getD 1 []) with
    | none => rfl
    | some messages => rfl
  show server.newFrames fd (CommandHandling.handleCommand env rawCommand fd server) = _
  rw [handleCommand_of_named env found named]
  show server.newFrames fd (Messages.execute fd _ _) = _
  rw [executed, newFrames_answered _ _ found]

end Runs

/-- **Private messages.** At any state of a run, MESSAGES shows to a user what was sent between it and
the user that the line names, once each, in the order in which it was sent, unless a user asks for the
messages to itself and has sent one. `calendar` is what `std::time` returns in this age. -/
theorem message_history_iff (env : Env) (events : List Event)
    (fresh : env.Fresh [] (run (Server.step env) {} events).uuidCalls)
    (calendar : env.Calendar (run (Server.step env) {} events).timeCalls)
    (fd : Int) (rawCommand : Bytes) {client : Client}
    (found : (run (Server.step env) {} events).clients.find? fd = some client)
    (named : (CommandHandling.parseArgs rawCommand).head? = some Verb.messages.text)
    (loggedIn : client.userUuid ≠ [])
    (partner : (CommandHandling.parseArgs rawCommand).getD 1 []
      ∈ (run (Server.step env) {} events).db.userUuids) :
    let server := run (Server.step env) {} events
    let history := sentMessages env {} events
    let other := (CommandHandling.parseArgs rawCommand).getD 1 []
    server.newFrames fd (server.step env (.line fd rawCommand))
        = Frame.listing .messages
          ((history.filter (Message.isBetween client.userUuid other)).map Messages.messageFields) ↔
      client.userUuid ≠ other ∨ ∀ message ∈ history,
        ¬ (message.senderUuid = client.userUuid ∧ message.receiverUuid = client.userUuid) := by
  intro server history other
  have counted : Counted server := run_counted SelfSaved.empty.loaded.counted
    SelfSaved.empty.loaded.supplied events fresh
  have reader : client.userUuid ∈ server.db.userUuids :=
    (counted.bound fd client found).resolve_left loggedIn
  have nonempty : [] ∉ server.db.userUuids := fun member =>
    have ⟨user, stored, empty⟩ := List.mem_map.mp member
    counted.named user stored empty
  have archives : Archives env server history := run_archives events fresh calendar
  have listed : server.db.listed client.userUuid other
      = history.flatMap (copies client.userUuid other) := by
    obtain ⟨user, present⟩ := exists_findUser reader
    obtain ⟨stored, key⟩ := find?_key present
    unfold Database.listed
    rw [present, ← key]
    exact archives.conversations user stored other
  rw [messages_lists found named reader partner nonempty, listed]
  constructor
  · intro same
    have lengths := congrArg List.length same
    simp only [Frame.listing, List.length_cons, List.length_append, List.length_map, List.length_nil,
      Nat.add_right_cancel_iff] at lengths
    exact apart_of_length lengths
  · intro apart
    rw [copies_exact apart]

theorem sampleEnv_calendar {calls : Nat} (few : calls ≤ 10) : sampleEnv.Calendar calls := by
  intro n read
  show |(n : Int)| ≤ 2 ^ 53
  rw [abs_of_nonneg (Int.natCast_nonneg n)]
  omega

/-- A conversation of two users. -/
theorem message_history_sample :
    let events := Input.trace sampleEnv { db := {} } [.accept 4, .read 4 (ascii "/login \"ann\"\n"),
      .accept 5, .read 5 (ascii "/login \"bob\"\n/send \"" ++ (digitUuid 0).1 ++ ascii "\" \"hi\"\n"),
      .read 4 (ascii "/send \"" ++ (digitUuid 1).1 ++ ascii "\" \"yes\"\n")]
    let server := run (Server.step sampleEnv) {} events
    server.newFrames 4 (server.step sampleEnv (.line 4 (ascii "/messages \"" ++ (digitUuid 1).1
        ++ ascii "\"")))
      = Frame.listing .messages (((sentMessages sampleEnv {} events).filter
        (Message.isBetween (digitUuid 0).1 (digitUuid 1).1)).map Messages.messageFields) ∧
    (sentMessages sampleEnv {} events).map Message.body = [ascii "hi", ascii "yes"] := by
  intro events server
  have known : (server.clients.find? 4).map Client.userUuid = some (digitUuid 0).1 := by decide
  obtain ⟨client, found, user⟩ := Option.map_eq_some_iff.mp known
  have exact := (message_history_iff sampleEnv events (sampleEnv_fresh.of_le (by decide))
    (sampleEnv_calendar (by decide)) 4 (ascii "/messages \"" ++ (digitUuid 1).1 ++ ascii "\"") found
    (by decide) (by rw [user]; decide) (by decide)).mpr (Or.inl (by rw [user]; decide))
  rw [user] at exact
  exact ⟨exact, by decide⟩

/-- A message to oneself is listed twice. -/
theorem not_message_history :
    ¬ ∀ (env : Env) (events : List Event), env.Fresh [] (run (Server.step env) {} events).uuidCalls →
      env.Calendar (run (Server.step env) {} events).timeCalls →
      ∀ (fd : Int) (rawCommand : Bytes) (client : Client),
        (run (Server.step env) {} events).clients.find? fd = some client →
        (CommandHandling.parseArgs rawCommand).head? = some Verb.messages.text →
        client.userUuid ≠ [] →
        (CommandHandling.parseArgs rawCommand).getD 1 []
          ∈ (run (Server.step env) {} events).db.userUuids →
        (run (Server.step env) {} events).newFrames fd
            ((run (Server.step env) {} events).step env (.line fd rawCommand))
          = Frame.listing .messages (((sentMessages env {} events).filter (Message.isBetween
            client.userUuid ((CommandHandling.parseArgs rawCommand).getD 1 []))).map
              Messages.messageFields) := by
  intro claimed
  let events := Input.trace sampleEnv { db := {} } [.accept 4,
    .read 4 (ascii "/login \"ann\"\n/send \"" ++ (digitUuid 0).1 ++ ascii "\" \"hi\"\n")]
  have known : ((run (Server.step sampleEnv) {} events).clients.find? 4).map Client.userUuid
      = some (digitUuid 0).1 := by decide
  obtain ⟨client, found, user⟩ := Option.map_eq_some_iff.mp known
  have once := claimed sampleEnv events (sampleEnv_fresh.of_le (by decide))
    (sampleEnv_calendar (by decide)) 4 (ascii "/messages \"" ++ (digitUuid 0).1 ++ ascii "\"") client
    found (by decide) (by rw [user]; decide) (by decide)
  rw [user] at once
  have lengths := congrArg List.length once
  revert lengths
  decide

end MyTeams
