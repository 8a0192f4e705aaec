/-
**The two copies of a conversation agree.**

SEND stores a message twice, under the key of the receiver in the map of the sender and under the key of
the sender in the map of the receiver. `Database.Paired` says that any two users keep the same list for
each other, or both none.

* `find?_exchange`, `copies_swap` — a message adds the same to both lists;
* `step_paired` — every step keeps the copies equal;
* `conversations_agree` — so does every run from an empty database.
-/

import MyTeams.Guarantees.MessageHistory

namespace MyTeams

open Transition FirstMatch

/-- Any two users keep the same list for each other, or both none. -/
def Database.Paired (db : Database) : Prop :=
  ∀ first ∈ db.users, ∀ second ∈ db.users,
    first.messages.find? second.uuid = second.messages.find? first.uuid

/-! ### One message -/

theorem User.find?_addMessage (key other : Bytes) (message : Message) (user : User) :
    (user.addMessage key message).messages.find? other
      = if other = key then some (user.conversation other ++ [message]) else user.messages.find? other := by
  unfold User.addMessage User.conversation
  rw [SortedMap.find?_insert]
  split_ifs with same
  · rw [same]
  · rfl

/-- What a message leaves under a key: the list with its copies, if there are any. -/
theorem find?_exchange (message : Message) (user : User) (key : Bytes) :
    (user.exchange message.senderUuid message.receiverUuid message).messages.find? key
      = if copies user.uuid key message = [] then user.messages.find? key
        else some (user.conversation key ++ copies user.uuid key message) := by
  have exact := conversation_exchange message user key
  by_cases none : copies user.uuid key message = []
  · rw [if_pos none]
    unfold copies at none
    obtain ⟨first, second⟩ := List.append_eq_nil_iff.mp none
    have notSent : user.uuid = message.senderUuid → key ≠ message.receiverUuid := by
      intro sender partner
      rw [if_pos ⟨sender.symm, partner.symm⟩] at first
      cases first
    have notReceived : user.uuid = message.receiverUuid → key ≠ message.senderUuid := by
      intro receiver partner
      rw [if_pos ⟨receiver.symm, partner.symm⟩] at second
      cases second
    unfold User.exchange
    simp only
    split_ifs with sender receiver receiver
    · rw [User.find?_addMessage, if_neg (notReceived receiver), User.find?_addMessage,
        if_neg (notSent sender)]
    · rw [User.find?_addMessage, if_neg (notSent sender)]
    · rw [User.find?_addMessage, if_neg (notReceived receiver)]
    · rfl
  · rw [if_neg none, ← exact]
    -- a list that got a copy is there
    have present : ((user.exchange message.senderUuid message.receiverUuid message).messages.find?
        key).isSome = true := by
      by_contra missing
      rw [Bool.not_eq_true, Option.isSome_eq_false_iff, Option.isNone_iff_eq_none] at missing
      unfold User.conversation at exact
      rw [missing] at exact
      exact none (List.append_eq_nil_iff.mp exact.symm).2
    obtain ⟨messages, found⟩ := Option.isSome_iff_exists.mp present
    unfold User.conversation
    rw [found, Option.getD_some]

/-- **A message adds the same to both lists.** -/
theorem copies_swap (first second : Bytes) (message : Message) :
    copies second first message = copies first second message := by
  have sent : (message.senderUuid = second ∧ message.receiverUuid = first)
      = (message.receiverUuid = first ∧ message.senderUuid = second) := propext and_comm
  have received : (message.receiverUuid = second ∧ message.senderUuid = first)
      = (message.senderUuid = first ∧ message.receiverUuid = second) := propext and_comm
  unfold copies
  simp only [sent, received]
  split_ifs <;> rfl

/-! ### Steps -/

section Steps

variable {db : Database}

/-- An exchanged message keeps the copies equal. -/
theorem Database.Paired.exchange (paired : db.Paired) (message : Message) :
    Database.Paired { db with
      users := db.users.map (User.exchange message.senderUuid message.receiverUuid message) } := by
  intro first member second present
  obtain ⟨user, stored, rfl⟩ := List.mem_map.mp member
  obtain ⟨other, known, rfl⟩ := List.mem_map.mp present
  have same := paired user stored other known
  rw [User.exchange_uuid, User.exchange_uuid, find?_exchange, find?_exchange, copies_swap, same]
  unfold User.conversation
  rw [same]

/-- A restart changes both copies alike. -/
theorem Database.Paired.reloaded (paired : db.Paired) (f : Int → Int) : (db.reloaded f).Paired := by
  intro first member second present
  obtain ⟨user, stored, rfl⟩ := List.mem_map.mp member
  obtain ⟨other, known, rfl⟩ := List.mem_map.mp present
  have same := paired user stored other known
  unfold User.reloaded
  rw [SortedMap.find?_mapWithKey, SortedMap.find?_mapWithKey, same]

/-- No list is kept for a uuid that no user has. -/
theorem Database.WellFormed.find?_stranger (proper : db.WellFormed) {user : User} (stored : user ∈ db.users)
    {uuid : Bytes} (stranger : uuid ∉ db.userUuids) : user.messages.find? uuid = none := by
  by_contra present
  obtain ⟨messages, found⟩ := Option.ne_none_iff_exists'.mp present
  exact stranger ((proper.users user stored).keys uuid messages found)

/-- **Every step keeps the copies equal.** -/
theorem step_paired {env : Env} {past : List Bytes} {server : Server} (event : Event)
    (paired : server.db.Paired) (proper : server.db.WellFormed)
    (supplied : Supplied env past server.uuidCalls server.db.uuids)
    (fresh : env.Fresh past (server.step env event).uuidCalls) : (server.step env event).db.Paired := by
  cases step_mail supplied.nodup event with
  | idle users =>
    intro first member second present
    -- nobody keeps a list for a new user
    have stranger : (server.step env event).uuidCalls = server.uuidCalls + 1 →
        (env.uuid server.uuidCalls).1 ∉ server.db.userUuids := by
      intro called known
      rw [called] at fresh
      exact supplied.next_not_mem fresh (List.mem_append_left _ known)
    rcases users first member with ⟨before, stored, uuid, messages⟩ | ⟨bare, uuid, called⟩ <;>
      rcases users second present with ⟨other, known, key, lists⟩ | ⟨empty, key, more⟩
    · rw [messages, lists, uuid, key]
      exact paired before stored other known
    · rw [messages, key, proper.find?_stranger stored (stranger more), empty, SortedMap.find?_empty]
    · rw [lists, uuid, proper.find?_stranger known (stranger called), bare, SortedMap.find?_empty]
    · rw [bare, empty, SortedMap.find?_empty, SortedMap.find?_empty]
  | exchanged message _ _ _ _ users =>
    have both := paired.exchange message
    unfold Database.Paired at both ⊢
    rwa [users]
  | reloaded stored =>
    rw [stored]
    exact paired.reloaded _

end Steps

/-! ### Runs -/

/-- **The two copies of every conversation agree**, in every state of a run from an empty database. -/
theorem conversations_agree (env : Env) (events : List Event)
    (fresh : env.Fresh [] (run (Server.step env) {} events).uuidCalls) :
    ∀ first ∈ (run (Server.step env) {} events).db.users,
      ∀ second ∈ (run (Server.step env) {} events).db.users,
        first.messages.find? second.uuid = second.messages.find? first.uuid := by
  show (run (Server.step env) {} events).db.Paired
  induction events using List.reverseRecOn with
  | nil => exact fun _ member => absurd member List.not_mem_nil
  | append_singleton events event ih =>
    rw [run_concat] at fresh ⊢
    have before := fresh_earlier _ event fresh
    exact step_paired event (ih before) (run_wellFormed SelfSaved.empty.loaded events before)
      (run_supplied supplied_empty events before) fresh

/-- Two users who wrote to each other, and a third one. -/
theorem conversations_agree_sample :
    let server := run (Server.step sampleEnv) {} (Input.trace sampleEnv { db := {} } [.accept 4,
      .read 4 (ascii "/login \"ann\"\n"), .accept 5,
      .read 5 (ascii "/login \"bob\"\n/send \"" ++ (digitUuid 0).1 ++ ascii "\" \"hi\"\n"),
      .read 4 (ascii "/send \"" ++ (digitUuid 1).1 ++ ascii "\" \"yes\"\n"), .accept 6,
      .read 6 (ascii "/login \"cid\"\n")])
    (server.db.users.map fun user => (user.conversation (digitUuid 1).1).map Message.body)
        = [[ascii "hi", ascii "yes"], [], []] ∧
      ∀ first ∈ server.db.users, ∀ second ∈ server.db.users,
        first.messages.find? second.uuid = second.messages.find? first.uuid :=
  ⟨by decide, conversations_agree sampleEnv _ (sampleEnv_fresh.of_le (by decide))⟩

end MyTeams
