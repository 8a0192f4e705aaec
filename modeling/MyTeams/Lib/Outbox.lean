/-
**Output streams.**

An `Outbox` is an output stream cut in two: what the other side has taken, and what waits. Items are
given to it at the end (`push`) and taken at the front, any number of them at a time (`take`). Only the
first changes the stream: it gets longer by what is given (`stream_push`, `stream_take`). So an output that
pushes and takes loses, repeats and moves nothing.
-/

import Mathlib.Data.List.Basic

/-- What was taken and what waits. -/
structure Outbox (α : Type*) where
  accepted : List α := []
  waiting : List α := []
deriving DecidableEq

namespace Outbox

variable {α : Type*}

/-- Everything that was given, in order. -/
def stream (box : Outbox α) : List α := box.accepted ++ box.waiting

/-- Items are given. -/
def push (items : List α) (box : Outbox α) : Outbox α :=
  { box with waiting := box.waiting ++ items }

/-- The first items that wait are taken, this many or all that there are. -/
def take (count : Nat) (box : Outbox α) : Outbox α where
  accepted := box.accepted ++ box.waiting.take count
  waiting := box.waiting.drop count

@[simp] theorem stream_push (items : List α) (box : Outbox α) :
    (box.push items).stream = box.stream ++ items :=
  (List.append_assoc _ _ _).symm

@[simp] theorem stream_take (count : Nat) (box : Outbox α) : (box.take count).stream = box.stream := by
  show box.accepted ++ box.waiting.take count ++ box.waiting.drop count = _
  rw [List.append_assoc, List.take_append_drop]
  rfl

@[simp] theorem take_zero (box : Outbox α) : box.take 0 = box := by
  obtain ⟨accepted, waiting⟩ := box
  simp [take]

@[simp] theorem push_nil (box : Outbox α) : box.push [] = box := by
  obtain ⟨accepted, waiting⟩ := box
  simp [push]

/-- Taking twice is taking once. -/
theorem take_take (first second : Nat) (box : Outbox α) :
    (box.take first).take second = box.take (first + second) := by
  unfold take
  simp only [List.append_assoc, List.drop_drop, mk.injEq, and_true, List.append_cancel_left_eq]
  rw [List.take_add]

end Outbox
