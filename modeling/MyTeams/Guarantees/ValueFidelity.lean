/-
**What the client reads is what the server wrote.**

`quoteProtocolField` puts a backslash before every quote and backslash of a value, and
`TokenParser::parse` leaves these backslashes where they are. So a frame is read as its words and its
values if and only if none of its escaped values has a quote or a backslash (`value_fidelity_iff`).
Everything else that can be stored comes through: a stored text is an argument that the server has put
together from words, and the client puts it together in the same way (`run_carries`, `parse_line`).
-/

import MyTeams.Invariants.Provenance

namespace MyTeams

open Transition

/-- The client reads the words of a frame and the values it stands for. -/
def Faithful (frame : Frame) : Prop := TokenParser.parse frame.line = some frame.values

/-- Every frame that was appended for a client is read faithfully, at every moment of a run. -/
def ValueFidelity (env : Env) (events : List Event) : Prop :=
  ∀ early, early <+: events → ∀ fd client,
    (run (Server.step env) {} early).clients.find? fd = some client →
    ∀ frame ∈ client.appended, Faithful frame

section Texts

variable {env : Env}

theorem uuid_unescaped {uuid : Bytes} (wellFormed : IsUuid uuid) : Unescaped uuid := by
  intro byte member
  rcases wellFormed.2 byte member with digit | letter | rfl
  · unfold isDigit at digit
    unfold doubleQuote backslash
    grind
  · unfold doubleQuote backslash
    grind
  · decide

theorem source_unescaped : Source Unescaped env :=
  ⟨fun _ member => absurd member List.not_mem_nil, fun n => uuid_unescaped (env.uuid n).2⟩

theorem faithful_iff {frame : Frame} (storable : frame.Carries Storable) :
    Faithful frame ↔ frame.Unescaped := by
  unfold Faithful
  rw [parse_line storable, Option.some_inj, wire_eq_values_iff]

theorem Frame.Carries.unescaped {frame : Frame} (carries : frame.Carries MyTeams.Unescaped) :
    frame.Unescaped :=
  fun _ member => carries _ member

end Texts

/-- **The client reads what the server wrote if and only if nothing was escaped**: frame by frame, and
for a whole run if no argument has a quote or a backslash. -/
theorem value_fidelity_iff (env : Env) (events : List Event) :
    (∀ early, early <+: events → ∀ fd client,
      (run (Server.step env) {} early).clients.find? fd = some client →
      ∀ frame ∈ client.appended, Faithful frame ↔ frame.Unescaped) ∧
    ((∀ event ∈ events, event.Carries Unescaped) → ValueFidelity env events) := by
  have framewise : ∀ early, early <+: events → ∀ fd client,
      (run (Server.step env) {} early).clients.find? fd = some client →
      ∀ frame ∈ client.appended, Faithful frame ↔ frame.Unescaped := by
    intro early _ fd client found frame member
    exact faithful_iff (((run_storable early).clients fd client found).appended frame member)
  refine ⟨framewise, fun plain early initial fd client found frame member => ?_⟩
  have carries : (run (Server.step env) {} early).Carries Unescaped :=
    run_carries source_unescaped early fun event inside => plain event (initial.subset inside)
  have unescaped := ((carries.clients fd client found).appended frame member).unescaped
  exact (framewise early initial fd client found frame member).mpr unescaped

/-- A user whose name needs no escaping logs in. -/
def plainLogin : List Event := [.accept 4, .line 4 (ascii "/login \"ann lee\"")]

theorem value_fidelity_sample : ValueFidelity sampleEnv plainLogin := by
  refine (value_fidelity_iff sampleEnv plainLogin).2 fun event member => ?_
  rcases List.mem_cons.mp member with rfl | rest
  · trivial
  · rw [List.mem_singleton.mp rest]
    unfold Event.Carries
    decide

/-- A user whose name has a backslash logs in. -/
def backslashLogin : List Event := [.accept 4, .line 4 (ascii "/login \"a\\b\"")]

/-- The client reads two backslashes in the event. -/
theorem not_value_fidelity : ¬ ∀ (env : Env) (events : List Event), ValueFidelity env events := by
  intro each
  have announced : (run (Server.step sampleEnv) {} backslashLogin).appendedTo 4
      = [Frame.okLogin (digitUuid 0) (ascii "a\\b"),
        Frame.eventLoggedIn { uuid := digitUuid 0, name := ascii "a\\b" }] := by decide
  cases found : (run (Server.step sampleEnv) {} backslashLogin).clients.find? 4 with
  | none =>
    unfold Server.appendedTo at announced
    rw [found] at announced
    cases announced
  | some client =>
    have sent : client.appended = (run (Server.step sampleEnv) {} backslashLogin).appendedTo 4 := by
      rw [Server.appendedTo, found]
      rfl
    have faithful := each sampleEnv backslashLogin _ (List.prefix_refl _) 4 client found
      (Frame.eventLoggedIn { uuid := digitUuid 0, name := ascii "a\\b" })
      (by rw [sent, announced]; simp)
    have escaped : ¬ Faithful
        (Frame.eventLoggedIn { uuid := digitUuid 0, name := ascii "a\\b" }) := by
      unfold Faithful
      decide
    exact escaped faithful

end MyTeams
