import SyscallGate.Action

/-!
# Computations that return

`Outcome.Returns o` says that `o` ended with a value or a refusal, so that nothing in it stopped the
kernel. The lemmas follow the operations on outcomes.
-/

namespace SyscallGate.Outcome

variable {σ ε η θ α β : Type} {o : Outcome σ ε η α}

/-- The computation ended with a value or a refusal, and not with a panic.

A refusal is an answer on which the caller can act. After a panic there is no answer. -/
def Returns (o : Outcome σ ε η α) : Prop :=
  ∃ answer : Except η α, o.result = answer.mapError .refused

/-- A computation with a value returns. -/
theorem Returns.of_ok {a : α} (ended : o.result = .ok a) : o.Returns :=
  ⟨.ok a, ended⟩

/-- A refused computation returns. -/
theorem Returns.of_refused {reason : η} (ended : o.result = .error (.refused reason)) : o.Returns :=
  ⟨.error reason, ended⟩

/-- To return is not to panic.

There are three ways to end, so what is not a panic is one of the other two. -/
theorem returns_iff_not_panicked : o.Returns ↔ ∀ cause, o.result ≠ .error (.panicked cause) := by
  -- The cases are a refusal, a panic and a value.
  rcases o with ⟨(reason | cause) | a, s, events⟩
  · exact ⟨fun _ _ => nofun, fun _ => Returns.of_refused rfl⟩
  · constructor
    · rintro ⟨_ | _, ended⟩ <;> cases ended
    · intro calm
      exact absurd rfl (calm cause)
  · exact ⟨fun _ _ => nofun, fun _ => Returns.of_ok rfl⟩

/-- Where no refusal is possible, to return is to have a value.

This is how results are stated for actions that attempt what they do. -/
theorem Returns.exists_ok {o : Outcome σ ε Empty α} (h : o.Returns) : ∃ a, o.result = .ok a := by
  obtain ⟨answer, ended⟩ := h
  cases answer with
  | error impossible => cases impossible
  | ok a => exact ⟨a, ended⟩

/-- An attempt returns if what is attempted does. It turns a refusal into a value and leaves a
panic. -/
theorem Returns.attempted (h : o.Returns) :
    (o.attempted : Outcome σ ε θ (Except η α)).Returns := by
  rcases o with ⟨result, s, events⟩
  obtain ⟨answer, rfl⟩ := h
  cases answer <;> exact .of_ok rfl

/-- A computation that goes on returns if both of its parts do.

The second part is asked about only if the first one has a value, and only in the state that it
left. -/
theorem Returns.andThen {f : α → Action σ ε η β} (h : o.Returns)
    (next : ∀ a, o.result = .ok a → (f a o.state).Returns) : (o.andThen f).Returns := by
  rcases o with ⟨result, s, events⟩
  obtain ⟨answer, rfl⟩ := h
  cases answer with
  | error reason => exact Returns.of_refused rfl
  | ok a => exact next a rfl

end SyscallGate.Outcome
