import SyscallGate.Checked

/-!
# Actions

A computation of the kernel: it reads and changes a state, has events that an observer can see in
order, and ends with a value, a refusal or a panic.

- `Halt η` is an early end: a refusal of type `η`, which callers may handle, or a panic.
- `Outcome σ ε η α` is a finished computation: its ending, the state it left and its events.
- `Action σ ε η α` is the computation itself. Actions form a lawful monad: the state is passed on,
    the events are appended, and an early end skips the rest but keeps what happened before it.
- `Action.zoom` runs an action of one component inside a larger state.

Every operation has an equation `_apply` that says what it does from a given state. Together with
the equations on outcomes they compute any action whose branches are known.
-/

namespace SyscallGate

/-! ## Outcomes -/

/-- An early end of a computation.

The two ways differ in who may go on: the caller of what was refused decides for itself, and after a
panic nobody does. -/
inductive Halt (η : Type) where
  /-- The request was refused, for a reason the caller may handle. -/
  | refused (reason : η)
  | panicked (cause : Panic)
  deriving DecidableEq, Repr

/-- A finished computation: how it ended, the state it left, and its events in order.

The state is there also if the computation ended early: what was done before stays done. -/
structure Outcome (σ ε η α : Type) where
  result : Except (Halt η) α
  state : σ
  events : List ε

/-- A computation over a state `σ` with events `ε`, refusals `η` and values `α`.

The four parameters are fixed for a whole subsystem, and its operations are written in the monad of
its actions. -/
def Action (σ ε η α : Type) : Type := σ → Outcome σ ε η α

variable {σ τ ε δ η θ α β : Type}

@[simp] theorem mapError_ok (f : η → θ) (a : α) :
    (Except.ok a : Except η α).mapError f = .ok a := rfl

@[simp] theorem mapError_error (f : η → θ) (reason : η) :
    (Except.error reason : Except η α).mapError f = .error (f reason) := rfl

namespace Outcome

/-- The outcome of a computation that other events came before. -/
def after (earlier : List ε) (o : Outcome σ ε η α) : Outcome σ ε η α :=
  ⟨o.result, o.state, earlier ++ o.events⟩

/-- Continues a finished computation with the action chosen by its value.

A computation that ended early stays as it is, so the action is not even looked at. -/
def andThen (o : Outcome σ ε η α) (f : α → Action σ ε η β) : Outcome σ ε η β :=
  match o with
  | ⟨.ok a, s, events⟩ => (f a s).after events
  | ⟨.error halt, s, events⟩ => ⟨.error halt, s, events⟩

/-- The same computation with its refusal as a value; a panic remains a panic.

This is the only place where a refusal is caught. The reason becomes part of the value, and the
outcome may have refusals of another kind, or of none. -/
def attempted : Outcome σ ε η α → Outcome σ ε θ (Except η α)
  | ⟨.ok a, s, events⟩ => ⟨.ok (.ok a), s, events⟩
  | ⟨.error (.refused reason), s, events⟩ => ⟨.ok (.error reason), s, events⟩
  | ⟨.error (.panicked cause), s, events⟩ => ⟨.error (.panicked cause), s, events⟩

/-- The same computation, seen from a larger state.

The component is put back into the state around it, and its events are wrapped one by one. -/
def embed (o : Outcome τ δ η α) (enlarge : τ → σ) (wrap : δ → ε) : Outcome σ ε η α :=
  ⟨o.result, enlarge o.state, o.events.map wrap⟩

@[simp] theorem after_mk (earlier events : List ε) (r : Except (Halt η) α) (s : σ) :
    after earlier ⟨r, s, events⟩ = ⟨r, s, earlier ++ events⟩ := rfl

@[simp] theorem after_nil (o : Outcome σ ε η α) : o.after [] = o := rfl

@[simp] theorem after_after (first second : List ε) (o : Outcome σ ε η α) :
    (o.after second).after first = o.after (first ++ second) := by
  simp [after]

@[simp] theorem andThen_ok (a : α) (s : σ) (events : List ε) (f : α → Action σ ε η β) :
    andThen ⟨.ok a, s, events⟩ f = (f a s).after events := rfl

@[simp] theorem andThen_error (halt : Halt η) (s : σ) (events : List ε) (f : α → Action σ ε η β) :
    andThen ⟨.error halt, s, events⟩ f = ⟨.error halt, s, events⟩ := rfl

@[simp] theorem after_andThen (earlier : List ε) (o : Outcome σ ε η α) (f : α → Action σ ε η β) :
    (o.after earlier).andThen f = (o.andThen f).after earlier := by
  rcases o with ⟨_ | a, s, events⟩
  · rfl
  · simp only [after_mk, andThen_ok, after_after]

@[simp] theorem attempted_ok (a : α) (s : σ) (events : List ε) :
    (⟨.ok a, s, events⟩ : Outcome σ ε η α).attempted =
      (⟨.ok (.ok a), s, events⟩ : Outcome σ ε θ (Except η α)) := rfl

@[simp] theorem attempted_refused (reason : η) (s : σ) (events : List ε) :
    (⟨.error (.refused reason), s, events⟩ : Outcome σ ε η α).attempted =
      (⟨.ok (.error reason), s, events⟩ : Outcome σ ε θ (Except η α)) := rfl

@[simp] theorem attempted_panicked (cause : Panic) (s : σ) (events : List ε) :
    (⟨.error (.panicked cause), s, events⟩ : Outcome σ ε η α).attempted =
      (⟨.error (.panicked cause), s, events⟩ : Outcome σ ε θ (Except η α)) := rfl

@[simp] theorem attempted_state (o : Outcome σ ε η α) :
    (o.attempted : Outcome σ ε θ (Except η α)).state = o.state := by
  rcases o with ⟨(reason | cause) | a, s, events⟩ <;> rfl

@[simp] theorem attempted_events (o : Outcome σ ε η α) :
    (o.attempted : Outcome σ ε θ (Except η α)).events = o.events := by
  rcases o with ⟨(reason | cause) | a, s, events⟩ <;> rfl

@[simp] theorem embed_mk (r : Except (Halt η) α) (t : τ) (events : List δ) (enlarge : τ → σ)
    (wrap : δ → ε) :
    embed ⟨r, t, events⟩ enlarge wrap = ⟨r, enlarge t, events.map wrap⟩ := rfl

end Outcome

namespace Action

/-! ## The monad -/

protected def pure (a : α) : Action σ ε η α := fun s => ⟨.ok a, s, []⟩

/-- Runs an action and continues with the one its value chooses. -/
protected def bind (x : Action σ ε η α) (f : α → Action σ ε η β) : Action σ ε η β :=
  fun s => (x s).andThen f

instance : Monad (Action σ ε η) where
  pure := Action.pure
  bind := Action.bind

@[simp] theorem pure_apply (a : α) (s : σ) :
    (pure a : Action σ ε η α) s = ⟨.ok a, s, []⟩ := rfl

@[simp] theorem bind_apply (x : Action σ ε η α) (f : α → Action σ ε η β) (s : σ) :
    (x >>= f) s = (x s).andThen f := rfl

@[simp] theorem map_apply (f : α → β) (x : Action σ ε η α) (s : σ) :
    (f <$> x) s = (x s).andThen fun a => pure (f a) := rfl

/-- Both parts of an action that returns have returned.

The state between the parts is the one that the first part left, and the events are those of both,
in order. Proofs take a long action apart with this equation, one bind at a time. -/
theorem bind_eq_ok {x : Action σ ε η α} {f : α → Action σ ε η β} {s s' : σ} {b : β}
    {events : List ε} :
    (x >>= f) s = ⟨.ok b, s', events⟩ ↔
      ∃ a s₁ first later, x s = ⟨.ok a, s₁, first⟩ ∧ f a s₁ = ⟨.ok b, s', later⟩ ∧
        events = first ++ later := by
  rw [bind_apply]
  constructor
  · intro returned
    -- A first part that ended early would have ended the whole.
    rcases ran : x s with ⟨halt | a, s₁, first⟩
    · rw [ran] at returned
      cases returned
    · rw [ran, Outcome.andThen_ok] at returned
      rcases ranOn : f a s₁ with ⟨result, s₂, later⟩
      rw [ranOn] at returned
      cases returned
      exact ⟨a, s₁, first, later, rfl, ranOn, rfl⟩
  · rintro ⟨a, s₁, first, later, ran, ranOn, rfl⟩
    rw [ran, Outcome.andThen_ok, ranOn]
    rfl

/-- What only changes the value of a computation leaves its state and its events. -/
theorem andThen_pure (o : Outcome σ ε η α) (f : α → β) :
    (o.andThen fun a => (pure (f a) : Action σ ε η β)) = ⟨o.result.map f, o.state, o.events⟩ := by
  rcases o with ⟨halt | a, s, events⟩
  · rfl
  · simp only [Outcome.andThen_ok, pure_apply, Outcome.after_mk, List.append_nil]
    rfl

/-- The monad laws: no action before or after `pure`, and sequencing is associative. -/
instance : LawfulMonad (Action σ ε η) := LawfulMonad.mk' _
  (by
    intro α x
    funext s
    rw [map_apply]
    rcases x s with ⟨_ | a, s', events⟩
    · rfl
    · simp only [Outcome.andThen_ok, pure_apply, Outcome.after_mk, List.append_nil, id])
  (by
    intro α β a f
    funext s
    rfl)
  (by
    intro α β γ x f g
    funext s
    rw [bind_apply, bind_apply, bind_apply]
    rcases x s with ⟨_ | a, s', events⟩
    · rfl
    · rw [Outcome.andThen_ok, Outcome.andThen_ok, Outcome.after_andThen]
      rfl)

/-! ## State and events -/

def read : Action σ ε η σ := fun s => ⟨.ok s, s, []⟩

def write (s : σ) : Action σ ε η Unit := fun _ => ⟨.ok (), s, []⟩

def modify (f : σ → σ) : Action σ ε η Unit := fun s => ⟨.ok (), f s, []⟩

def emit (e : ε) : Action σ ε η Unit := fun s => ⟨.ok (), s, [e]⟩

@[simp] theorem read_apply (s : σ) : (read : Action σ ε η σ) s = ⟨.ok s, s, []⟩ := rfl

@[simp] theorem write_apply (s s' : σ) :
    (write s : Action σ ε η Unit) s' = ⟨.ok (), s, []⟩ := rfl

@[simp] theorem modify_apply (f : σ → σ) (s : σ) :
    (modify f : Action σ ε η Unit) s = ⟨.ok (), f s, []⟩ := rfl

@[simp] theorem emit_apply (e : ε) (s : σ) :
    (emit e : Action σ ε η Unit) s = ⟨.ok (), s, [e]⟩ := rfl

/-! ## Early ends -/

def refuse (reason : η) : Action σ ε η α := fun s => ⟨.error (.refused reason), s, []⟩

/-- Stops the kernel. -/
def stop (cause : Panic) : Action σ ε η α := fun s => ⟨.error (.panicked cause), s, []⟩

/-- A checked step: its panic stops the kernel.

Arithmetic and indexing are checked steps. In an action they have no effect but their value. -/
def ofChecked : Checked α → Action σ ε η α
  | .ok a => pure a
  | .error cause => stop cause

/-- A fallible step: its error refuses the request. -/
def ofExcept : Except η α → Action σ ε η α
  | .ok a => pure a
  | .error reason => refuse reason

@[simp] theorem refuse_apply (reason : η) (s : σ) :
    (refuse reason : Action σ ε η α) s = ⟨.error (.refused reason), s, []⟩ := rfl

@[simp] theorem stop_apply (cause : Panic) (s : σ) :
    (stop cause : Action σ ε η α) s = ⟨.error (.panicked cause), s, []⟩ := rfl

@[simp] theorem ofChecked_ok (a : α) : (ofChecked (.ok a) : Action σ ε η α) = pure a := rfl

@[simp] theorem ofChecked_error (cause : Panic) :
    (ofChecked (.error cause) : Action σ ε η α) = stop cause := rfl

@[simp] theorem ofExcept_ok (a : α) : (ofExcept (.ok a) : Action σ ε η α) = pure a := rfl

@[simp] theorem ofExcept_error (reason : η) :
    (ofExcept (.error reason) : Action σ ε η α) = refuse reason := rfl

theorem ofExcept_apply (answer : Except η α) (s : σ) :
    (ofExcept answer : Action σ ε η α) s = ⟨answer.mapError .refused, s, []⟩ := by
  cases answer <;> rfl

/-- Turns a refusal into a value; a panic remains a panic.

The action that results cannot refuse for the old reason, and its own refusals are of an arbitrary
type. -/
def attempt (x : Action σ ε η α) : Action σ ε θ (Except η α) := fun s => (x s).attempted

@[simp] theorem attempt_apply (x : Action σ ε η α) (s : σ) :
    (x.attempt : Action σ ε θ (Except η α)) s = (x s).attempted := rfl

/-- Runs an action; when it refuses, runs the report for the reason and refuses all the same.

The report sees the state that the refused action left. -/
def reporting (x : Action σ ε η α) (report : η → Action σ ε η Unit) : Action σ ε η α := do
  match ← x.attempt with
  | .ok a => pure a
  | .error reason =>
    report reason
    refuse reason

/-- Gives another reason for each refusal. -/
def mapReason (f : η → θ) (x : Action σ ε η α) : Action σ ε θ α := do
  match ← x.attempt with
  | .ok a => pure a
  | .error reason => refuse (f reason)

/-! ## Components -/

/-- Runs an action on a component of the state. Its events show as events of the whole.

The parts of the state outside the component are not touched, since only `replace` puts the
component back. -/
def zoom (component : σ → τ) (replace : τ → σ → σ) (wrap : δ → ε) (x : Action τ δ η α) :
    Action σ ε η α := fun s => (x (component s)).embed (fun t => replace t s) wrap

@[simp] theorem zoom_apply (component : σ → τ) (replace : τ → σ → σ) (wrap : δ → ε)
    (x : Action τ δ η α) (s : σ) :
    zoom component replace wrap x s =
      (x (component s)).embed (fun t => replace t s) wrap := rfl

end Action

end SyscallGate
