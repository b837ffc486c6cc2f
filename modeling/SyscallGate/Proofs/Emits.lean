import SyscallGate.Conditions

/-!
# Kinds of events

`Action.Emits x kind` says that whatever the state, every event of `x` is of the given kind. The
lemmas follow the operations on actions, so the kinds of events of an action are found from those of
its parts, without a look at the states it passes through.
-/

namespace SyscallGate.Action

variable {σ τ ε δ η θ α β : Type} {kind : ε → Prop}

/-- From every state, all events are of the given kind.

The state is arbitrary, so nothing has to be known of it, and a kind that holds of an action holds
wherever it is used. -/
def Emits (x : Action σ ε η α) (kind : ε → Prop) : Prop :=
  ∀ s, ∀ e ∈ (x s).events, kind e

/-- An action that shows nothing shows only events of any kind.

Most of the basic actions are of this sort. -/
theorem emits_of_events_eq_nil {x : Action σ ε η α} (silent : ∀ s, (x s).events = []) :
    x.Emits kind := by
  intro s e seen
  rw [silent s] at seen
  cases seen

/-- A value shows nothing. -/
theorem emits_pure (a : α) : (pure a : Action σ ε η α).Emits kind :=
  emits_of_events_eq_nil fun _ => rfl

/-- A look at the state shows nothing. -/
theorem emits_read : (read : Action σ ε η σ).Emits kind :=
  emits_of_events_eq_nil fun _ => rfl

/-- A change of the state is not shown as such. -/
theorem emits_modify (f : σ → σ) : (modify f : Action σ ε η Unit).Emits kind :=
  emits_of_events_eq_nil fun _ => rfl

/-- A refusal shows nothing. -/
theorem emits_refuse (reason : η) : (refuse reason : Action σ ε η α).Emits kind :=
  emits_of_events_eq_nil fun _ => rfl

/-- A panic shows nothing. -/
theorem emits_stop (cause : Panic) : (stop cause : Action σ ε η α).Emits kind :=
  emits_of_events_eq_nil fun _ => rfl

/-- A computation with checks ends in a value or in a panic, and shows nothing either way. -/
theorem emits_ofChecked (answer : Checked α) : (ofChecked answer : Action σ ε η α).Emits kind := by
  cases answer with
  | ok a => exact emits_pure a
  | error cause => exact emits_stop cause

/-- A note shows its event, or nothing if the filter does not admit it. -/
theorem emits_note {c : Conditions} {level : Log.Level} {e : ε} (good : kind e) :
    (c.note level e : Action σ ε η Unit).Emits kind := by
  intro s e' seen
  rw [Conditions.note_apply] at seen
  split at seen
  case isTrue =>
    rw [List.mem_singleton] at seen
    exact seen ▸ good
  case isFalse => cases seen

/-- What holds of all events of a kind holds of all events of a narrower kind. -/
theorem Emits.mono {kind' : ε → Prop} {x : Action σ ε η α} (good : x.Emits kind)
    (weaker : ∀ e, kind e → kind' e) : x.Emits kind' :=
  fun s e seen => weaker e (good s e seen)

/-- The events of a sequence are those of its two parts.

The second part has to be good for every value, since nothing is said about the values of the first
one. -/
theorem Emits.bind {x : Action σ ε η α} {f : α → Action σ ε η β} (first : x.Emits kind)
    (next : ∀ a, (f a).Emits kind) : (x >>= f).Emits kind := by
  intro s e seen
  have firstEvents := first s
  rw [bind_apply] at seen
  -- If the first part ends the action, its events are all; otherwise the rest follows them.
  rcases ended : x s with ⟨halt | a, s', events⟩ <;> rw [ended] at seen firstEvents
  · -- The first part ended the action, so the event is one of its own.
    exact firstEvents e seen
  · -- The action went on, and the event is from the one part or from the other.
    rcases List.mem_append.mp seen with early | late
    · exact firstEvents e early
    · exact next a s' e late

/-- To turn a refusal into a value does not change the events.

The refusal becomes an answer, and the state and the events are what they were. -/
theorem events_attempt (x : Action σ ε η α) (s : σ) :
    (x.attempt s : Outcome σ ε θ (Except η α)).events = (x s).events := by
  rw [attempt_apply]
  rcases x s with ⟨(reason | cause) | a, s', events⟩ <;> rfl

/-- An attempt shows events of the kinds that the attempted action shows. -/
theorem Emits.attempt {x : Action σ ε η α} (good : x.Emits kind) :
    (x.attempt : Action σ ε θ (Except η α)).Emits kind := by
  intro s e seen
  rw [events_attempt] at seen
  exact good s e seen

/-- A report is made only when the action is refused, and its events follow those of the action. -/
theorem Emits.reporting {x : Action σ ε η α} {report : η → Action σ ε η Unit}
    (good : x.Emits kind) (goodReport : ∀ reason, (report reason).Emits kind) :
    (x.reporting report).Emits kind := by
  refine good.attempt.bind ?_
  intro answer
  cases answer with
  | ok a => exact emits_pure a
  | error reason => exact (goodReport reason).bind fun _ => emits_refuse reason

/-- To rename the reason of a refusal shows nothing. -/
theorem Emits.mapReason {f : η → θ} {x : Action σ ε η α} (good : x.Emits kind) :
    (x.mapReason f).Emits kind := by
  refine good.attempt.bind ?_
  intro answer
  cases answer with
  | ok a => exact emits_pure a
  | error reason => exact emits_refuse _

/-- Inside a larger state, an event is of a kind if what it wraps is.

The events inside are wrapped one by one, and none is added. -/
theorem Emits.zoom {component : σ → τ} {replace : τ → σ → σ} {wrap : δ → ε}
    {x : Action τ δ η α} (good : x.Emits fun e => kind (wrap e)) :
    (x.zoom component replace wrap).Emits kind := by
  intro s e seen
  obtain ⟨inner, shown, rfl⟩ := List.mem_map.mp seen
  exact good (component s) inner shown

end SyscallGate.Action
