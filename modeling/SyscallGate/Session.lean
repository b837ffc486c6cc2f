import SyscallGate.Conditions

/-!
# Sessions

A session is a sequence of requests to one system, each under conditions of its own.

- `Service` is the way in which a system answers requests. Every answer is a value: a refusal, too.
- `Service.session` makes requests one after the other and keeps every exchange; `Service.after` is
    the state that remains, and `Service.history` is what an observer saw.

An exchange of a session is the answer of the state that the requests before it left
(`outcome_of_getElem?`). What every request keeps holds after any session (`after_induction`).
-/

namespace SyscallGate

/-- How a system answers a request under given conditions.

No request is refused as such: what a request has to say about failure is in its reply. Only a panic
ends it without one. -/
abbrev Service (σ ε ι α : Type) := Conditions → ι → Action σ ε Empty α

/-- One request of a session, with how it ended. -/
structure Exchange (σ ε ι α : Type) where
  /-- The conditions under which it was made. -/
  conditions : Conditions
  request : ι
  /-- The answer, the state afterwards, and what an observer saw. -/
  outcome : Outcome σ ε Empty α

namespace Service

variable {σ ε ι α : Type} (serve : Service σ ε ι α)

/-- Makes requests one after the other, and lists the exchanges.

Each request is made in the state that the one before it left, also when it panicked: the state is
what was left at that point. -/
def session (s : σ) : List (Conditions × ι) → List (Exchange σ ε ι α)
  | [] => []
  | (c, request) :: rest =>
    let outcome := serve c request s
    ⟨c, request, outcome⟩ :: session outcome.state rest

/-- The state after requests were made one after the other.

It is defined on its own, and not as the state of the last exchange, so that a session without
requests has one too. -/
def after (s : σ) : List (Conditions × ι) → σ
  | [] => s
  | (c, request) :: rest => after (serve c request s).state rest

/-- What an observer sees of a session, first event first. -/
def history (s : σ) (steps : List (Conditions × ι)) : List ε :=
  (serve.session s steps).flatMap fun x => x.outcome.events

variable {serve} {s : σ}

/-- Every request gives one exchange. -/
@[simp] theorem length_session (steps : List (Conditions × ι)) :
    (serve.session s steps).length = steps.length := by
  induction steps generalizing s with
  | nil => rfl
  | cons step rest ih =>
    obtain ⟨c, request⟩ := step
    simp only [session, List.length_cons, ih]

/-- The history of a session begins with the events of its first request. -/
theorem history_cons (c : Conditions) (request : ι) (rest : List (Conditions × ι)) :
    serve.history s ((c, request) :: rest) =
      (serve c request s).events ++ serve.history (serve c request s).state rest := by
  simp only [history, session, List.flatMap_cons]

/-- What every request keeps holds after any session.

This is the induction behind every invariant of a system: it is enough that one request keeps it. -/
theorem after_induction (holds : σ → Prop)
    (keeps : ∀ c request s, holds s → holds (serve c request s).state) (start : holds s)
    (steps : List (Conditions × ι)) : holds (serve.after s steps) := by
  -- Induction on the requests. The invariant is handed on to the state that the first one leaves.
  induction steps generalizing s with
  | nil => exact start
  | cons step rest ih =>
    obtain ⟨c, request⟩ := step
    exact ih (keeps c request s start)

/-- **Exchanges of a session**: each is the answer of the state that the requests before it left,
and leaves the state that the next one meets. -/
theorem outcome_of_getElem? {steps : List (Conditions × ι)} {j : Nat} {x : Exchange σ ε ι α}
    (h : (serve.session s steps)[j]? = some x) :
    x.outcome = serve x.conditions x.request (serve.after s (steps.take j)) ∧
      serve.after s (steps.take (j + 1)) = x.outcome.state := by
  -- Induction on the requests; the exchange is the first one, or one of the session that the
  -- first one leaves to make.
  induction steps generalizing s j with
  | nil => cases h
  | cons step rest ih =>
    obtain ⟨c, request⟩ := step
    cases j with
    | zero =>
      cases h
      exact ⟨rfl, rfl⟩
    | succ j =>
      simp only [session, List.getElem?_cons_succ] at h
      exact ih h

/-- What an admissible request does from every state that an invariant allows, every exchange of a
session of such requests does from the state that it meets.

Every request keeps the invariant, and only what is concluded is limited to admissible ones. -/
theorem forall_exchange (holds : σ → Prop) (admissible : Conditions × ι → Prop)
    (does : σ → Exchange σ ε ι α → Prop)
    (keeps : ∀ c request s, holds s → holds (serve c request s).state)
    (each : ∀ c request s, holds s → admissible (c, request) →
      does s ⟨c, request, serve c request s⟩)
    (start : holds s) {steps : List (Conditions × ι)} (all : ∀ step ∈ steps, admissible step)
    {j : Nat} {x : Exchange σ ε ι α} (h : (serve.session s steps)[j]? = some x) :
    does (serve.after s (steps.take j)) x := by
  -- Induction on the requests, as for `after_induction`, with the position of the exchange.
  induction steps generalizing s j with
  | nil => cases h
  | cons step rest ih =>
    obtain ⟨c, request⟩ := step
    cases j with
    | zero =>
      cases h
      exact each c request s start (all _ List.mem_cons_self)
    | succ j =>
      simp only [session, List.getElem?_cons_succ] at h
      exact ih (keeps c request s start) (fun step mem => all step (List.mem_cons_of_mem _ mem)) h

end Service

end SyscallGate
