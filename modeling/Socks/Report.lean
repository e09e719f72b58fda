import Socks.Event

/-!
Operations that may reject their input and report events on the way. A report
holds both: the events in order and the outcome. Operations are put together
with the monad operations, under which events add up and the first rejection
ends the whole.
-/
namespace Socks

/-- The events of an operation and how it ended. -/
structure Report (α : Type) where
  /-- What was reported, the earliest event first. -/
  events : List Event
  /-- The result, or why there is none. -/
  outcome : Except Rejection α

namespace Report

/-- Reports one event. -/
def log (event : Event) : Report Unit := ⟨[event], .ok ()⟩

/-- Ends without a result. -/
def reject {α : Type} (rejection : Rejection) : Report α := ⟨[], .error rejection⟩

/-- An outcome that nothing is reported about. -/
def ofOutcome {α : Type} (outcome : Except Rejection α) : Report α := ⟨[], outcome⟩

/-- Does one operation after the other, unless the first one rejects. -/
def bind {α β : Type} (report : Report α) (next : α → Report β) : Report β :=
  match report.outcome with
  | .ok result => ⟨report.events ++ (next result).events, (next result).outcome⟩
  | .error rejection => ⟨report.events, .error rejection⟩

instance : Monad Report where
  pure result := ⟨[], .ok result⟩
  bind := Report.bind

/-! ## Outcomes -/

variable {α β : Type}

@[simp] theorem outcome_pure (result : α) : (pure result : Report α).outcome = .ok result := rfl

@[simp] theorem outcome_log (event : Event) : (log event).outcome = .ok () := rfl

@[simp] theorem outcome_reject (rejection : Rejection) :
    (reject rejection : Report α).outcome = .error rejection := rfl

@[simp] theorem outcome_ofOutcome (outcome : Except Rejection α) :
    (ofOutcome outcome).outcome = outcome := rfl

theorem bind_eq_ok_iff {outcome : Except Rejection α} {next : α → Except Rejection β} {result : β} :
    outcome >>= next = .ok result ↔ ∃ given, outcome = .ok given ∧ next given = .ok result := by
  cases outcome <;> simp [Bind.bind, Except.bind]

theorem bind_eq_error_iff {outcome : Except Rejection α} {next : α → Except Rejection β}
    {rejection : Rejection} :
    outcome >>= next = .error rejection ↔
      outcome = .error rejection ∨ ∃ given, outcome = .ok given ∧ next given = .error rejection := by
  cases outcome <;> simp [Bind.bind, Except.bind]

/-- One operation after the other ends as the second does, unless the first rejects. -/
@[simp] theorem outcome_bind (report : Report α) (next : α → Report β) :
    (report >>= next).outcome =
      match report.outcome with
      | .ok result => (next result).outcome
      | .error rejection => .error rejection := by
  change (report.bind next).outcome = _
  rw [Report.bind]
  split <;> rfl

/-- Reporting on a result afterwards does not change it. -/
theorem outcome_ofOutcome_log (outcome : Except Rejection α) (event : Event) :
    (do let result ← ofOutcome outcome; log event; return result : Report α).outcome = outcome := by
  cases outcome <;> rfl

end Report

end Socks
