import FilterLexicon.Event
import FilterLexicon.Failure

/-!
Runs: computations that call outside parties. A run has an outcome, and it keeps the calls and the
events in the order in which they came about, also when it fails.
-/

namespace FilterLexicon

/-- A call of an outside party. -/
inductive Call where
  | lookup (entity : String)
  | resolve (label : String)
  | filter (label : String)
  deriving DecidableEq

namespace Call

def text : Call → String
  | lookup entity => s!"lookup:{entity}"
  | resolve label => s!"resolve:{label}"
  | filter label => s!"filter:{label}"

def isLookup : Call → Bool
  | lookup _ => true
  | _ => false

end Call

theorem eq_ok_of_toOption {ε α : Type} {x : Except ε α} {a : α} (h : x.toOption = some a) :
    x = .ok a := by
  cases x with
  | error e => cases h
  | ok a' => cases h; rfl

structure Run (α : Type) where
  outcome : Except Failure α
  calls : List Call := []
  events : List Event := []

namespace Run

variable {α β : Type}

/-- Goes on with a run's result, unless it has failed. -/
def andThen (run : Run α) (next : α → Run β) : Run β :=
  match run.outcome with
  | .error f => { outcome := .error f, calls := run.calls, events := run.events }
  | .ok a =>
    { outcome := (next a).outcome
      calls := run.calls ++ (next a).calls
      events := run.events ++ (next a).events }

instance : Monad Run where
  pure a := { outcome := .ok a }
  bind := andThen

def fail (f : Failure) : Run α := { outcome := .error f }

def note (e : Event) : Run Unit := { outcome := .ok (), events := [e] }

/-- Calls an outside party, whose error message `failure` turns into a failure. -/
def ask (calls : List Call) (failure : String → Failure) (reply : Except String α) : Run α :=
  match reply with
  | .ok a => { outcome := .ok a, calls }
  | .error reason => { outcome := .error (failure reason), calls }

theorem bind_of_ok {run : Run α} {a : α} (h : run.outcome = .ok a) (next : α → Run β) :
    run >>= next =
      { outcome := (next a).outcome
        calls := run.calls ++ (next a).calls
        events := run.events ++ (next a).events } := by
  simp [bind, andThen, h]

theorem bind_of_error {run : Run α} {f : Failure} (h : run.outcome = .error f)
    (next : α → Run β) :
    run >>= next = { outcome := .error f, calls := run.calls, events := run.events } := by
  simp [bind, andThen, h]

/-- The calls of what comes next are made only if nothing has failed. -/
theorem bind_calls (run : Run α) (next : α → Run β) :
    (run >>= next).calls =
      run.calls ++ match run.outcome with
        | .ok a => (next a).calls
        | .error _ => [] := by
  cases h : run.outcome with
  | error f => simp [bind_of_error h]
  | ok a => simp [bind_of_ok h]

@[simp] theorem ask_calls (calls : List Call) (failure : String → Failure)
    (reply : Except String α) : (ask calls failure reply).calls = calls := by
  cases reply <;> rfl

theorem ask_outcome (calls : List Call) (failure : String → Failure) (reply : Except String α) :
    (ask calls failure reply).outcome = reply.mapError failure := by
  cases reply <;> rfl

/-- Calls and events add up in order, so it does not matter how a chain of runs is bracketed. -/
instance : LawfulMonad Run :=
  LawfulMonad.mk' Run
    (fun run => by cases h : run.outcome <;> cases run <;> simp_all [Functor.map, andThen])
    (fun a next => by simp [pure, bind, andThen])
    (fun run next after => by
      cases h : run.outcome with
      | error f => simp [bind, andThen, h]
      | ok a => cases ha : (next a).outcome <;> simp [bind, andThen, h, ha])

/-- A run that goes on succeeds exactly when both of its parts do. -/
theorem bind_outcome_eq_ok_iff {run : Run α} {next : α → Run β} {b : β} :
    (run >>= next).outcome = .ok b ↔
      ∃ a, run.outcome = .ok a ∧ (next a).outcome = .ok b := by
  cases h : run.outcome with
  | error f => simp [bind_of_error h]
  | ok a => simp [bind_of_ok h]

/-- It fails when its first part does, or when that succeeds and its second part fails. -/
theorem bind_outcome_eq_error_iff {run : Run α} {next : α → Run β} {f : Failure} :
    (run >>= next).outcome = .error f ↔
      run.outcome = .error f ∨ ∃ a, run.outcome = .ok a ∧ (next a).outcome = .error f := by
  cases h : run.outcome with
  | error f => simp [bind_of_error h]
  | ok a => simp [bind_of_ok h]

end Run
end FilterLexicon
