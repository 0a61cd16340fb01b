import FilterLexicon.Session

/-! Steps of a session that leave it as it is. A step that fails takes nothing over, however far it
got, and a step that only looks has nothing to take over. So a run can do without any number of such
steps: all others are carried out from the same session and have the same reports. -/

namespace FilterLexicon.Session

/-- Whether a step only looks at the session. -/
def Step.isLook : Step → Bool
  | .lookUp _ | .describe | .resolve .. | .columns .. | .attributes _ | .operatorsFor _
  | .checkPatterns | .isStructural | .print => true
  | _ => false

/-- The step of the report did not succeed. -/
def Report.Failed (report : Report) : Prop := ∃ problem, report.result = .error problem

/-- What came of a step, if it is a failure, leads back to the session. -/
def Undone (session : Session) (outcome : Session × Report) : Prop :=
  outcome.2.Failed → outcome.1 = session

variable {session : Session}

/-! ### One step -/

theorem undone_go (next : Session) (answer : Session → Answer) : session.Undone (next.go answer) := by
  rintro ⟨problem, h⟩
  cases h

theorem undone_look (result : Except Problem Answer) : session.Undone (session.look result) :=
  fun _ => rfl

theorem undone_carry {α : Type} (run : Run α) (answer : α → Answer) (take : α → Session) :
    session.Undone (session.carry run answer take) := by
  unfold carry
  cases run.outcome with
  | ok a =>
      rintro ⟨problem, h⟩
      cases h
  | error f => exact fun _ => rfl

theorem undone_read {α ε : Type} {outcome : Except ε α} {problem : ε → Problem}
    {next : α → Session × Report} (h : ∀ a, session.Undone (next a)) :
    session.Undone (session.read outcome problem next) := by
  cases outcome with
  | ok a => exact h a
  | error e => exact undone_look _

theorem carry_back {α : Type} (run : Run α) (answer : α → Answer) :
    (session.carry run answer fun _ => session).1 = session := by
  unfold carry
  cases run.outcome <;> rfl

/-- A step that fails leaves the session as it was. -/
theorem undone_step (session : Session) (step : Step) : session.Undone (session.step step) := by
  cases step with
  | insertEntity | makeCatalog | failEntity | addFixed | addScripted | addFilter | clearHandlers
  | useStructural | useBlank => exact undone_go _ _
  | lookUp | describe | operatorsFor | checkPatterns | isStructural | print => exact fun _ => rfl
  | resolve | columns | attributes | assemble | filter => exact undone_carry _ _ _
  | assembleSettings => exact undone_read fun _ => undone_carry _ _ _
  | readCatalog | readHandlers | readLexicon | edit => exact undone_read fun _ => undone_go _ _

/-- A step that only looks leaves the session as it was. -/
theorem step_of_isLook (session : Session) {step : Step} (h : step.isLook = true) :
    (session.step step).1 = session := by
  cases step with
  | lookUp | describe | operatorsFor | checkPatterns | isStructural | print => rfl
  | resolve | columns | attributes => exact carry_back _ _
  | _ => cases h

/-! ### A run -/

/-- The steps of a run with their reports. -/
def transcript (session : Session) (steps : List Step) : List (Step × Report) :=
  steps.zip (session.run steps).2

theorem run_cons (session : Session) (step : Step) (rest : List Step) :
    session.run (step :: rest) =
      (((session.step step).1.run rest).1,
        (session.step step).2 :: ((session.step step).1.run rest).2) := rfl

theorem transcript_cons (session : Session) (step : Step) (rest : List Step) :
    session.transcript (step :: rest) =
      (step, (session.step step).2) :: (session.step step).1.transcript rest := rfl

/-- The step only looked, or it failed. -/
def Idle (entry : Step × Report) : Prop := entry.1.isLook = true ∨ entry.2.Failed

/-- What is left of a transcript when any number of idle steps are deleted. -/
inductive Thinned : List (Step × Report) → List (Step × Report) → Prop where
  | nil : Thinned [] []
  | keep (entry : Step × Report) {entries kept : List (Step × Report)} (h : Thinned entries kept) :
      Thinned (entry :: entries) (entry :: kept)
  | delete {entry : Step × Report} {entries kept : List (Step × Report)} (hidle : Idle entry)
      (h : Thinned entries kept) : Thinned (entry :: entries) kept

theorem step_of_idle {step : Step} (h : Idle (step, (session.step step).2)) :
    (session.step step).1 = session :=
  h.elim (step_of_isLook session) (undone_step session step)

/-- What is left of a transcript is what the steps that are left come to, from the same session and to
the same session. -/
theorem run_thinned {session : Session} {steps : List Step} {kept : List (Step × Report)}
    (h : Thinned (session.transcript steps) kept) :
    session.run (kept.map Prod.fst) = ((session.run steps).1, kept.map Prod.snd) := by
  induction steps generalizing session kept with
  | nil =>
      cases h
      rfl
  | cons step rest ih =>
      rw [transcript_cons] at h
      cases h with
      | keep _ h =>
          have hrest := ih h
          rw [List.map_cons, run_cons, hrest]
          rfl
      | delete hidle h =>
          -- The step led back to the session, from which the rest goes on without it.
          rw [step_of_idle hidle] at h
          rw [ih h, run_cons, step_of_idle hidle]

/-- A step that fails or only looks changes nothing about the session, so that a run may be thinned by
any number of such steps: each of the others has the report, with its result, its calls and its events,
that it had among them. -/
theorem idle_steps_removable :
    (∀ (session : Session) (step : Step) (problem : Problem),
      (session.step step).2.result = .error problem → (session.step step).1 = session) ∧
    (∀ (session : Session) (step : Step), step.isLook = true → (session.step step).1 = session) ∧
    ∀ (session : Session) (steps : List Step) (kept : List (Step × Report)),
      Thinned (session.transcript steps) kept →
        session.run (kept.map Prod.fst) = ((session.run steps).1, kept.map Prod.snd) :=
  ⟨fun session step problem h => undone_step session step ⟨problem, h⟩,
    fun session _ h => step_of_isLook session h, fun _ _ _ h => run_thinned h⟩

def mildFilter : Step := .addFilter "mild" [.pushValue "x"]

/-- A filter that refuses behind a change. -/
def strictFilter : Step := .addFilter "strict" [.clearAttributes, .refuse "no"]

/-- The session in which both filters are registered. -/
def guarded : Session := (({} : Session).run [mildFilter, strictFilter]).1

/-- Both filters, a lexicon that they refuse, its text, and another lexicon. -/
def guardedSteps : List Step := [mildFilter, strictFilter, .filter, .print, .useStructural]

theorem idle_steps_removable_guarded :
    (guarded.step .filter).2.result = .error (.failure (.handler Channel.filters "no")) ∧
      (guarded.step .filter).1 = guarded ∧
      Step.print.isLook = true ∧ (guarded.step .print).1 = guarded ∧
      Thinned (({} : Session).transcript guardedSteps)
        [(mildFilter, { result := .ok (.counts 0 1) }),
          (strictFilter, { result := .ok (.counts 0 2) }),
          (.useStructural, { result := .ok (.lexicon Lexicon.structural) })] ∧
      ({} : Session).run [mildFilter, strictFilter, .useStructural] =
        ((({} : Session).run guardedSteps).1,
          [{ result := .ok (.counts 0 1) }, { result := .ok (.counts 0 2) },
            { result := .ok (.lexicon Lexicon.structural) }]) := by
  obtain ⟨hfail, hlook, hrun⟩ := idle_steps_removable
  have hrefused : (guarded.step .filter).2.result =
      .error (.failure (.handler Channel.filters "no")) := rfl
  have hthinned : Thinned (({} : Session).transcript guardedSteps)
      [(mildFilter, { result := .ok (.counts 0 1) }), (strictFilter, { result := .ok (.counts 0 2) }),
        (.useStructural, { result := .ok (.lexicon Lexicon.structural) })] :=
    .keep _ (.keep _ (.delete (.inr ⟨_, hrefused⟩) (.delete (.inl rfl) (.keep _ .nil))))
  exact ⟨hrefused, hfail _ _ _ hrefused, rfl, hlook _ _ rfl, hthinned, hrun _ _ _ hthinned⟩

end FilterLexicon.Session
