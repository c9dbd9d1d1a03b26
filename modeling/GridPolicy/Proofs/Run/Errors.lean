import GridPolicy.Proofs.Run.Answers

/-!
# Errors of runs

Which errors a run can end with follows from its text: an error is made where it is
failed with or where errors are turned into those of another kind, and what is put
together fails only as its parts do. A run whose parts all give an answer gives one.
-/
namespace GridPolicy

variable {ε ε' α β : Type}

namespace Run

theorem failed_of_bind {first : Run ε α} {next : α → Run ε β} {grid : Grid}
    {log after : List Entry} {e : ε} (h : (first >>= next) grid log = (.failed e, after)) :
    first grid log = (.failed e, after) ∨
      ∃ a mid, first grid log = (.done a, mid) ∧ next a grid mid = (.failed e, after) := by
  rw [bind_apply] at h
  rcases hfirst : first grid log with ⟨o, mid⟩
  rw [hfirst] at h
  cases o with
  | done a => exact .inr ⟨a, mid, rfl, h⟩
  | failed e' =>
    rw [Prod.mk.injEq, Outcome.failed.injEq] at h
    obtain ⟨rfl, rfl⟩ := h
    exact .inl rfl
  | crashed detail => cases h
  | tooDeep => cases h

theorem failed_of_mapError {f : ε → ε'} {run : Run ε α} {grid : Grid} {log after : List Entry}
    {e' : ε'} (h : (run.mapError f) grid log = (.failed e', after)) :
    ∃ e, run grid log = (.failed e, after) ∧ f e = e' := by
  rw [mapError_apply] at h
  rcases hrun : run grid log with ⟨o, mid⟩
  rw [hrun] at h
  cases o with
  | done a => cases h
  | failed e =>
    simp only [Outcome.mapError, Prod.mk.injEq, Outcome.failed.injEq] at h
    obtain ⟨rfl, rfl⟩ := h
    exact ⟨e, rfl, rfl⟩
  | crashed detail => cases h
  | tooDeep => cases h

/-- Every error that the run ends with, on whatever grid, is one of these. -/
def FailsIn (P : ε → Prop) (run : Run ε α) : Prop :=
  ∀ grid log e after, run grid log = (.failed e, after) → P e

namespace FailsIn

variable {P Q : ε → Prop}

theorem mono {run : Run ε α} (h : run.FailsIn P) (hPQ : ∀ e, P e → Q e) : run.FailsIn Q :=
  fun grid log e after hrun => hPQ e (h grid log e after hrun)

theorem pure (a : α) : (Pure.pure a : Run ε α).FailsIn P := nofun

theorem fail {e : ε} (h : P e) : (Run.fail e : Run ε α).FailsIn P := by
  intro grid log e' after hrun
  rw [fail_apply, Prod.mk.injEq, Outcome.failed.injEq] at hrun
  exact hrun.1 ▸ h

theorem ofExcept {x : Except ε α} (h : ∀ e, x = .error e → P e) : (Run.ofExcept x).FailsIn P := by
  cases x with
  | ok a => exact pure a
  | error e => exact fail (h e rfl)

theorem bind {first : Run ε α} {next : α → Run ε β} (hfirst : first.FailsIn P)
    (hnext : ∀ a, (next a).FailsIn P) : (first >>= next).FailsIn P := by
  intro grid log e after hrun
  rcases failed_of_bind hrun with hfailed | ⟨a, mid, -, hfailed⟩
  · exact hfirst grid log e after hfailed
  · exact hnext a grid mid e after hfailed

/-- Of errors that are turned into others it is enough to know what they become. -/
theorem mapError {f : ε' → ε} {run : Run ε' α} (h : run.FailsIn fun e => P (f e)) :
    (run.mapError f).FailsIn P := by
  intro grid log e after hrun
  obtain ⟨e', hfailed, rfl⟩ := failed_of_mapError hrun
  exact h grid log e' after hfailed

theorem mapError_of_forall {f : ε' → ε} (run : Run ε' α) (h : ∀ e, P (f e)) :
    (run.mapError f).FailsIn P :=
  mapError fun _ _ e _ _ => h e

/-- An error that is taken as a value is none. -/
theorem attempt (run : Run ε' α) : (run.attempt : Run ε (Except ε' α)).FailsIn P := by
  intro grid log e after hrun
  unfold Run.attempt at hrun
  rcases hmid : run grid log with ⟨o, mid⟩
  rw [hmid] at hrun
  cases o <;> cases hrun

theorem catchCrash {run : Run ε α} (h : run.FailsIn P) : run.catchCrash.FailsIn P := by
  intro grid log e after hrun
  unfold Run.catchCrash at hrun
  rcases hmid : run grid log with ⟨o, mid⟩
  rw [hmid] at hrun
  cases o with
  | done a => cases hrun
  | failed e' =>
    rw [Prod.mk.injEq, Outcome.failed.injEq] at hrun
    exact hrun.1 ▸ h grid log e' mid hmid
  | crashed detail => cases hrun
  | tooDeep => cases hrun

end FailsIn

/-- On whatever grid the run gives an answer: a value, or one of these errors. -/
def AnswersIn (P : ε → Prop) (run : Run ε α) : Prop :=
  ∀ grid log, ∃ answer after, run grid log = (Outcome.ofExcept answer, after) ∧
    ∀ e, answer = .error e → P e

namespace AnswersIn

variable {P : ε → Prop}

theorem pure (a : α) : (Pure.pure a : Run ε α).AnswersIn P :=
  fun _ log => ⟨.ok a, log, rfl, nofun⟩

theorem fail {e : ε} (h : P e) : (Run.fail e : Run ε α).AnswersIn P := by
  refine fun _ log => ⟨.error e, log, rfl, ?_⟩
  intro e' he
  exact Except.error.inj he ▸ h

theorem ofExcept {x : Except ε α} (h : ∀ e, P e) : (Run.ofExcept x).AnswersIn P := by
  cases x with
  | ok a => exact pure a
  | error e => exact fail (h e)

theorem now : (Run.now : Run ε Int).AnswersIn P := fun grid log => ⟨.ok grid.now, log, rfl, nofun⟩

theorem queryRows {P : ServiceError → Prop} (h : ∀ e, P e) (text : String) (limit : Nat)
    (kind : QueryKind) : (GridPolicy.queryRows text limit kind).AnswersIn P :=
  fun grid log => ⟨rowsFound (grid.answer log (.query text limit kind)), _,
    queryRows_apply grid log text limit kind, fun e _ => h e⟩

theorem ask {P : ServiceError → Prop} (h : ∀ e, P e) (call : Call) : (Run.ask call).AnswersIn P :=
  fun grid log => ⟨grid.answer log call, _, ask_apply grid log call, fun e _ => h e⟩

theorem bind {first : Run ε α} {next : α → Run ε β} (hfirst : first.AnswersIn P)
    (hnext : ∀ a, (next a).AnswersIn P) : (first >>= next).AnswersIn P := by
  intro grid log
  obtain ⟨answer, mid, hrun, herror⟩ := hfirst grid log
  cases answer with
  | ok a =>
    rw [bind_of_done hrun]
    exact hnext a grid mid
  | error e =>
    refine ⟨.error e, mid, bind_of_stop hrun rfl, ?_⟩
    intro e' he
    exact Except.error.inj he ▸ herror e rfl

theorem mapError {f : ε' → ε} {run : Run ε' α} (h : run.AnswersIn fun e => P (f e)) :
    (run.mapError f).AnswersIn P := by
  intro grid log
  obtain ⟨answer, after, hrun, herror⟩ := h grid log
  rw [mapError_apply, hrun]
  cases answer with
  | ok a => exact ⟨.ok a, after, rfl, nofun⟩
  | error e =>
    refine ⟨.error (f e), after, rfl, ?_⟩
    intro e' he
    exact Except.error.inj he ▸ herror e rfl

end AnswersIn

end Run

theorem objectKind_answersIn {P : ServiceError → Prop} (h : ∀ e, P e) (path : String) :
    (objectKind path).AnswersIn P := by
  rw [objectKind_eq]
  refine .bind ?_ fun objects => ?_
  · unfold objectsOf
    split
    · exact .pure []
    · exact .queryRows h _ _ _
  · unfold kindBehind
    split
    · exact .pure _
    · refine .bind (.queryRows h _ _ _) fun collections => ?_
      split
      · exact .pure _
      · exact .pure _

end GridPolicy
