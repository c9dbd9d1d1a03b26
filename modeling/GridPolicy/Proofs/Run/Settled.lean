import GridPolicy.Proofs.Run.Errors

/-!
# Runs that give an answer, and the same one

Two runs that differ in what they may invoke are settled where they give the same answer,
and leave the same log: neither crashes or runs out of depth. There is one rule for each way
in which runs are put together, and the only runs that need more than the rules are
invocations.
-/
namespace GridPolicy

variable {ε ε' α β : Type}

namespace Run

/-- From this log both runs give the same answer. -/
structure Settled (run run' : Run ε α) (grid : Grid) (log : List Entry) : Prop where
  answers : ∃ answer after, run grid log = (Outcome.ofExcept answer, after)
  same : run' grid log = run grid log

theorem done_of_bind {first : Run ε α} {next : α → Run ε β} {grid : Grid}
    {log after : List Entry} {b : β} (h : (first >>= next) grid log = (.done b, after)) :
    ∃ a mid, first grid log = (.done a, mid) ∧ next a grid mid = (.done b, after) := by
  rw [bind_apply] at h
  rcases hfirst : first grid log with ⟨o, mid⟩
  rw [hfirst] at h
  cases o with
  | done a => exact ⟨a, mid, rfl, h⟩
  | failed e => cases h
  | crashed detail => cases h
  | tooDeep => cases h

theorem rows_of_queryRows {text : String} {limit : Nat} {kind : QueryKind} {rows : List Row}
    {grid : Grid} {log mid : List Entry}
    (h : queryRows text limit kind grid log = (.done rows, mid)) :
    rowsFound (grid.answer log (.query text limit kind)) = .ok rows ∧
      mid = log ++ [.call (.query text limit kind)] := by
  rw [queryRows_apply, Prod.mk.injEq] at h
  obtain ⟨hrows, rfl⟩ := h
  refine ⟨?_, rfl⟩
  cases hanswer : rowsFound (grid.answer log (.query text limit kind)) with
  | ok found =>
    rw [hanswer] at hrows
    cases hrows
    rfl
  | error e =>
    rw [hanswer] at hrows
    cases hrows

namespace Settled

variable {grid : Grid} {log after : List Entry} {run run' : Run ε α}

theorem of_answer {answer : Except ε α} (h : run grid log = (Outcome.ofExcept answer, after))
    (h' : run' grid log = (Outcome.ofExcept answer, after)) : run.Settled run' grid log :=
  ⟨⟨answer, after, h⟩, h'.trans h.symm⟩

theorem of_done {a : α} (h : run grid log = (.done a, after))
    (h' : run' grid log = (.done a, after)) : run.Settled run' grid log :=
  ⟨⟨.ok a, after, h⟩, h'.trans h.symm⟩

theorem of_failed {e : ε} (h : run grid log = (.failed e, after))
    (h' : run' grid log = (.failed e, after)) : run.Settled run' grid log :=
  ⟨⟨.error e, after, h⟩, h'.trans h.symm⟩

/-- A run that gives an answer on whatever grid is settled, if there is nothing to differ in. -/
theorem of_answersIn {P : ε → Prop} (h : run.AnswersIn P) : run.Settled run grid log := by
  obtain ⟨answer, after, hrun, -⟩ := h grid log
  exact of_answer hrun hrun

theorem ends (h : run.Settled run' grid log) : (run grid log).1 ≠ .tooDeep := by
  obtain ⟨answer, after, hrun⟩ := h.answers
  rw [hrun]
  cases answer <;> nofun

theorem pure (a : α) : (Pure.pure a : Run ε α).Settled (Pure.pure a) grid log :=
  of_done rfl rfl

theorem fail (e : ε) : (Run.fail e : Run ε α).Settled (Run.fail e) grid log :=
  of_failed rfl rfl

theorem now : (Run.now : Run ε Int).Settled Run.now grid log :=
  of_done rfl rfl

theorem ofExcept (x : Except ε α) : (Run.ofExcept x).Settled (Run.ofExcept x) grid log := by
  cases x with
  | ok a => exact pure a
  | error e => exact fail e

theorem ask (call : Call) : (Run.ask call).Settled (Run.ask call) grid log :=
  of_answer (ask_apply grid log call) (ask_apply grid log call)

theorem queryRows (text : String) (limit : Nat) (kind : QueryKind) :
    (GridPolicy.queryRows text limit kind).Settled (GridPolicy.queryRows text limit kind) grid
      log :=
  of_answer (queryRows_apply grid log text limit kind) (queryRows_apply grid log text limit kind)

/-- What comes after a value has to be settled from where that value was reached. -/
theorem bind {first first' : Run ε α} {next next' : α → Run ε β}
    (hfirst : first.Settled first' grid log)
    (hnext : ∀ a mid, first grid log = (.done a, mid) → (next a).Settled (next' a) grid mid) :
    (first >>= next).Settled (first' >>= next') grid log := by
  obtain ⟨answer, mid, hrun⟩ := hfirst.answers
  have hrun' : first' grid log = (Outcome.ofExcept answer, mid) := hfirst.same.trans hrun
  cases answer with
  | ok a =>
    obtain ⟨⟨answer, after, hrest⟩, hsame⟩ := hnext a mid hrun
    exact of_answer ((bind_of_done hrun).trans hrest)
      ((bind_of_done hrun').trans (hsame.trans hrest))
  | error e =>
    exact of_failed (bind_of_stop hrun rfl) (bind_of_stop hrun' rfl)

theorem mapError {f : ε → ε'} (h : run.Settled run' grid log) :
    (run.mapError f).Settled (run'.mapError f) grid log := by
  obtain ⟨answer, after, hrun⟩ := h.answers
  have hrun' := h.same.trans hrun
  cases answer with
  | ok a =>
    exact of_done (mapError_apply_eq_done.mpr hrun) (mapError_apply_eq_done.mpr hrun')
  | error e =>
    exact of_failed (mapError_of_failed hrun) (mapError_of_failed hrun')

theorem attempt (h : run.Settled run' grid log) :
    (run.attempt : Run ε' (Except ε α)).Settled run'.attempt grid log := by
  obtain ⟨answer, after, hrun⟩ := h.answers
  exact of_done (attempt_of_answer hrun) (attempt_of_answer (h.same.trans hrun))

theorem catchCrash (h : run.Settled run' grid log) :
    run.catchCrash.Settled run'.catchCrash grid log := by
  obtain ⟨answer, after, hrun⟩ := h.answers
  have hrun' := h.same.trans hrun
  unfold Run.catchCrash
  cases answer with
  | ok a => exact of_done (by rw [hrun]; rfl) (by rw [hrun']; rfl)
  | error e => exact of_failed (by rw [hrun]; rfl) (by rw [hrun']; rfl)

theorem forEach {f f' : α → Run ε β} {members : List α}
    (h : ∀ a ∈ members, ∀ log, (f a).Settled (f' a) grid log) (log : List Entry) :
    (Run.forEach f members).Settled (Run.forEach f' members) grid log := by
  induction members generalizing log with
  | nil => exact pure []
  | cons a rest ih =>
    obtain ⟨ha, hrest⟩ := List.forall_mem_cons.mp h
    refine bind (ha log) fun b mid _ => ?_
    exact bind (ih hrest mid) fun bs mid _ => pure (b :: bs)

end Settled

end Run

end GridPolicy
