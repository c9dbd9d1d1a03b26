import GridPolicy.Proofs.Run.Answers

/-!
# Runs side by side

Two runs on two grids are paired where they make the same calls in the same order and end
in the same way, with values that are related. What is put together from paired runs is
paired, so a program is compared with itself part by part: the grids may answer a query
differently as long as what is gone on with is related.
-/
namespace GridPolicy

variable {ε ε' α α' β β' : Type}

/-- The ends are the same, but for values that are related. -/
inductive Outcome.Related (R : α → α' → Prop) : Outcome ε α → Outcome ε α' → Prop
  | done {a : α} {a' : α'} (h : R a a') : Related R (.done a) (.done a')
  | failed (error : ε) : Related R (.failed error) (.failed error)
  | crashed (detail : String) : Related R (.crashed detail) (.crashed detail)
  | tooDeep : Related R .tooDeep .tooDeep

namespace Run

/-- From each log both runs come to the same log, and to ends that are related. -/
def Paired (R : α → α' → Prop) (grid grid' : Grid) (run : Run ε α) (run' : Run ε α') : Prop :=
  ∀ log, (run' grid' log).2 = (run grid log).2 ∧
    Outcome.Related R (run grid log).1 (run' grid' log).1

namespace Paired

variable {grid grid' : Grid} {R : α → α' → Prop}

theorem pure {a : α} {a' : α'} (h : R a a') :
    Paired R grid grid' (Pure.pure a : Run ε α) (Pure.pure a') :=
  fun _ => ⟨rfl, .done h⟩

theorem fail (e : ε) : Paired R grid grid' (Run.fail e : Run ε α) (Run.fail e) :=
  fun _ => ⟨rfl, .failed e⟩

/-- Runs with equal values are the same. -/
theorem apply_eq {run run' : Run ε α} (h : Paired Eq grid grid' run run') (log : List Entry) :
    run' grid' log = run grid log := by
  obtain ⟨hlog, hends⟩ := h log
  refine Prod.ext ?_ hlog
  generalize (run grid log).1 = o at hends
  generalize (run' grid' log).1 = o' at hends
  cases hends with
  | done h => rw [h]
  | _ => rfl

theorem of_apply_eq {run run' : Run ε α} (h : ∀ log, run' grid' log = run grid log) :
    Paired Eq grid grid' run run' := by
  intro log
  rw [h]
  refine ⟨rfl, ?_⟩
  cases (run grid log).1 with
  | done a => exact .done rfl
  | failed e => exact .failed e
  | crashed detail => exact .crashed detail
  | tooDeep => exact .tooDeep

/-- A call that both grids answer alike. -/
theorem ask {call : Call} (h : ∀ log, grid'.answer log call = grid.answer log call) :
    Paired Eq grid grid' (Run.ask call) (Run.ask call) :=
  of_apply_eq fun log => by rw [ask_apply, ask_apply, h]

theorem now (h : grid'.now = grid.now) : Paired Eq grid grid' (Run.now : Run ε Int) Run.now :=
  of_apply_eq fun _ => by rw [Run.now, h]; rfl

theorem attempt {run run' : Run ε α} (h : Paired Eq grid grid' run run') :
    Paired Eq grid grid' (run.attempt : Run ε' (Except ε α)) run'.attempt :=
  of_apply_eq fun log => by rw [Run.attempt, h.apply_eq log]; rfl

theorem ofExcept (x : Except ε α) :
    Paired Eq grid grid' (Run.ofExcept x) (Run.ofExcept x) := by
  cases x with
  | ok a => exact pure rfl
  | error e => exact fail e

theorem mapError {f : ε → ε'} {run : Run ε α} {run' : Run ε α'}
    (h : Paired R grid grid' run run') :
    Paired R grid grid' (run.mapError f) (run'.mapError f) := by
  intro log
  obtain ⟨hlog, hends⟩ := h log
  rw [mapError_apply, mapError_apply]
  refine ⟨hlog, ?_⟩
  dsimp only
  generalize (run grid log).1 = o at hends ⊢
  generalize (run' grid' log).1 = o' at hends ⊢
  cases hends with
  | done h => exact .done h
  | failed e => exact .failed (f e)
  | crashed detail => exact .crashed detail
  | tooDeep => exact .tooDeep

/-- Both go on, from related values, or neither does. -/
theorem bind {S : β → β' → Prop} {first : Run ε α} {first' : Run ε α'} {next : α → Run ε β}
    {next' : α' → Run ε β'} (hfirst : Paired R grid grid' first first')
    (hnext : ∀ a a', R a a' → Paired S grid grid' (next a) (next' a')) :
    Paired S grid grid' (first >>= next) (first' >>= next') := by
  intro log
  obtain ⟨hlog, hends⟩ := hfirst log
  rw [bind_apply, bind_apply]
  rcases hrun : first grid log with ⟨o, mid⟩
  rcases hrun' : first' grid' log with ⟨o', mid'⟩
  rw [hrun, hrun'] at hlog hends
  dsimp only at hlog hends
  subst hlog
  cases hends with
  | done h => exact hnext _ _ h mid'
  | failed e => exact ⟨rfl, .failed e⟩
  | crashed detail => exact ⟨rfl, .crashed detail⟩
  | tooDeep => exact ⟨rfl, .tooDeep⟩

theorem forEach {f f' : α → Run ε β} {members : List α}
    (h : ∀ a ∈ members, Paired Eq grid grid' (f a) (f' a)) :
    Paired Eq grid grid' (Run.forEach f members) (Run.forEach f' members) := by
  induction members with
  | nil => exact .pure rfl
  | cons a rest ih =>
    obtain ⟨ha, hrest⟩ := List.forall_mem_cons.mp h
    refine bind ha ?_
    rintro b _ rfl
    refine bind (ih hrest) ?_
    rintro bs _ rfl
    exact .pure rfl

end Paired

end Run

/-- Both answers bring the same rows, in whatever order and however often, or refuse alike. -/
inductive SameRows : Except ServiceError (List Row) → Except ServiceError (List Row) → Prop
  | rows {rows rows' : List Row} (h : ∀ row, row ∈ rows ↔ row ∈ rows') :
      SameRows (.ok rows) (.ok rows')
  | refused (e : ServiceError) : SameRows (.error e) (.error e)

/-- What is read off the members of a list does not depend on their order. -/
theorem mem_filterMap_congr {α β : Type} {f : α → Option β} {members members' : List α}
    (h : ∀ a, a ∈ members ↔ a ∈ members') (b : β) :
    b ∈ members.filterMap f ↔ b ∈ members'.filterMap f := by
  simp only [List.mem_filterMap, h]

/-- A query that both grids answer with the same rows. -/
theorem Run.Paired.queryRows {grid grid' : Grid} {text : String} {limit : Nat}
    {kind : QueryKind} (h : ∀ log, SameRows (rowsFound (grid.answer log (.query text limit kind)))
      (rowsFound (grid'.answer log (.query text limit kind)))) :
    Run.Paired (fun rows rows' : List Row => ∀ row, row ∈ rows ↔ row ∈ rows') grid grid'
      (queryRows text limit kind) (queryRows text limit kind) := by
  intro log
  have hsame := h log
  rw [queryRows_apply, queryRows_apply]
  refine ⟨rfl, ?_⟩
  dsimp only
  generalize rowsFound (grid.answer log (.query text limit kind)) = answer at hsame ⊢
  generalize rowsFound (grid'.answer log (.query text limit kind)) = answer' at hsame ⊢
  cases hsame with
  | rows h => exact .done h
  | refused e => exact .failed e

end GridPolicy
