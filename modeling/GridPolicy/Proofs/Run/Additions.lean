import GridPolicy.Run

/-!
# What a run adds to the log

A run never rewrites the log, it adds to it, and what it adds depends on what the
grid answers on the way. `Yields` speaks of both ends of a run at once: how it
ends, and the entries it has added. There is one rule for each way in which runs
are put together, so a statement about a policy follows the policy's text.

Most policies only look at the grid. `AddsOnly` is the coarse statement that
suffices for them: whatever is answered, every entry added is of one kind.
-/
namespace GridPolicy

variable {ε ε' α β : Type}

namespace Outcome

/-- The end of a run that is not gone on with, which is the same at every type of
value; there is none for a run that ends with a value. -/
def stop? : Outcome ε α → Option (Outcome ε β)
  | .done _ => none
  | .failed error => some (.failed error)
  | .crashed detail => some (.crashed detail)
  | .tooDeep => some .tooDeep

def mapError (f : ε → ε') : Outcome ε α → Outcome ε' α
  | .done value => .done value
  | .failed error => .failed (f error)
  | .crashed detail => .crashed detail
  | .tooDeep => .tooDeep

theorem done_or_stop (o : Outcome ε α) :
    (∃ a, o = .done a) ∨ ∃ o' : Outcome ε β, o.stop? = some o' := by
  cases o with
  | done a => exact .inl ⟨a, rfl⟩
  | failed e => exact .inr ⟨.failed e, rfl⟩
  | crashed d => exact .inr ⟨.crashed d, rfl⟩
  | tooDeep => exact .inr ⟨.tooDeep, rfl⟩

/-- What a stopped run ends with was no value before either. -/
theorem ne_done_of_stop {o : Outcome ε α} {o' : Outcome ε β} (h : o.stop? = some o') (b : β) :
    o' ≠ .done b := by
  cases o <;> simp only [stop?, reduceCtorEq, Option.some.injEq] at h <;> subst h <;> simp

@[simp] theorem mapError_eq_done {f : ε → ε'} {o : Outcome ε α} {a : α} :
    o.mapError f = .done a ↔ o = .done a := by cases o <;> simp [mapError]

end Outcome

namespace Run

@[simp] theorem fail_bind (e : ε) (next : α → Run ε β) :
    (fail e >>= next) = (fail e : Run ε β) := rfl

theorem bind_of_done {first : Run ε α} {next : α → Run ε β} {grid : Grid}
    {log mid : List Entry} {a : α} (h : first grid log = (.done a, mid)) :
    (first >>= next) grid log = next a grid mid := by rw [bind_apply, h]

theorem bind_of_stop {first : Run ε α} {next : α → Run ε β} {grid : Grid}
    {log mid : List Entry} {o : Outcome ε α} {o' : Outcome ε β}
    (h : first grid log = (o, mid)) (ho : o.stop? = some o') :
    (first >>= next) grid log = (o', mid) := by
  rw [bind_apply, h]
  cases o <;> simp only [Outcome.stop?, reduceCtorEq, Option.some.injEq] at ho <;>
    subst ho <;> rfl

/-- What a run leaves in the log it leaves there, if what comes after it adds nothing. -/
theorem bind_snd {first : Run ε α} {next : α → Run ε β}
    (hnext : ∀ a grid log, (next a grid log).2 = log) (grid : Grid) (log : List Entry) :
    ((first >>= next) grid log).2 = (first grid log).2 := by
  rw [bind_apply]
  rcases first grid log with ⟨o, after⟩
  cases o with
  | done a => exact hnext a grid after
  | _ => rfl

theorem bind_pure_snd (first : Run ε α) (b : β) (grid : Grid) (log : List Entry) :
    ((first >>= fun _ => (Pure.pure b : Run ε β)) grid log).2 = (first grid log).2 :=
  bind_snd (fun _ _ _ => rfl) grid log

theorem mapError_apply (f : ε → ε') (run : Run ε α) (grid : Grid) (log : List Entry) :
    (run.mapError f) grid log = ((run grid log).1.mapError f, (run grid log).2) := by
  unfold mapError
  rcases run grid log with ⟨o, log'⟩
  cases o <;> rfl

theorem mapError_apply_eq_done {f : ε → ε'} {run : Run ε α} {grid : Grid}
    {log after : List Entry} {a : α} :
    (run.mapError f) grid log = (.done a, after) ↔ run grid log = (.done a, after) := by
  rw [mapError_apply, Prod.ext_iff, Prod.ext_iff, Outcome.mapError_eq_done]

theorem mapError_of_failed {f : ε → ε'} {run : Run ε α} {grid : Grid} {log after : List Entry}
    {e : ε} (h : run grid log = (.failed e, after)) :
    (run.mapError f) grid log = (.failed (f e), after) := by
  rw [mapError_apply, h]
  rfl

/-- From this log the run ends as `Q` says, with the entries it has added. -/
def Yields (run : Run ε α) (grid : Grid) (log : List Entry)
    (Q : Outcome ε α → List Entry → Prop) : Prop :=
  ∃ added, (run grid log).2 = log ++ added ∧ Q (run grid log).1 added

/-- The rows of an answer; a query that failed brings none. -/
def rowsAnswered : Except ServiceError (List Row) → List Row
  | .ok rows => rows
  | .error _ => []

namespace Yields

variable {grid : Grid} {log : List Entry} {Q : Outcome ε α → List Entry → Prop}

theorem mono {run : Run ε α} {Q' : Outcome ε α → List Entry → Prop}
    (h : run.Yields grid log Q) (hQ : ∀ o added, Q o added → Q' o added) :
    run.Yields grid log Q' := by
  obtain ⟨added, hlog, hq⟩ := h
  exact ⟨added, hlog, hQ _ _ hq⟩

theorem pure {a : α} (h : Q (.done a) []) : (Pure.pure a : Run ε α).Yields grid log Q :=
  ⟨[], by simp, by simpa using h⟩

theorem fail {e : ε} (h : Q (.failed e) []) : (Run.fail e : Run ε α).Yields grid log Q :=
  ⟨[], by simp, by simpa using h⟩

theorem outOfDepth (h : Q .tooDeep []) : (Run.outOfDepth : Run ε α).Yields grid log Q :=
  ⟨[], by simp [Run.outOfDepth], h⟩

/-- A run goes on only from a value, and what it adds later stands behind what it
has added before. -/
theorem bind {first : Run ε α} {next : α → Run ε β} {R : Outcome ε α → List Entry → Prop}
    {Q : Outcome ε β → List Entry → Prop} (h : first.Yields grid log R)
    (hstop : ∀ o o' added, R o added → o.stop? = some o' → Q o' added)
    (hnext : ∀ a added, R (.done a) added → first grid log = (.done a, log ++ added) →
      (next a).Yields grid (log ++ added) fun o more => Q o (added ++ more)) :
    (first >>= next).Yields grid log Q := by
  obtain ⟨added, hlog, hR⟩ := h
  have hrun : first grid log = ((first grid log).1, log ++ added) := Prod.ext rfl hlog
  rcases Outcome.done_or_stop (β := β) (first grid log).1 with ⟨a, ha⟩ | ⟨o', ho⟩
  · rw [ha] at hrun hR
    obtain ⟨more, hmore, hQ⟩ := hnext a added hR hrun
    refine ⟨added ++ more, ?_, ?_⟩
    · rw [bind_of_done hrun, hmore, List.append_assoc]
    · rwa [bind_of_done hrun]
  · refine ⟨added, ?_, ?_⟩
    · rw [bind_of_stop hrun ho]
    · rw [bind_of_stop hrun ho]
      exact hstop _ _ _ hR ho

theorem mapError {f : ε → ε'} {run : Run ε α} {Q : Outcome ε' α → List Entry → Prop}
    (h : run.Yields grid log fun o added => Q (o.mapError f) added) :
    (run.mapError f).Yields grid log Q := by
  obtain ⟨added, hlog, hQ⟩ := h
  refine ⟨added, ?_, ?_⟩
  · rw [mapError_apply]
    exact hlog
  · rw [mapError_apply]
    exact hQ

theorem ask {call : Call} {Q : Outcome ServiceError call.Answer → List Entry → Prop}
    (hok : ∀ answer, grid.answer log call = .ok answer → Q (.done answer) [.call call])
    (herror : ∀ e, grid.answer log call = .error e → Q (.failed e) [.call call]) :
    (Run.ask call).Yields grid log Q := by
  cases h : grid.answer log call with
  | ok answer => exact ⟨[.call call], by simp [Run.ask, h], by simpa [Run.ask, h] using hok _ h⟩
  | error e => exact ⟨[.call call], by simp [Run.ask, h], by simpa [Run.ask, h] using herror _ h⟩

/-- What is said of the entries, and of the value if there is one, does not depend on
the kind of error. -/
theorem mapError_done {f : ε → ε'} {run : Run ε α} {A : List Entry → Prop}
    {V : α → List Entry → Prop}
    (h : run.Yields grid log fun o added => A added ∧ ∀ a, o = .done a → V a added) :
    (run.mapError f).Yields grid log fun o added => A added ∧ ∀ a, o = .done a → V a added :=
  Yields.mapError (by simpa only [Outcome.mapError_eq_done] using h)

/-- The rule for going on, where the entries and the value are spoken of apart: a run
that stops has no value left to speak of. -/
theorem bind_done {first : Run ε α} {next : α → Run ε β} {A A' : List Entry → Prop}
    {V : α → List Entry → Prop} {V' : β → List Entry → Prop}
    (h : first.Yields grid log fun o added => A added ∧ ∀ a, o = .done a → V a added)
    (hstop : ∀ added, A added → A' added)
    (hnext : ∀ a added, A added → V a added → first grid log = (.done a, log ++ added) →
      (next a).Yields grid (log ++ added) fun o more =>
        A' (added ++ more) ∧ ∀ b, o = .done b → V' b (added ++ more)) :
    (first >>= next).Yields grid log fun o added => A' added ∧ ∀ b, o = .done b → V' b added := by
  refine h.bind ?_ ?_
  · rintro o o' added ⟨hadded, -⟩ ho
    exact ⟨hstop added hadded, fun b hb => absurd hb (Outcome.ne_done_of_stop ho b)⟩
  · rintro a added ⟨hadded, hvalue⟩ hrun
    exact hnext a added hadded (hvalue a rfl) hrun

theorem ask_done (call : Call) : (Run.ask call).Yields grid log fun o added =>
    added = [.call call] ∧ ∀ answer, o = .done answer → grid.answer log call = .ok answer := by
  refine Yields.ask (fun answer hanswer => ⟨rfl, ?_⟩) (fun e _ => ⟨rfl, by simp⟩)
  intro _ hdone
  rw [Outcome.done.injEq] at hdone
  rw [← hdone, hanswer]

end Yields

/-- A query that finds nothing and one that answers no rows are gone on with alike. -/
theorem queryRows_yields (text : String) (limit : Nat) (kind : QueryKind) (grid : Grid)
    (log : List Entry) :
    (queryRows text limit kind).Yields grid log fun o added =>
      added = [.call (.query text limit kind)] ∧
      ∀ rows, o = .done rows → rows = rowsAnswered (grid.answer log (.query text limit kind)) := by
  refine ⟨[.call (.query text limit kind)], ?_, rfl, ?_⟩
  · unfold queryRows ask
    cases grid.answer log (.query text limit kind) with
    | ok rows => rfl
    | error e => cases e <;> rfl
  · intro rows hrows
    unfold queryRows ask at hrows
    cases h : grid.answer log (.query text limit kind) with
    | ok answer => simpa [h, rowsAnswered] using hrows.symm
    | error e => cases e <;> simp_all [rowsAnswered]

/-- Whatever the grid answers, all entries that the run adds are of the kind. -/
def AddsOnly (kind : Entry → Prop) (run : Run ε α) : Prop :=
  ∀ grid log, run.Yields grid log fun _ added => ∀ e ∈ added, kind e

namespace AddsOnly

variable {kind : Entry → Prop}

theorem pure (a : α) : (Pure.pure a : Run ε α).AddsOnly kind :=
  fun _ _ => Yields.pure (by simp)

theorem fail (e : ε) : (Run.fail e : Run ε α).AddsOnly kind :=
  fun _ _ => Yields.fail (by simp)

theorem now : (Run.now : Run ε Int).AddsOnly kind :=
  fun _ _ => ⟨[], (List.append_nil _).symm, nofun⟩

theorem ask {call : Call} (h : kind (.call call)) : (Run.ask call).AddsOnly kind :=
  fun _ _ => Yields.ask (by simpa using fun _ _ => h) (by simpa using fun _ _ => h)

theorem queryRows {text : String} {limit : Nat} {query : QueryKind}
    (h : kind (.call (.query text limit query))) :
    (GridPolicy.queryRows text limit query).AddsOnly kind :=
  fun grid log => (queryRows_yields text limit query grid log).mono
    (by rintro _ _ ⟨rfl, -⟩; simpa using h)

theorem mapError {f : ε → ε'} {run : Run ε α} (h : run.AddsOnly kind) :
    (run.mapError f).AddsOnly kind :=
  fun grid log => Yields.mapError (h grid log)

/-- What comes after a value may depend on what values there can be. -/
theorem bind_of {first : Run ε α} {next : α → Run ε β} (hfirst : first.AddsOnly kind)
    (hnext : ∀ a grid log mid, first grid log = (.done a, mid) → (next a).AddsOnly kind) :
    (first >>= next).AddsOnly kind := by
  intro grid log
  refine (hfirst grid log).bind (fun _ _ _ h _ => h) ?_
  intro a added h hrun
  refine (hnext a grid log _ hrun grid (log ++ added)).mono ?_
  intro _ more hmore e he
  rcases List.mem_append.mp he with he | he
  · exact h e he
  · exact hmore e he

theorem bind {first : Run ε α} {next : α → Run ε β} (hfirst : first.AddsOnly kind)
    (hnext : ∀ a, (next a).AddsOnly kind) : (first >>= next).AddsOnly kind :=
  hfirst.bind_of fun a _ _ _ _ => hnext a

end AddsOnly

/-- The run adds nothing to the log, and a value that it ends with is as `P` says. -/
def Silent (run : Run ε α) (P : α → Prop) : Prop :=
  ∀ grid log, run.Yields grid log fun o added => added = [] ∧ ∀ a, o = .done a → P a

namespace Silent

variable {P : α → Prop}

theorem pure {a : α} (h : P a) : (Pure.pure a : Run ε α).Silent P :=
  fun _ _ => Yields.pure ⟨rfl, by simpa using h⟩

theorem fail (e : ε) : (Run.fail e : Run ε α).Silent P :=
  fun _ _ => Yields.fail ⟨rfl, by simp⟩

theorem ofExcept {x : Except ε α} (h : ∀ a, x = .ok a → P a) : (Run.ofExcept x).Silent P := by
  cases x with
  | ok a => exact Silent.pure (h a rfl)
  | error e => exact Silent.fail e

theorem mapError {f : ε → ε'} {run : Run ε α} (h : run.Silent P) : (run.mapError f).Silent P :=
  fun grid log => Yields.mapError ((h grid log).mono (by simp))

theorem of_done {run : Run ε α} {grid : Grid} {log mid : List Entry} {a : α} (h : run.Silent P)
    (hrun : run grid log = (.done a, mid)) : P a := by
  obtain ⟨_, -, -, hvalue⟩ := h grid log
  exact hvalue a (congrArg Prod.fst hrun)

/-- After a silent run the log is still the same. -/
theorem bind_yields {first : Run ε α} {next : α → Run ε β} {grid : Grid} {log : List Entry}
    {Q : Outcome ε β → List Entry → Prop} (h : first.Silent P)
    (hstop : ∀ o, (∀ b, o ≠ .done b) → Q o [])
    (hnext : ∀ a, P a → (next a).Yields grid log Q) : (first >>= next).Yields grid log Q := by
  refine (h grid log).bind ?_ ?_
  · rintro _ o' _ ⟨rfl, -⟩ ho
    exact hstop o' (Outcome.ne_done_of_stop ho)
  · rintro a _ ⟨rfl, hP⟩ _
    rw [List.append_nil]
    exact hnext a (hP a rfl)

end Silent

end Run

/-! Kinds of entries -/

/-- Whether a call changes what the grid holds. -/
def Call.changes : Call → Bool
  | .replicate _ _ _ _ => true
  | .trim _ _ _ => true
  | .unlink _ _ => true
  | .modifyMetadata _ _ _ _ _ => true
  | _ => false

namespace Entry

/-- A call that only looks. -/
def looks : Entry → Bool
  | .call c => !c.changes
  | .invocation _ _ _ => false

/-- The call of an entry, if it takes replicas away. -/
def removal? : Entry → Option Call
  | .call (.trim user path resource) => some (.trim user path resource)
  | .call (.unlink user path) => some (.unlink user path)
  | _ => none

/-- The call of an entry, if it makes a copy. -/
def copy? : Entry → Option Call
  | .call (.replicate user path source destination) =>
    some (.replicate user path source destination)
  | _ => none

theorem removal?_eq_none_of_looks {e : Entry} (h : e.looks = true) : e.removal? = none := by
  cases e with
  | call c => cases c <;> simp_all [looks, removal?, Call.changes]
  | invocation => rfl

theorem copy?_eq_none_of_looks {e : Entry} (h : e.looks = true) : e.copy? = none := by
  cases e with
  | call c => cases c <;> simp_all [looks, copy?, Call.changes]
  | invocation => rfl

theorem call_of_removal? {e : Entry} {call : Call} (h : e.removal? = some call) :
    e = .call call := by
  cases e with
  | call c => cases c <;> simp_all [removal?]
  | invocation => cases h

theorem not_looks_of_removal? {e : Entry} (h : e.removal?.isSome) : e.looks ≠ true := by
  intro hlooks
  rw [removal?_eq_none_of_looks hlooks] at h
  cases h

end Entry

/-- The removals in a log, in order. -/
def removals (log : List Entry) : List Call := log.filterMap Entry.removal?

@[simp] theorem removals_nil : removals [] = [] := rfl

theorem removals_cons_of_none {e : Entry} (h : e.removal? = none) (log : List Entry) :
    removals (e :: log) = removals log := List.filterMap_cons_none h

@[simp] theorem removals_append (log more : List Entry) :
    removals (log ++ more) = removals log ++ removals more := List.filterMap_append ..

theorem removals_eq_nil_of_looks {log : List Entry} (h : ∀ e ∈ log, e.looks = true) :
    removals log = [] := by
  rw [removals, List.filterMap_eq_nil_iff]
  intro e he
  exact Entry.removal?_eq_none_of_looks (h e he)

/-- The copies in a log, in order. -/
def copies (log : List Entry) : List Call := log.filterMap Entry.copy?

@[simp] theorem copies_append (log more : List Entry) :
    copies (log ++ more) = copies log ++ copies more := List.filterMap_append ..

theorem copies_eq_nil_of_looks {log : List Entry} (h : ∀ e ∈ log, e.looks = true) :
    copies log = [] := by
  rw [copies, List.filterMap_eq_nil_iff]
  intro e he
  exact Entry.copy?_eq_none_of_looks (h e he)

end GridPolicy
