import GridPolicy.Proofs.Run.Settled

/-!
# Runs that run out of depth

A run ends for want of depth as soon as one of its parts does, whichever way it is put
together, and only then. So a run approximates one that may invoke at a greater depth: either
it runs out, or it gives an answer and the other one gives the same. A loop runs out in the
turn of one of its members, when those before it have had theirs.
-/
namespace GridPolicy

variable {ε ε' α β γ : Type}

namespace Run

variable {grid : Grid} {log mid : List Entry}

/-- From this log the run ends for want of depth. -/
def RunsOut (run : Run ε α) (grid : Grid) (log : List Entry) : Prop :=
  (run grid log).1 = .tooDeep

theorem AnswersIn.not_runsOut {P : ε → Prop} {run : Run ε α} (h : run.AnswersIn P) :
    ¬run.RunsOut grid log :=
  (Settled.of_answersIn h).ends

namespace RunsOut

variable {run : Run ε α} {next : α → Run ε β}

theorem bind (h : run.RunsOut grid log) (next : α → Run ε β) :
    (run >>= next).RunsOut grid log := by
  unfold RunsOut at h ⊢
  rcases hrun : run grid log with ⟨o, mid⟩
  rw [hrun] at h
  subst h
  exact congrArg Prod.fst (bind_of_stop hrun rfl)

theorem bind_of_done {a : α} (hrun : run grid log = (.done a, mid))
    (h : (next a).RunsOut grid mid) : (run >>= next).RunsOut grid log := by
  unfold RunsOut
  rwa [Run.bind_of_done hrun]

/-- The first part runs out, or it does not and the second part does. -/
theorem of_bind (h : (run >>= next).RunsOut grid log) :
    run.RunsOut grid log ∨
      ∃ a mid, run grid log = (.done a, mid) ∧ (next a).RunsOut grid mid := by
  unfold RunsOut at h
  rw [bind_apply] at h
  rcases hrun : run grid log with ⟨o, mid⟩
  rw [hrun] at h
  cases o with
  | done a => exact .inr ⟨a, mid, rfl, h⟩
  | failed e => cases h
  | crashed detail => cases h
  | tooDeep => exact .inl (congrArg Prod.fst hrun)

/-- What answers on every grid does not run out, so what comes after it does. -/
theorem of_bind_of_answersIn {P : ε → Prop} (h : (run >>= next).RunsOut grid log)
    (hanswers : run.AnswersIn P) :
    ∃ a mid, run grid log = (.done a, mid) ∧ (next a).RunsOut grid mid :=
  (of_bind h).resolve_left hanswers.not_runsOut

/-- So does what comes before it. -/
theorem of_answersIn_bind {P : ε → Prop} (h : (run >>= next).RunsOut grid log)
    (hanswers : ∀ a, (next a).AnswersIn P) : run.RunsOut grid log := by
  rcases of_bind h with hrun | ⟨a, mid, -, hnext⟩
  · exact hrun
  · exact absurd hnext (hanswers a).not_runsOut

theorem of_bind_pure {f : α → β} (h : (run >>= fun a => Pure.pure (f a)).RunsOut grid log) :
    run.RunsOut grid log :=
  of_answersIn_bind (P := fun _ => True) h fun a => .pure (f a)

theorem mapError_iff {f : ε → ε'} : (run.mapError f).RunsOut grid log ↔ run.RunsOut grid log := by
  unfold RunsOut
  rw [mapError_apply]
  cases (run grid log).1 <;> simp [Outcome.mapError]

theorem attempt_iff :
    (run.attempt : Run ε' (Except ε α)).RunsOut grid log ↔ run.RunsOut grid log := by
  unfold RunsOut Run.attempt
  rcases run grid log with ⟨o, mid⟩
  cases o <;> simp

theorem catchCrash_iff : run.catchCrash.RunsOut grid log ↔ run.RunsOut grid log := by
  unfold RunsOut Run.catchCrash
  rcases run grid log with ⟨o, mid⟩
  cases o <;> simp

end RunsOut

/-- Where the run does not run out of depth it gives an answer, and the other one gives the
same. -/
def Approximates (run run' : Run ε α) : Prop :=
  ∀ grid log, run.RunsOut grid log ∨ run.Settled run' grid log

namespace Approximates

variable {run run' : Run ε α}

theorem same (h : run.Approximates run') (hends : ¬run.RunsOut grid log) :
    run' grid log = run grid log :=
  ((h grid log).resolve_left hends).same

theorem of_settled (h : ∀ grid log, run.Settled run' grid log) : run.Approximates run' :=
  fun grid log => .inr (h grid log)

theorem of_answersIn {P : ε → Prop} (h : run.AnswersIn P) : run.Approximates run :=
  of_settled fun _ _ => .of_answersIn h

theorem pure (a : α) : (Pure.pure a : Run ε α).Approximates (Pure.pure a) :=
  of_settled fun _ _ => .pure a

theorem fail (e : ε) : (Run.fail e : Run ε α).Approximates (Run.fail e) :=
  of_settled fun _ _ => .fail e

theorem ofExcept (x : Except ε α) : (Run.ofExcept x).Approximates (Run.ofExcept x) :=
  of_settled fun _ _ => .ofExcept x

theorem outOfDepth : (Run.outOfDepth : Run ε α).Approximates run := fun _ _ => .inl rfl

theorem bind {next next' : α → Run ε β} (h : run.Approximates run')
    (hnext : ∀ a, (next a).Approximates (next' a)) :
    (run >>= next).Approximates (run' >>= next') := by
  intro grid log
  rcases h grid log with hout | hsettled
  · exact .inl (hout.bind next)
  obtain ⟨answer, mid, hrun⟩ := hsettled.answers
  cases answer with
  | error e =>
    refine .inr (hsettled.bind fun a mid' hdone => ?_)
    cases hrun.symm.trans hdone
  | ok a =>
    rcases hnext a grid mid with hout | hrest
    · exact .inl (.bind_of_done hrun hout)
    · refine .inr (hsettled.bind fun a' mid' hdone => ?_)
      cases hrun.symm.trans hdone
      exact hrest

theorem mapError {f : ε → ε'} (h : run.Approximates run') :
    (run.mapError f).Approximates (run'.mapError f) := fun grid log =>
  (h grid log).imp RunsOut.mapError_iff.mpr Settled.mapError

theorem attempt (h : run.Approximates run') :
    (run.attempt : Run ε' (Except ε α)).Approximates run'.attempt := fun grid log =>
  (h grid log).imp RunsOut.attempt_iff.mpr Settled.attempt

theorem catchCrash (h : run.Approximates run') : run.catchCrash.Approximates run'.catchCrash :=
  fun grid log => (h grid log).imp RunsOut.catchCrash_iff.mpr Settled.catchCrash

/-- What comes behind a run that ends with a value at the greater depth runs out, or that run
does so already. -/
theorem runsOut_bind {next : α → Run ε β} {a : α} (h : run.Approximates run')
    (hdone : run' grid log = (.done a, mid)) (hnext : (next a).RunsOut grid mid) :
    (run >>= next).RunsOut grid log := by
  rcases h grid log with hout | hsettled
  · exact hout.bind next
  · exact .bind_of_done (hsettled.same.symm.trans hdone) hnext

/-- A run that gives answers does not crash, so it makes no difference what would be done
then. -/
theorem catchCrash_bind (h : run.Approximates run') {next : Except String α → Run ε α}
    (hnext : ∀ a, next (.ok a) = Pure.pure a) : run.catchCrash >>= next = run := by
  funext grid log
  rw [bind_apply, Run.catchCrash]
  rcases h grid log with hout | hsettled
  · unfold RunsOut at hout
    rcases hrun : run grid log with ⟨o, mid⟩
    rw [hrun] at hout
    subst hout
    rfl
  · obtain ⟨answer, mid, hrun⟩ := hsettled.answers
    rw [hrun]
    cases answer with
    | ok a => exact congrFun (congrFun (hnext a) grid) mid
    | error e => rfl

end Approximates

/-- A loop gives each of its members a turn, with the number of those before it, and puts
together what they come to. -/
structure Loop (empty : β) (combine : γ → β → β) (loop : Nat → List α → Run ε β)
    (turn : Nat → α → Run ε γ) : Prop where
  nil : ∀ k, loop k [] = Pure.pure empty
  cons : ∀ k a rest, loop k (a :: rest) = do
    let c ← turn k a
    let b ← loop (k + 1) rest
    return combine c b

namespace Loop

variable {empty : β} {combine : γ → β → β} {loop loop' : Nat → List α → Run ε β}
  {turn turn' : Nat → α → Run ε γ} {k : Nat} {members : List α} {a : α}

theorem approximates (h : Loop empty combine loop turn) (h' : Loop empty combine loop' turn')
    (hturn : ∀ k a, (turn k a).Approximates (turn' k a)) (k : Nat) (members : List α) :
    (loop k members).Approximates (loop' k members) := by
  induction members generalizing k with
  | nil =>
    rw [h.nil, h'.nil]
    exact .pure empty
  | cons a rest ih =>
    rw [h.cons, h'.cons]
    exact .bind (hturn k a) fun c => .bind (ih (k + 1)) fun b => .pure _

/-- A loop runs out in the turn of one of its members. -/
theorem exists_of_runsOut (h : Loop empty combine loop turn)
    (hout : (loop k members).RunsOut grid log) :
    ∃ before a later b mid, members = before ++ a :: later ∧
      loop k before grid log = (.done b, mid) ∧ (turn (k + before.length) a).RunsOut grid mid := by
  induction members generalizing k log with
  | nil =>
    rw [h.nil] at hout
    cases hout
  | cons a rest ih =>
    rw [h.cons] at hout
    rcases RunsOut.of_bind hout with hturn | ⟨c, next, hdone, hrest⟩
    · exact ⟨[], a, rest, empty, log, rfl, by rw [h.nil]; rfl, hturn⟩
    · obtain ⟨before, a', later, b, mid, rfl, hbefore, hturn⟩ := ih hrest.of_bind_pure
      refine ⟨a :: before, a', later, combine c b, mid, rfl, ?_, ?_⟩
      · rw [h.cons, bind_of_done hdone, bind_of_done hbefore]
        rfl
      · rwa [List.length_cons, Nat.add_comm before.length, ← Nat.add_assoc]

/-- Where a turn runs out the loop does, in that turn or before it. -/
theorem runsOut_of_turn (h : Loop empty combine loop turn) (h' : Loop empty combine loop' turn')
    (hturn : ∀ k a, (turn k a).Approximates (turn' k a)) {before later : List α} {b : β}
    (hbefore : loop' k before grid log = (.done b, mid))
    (hout : (turn (k + before.length) a).RunsOut grid mid) :
    (loop k (before ++ a :: later)).RunsOut grid log := by
  induction before generalizing k log b with
  | nil =>
    rw [h'.nil] at hbefore
    cases hbefore
    rw [List.nil_append, h.cons]
    exact hout.bind _
  | cons first before ih =>
    rw [h'.cons] at hbefore
    -- Those before it have had their turns at the greater depth; at this one the first of them
    -- does the same, or it is where the loop runs out already.
    obtain ⟨c, next, hfirst, hbefore⟩ := done_of_bind hbefore
    obtain ⟨b', last, hrest, hpure⟩ := done_of_bind hbefore
    cases hpure
    rw [List.length_cons, Nat.add_comm before.length, ← Nat.add_assoc] at hout
    rw [List.cons_append, h.cons]
    exact (hturn k first).runsOut_bind hfirst ((ih hrest hout).bind _)

end Loop

end Run

end GridPolicy
