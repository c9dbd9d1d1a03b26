import GridPolicy.Proofs.Run.Additions

/-!
# Runs one after the other

Runs are put together as the laws of a monad say, whatever way they end. So the
runs for the members of two lists, one list after the other, are those for the
members of both. Where each error is taken as a value no run stops the ones
behind it, and there is an answer for every member unless one gives none at all.
-/
namespace GridPolicy

variable {ε ε' α β γ : Type}

/-- The end of a run that gives no answer, neither a value nor an error. -/
inductive Loss where
  | crashed (detail : String)
  | tooDeep
  deriving DecidableEq, Repr

namespace Outcome

def ofLoss : Loss → Outcome ε α
  | .crashed detail => .crashed detail
  | .tooDeep => .tooDeep

/-- The end of a run that gives an answer. -/
def ofExcept : Except ε α → Outcome ε α
  | .ok value => .done value
  | .error error => .failed error

theorem ofExcept_inj {answer answer' : Except ε α} :
    ofExcept answer = ofExcept answer' ↔ answer = answer' := by
  cases answer <;> cases answer' <;> simp [ofExcept]

theorem answered_or_lost (o : Outcome ε α) :
    (∃ answer, o = ofExcept answer) ∨ ∃ loss, o = ofLoss loss := by
  cases o with
  | done value => exact .inl ⟨.ok value, rfl⟩
  | failed error => exact .inl ⟨.error error, rfl⟩
  | crashed detail => exact .inr ⟨.crashed detail, rfl⟩
  | tooDeep => exact .inr ⟨.tooDeep, rfl⟩

end Outcome

namespace Run

protected theorem bind_assoc (first : Run ε α) (next : α → Run ε β) (last : β → Run ε γ) :
    first >>= next >>= last = first >>= fun a => next a >>= last := by
  funext grid log
  simp only [bind_apply]
  rcases first grid log with ⟨o, mid⟩
  cases o <;> rfl

instance : LawfulMonad (Run ε) :=
  .mk' _
    (by
      intro α run
      funext grid log
      change (run >>= fun a => Pure.pure (id a)) grid log = run grid log
      rw [bind_apply]
      rcases run grid log with ⟨o, mid⟩
      cases o <;> rfl)
    (fun _ _ => rfl)
    Run.bind_assoc

theorem forEach_nil (f : α → Run ε β) : forEach f [] = Pure.pure [] := rfl

theorem forEach_cons (f : α → Run ε β) (a : α) (rest : List α) :
    forEach f (a :: rest) = do
      let b ← f a
      let bs ← forEach f rest
      return b :: bs := rfl

theorem forEach_append (f : α → Run ε β) (first rest : List α) :
    forEach f (first ++ rest) = do
      let bs ← forEach f first
      let more ← forEach f rest
      return bs ++ more := by
  induction first with
  | nil => simp [forEach_nil]
  | cons a first ih => simp [forEach_cons, ih]

theorem bind_of_loss {first : Run ε α} {next : α → Run ε β} {grid : Grid}
    {log after : List Entry} {loss : Loss} (h : first grid log = (Outcome.ofLoss loss, after)) :
    (first >>= next) grid log = (Outcome.ofLoss loss, after) := by
  rw [bind_apply, h]
  cases loss <;> rfl

/-- An answer that is taken as a value is one, whatever it is. -/
theorem attempt_of_answer {run : Run ε α} {grid : Grid} {log after : List Entry}
    {answer : Except ε α} (h : run grid log = (Outcome.ofExcept answer, after)) :
    (run.attempt : Run ε' (Except ε α)) grid log = (.done answer, after) := by
  unfold attempt
  rw [h]
  cases answer <;> rfl

theorem attempt_of_loss {run : Run ε α} {grid : Grid} {log after : List Entry} {loss : Loss}
    (h : run grid log = (Outcome.ofLoss loss, after)) :
    (run.attempt : Run ε' (Except ε α)) grid log = (Outcome.ofLoss loss, after) := by
  unfold attempt
  rw [h]
  cases loss <;> rfl

/-- Runs for each member in order, each error taken as a value, and keeps the answers. -/
def tryEach (f : α → Run ε β) (members : List α) : Run ε' (List (α × Except ε β)) :=
  forEach (fun a => do return (a, ← (f a).attempt)) members

/-- From this log the runs for the members are made one after the other, with these answers,
and the log is left as it is then. -/
inductive Answers (f : α → Run ε β) (grid : Grid) :
    List Entry → List (α × Except ε β) → List Entry → Prop
  | nil {log : List Entry} : Answers f grid log [] log
  | cons {log mid after : List Entry} {a : α} {answer : Except ε β}
      {made : List (α × Except ε β)} (hrun : f a grid log = (Outcome.ofExcept answer, mid))
      (hrest : Answers f grid mid made after) : Answers f grid log ((a, answer) :: made) after

section

variable {f : α → Run ε β} {grid : Grid} {log mid after : List Entry}
  {made : List (α × Except ε β)}

theorem tryEach_append (f : α → Run ε β) (first rest : List α) :
    (tryEach f (first ++ rest) : Run ε' _) = do
      let made ← tryEach f first
      let more ← tryEach f rest
      return made ++ more :=
  forEach_append _ first rest

theorem tryEach_of_answers (h : Answers f grid log made after) :
    (tryEach f (made.map Prod.fst) : Run ε' _) grid log = (.done made, after) := by
  induction h with
  | nil => rfl
  | cons hrun _ ih =>
    rw [tryEach] at ih ⊢
    rw [List.map_cons, forEach_cons, bind_assoc, bind_of_done (attempt_of_answer hrun),
      pure_bind, bind_of_done ih]
    rfl

/-- The run that gives no answer is the last that is made. -/
theorem tryEach_of_loss {a : α} {loss : Loss} (rest : List α)
    (hmade : Answers f grid log made mid) (hrun : f a grid mid = (Outcome.ofLoss loss, after)) :
    (tryEach f (made.map Prod.fst ++ a :: rest) : Run ε' _) grid log =
      (Outcome.ofLoss loss, after) := by
  rw [tryEach_append, bind_of_done (tryEach_of_answers hmade), tryEach, forEach_cons, bind_assoc]
  exact bind_of_loss (bind_of_loss (attempt_of_loss hrun))

/-- All runs are made, or those up to one that gives no answer. -/
theorem answers_or_lost (f : α → Run ε β) (grid : Grid) (members : List α) (log : List Entry) :
    (∃ made after, Answers f grid log made after ∧ made.map Prod.fst = members) ∨
    ∃ made mid a rest loss after, Answers f grid log made mid ∧
      members = made.map Prod.fst ++ a :: rest ∧ f a grid mid = (Outcome.ofLoss loss, after) := by
  induction members generalizing log with
  | nil => exact .inl ⟨[], log, .nil, rfl⟩
  | cons a members ih =>
    rcases hrun : f a grid log with ⟨o, mid⟩
    rcases o.answered_or_lost with ⟨answer, rfl⟩ | ⟨loss, rfl⟩
    · rcases ih mid with ⟨made, after, hmade, rfl⟩ |
        ⟨made, mid', b, rest, loss, after, hmade, rfl, hlost⟩
      · exact .inl ⟨(a, answer) :: made, after, .cons hrun hmade, rfl⟩
      · exact .inr ⟨(a, answer) :: made, mid', b, rest, loss, after, .cons hrun hmade, rfl, hlost⟩
    · exact .inr ⟨[], log, a, members, loss, mid, .nil, rfl, hrun⟩

end

end Run

end GridPolicy
