import GridPolicy.Query.Iteration

/-!
# Errors by row

Sorting the errors by row is stable, so a list of errors in which the rows stand in
order is fixed by the errors of each row. Workers have rows of their own, and so it does
not matter in which order their errors are put together.
-/
namespace GridPolicy.QueryIteration

/-- The errors of a row, in their order. -/
def errorsOf (row : Nat) (errors : List RowError) : List RowError :=
  errors.filter fun e => e.rowIndex == row

theorem mem_errorsOf {row : Nat} {errors : List RowError} {e : RowError} :
    e ∈ errorsOf row errors ↔ e ∈ errors ∧ e.rowIndex = row := by
  simp [errorsOf]

theorem rowIndex_trans (a b c : RowError) (hab : decide (a.rowIndex ≤ b.rowIndex) = true)
    (hbc : decide (b.rowIndex ≤ c.rowIndex) = true) :
    decide (a.rowIndex ≤ c.rowIndex) = true := by
  simp only [decide_eq_true_eq] at hab hbc ⊢
  exact Nat.le_trans hab hbc

theorem rowIndex_total (a b : RowError) :
    (decide (a.rowIndex ≤ b.rowIndex) || decide (b.rowIndex ≤ a.rowIndex)) = true := by
  simpa using Nat.le_total a.rowIndex b.rowIndex

theorem pairwise_sortByRow (errors : List RowError) :
    (sortByRow errors).Pairwise fun a b => a.rowIndex ≤ b.rowIndex := by
  refine (List.pairwise_mergeSort rowIndex_trans rowIndex_total errors).imp ?_
  intro a b h
  simpa using h

/-- Sorting keeps the errors of each row and their order. -/
theorem errorsOf_sortByRow (row : Nat) (errors : List RowError) :
    errorsOf row (sortByRow errors) = errorsOf row errors := by
  have hperm : (sortByRow errors).Perm errors := List.mergeSort_perm errors _
  have hpairwise : (errorsOf row errors).Pairwise fun a b =>
      decide (a.rowIndex ≤ b.rowIndex) = true := by
    refine List.pairwise_of_forall_mem_list ?_
    intro a ha b hb
    rw [(mem_errorsOf.mp ha).2, (mem_errorsOf.mp hb).2]
    simp
  have hsublist : (errorsOf row errors).Sublist (sortByRow errors) :=
    List.sublist_mergeSort rowIndex_trans rowIndex_total hpairwise List.filter_sublist
  have hrow : (errorsOf row errors).Sublist (errorsOf row (sortByRow errors)) := by
    have hfiltered := hsublist.filter fun e => e.rowIndex == row
    rwa [List.filter_eq_self.mpr fun e he => by simpa using (mem_errorsOf.mp he).2] at hfiltered
  refine (hrow.eq_of_length ?_).symm
  exact (hperm.filter _).length_eq.symm

theorem errorsOf_cons (row : Nat) (e : RowError) (errors : List RowError) :
    errorsOf row (e :: errors) =
      if e.rowIndex = row then e :: errorsOf row errors else errorsOf row errors := by
  simp [errorsOf, List.filter_cons]

/-- The first of a list in order is of the least row. -/
theorem rowIndex_le_of_mem {e e' : RowError} {errors : List RowError}
    (hsorted : (e :: errors).Pairwise fun a b => a.rowIndex ≤ b.rowIndex)
    (h : e' ∈ e :: errors) : e.rowIndex ≤ e'.rowIndex := by
  rcases List.mem_cons.mp h with rfl | h
  · exact Nat.le_refl _
  · exact (List.pairwise_cons.mp hsorted).1 e' h

theorem mem_of_errorsOf {errors errors' : List RowError} {e : RowError}
    (hrows : ∀ row, errorsOf row errors = errorsOf row errors') (h : e ∈ errors) :
    e ∈ errors' := by
  have he : e ∈ errorsOf e.rowIndex errors := mem_errorsOf.mpr ⟨h, rfl⟩
  rw [hrows] at he
  exact (mem_errorsOf.mp he).1

/-- Two lists of errors with the rows in order are the same if they are so row by row. -/
theorem eq_of_errorsOf {errors errors' : List RowError}
    (hsorted : errors.Pairwise fun a b => a.rowIndex ≤ b.rowIndex)
    (hsorted' : errors'.Pairwise fun a b => a.rowIndex ≤ b.rowIndex)
    (hrows : ∀ row, errorsOf row errors = errorsOf row errors') : errors = errors' := by
  induction errors generalizing errors' with
  | nil =>
    refine (List.eq_nil_iff_forall_not_mem.mpr ?_).symm
    intro e he
    exact List.not_mem_nil (mem_of_errorsOf (fun row => (hrows row).symm) he)
  | cons a rest ih =>
    cases errors' with
    | nil => exact absurd (mem_of_errorsOf hrows (List.mem_cons_self ..)) List.not_mem_nil
    | cons b rest' =>
      have hb : b ∈ a :: rest :=
        mem_of_errorsOf (fun row => (hrows row).symm) (List.mem_cons_self ..)
      have ha : a ∈ b :: rest' := mem_of_errorsOf hrows (List.mem_cons_self ..)
      -- both are of the least row, so each is the first error of that row
      have hab : a.rowIndex = b.rowIndex :=
        Nat.le_antisymm (rowIndex_le_of_mem hsorted hb) (rowIndex_le_of_mem hsorted' ha)
      have hheads := hrows a.rowIndex
      rw [errorsOf_cons, errorsOf_cons, if_pos rfl, if_pos hab.symm, List.cons.injEq] at hheads
      obtain ⟨rfl, htails⟩ := hheads
      have hrest : ∀ row, errorsOf row rest = errorsOf row rest' := by
        intro row
        by_cases hrow : a.rowIndex = row
        · rw [← hrow]
          exact htails
        · have h := hrows row
          rwa [errorsOf_cons, errorsOf_cons, if_neg hrow, if_neg hrow] at h
      rw [ih (List.pairwise_cons.mp hsorted).2 (List.pairwise_cons.mp hsorted').2 hrest]

/-- Lists of which only one has members can be put together in any order. -/
theorem flatten_eq_of_perm {α : Type} {lists lists' : List (List α)} (hperm : lists.Perm lists')
    (hone : lists.Pairwise fun a b => a = [] ∨ b = []) : lists.flatten = lists'.flatten := by
  have hsymm : ∀ {a b : List α}, a = [] ∨ b = [] → b = [] ∨ a = [] := Or.symm
  induction hperm with
  | nil => rfl
  | cons a _ ih => rw [List.flatten_cons, List.flatten_cons, ih (List.pairwise_cons.mp hone).2]
  | swap a b rest =>
    rcases (List.pairwise_cons.mp hone).1 a (List.mem_cons_self ..) with rfl | rfl
    · rfl
    · rfl
  | trans hfirst _ ih ih' => rw [ih hone, ih' ((hfirst.pairwise_iff hsymm).mp hone)]

theorem errorsOf_flatten (row : Nat) (lists : List (List RowError)) :
    errorsOf row lists.flatten = (lists.map (errorsOf row)).flatten := by
  rw [errorsOf, List.filter_flatten]
  rfl

/-- Of lists for different rows, in whatever order they are put together, sorting makes the
one list with all rows in order. -/
theorem sortByRow_flatten_of_perm {lists lists' : List (List RowError)}
    (hperm : lists.Perm lists')
    (hsorted : lists.flatten.Pairwise fun a b => a.rowIndex ≤ b.rowIndex)
    (hrows : lists.Pairwise fun a b => ∀ e ∈ a, ∀ e' ∈ b, e.rowIndex ≠ e'.rowIndex) :
    sortByRow lists'.flatten = lists.flatten := by
  refine eq_of_errorsOf (pairwise_sortByRow _) hsorted ?_
  intro row
  rw [errorsOf_sortByRow, errorsOf_flatten, errorsOf_flatten]
  refine (flatten_eq_of_perm (hperm.map _) ?_).symm
  rw [List.pairwise_map]
  refine hrows.imp ?_
  intro a b hab
  by_cases ha : errorsOf row a = []
  · exact .inl ha
  · obtain ⟨e, he⟩ := List.exists_mem_of_ne_nil _ ha
    obtain ⟨he, hrow⟩ := mem_errorsOf.mp he
    refine .inr (List.eq_nil_iff_forall_not_mem.mpr ?_)
    intro e' he'
    obtain ⟨he', hrow'⟩ := mem_errorsOf.mp he'
    exact hab e he e' he' (hrow.trans hrow'.symm)

end GridPolicy.QueryIteration
