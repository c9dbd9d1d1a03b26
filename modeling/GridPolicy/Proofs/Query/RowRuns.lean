import GridPolicy.Query.Iteration

/-!
# Runs of rows

The rows are cut into runs of one length, and only the last run may be shorter. So the index
of the first row of a run, which is its place among the runs times that length, is the number
of the rows before it, however many rows and workers there are.
-/
namespace GridPolicy.QueryIteration

theorem flatten_chunks (size : Nat) (rows : List Row) : (chunks size rows).flatten = rows := by
  induction rows using chunks.induct size with
  | case1 => simp [chunks]
  | case2 row r ih =>
    rw [chunks, List.flatten_cons, ih, List.cons_append, List.take_append_drop]

/-- A run that another one follows is full. -/
theorem length_of_mem_dropLast_chunks {size : Nat} {rows run : List Row}
    (h : run ∈ (chunks size rows).dropLast) : run.length = size + 1 := by
  induction rows using chunks.induct size with
  | case1 => simp [chunks] at h
  | case2 row r ih =>
    rw [chunks] at h
    by_cases hrest : r.drop size = []
    · rw [hrest, chunks, List.dropLast_singleton] at h
      cases h
    · have hlater : chunks size (r.drop size) ≠ [] := by
        intro hnone
        exact hrest (by rw [← flatten_chunks size (r.drop size), hnone, List.flatten_nil])
      rw [List.dropLast_cons_of_ne_nil hlater, List.mem_cons] at h
      rcases h with rfl | h
      · -- What is left behind the first run shows that there were rows enough for it.
        rw [List.drop_eq_nil_iff] at hrest
        rw [List.length_cons, List.length_take]
        omega
      · exact ih h

/-- Runs with the index of the first row of each, where the first of all has this index and
each run begins where the one before it ends. -/
def consecutive (index : Nat) : List (List Row) → List (Nat × List Row)
  | [] => []
  | rows :: r => (index, rows) :: consecutive (index + rows.length) r

theorem consecutive_of_full {size : Nat} {runs : List (List Row)} (place : Nat)
    (hfull : ∀ run ∈ runs.dropLast, run.length = size) :
    (runs.zipIdx place).map (fun (rows, place) => (place * size, rows)) =
      consecutive (place * size) runs := by
  induction runs generalizing place with
  | nil => rfl
  | cons rows rest ih =>
    rw [List.zipIdx_cons, List.map_cons, consecutive]
    cases rest with
    | nil => rfl
    | cons next later =>
      rw [List.dropLast_cons_cons, List.forall_mem_cons] at hfull
      rw [ih (place + 1) hfull.2, hfull.1, Nat.succ_mul]

theorem chunkSize_pos {rows : Nat} (h : 0 < rows) (workers : Nat) : 0 < chunkSize rows workers := by
  have hone : 1 ≤ Nat.min (Nat.max workers 1) rows :=
    Nat.le_min.mpr ⟨Nat.le_max_right workers 1, h⟩
  unfold chunkSize
  exact Nat.div_pos (by omega) hone

/-- The runs of rows that the workers take. -/
def divided (it : QueryIteration) (rows : List Row) : List (List Row) :=
  chunks (chunkSize rows.length it.workers - 1) rows

@[simp] theorem flatten_divided (it : QueryIteration) (rows : List Row) :
    (it.divided rows).flatten = rows :=
  flatten_chunks _ rows

/-- For any number of rows and of workers, each run is numbered by the rows before it. -/
theorem numbered_divided (it : QueryIteration) (rows : List Row) :
    numbered (chunkSize rows.length it.workers) (it.divided rows) =
      consecutive 0 (it.divided rows) := by
  cases rows with
  | nil => simp [divided, chunks, numbered, consecutive]
  | cons row rest =>
    have hpos : 0 < chunkSize (row :: rest).length it.workers :=
      chunkSize_pos (Nat.succ_pos rest.length) it.workers
    have hfull : ∀ run ∈ (it.divided (row :: rest)).dropLast,
        run.length = chunkSize (row :: rest).length it.workers := by
      intro run hrun
      exact (length_of_mem_dropLast_chunks hrun).trans (Nat.sub_add_cancel hpos)
    have hnumbered := consecutive_of_full 0 hfull
    rwa [Nat.zero_mul] at hnumbered

/-- Of seven rows the last of three workers has one. -/
example : numbered (chunkSize 7 3) (chunks (chunkSize 7 3 - 1)
    [["a"], ["b"], ["c"], ["d"], ["e"], ["f"], ["g"]]) =
    [(0, [["a"], ["b"], ["c"]]), (3, [["d"], ["e"], ["f"]]), (6, [["g"]])] := by
  cbv

end GridPolicy.QueryIteration
