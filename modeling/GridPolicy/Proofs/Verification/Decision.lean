import GridPolicy.Proofs.Verification.Lookup

/-!
# What verification decides on

A verdict is given on two rows only, one for the replica at the source and one for that at
the destination. Whatever the mode, the source is looked up first, and where a lookup comes
back without a row the answer is that there is no replica there. The storage is not touched
before both rows are there; from then on the mode says which calls are made, and what the
verdict is on their answers.
-/
namespace GridPolicy

/-- The calls that reach the storage. -/
def Call.touchesStorage : Call → Bool
  | .replicate _ _ _ _ | .trim _ _ _ | .unlink _ _ | .checksum _ _ | .stat _ _ _
  | .filesystemStats _ | .fileChecksum _ _ _ _ _ => true
  | _ => false

def Entry.touchesStorage : Entry → Bool
  | .call c => c.touchesStorage
  | .invocation _ _ _ => false

namespace Verification

section

variable (grid : Grid) (log : List Entry) (path resource cached : String)

/-- The checksum that is compared for a side: the catalog's, or without one the storage's. -/
def checksumAnswer : Except ServiceError String :=
  if cached = "" then grid.answer log (.checksum path resource) else .ok cached

/-- The storage is asked for the checksum only where the catalog has none. -/
def checksumCalls : List Entry :=
  if cached = "" then [.call (.checksum path resource)] else []

theorem knownChecksum_apply : knownChecksum path resource cached grid log =
    ((Outcome.ofExcept (checksumAnswer grid log path resource cached)).mapError .service,
      log ++ checksumCalls path resource cached) := by
  unfold knownChecksum checksumAnswer checksumCalls
  by_cases h : cached = ""
  · simp only [h, bne_self_eq_false, Bool.false_eq_true, ↓reduceIte]
    exact Run.mapError_ask_apply ..
  · simp [h, Outcome.ofExcept, Outcome.mapError]

end

section

variable (grid : Grid) (log : List Entry) (path source destination : String)

/-- The calls by which both replicas are looked up. -/
def lookups (ids ids' : List Int) : List Entry :=
  lookup path source ids ++ lookup path destination ids'

/-- Both replicas are found, that at the source first. -/
structure FindsBoth (ids ids' : List Int) (row row' : Row) : Prop where
  atSource : Finds grid log path source ids row
  atDestination : Finds grid (log ++ lookup path source ids) path destination ids' row'

/-- The verdict of a mode on two replicas that were found, with the calls to the storage
that it takes. -/
inductive Judged (atSource atDestination : ReplicaAttributes) :
    VerificationMode → Outcome VerificationError Bool → List Entry → Prop
  | catalog : Judged atSource atDestination .catalog
      (.done (atSource.dataSize == atDestination.dataSize)) []
  | unreadable (hsize : Text.nat64? (Text.trim atSource.dataSize) = none) :
      Judged atSource atDestination .filesystem (.failed (.invalidSize atSource.dataSize)) []
  | unmeasured {expected : Nat} {e : ServiceError}
      (hsize : Text.nat64? (Text.trim atSource.dataSize) = some expected)
      (hanswer : grid.answer log
        (.stat path atDestination.hierarchy atDestination.physicalPath) = .error e) :
      Judged atSource atDestination .filesystem (.failed (.service e))
        [.call (.stat path atDestination.hierarchy atDestination.physicalPath)]
  | measured {expected actual : Nat}
      (hsize : Text.nat64? (Text.trim atSource.dataSize) = some expected)
      (hanswer : grid.answer log
        (.stat path atDestination.hierarchy atDestination.physicalPath) = .ok actual) :
      Judged atSource atDestination .filesystem (.done (actual == expected))
        [.call (.stat path atDestination.hierarchy atDestination.physicalPath)]
  /-- The storage fails to give the checksum at the source. It is not asked for the other. -/
  | sourceRefused {e : ServiceError} (hcached : atSource.checksum = "")
      (hanswer : grid.answer log (.checksum path source) = .error e) :
      Judged atSource atDestination .checksum (.failed (.service e))
        [.call (.checksum path source)]
  | destinationRefused {first : String} {e : ServiceError}
      (hfirst : checksumAnswer grid log path source atSource.checksum = .ok first)
      (hcached : atDestination.checksum = "")
      (hanswer : grid.answer (log ++ checksumCalls path source atSource.checksum)
        (.checksum path destination) = .error e) :
      Judged atSource atDestination .checksum (.failed (.service e))
        (checksumCalls path source atSource.checksum ++
          checksumCalls path destination atDestination.checksum)
  | compared {first second : String}
      (hfirst : checksumAnswer grid log path source atSource.checksum = .ok first)
      (hsecond : checksumAnswer grid (log ++ checksumCalls path source atSource.checksum) path
        destination atDestination.checksum = .ok second) :
      Judged atSource atDestination .checksum (.done (first == second))
        (checksumCalls path source atSource.checksum ++
          checksumCalls path destination atDestination.checksum)

end

variable {grid : Grid} {log after : List Entry} {mode : VerificationMode}
  {path source destination resource cached : String}
  {atSource atDestination attributes : ReplicaAttributes} {ids ids' : List Int} {row row' : Row}

theorem refused_of_checksumAnswer {e : ServiceError}
    (h : checksumAnswer grid log path resource cached = .error e) :
    cached = "" ∧ grid.answer log (.checksum path resource) = .error e := by
  unfold checksumAnswer at h
  split at h
  · next hcached => exact ⟨hcached, h⟩
  · cases h

/-- From two replicas on everything is said by the mode. -/
theorem compare_judged (mode : VerificationMode) (path source destination : String)
    (atSource atDestination : ReplicaAttributes) (grid : Grid) (log : List Entry) :
    (compare mode path source destination atSource atDestination).Yields grid log
      (Judged grid log path source destination atSource atDestination mode) := by
  cases mode with
  | catalog => exact .pure .catalog
  | filesystem =>
    unfold compare
    dsimp only
    cases hsize : Text.nat64? (Text.trim atSource.dataSize) with
    | none => exact .fail (.unreadable hsize)
    | some expected =>
      refine ⟨[.call (.stat path atDestination.hierarchy atDestination.physicalPath)], ?_⟩
      dsimp only
      rw [Run.bind_apply, Run.mapError_ask_apply]
      cases hanswer : grid.answer log
        (.stat path atDestination.hierarchy atDestination.physicalPath) with
      | error e => exact ⟨rfl, .unmeasured hsize hanswer⟩
      | ok actual => exact ⟨rfl, .measured hsize hanswer⟩
  | checksum =>
    unfold compare Run.Yields
    dsimp only
    rw [Run.bind_apply, knownChecksum_apply]
    cases hfirst : checksumAnswer grid log path source atSource.checksum with
    | error e =>
      obtain ⟨hcached, hanswer⟩ := refused_of_checksumAnswer hfirst
      refine ⟨_, rfl, ?_⟩
      rw [checksumCalls, if_pos hcached]
      exact .sourceRefused hcached hanswer
    | ok first =>
      dsimp only [Outcome.ofExcept, Outcome.mapError]
      rw [Run.bind_apply, knownChecksum_apply, List.append_assoc]
      cases hsecond : checksumAnswer grid (log ++ checksumCalls path source atSource.checksum) path
        destination atDestination.checksum with
      | error e =>
        obtain ⟨hcached, hanswer⟩ := refused_of_checksumAnswer hsecond
        exact ⟨_, rfl, .destinationRefused hfirst hcached hanswer⟩
      | ok second => exact ⟨_, rfl, .compared hfirst hsecond⟩

/-- How `verify` ends, and what it leaves in the log. -/
structure Verdict (grid : Grid) (log : List Entry) (mode : VerificationMode)
    (path source destination : String) (result : Outcome VerificationError Bool × List Entry) :
    Prop where
  /-- Only two replicas that were found are said to agree or not to. -/
  found : ∀ agrees, result.1 = .done agrees →
    ∃ ids ids' row row', FindsBoth grid log path source destination ids ids' row row'
  /-- Without a replica at the source the destination is not looked at. -/
  sourceMissing : ∀ ids, FindsNone grid log path source ids →
    result = (.failed (.replicaDoesNotExist path source), log ++ lookup path source ids)
  destinationMissing : ∀ ids row ids', Finds grid log path source ids row →
    FindsNone grid (log ++ lookup path source ids) path destination ids' →
    result = (.failed (.replicaDoesNotExist path destination),
      log ++ lookups path source destination ids ids')
  /-- Where one of the replicas is not found nothing is asked of the storage. -/
  untouched :
    (¬ ∃ ids ids' row row', FindsBoth grid log path source destination ids ids' row row') →
    ∃ added, result.2 = log ++ added ∧ ∀ e ∈ added, e.touchesStorage = false
  /-- Where both are found, the storage is asked after the lookups what the mode asks for. -/
  judged : ∀ ids ids' row row', FindsBoth grid log path source destination ids ids' row row' →
    ∃ touched, result.2 = log ++ lookups path source destination ids ids' ++ touched ∧
      Judged grid (log ++ lookups path source destination ids ids') path source destination
        (attributesOf row) (attributesOf row') mode result.1 touched

theorem replicaAttributes_untouched (path resource : String) :
    (replicaAttributes path resource).AddsOnly (fun e => e.touchesStorage = false) :=
  replicaAttributes_adds rfl fun _ _ _ => rfl

/-- Where one of the replicas is not found the comparison is never reached. -/
theorem lookups_untouched
    {next : ReplicaAttributes → ReplicaAttributes → Run VerificationError Bool}
    (hnone : ¬ ∃ ids ids' row row', FindsBoth grid log path source destination ids ids' row row') :
    (do
      let atSource ← replicaAttributes path source
      let atDestination ← replicaAttributes path destination
      next atSource atDestination).Yields grid log
        fun _ added => ∀ e ∈ added, e.touchesStorage = false := by
  refine (replicaAttributes_untouched path source grid log).bind (fun _ _ _ h _ => h) ?_
  intro atSource added hadded hfirst
  refine (replicaAttributes_untouched path destination grid (log ++ added)).bind ?_ ?_
  · intro _ _ more hmore _
    exact List.forall_mem_append.mpr ⟨hadded, hmore⟩
  · intro atDestination more _ hsecond
    obtain ⟨ids, row, hsource, -, hafter⟩ := finds_of_done hfirst
    rw [hafter] at hsecond
    obtain ⟨ids', row', hdestination, -⟩ := finds_of_done hsecond
    exact absurd ⟨ids, ids', row, row', hsource, hdestination⟩ hnone

/-- With a path and both resources, verification decides in every mode on what the lookups
find. -/
theorem verify_decides (hpath : path ≠ "") (hsource : source ≠ "")
    (hdestination : destination ≠ "") (mode : VerificationMode) (grid : Grid)
    (log : List Entry) :
    Verdict grid log mode path source destination
      (verify mode path source destination grid log) := by
  rw [verify_eq hpath hsource hdestination]
  constructor
  case found =>
    intro agrees hdone
    obtain ⟨atSource, mid, hfirst, hrest⟩ := Run.done_of_bind (Prod.ext hdone rfl)
    obtain ⟨atDestination, last, hsecond, -⟩ := Run.done_of_bind hrest
    obtain ⟨ids, row, hsource, -, rfl⟩ := finds_of_done hfirst
    obtain ⟨ids', row', hdestination, -⟩ := finds_of_done hsecond
    exact ⟨ids, ids', row, row', hsource, hdestination⟩
  case sourceMissing =>
    intro ids hmissing
    exact Run.bind_of_stop (replicaAttributes_of_findsNone hmissing) rfl
  case destinationMissing =>
    intro ids row ids' hfound hmissing
    rw [Run.bind_of_done (replicaAttributes_of_finds hfound),
      Run.bind_of_stop (replicaAttributes_of_findsNone hmissing) rfl, List.append_assoc, lookups]
  case untouched => exact lookups_untouched
  case judged =>
    rintro ids ids' row row' ⟨hsource, hdestination⟩
    rw [Run.bind_of_done (replicaAttributes_of_finds hsource),
      Run.bind_of_done (replicaAttributes_of_finds hdestination), List.append_assoc, ← lookups]
    exact compare_judged ..

/-- Two replicas without a checksum in the catalog; the storage gives that of the second
only. -/
def halfReadable : Grid where
  now := 0
  answer _ call :=
    match call with
    | .leafBundle "alpha" => .ok [1]
    | .leafBundle _ => .ok [2]
    | .query _ _ _ => .ok [["/vault/f", "leaf", "10"]]
    | .checksum path "alpha" => .error (.storageFailed "checksum" path "unreadable")
    | .checksum _ _ => .ok "sha2:1"
    | .stat _ _ _ => .ok 10
    | _ => .error (.unknownResource "")

theorem findsBoth_halfReadable : FindsBoth halfReadable [] "/zone/f" "alpha" "beta" [1] [2]
    ["/vault/f", "leaf", "10"] ["/vault/f", "leaf", "10"] where
  atSource := ⟨rfl, by decide, [], rfl⟩
  atDestination := ⟨rfl, by decide, [], rfl⟩

/-- The verdict by size is that of one look at the destination. -/
theorem verify_decides_measured :
    "/zone/f" ≠ "" ∧ "alpha" ≠ "" ∧ "beta" ≠ "" ∧
    ∃ touched, (verify .filesystem "/zone/f" "alpha" "beta" halfReadable []).2 =
        [] ++ lookups "/zone/f" "alpha" "beta" [1] [2] ++ touched ∧
      Judged halfReadable ([] ++ lookups "/zone/f" "alpha" "beta" [1] [2]) "/zone/f" "alpha"
        "beta" ⟨"/vault/f", "leaf", "10", ""⟩ ⟨"/vault/f", "leaf", "10", ""⟩ .filesystem
        (verify .filesystem "/zone/f" "alpha" "beta" halfReadable []).1 touched :=
  ⟨by decide, by decide, by decide,
    (verify_decides (by decide) (by decide) (by decide) .filesystem halfReadable []).judged
      _ _ _ _ findsBoth_halfReadable⟩

/-- Neither side has a checksum in the catalog, but where the storage fails for the source it
is not asked for the destination. -/
theorem verify_asks_once :
    FindsBoth halfReadable [] "/zone/f" "alpha" "beta" [1] [2]
      ["/vault/f", "leaf", "10"] ["/vault/f", "leaf", "10"] ∧
    (attributesOf ["/vault/f", "leaf", "10"]).checksum = "" ∧
    verify .checksum "/zone/f" "alpha" "beta" halfReadable [] =
      (.failed (.service (.storageFailed "checksum" "/zone/f" "unreadable")),
        lookups "/zone/f" "alpha" "beta" [1] [2] ++ [.call (.checksum "/zone/f" "alpha")]) ∧
    Entry.call (.checksum "/zone/f" "beta") ∉
      (verify .checksum "/zone/f" "alpha" "beta" halfReadable []).2 := by
  have hrun : verify .checksum "/zone/f" "alpha" "beta" halfReadable [] =
      (.failed (.service (.storageFailed "checksum" "/zone/f" "unreadable")),
        lookups "/zone/f" "alpha" "beta" [1] [2] ++ [.call (.checksum "/zone/f" "alpha")]) := rfl
  refine ⟨findsBoth_halfReadable, rfl, hrun, ?_⟩
  rw [hrun]
  simp [lookups, lookup]

end Verification

end GridPolicy
