import GridPolicy.Proofs.LogicalPath.Parts
import GridPolicy.Proofs.Policy.ChecksumReplica
import GridPolicy.Proofs.Retention.Trace
import GridPolicy.Proofs.Text.Occurrence
import GridPolicy.Proofs.Verification.Lookup

/-!
# Which object a query asks for

An object is asked for by its collection and its name, each in quotes, with fixed text
between them. The parts are put in as they are, so a quote in a part may be read as the end
of it: two objects have one query exactly where one part of the first goes on beyond that of
the second and the fixed text makes up for the difference. Then one of the collections and
one of the names has a quote, and an object without quotes shares its query with no other.
The query by which a replica is verified has the name first. No name has a slash, so paths
that begin with one have different queries there, whatever else is in them.
-/
namespace GridPolicy

/-- The first question to the catalog in what a run adds to the log. -/
def Run.firstQuery {ε α : Type} (run : Run ε α) (grid : Grid) (log : List Entry) :
    Option String :=
  (queries ((run grid log).2.drop log.length)).head?

theorem Run.Yields.firstQuery {ε α : Type} {run : Run ε α} {grid : Grid} {log : List Entry}
    {text : String}
    (h : run.Yields grid log fun _ added => (queries added).head? = some text) :
    run.firstQuery grid log = some text := by
  obtain ⟨added, hlog, hfirst⟩ := h
  rw [Run.firstQuery, hlog, List.drop_left, hfirst]

namespace LogicalPath

/-! What the parts are read as -/

/-- What stands between the collection and the name. -/
def nameMarker : String := "' AND DATA_NAME = '"

/-- What stands between the name and the collection. -/
def collectionMarker : String := "' AND COLL_NAME = '"

/-- The first part of `second` goes on beyond that of `first`, and with the marker behind it
the second part of `first` makes up for the difference. -/
def RunsOver (marker : String) (first second : String × String) : Prop :=
  ∃ more, more ≠ "" ∧ second.1 = first.1 ++ more ∧
    more ++ marker ++ second.2 = marker ++ first.2

/-- With the marker between their parts the pairs are the same text. -/
def ReadsAs (marker : String) (first second : String × String) : Prop :=
  first = second ∨ RunsOver marker first second ∨ RunsOver marker second first

variable {marker : String} {first second : String × String}

theorem runsOver_iff : RunsOver marker first second ↔
    ∃ more, more ≠ [] ∧ second.1.toList = first.1.toList ++ more ∧
      more ++ (marker.toList ++ second.2.toList) = marker.toList ++ first.2.toList := by
  constructor
  · rintro ⟨more, hne, hfirst, hrest⟩
    refine ⟨more.toList, by simpa using hne, by rw [hfirst, String.toList_append], ?_⟩
    simpa using congrArg String.toList hrest
  · rintro ⟨more, hne, hfirst, hrest⟩
    refine ⟨String.ofList more, by simpa using hne, ?_, ?_⟩
    · rw [← String.toList_inj, hfirst]
      simp
    · rw [← String.toList_inj]
      simpa using hrest

theorem joined_eq_iff : first.1 ++ marker ++ first.2 = second.1 ++ marker ++ second.2 ↔
    ReadsAs marker first second := by
  unfold ReadsAs
  rw [runsOver_iff, runsOver_iff, ← String.toList_inj]
  simp only [String.toList_append, List.append_assoc]
  constructor
  · intro h
    rcases List.append_eq_append_iff.mp h with ⟨more, hsecond, hrest⟩ | ⟨more, hfirst, hrest⟩
    · by_cases hnone : more = []
      · subst hnone
        refine .inl (Prod.ext ?_ ?_)
        · simpa [← String.toList_inj] using hsecond.symm
        · simpa [← String.toList_inj] using hrest
      · exact .inr (.inl ⟨more, hnone, hsecond, hrest.symm⟩)
    · by_cases hnone : more = []
      · subst hnone
        refine .inl (Prod.ext ?_ ?_)
        · simpa [← String.toList_inj] using hfirst
        · simpa [← String.toList_inj] using hrest.symm
      · exact .inr (.inr ⟨more, hnone, hfirst, hrest.symm⟩)
  · rintro (rfl | ⟨more, -, hsecond, hrest⟩ | ⟨more, -, hfirst, hrest⟩)
    · rfl
    · rw [hsecond, List.append_assoc, hrest]
    · rw [hfirst, List.append_assoc, hrest]

/-- Nor does it matter what stands before and behind. -/
theorem enclosed_eq_iff (first second : String × String) (lead tail : String) :
    lead ++ first.1 ++ marker ++ first.2 ++ tail = lead ++ second.1 ++ marker ++ second.2 ++ tail ↔
      ReadsAs marker first second := by
  rw [← joined_eq_iff, String.append_left_inj]
  simp only [String.append_assoc, String.append_right_inj]

/-- The marker ends the part in front of it with a quote and opens the next with another. -/
def Quoting (marker : String) : Prop := ∃ between, marker.toList = '\'' :: (between ++ ['\''])

theorem quoting_nameMarker : Quoting nameMarker := ⟨" AND DATA_NAME = ".toList, by decide⟩

theorem quoting_collectionMarker : Quoting collectionMarker :=
  ⟨" AND COLL_NAME = ".toList, by decide⟩

/-- The part that goes on and the one that makes up for it both have a quote. -/
theorem RunsOver.quoted (hmarker : Quoting marker) (h : RunsOver marker first second) :
    '\'' ∈ second.1.toList ∧ '\'' ∈ first.2.toList := by
  obtain ⟨more, hne, hsecond, hrest⟩ := runsOver_iff.mp h
  obtain ⟨between, hbetween⟩ := hmarker
  rw [hbetween] at hrest
  constructor
  · obtain ⟨c, r, rfl⟩ := List.exists_cons_of_ne_nil hne
    have hquote : c = '\'' := (List.cons.inj hrest).1
    rw [hsecond, hquote]
    simp
  · -- the last quote of the marker stands behind the end of the marker on the other side
    have hlength := congrArg List.length hrest
    have hmore := List.length_pos_iff.mpr hne
    simp only [List.length_append, List.length_cons, List.length_nil] at hlength
    have hreverse := congrArg List.reverse hrest
    simp only [List.reverse_append, List.reverse_cons, List.append_assoc, List.nil_append,
      List.cons_append] at hreverse
    have hmem := Text.mem_of_append_eq hreverse.symm (by
      simp only [List.length_reverse]
      omega)
    exact List.mem_reverse.mp hmem

theorem readsAs_comm : ReadsAs marker first second ↔ ReadsAs marker second first :=
  or_congr eq_comm Or.comm

/-- Parts without a quote are read as no others. -/
theorem readsAs_iff_of_unquoted (hmarker : Quoting marker) (hfirst : '\'' ∉ first.1.toList)
    (hsecond : '\'' ∉ first.2.toList) : ReadsAs marker first second ↔ first = second := by
  refine ⟨?_, .inl⟩
  rintro (heq | hover | hover)
  · exact heq
  · exact absurd (hover.quoted hmarker).2 hsecond
  · exact absurd (hover.quoted hmarker).1 hfirst

/-- Where the first parts have no slash, and a second part begins with one if it is not empty,
the first slash of the text tells the parts from each other. -/
theorem not_runsOver_of_slash (hmarker : '/' ∉ marker.toList) (hname : '/' ∉ second.1.toList)
    (hslash : first.2.toList = [] ∨ first.2.toList.head? = some '/') :
    ¬ RunsOver marker first second := by
  intro h
  obtain ⟨more, hne, hgoes, hrest⟩ := runsOver_iff.mp h
  have hlength := congrArg List.length hrest
  have hpos := List.length_pos_iff.mpr hne
  simp only [List.length_append] at hlength
  cases hparts : first.2.toList with
  | nil =>
    rw [hparts, List.length_nil] at hlength
    omega
  | cons c r =>
    have hc : c = '/' := by simpa [hparts] using hslash
    rw [hparts, hc, ← List.append_assoc] at hrest
    have hmem := Text.mem_of_append_eq hrest (by
      simp only [List.length_append]
      omega)
    rcases List.mem_append.mp hmem with hmem | hmem
    · apply hname
      rw [hgoes]
      exact List.mem_append_right _ hmem
    · exact hmarker hmem

/-! The parts of paths -/

variable {p q : String}

theorem split_unquoted (h : '\'' ∉ p.toList) :
    '\'' ∉ (split p).1.toList ∧ '\'' ∉ (split p).2.toList := by
  simp only [split, String.toList_ofList]
  constructor
  · exact fun hmem => h (mem_of_mem_parts (by decide) (.inl hmem))
  · exact fun hmem => h (mem_of_mem_parts (by decide) (.inr hmem))

/-- A path without a quote is read as no other, whatever is in the other. -/
theorem readsAs_split_iff_of_unquoted (hmarker : Quoting marker)
    (h : '\'' ∉ p.toList ∨ '\'' ∉ q.toList) :
    (ReadsAs marker (split p) (split q) ↔ split p = split q) ∧
      (ReadsAs marker (split p).swap (split q).swap ↔ split p = split q) := by
  have hleft : ∀ {p q : String}, '\'' ∉ p.toList →
      (ReadsAs marker (split p) (split q) ↔ split p = split q) ∧
        (ReadsAs marker (split p).swap (split q).swap ↔ split p = split q) := by
    intro p q h
    obtain ⟨hcollection, hname⟩ := split_unquoted h
    constructor
    · exact readsAs_iff_of_unquoted hmarker hcollection hname
    · rw [readsAs_iff_of_unquoted hmarker (by exact hname) (by exact hcollection)]
      exact Prod.swap_inj
  rcases h with h | h
  · exact hleft h
  · obtain ⟨hplain, hswapped⟩ := hleft h
    exact ⟨readsAs_comm.trans (hplain.trans eq_comm), readsAs_comm.trans (hswapped.trans eq_comm)⟩

/-- Of paths that begin with a slash the names are told from the collections behind them. -/
theorem readsAs_swap_iff_of_absolute (hp : p.toList.head? = some '/')
    (hq : q.toList.head? = some '/') :
    ReadsAs collectionMarker (split p).swap (split q).swap ↔ split p = split q := by
  have hover : ∀ {p q : String}, p.toList.head? = some '/' →
      ¬ RunsOver collectionMarker (split p).swap (split q).swap := by
    intro p q hp
    refine not_runsOver_of_slash (by decide) ?_ ?_
    · simpa [split] using slash_not_mem_name q.toList
    · simpa [split] using head?_collection hp
  refine ⟨?_, fun h => .inl (congrArg Prod.swap h)⟩
  rintro (heq | h | h)
  · exact Prod.swap_inj.mp heq
  · exact absurd h (hover hp)
  · exact absurd h (hover hq)

end LogicalPath

/-! What is asked -/

open LogicalPath

variable {grid grid' : Grid} {log log' : List Entry} {p q : String}

theorem Retention.replicaQuery_inj : replicaQuery (split p).1 (split p).2 =
    replicaQuery (split q).1 (split q).2 ↔ ReadsAs nameMarker (split p) (split q) :=
  enclosed_eq_iff (split p) (split q) _ _

theorem objectQuery_inj : objectQuery (split p).1 (split p).2 =
    objectQuery (split q).1 (split q).2 ↔ ReadsAs nameMarker (split p) (split q) :=
  enclosed_eq_iff (split p) (split q) _ _

theorem Verification.replicaQuery_inj (leaves : String) :
    replicaQuery (split p).1 (split p).2 leaves = replicaQuery (split q).1 (split q).2 leaves ↔
      ReadsAs collectionMarker (split p).swap (split q).swap := by
  unfold replicaQuery
  rw [String.append_left_inj, String.append_left_inj]
  exact enclosed_eq_iff (split p).swap (split q).swap _ _

/-- Retention asks for the replicas of the object first. -/
theorem Retention.firstQuery_apply {request : RetentionRequest} (h : request.logicalPath ≠ "") :
    (apply request).firstQuery grid log = some
      (replicaQuery (split request.logicalPath).1 (split request.logicalPath).2) := by
  apply Run.Yields.firstQuery
  unfold apply
  simp only [h, beq_iff_eq, ↓reduceIte]
  refine .mapError ((Run.queryRows_yields _ 0 .general grid log).bind ?_ ?_)
  · rintro _ _ _ ⟨rfl, -⟩ -
    rfl
  · rintro rows _ ⟨rfl, -⟩ -
    split
    · exact .pure rfl
    · refine (plan_yields request _).bind ?_ ?_
      · rintro _ _ _ ⟨rfl, -⟩ -
        rfl
      · rintro decision _ ⟨rfl, -⟩ -
        refine (carryOut_yields decision).bind ?_ ?_
        · intro _ _ _ _ _
          rfl
        · intro _ _ _ _
          exact .pure rfl

/-- The data object is asked for before the collection, if the path has a name. -/
theorem firstQuery_objectKind (h : (split p).2 ≠ "") :
    (objectKind p).firstQuery grid log = some (objectQuery (split p).1 (split p).2) := by
  apply Run.Yields.firstQuery
  unfold objectKind
  simp only [h, beq_iff_eq, ↓reduceIte]
  refine (Run.queryRows_yields _ 1 .general grid log).bind ?_ ?_
  · rintro _ _ _ ⟨rfl, -⟩ -
    rfl
  · rintro rows _ ⟨rfl, -⟩ -
    split
    · exact .pure rfl
    · refine (Run.queryRows_yields _ 1 .general grid _).bind ?_ ?_
      · rintro _ _ _ ⟨rfl, -⟩ -
        rfl
      · rintro more _ ⟨rfl, -⟩ -
        split
        · exact .pure rfl
        · exact .pure rfl

/-- With the leaves of the resource the catalog is asked for the replica on any of them. -/
theorem Verification.firstQuery_replicaAttributes {resource : String} {ids : List Int}
    (hleaves : grid.answer log (.leafBundle resource) = .ok ids) (hids : ids ≠ []) :
    (replicaAttributes p resource).firstQuery grid log = some
      (replicaQuery (split p).1 (split p).2 (bundle ids)) := by
  apply Run.Yields.firstQuery
  rw [Run.Yields, replicaAttributes_of_leaves hleaves hids]
  exact ⟨_, rfl, rfl⟩

/-! When two objects are asked for alike -/

/-- Where the first questions about two objects are the same text, in each of the three
places that ask for an object. -/
structure AskedAlike (p q : String) : Prop where
  /-- For the replicas that retention decides on. -/
  retention : ∀ (request request' : RetentionRequest),
    request.logicalPath = p → request'.logicalPath = q → p ≠ "" → q ≠ "" →
    ∀ grid grid' log log',
      (Retention.apply request).firstQuery grid log =
        (Retention.apply request').firstQuery grid' log' ↔
          ReadsAs nameMarker (split p) (split q)
  /-- For the data object, where there is a name to ask for. -/
  objectKind : (split p).2 ≠ "" → (split q).2 ≠ "" → ∀ grid grid' log log',
    (objectKind p).firstQuery grid log = (objectKind q).firstQuery grid' log' ↔
      ReadsAs nameMarker (split p) (split q)
  /-- For the replica on a resource, with its leaves. -/
  replica : ∀ (resource : String) (ids : List Int) (grid grid' : Grid) log log',
    grid.answer log (.leafBundle resource) = .ok ids →
    grid'.answer log' (.leafBundle resource) = .ok ids → ids ≠ [] →
      ((Verification.replicaAttributes p resource).firstQuery grid log =
        (Verification.replicaAttributes q resource).firstQuery grid' log' ↔
          ReadsAs collectionMarker (split p).swap (split q).swap)
  /-- An object without quotes in its path is asked for like no other. -/
  unquoted : '\'' ∉ p.toList ∨ '\'' ∉ q.toList →
    (ReadsAs nameMarker (split p) (split q) ↔ split p = split q) ∧
      (ReadsAs collectionMarker (split p).swap (split q).swap ↔ split p = split q)
  /-- With the name first, no path that begins with a slash is taken for another. -/
  absolute : p.toList.head? = some '/' → q.toList.head? = some '/' →
    (ReadsAs collectionMarker (split p).swap (split q).swap ↔ split p = split q)

/-- The questions about two objects are the same where their parts are read as each other. -/
theorem objects_askedAlike (p q : String) : AskedAlike p q where
  retention := by
    rintro request request' rfl rfl hp hq grid grid' log log'
    rw [Retention.firstQuery_apply hp, Retention.firstQuery_apply hq, Option.some_inj]
    exact Retention.replicaQuery_inj
  objectKind := by
    intro hp hq grid grid' log log'
    rw [firstQuery_objectKind hp, firstQuery_objectKind hq, Option.some_inj]
    exact objectQuery_inj
  replica := by
    intro resource ids grid grid' log log' hleaves hleaves' hids
    rw [Verification.firstQuery_replicaAttributes hleaves hids,
      Verification.firstQuery_replicaAttributes hleaves' hids, Option.some_inj]
    exact Verification.replicaQuery_inj _
  unquoted h :=
    ⟨(readsAs_split_iff_of_unquoted quoting_nameMarker h).1,
      (readsAs_split_iff_of_unquoted quoting_collectionMarker h).2⟩
  absolute := readsAs_swap_iff_of_absolute

/-- A quote in a name or in a collection swallows the marker: two objects in different
collections are asked for alike, whoever asks and whatever the catalog answers. -/
theorem objects_askedAlike_swallowed :
    split "/z/x' AND DATA_NAME = 'y" ≠ split "/z' AND DATA_NAME = 'x/y" ∧
    (∀ (request request' : RetentionRequest), request.logicalPath = "/z/x' AND DATA_NAME = 'y" →
      request'.logicalPath = "/z' AND DATA_NAME = 'x/y" → ∀ grid grid' log log',
        (Retention.apply request).firstQuery grid log =
          (Retention.apply request').firstQuery grid' log') ∧
    (∀ grid grid' log log', (objectKind "/z/x' AND DATA_NAME = 'y").firstQuery grid log =
      (objectKind "/z' AND DATA_NAME = 'x/y").firstQuery grid' log') ∧
    split "/c/a' AND COLL_NAME = 'b" ≠ split "b' AND COLL_NAME = '/c/a" ∧
    ∀ (resource : String) (ids : List Int) (grid grid' : Grid) log log',
      grid.answer log (.leafBundle resource) = .ok ids →
      grid'.answer log' (.leafBundle resource) = .ok ids → ids ≠ [] →
        (Verification.replicaAttributes "/c/a' AND COLL_NAME = 'b" resource).firstQuery grid log =
          (Verification.replicaAttributes "b' AND COLL_NAME = '/c/a" resource).firstQuery
            grid' log' := by
  have hobject : ReadsAs nameMarker (split "/z/x' AND DATA_NAME = 'y")
      (split "/z' AND DATA_NAME = 'x/y") :=
    .inr (.inl ⟨"' AND DATA_NAME = 'x", by decide, by decide, by decide⟩)
  have hreplica : ReadsAs collectionMarker (split "/c/a' AND COLL_NAME = 'b").swap
      (split "b' AND COLL_NAME = '/c/a").swap :=
    .inr (.inr ⟨"' AND COLL_NAME = 'b", by decide, by decide, by decide⟩)
  refine ⟨by decide, ?_, ?_, by decide, ?_⟩
  · intro request request' hp hq grid grid' log log'
    exact ((objects_askedAlike _ _).retention request request' hp hq (by decide) (by decide)
      grid grid' log log').mpr hobject
  · intro grid grid' log log'
    exact ((objects_askedAlike _ _).objectKind (by decide) (by decide) grid grid' log log').mpr
      hobject
  · intro resource ids grid grid' log log' hleaves hleaves' hids
    exact ((objects_askedAlike _ _).replica resource ids grid grid' log log' hleaves hleaves'
      hids).mpr hreplica

end GridPolicy
