import GridPolicy.Dispatch
import GridPolicy.Proofs.LogicalPath.Parts
import GridPolicy.Proofs.Session.HostLead

/-!
# Names of interception points

The name of a point is read twice. Classification takes off the lead of the host and cuts
what is left at its last underscore; dispatch compares the end of the whole name with the
clauses of a descriptor. A name of the right form has one operation and one phase, and of
the phases dispatch finds that one at the end of it and no other.
-/
namespace GridPolicy

namespace Phase

theorem ofName?_eq_some {s : String} {p : Phase} : ofName? s = some p ↔ s = p.name := by
  constructor
  · intro h
    rw [ofName?] at h
    have hfound := List.find?_some h
    rw [beq_iff_eq] at hfound
    exact hfound.symm
  · rintro rfl
    exact ofName?_name p

theorem name_inj {p q : Phase} (h : p.name = q.name) : p = q := by
  rw [← Option.some_inj, ← ofName?_name p, ← ofName?_name q, h]

theorem underscore_not_mem_name (p : Phase) : '_' ∉ p.name.toList := by cases p <;> decide

end Phase

namespace InterceptionPoint

/-- What is left of a name without the lead of the host. -/
inductive Bare : String → String → Prop
  | api (bare : String) : Bare ("pep_api_" ++ bare) bare
  | resource (bare : String) : Bare ("pep_resource_" ++ bare) bare
  | unled {name : String} (h : Unled name) : Bare name name

/-- The name is that of an operation and of a phase, with an underscore between them, behind
one lead of the host or none. -/
structure Spells (name base : String) (phase : Phase) : Prop where
  base_ne : base ≠ ""
  bare : Bare name (base ++ "_" ++ phase.name)

variable {name bare base : String} {phase : Phase} {point : InterceptionPoint}

theorem bare_withoutLead (name : String) : Bare name (withoutLead name) := by
  by_cases hname : Unled name
  · rw [withoutLead_eq_self hname]
    exact .unled hname
  simp only [Unled, Classical.not_forall, Classical.not_not] at hname
  obtain ⟨lead, hlead, rest, hrest⟩ := hname
  obtain rfl : lead ++ String.ofList rest = name := by
    rw [← String.toList_inj, String.toList_append, String.toList_ofList, hrest]
  rw [withoutLead_append hlead]
  simp only [hostLeads, List.mem_cons, List.not_mem_nil, or_false] at hlead
  rcases hlead with rfl | rfl
  · exact .api _
  · exact .resource _

theorem bare_iff : Bare name bare ↔ withoutLead name = bare := by
  constructor
  · intro h
    cases h with
    | api => exact withoutLead_append (by decide) bare
    | resource => exact withoutLead_append (by decide) bare
    | unled h => exact withoutLead_eq_self h
  · rintro rfl
    exact bare_withoutLead name

theorem Bare.suffix (h : Bare name bare) : bare.toList <:+ name.toList := by
  cases h with
  | api => exact ⟨_, String.toList_append.symm⟩
  | resource => exact ⟨_, String.toList_append.symm⟩
  | unled => exact List.suffix_refl _

/-- The last underscore of a name of this form is the one before the phase. -/
theorem Spells.cutLast (h : Spells name base phase) :
    Text.cutLast '_' (withoutLead name).toList = some (base.toList, phase.name.toList) := by
  have hbare : (base ++ "_" ++ phase.name).toList = base.toList ++ '_' :: phase.name.toList := by
    simp
  rw [bare_iff.mp h.bare, hbare]
  exact Text.cutLast_append phase.underscore_not_mem_name base.toList

theorem Spells.unique {other : String} {later : Phase} (h : Spells name base phase)
    (h' : Spells name other later) : base = other ∧ phase = later := by
  have hcut := h.cutLast.symm.trans h'.cutLast
  simp only [Option.some.injEq, Prod.mk.injEq, String.toList_inj] at hcut
  exact ⟨hcut.1, Phase.name_inj hcut.2⟩

theorem parse?_of_spells (h : Spells name base phase) :
    parse? name = some ⟨name, base, phase⟩ := by
  have hbase : base.toList ≠ [] := by simpa using h.base_ne
  obtain ⟨c, r, hcons⟩ := List.exists_cons_of_ne_nil hbase
  have hback : String.ofList (c :: r) = base := by rw [← hcons, String.ofList_toList]
  simp [parse?, h.cutLast, hcons, hback, Phase.ofName?_name]

theorem spells_of_parse? (h : parse? name = some point) :
    Spells name point.base point.phase := by
  unfold parse? at h
  split at h
  · cases h
  · cases h
  · next base phase hnil hcut =>
    obtain ⟨p, hp, rfl⟩ := Option.map_eq_some_iff.mp h
    refine ⟨?_, ?_⟩
    · rintro hbase
      exact hnil (String.ofList_eq_empty_iff.mp hbase)
    · rw [bare_iff, ← String.toList_inj, (Text.of_cutLast hcut).1, ← Phase.ofName?_eq_some.mp hp]
      simp

theorem parse?_eq_some_iff : parse? name = some point ↔
    point.name = name ∧ Spells name point.base point.phase := by
  constructor
  · exact fun h => ⟨name_of_parse? h, spells_of_parse? h⟩
  · rintro ⟨rfl, h⟩
    exact parse?_of_spells h

/-- Dispatch finds the phase of a name at its end, and no other phase. -/
theorem Spells.endsWithClause_iff (h : Spells name base phase) (clause : Phase) :
    ResolvedDescriptor.endsWithClause name clause.name = true ↔ clause = phase := by
  obtain ⟨lead, hlead⟩ := h.bare.suffix
  have hwhole : name.toList = (lead ++ base.toList) ++ '_' :: phase.name.toList := by
    rw [← hlead]
    simp
  have hclause : ("_" ++ clause.name).toList = '_' :: clause.name.toList := by simp
  rw [ResolvedDescriptor.endsWithClause, Text.endsWith, List.isSuffixOf_iff_suffix, hclause]
  constructor
  · rintro ⟨before, hbefore⟩
    -- both ends begin at the last underscore of the name
    have hcut := Text.cutLast_append clause.underscore_not_mem_name before
    rw [hbefore, hwhole, Text.cutLast_append phase.underscore_not_mem_name] at hcut
    simp only [Option.some.injEq, Prod.mk.injEq, String.toList_inj] at hcut
    exact (Phase.name_inj hcut.2).symm
  · rintro rfl
    exact ⟨_, hwhole.symm⟩

/-- What a name is read as, and what of it dispatch goes by. -/
structure ReadByForm (name : String) : Prop where
  /-- A name is accepted if it has the form, and only then. -/
  accepted : (parse? name).isSome ↔ ∃ base phase, Spells name base phase
  read : ∀ point, parse? name = some point ↔
    point.name = name ∧ Spells name point.base point.phase
  unique : ∀ base other phase later, Spells name base phase → Spells name other later →
    base = other ∧ phase = later
  /-- Of the phases as clauses of a descriptor only the one that was read fits the name. -/
  clause : ∀ point clause, parse? name = some point →
    (ResolvedDescriptor.endsWithClause name (Phase.name clause) = true ↔ clause = point.phase)

/-- Every name is read by its form, and both readers of the phase agree. -/
theorem read_by_form (name : String) : ReadByForm name where
  accepted := by
    rw [Option.isSome_iff_exists]
    constructor
    · rintro ⟨point, h⟩
      exact ⟨point.base, point.phase, spells_of_parse? h⟩
    · rintro ⟨base, phase, h⟩
      exact ⟨_, parse?_of_spells h⟩
  read _ := parse?_eq_some_iff
  unique _ _ _ _ h h' := h.unique h'
  clause _ clause h := (spells_of_parse? h).endsWithClause_iff clause

/-- A name without an operation is no point, though dispatch would find a phase in it. -/
example : parse? "pep_api_post" = none ∧
    ResolvedDescriptor.endsWithClause "pep_api_post" "post" = true := by decide

end InterceptionPoint

end GridPolicy
