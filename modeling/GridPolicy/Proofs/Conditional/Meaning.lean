import GridPolicy.Conditional

/-!
# What a conditional says

A conditional speaks of an entity type and of seven texts of a record: four of the
record itself and three of its metadata. A record holds what is spoken of at the same
places, so a place can be read in both. A document is a conditional if each place
holds a text or nothing and the patterns compile; a record is accepted if its entity
type does not differ and each pattern matches the text at its place.
-/
namespace GridPolicy

namespace Conditional

/-- The text of a field, empty if the field is absent or no text. -/
def statedText (d : Document) (field : String) : String :=
  ((d.get? field).bind Document.text?).getD ""

/-- A field that says nothing, or a text. -/
def MayState (d : Document) (field : String) : Prop :=
  d.get? field = none ∨ d.get? field = some .null ∨ ∃ text, d.get? field = some (.text text)

/-- What is said about metadata. -/
def metadataOf (d : Document) : Document := (d.get? Key.metadata).getD .null

def metadataFields : List String := ["attribute", "value", "units"]

/-- Where a conditional may hold a pattern, and a record the text for it. -/
inductive Place where
  | outer (field : String)
  | inMetadata (field : String)

namespace Place

def stated (d : Document) : Place → String
  | outer field => statedText d field
  | inMetadata field => statedText (metadataOf d) field

def Fits (d : Document) : Place → Prop
  | outer field => MayState d field
  | inMetadata field => MayState (metadataOf d) field

end Place

/-- The places of a pattern. -/
def places : List Place := patternFields.map .outer ++ metadataFields.map .inMetadata

/-- The entity type that a document speaks of: the one outside of the metadata, and
only without it the other. -/
def statedEntity (d : Document) : String :=
  if statedText d Key.entityType = "" then statedText (metadataOf d) Key.entityType
  else statedText d Key.entityType

/-- The text is left out, or with the assertions around it a pattern. -/
def Compiles (text : String) : Prop :=
  text ≠ "" → ∃ pattern, Pattern.compile? ("^(?:" ++ text ++ ")$") = some pattern

/-- What an object has to be like to be a conditional. -/
structure WellFormed (d : Document) : Prop where
  metadata : d.get? Key.metadata = none ∨ d.get? Key.metadata = some .null ∨
    ∃ fields, d.get? Key.metadata = some (.object fields)
  entity : MayState d Key.entityType ∧ MayState (metadataOf d) Key.entityType
  patterns : ∀ p ∈ places, p.Fits d ∧ Compiles (p.stated d)

/-- What a record has to be like for a conditional to accept it. -/
def Admits (d : Document) (record : EventRecord) : Prop :=
  (statedEntity d = "" ∨ statedEntity record.toDocument = "" ∨
    statedEntity record.toDocument = statedEntity d) ∧
  ∀ p ∈ places, p.stated d ≠ "" →
    ∃ pattern, Pattern.compile? ("^(?:" ++ p.stated d ++ ")$") = some pattern ∧
      pattern.occursIn (p.stated record.toDocument) = true

section Parse

variable {ε α β : Type} {d : Document} {field : String}

theorem bind_eq_ok {x : Except ε α} {f : α → Except ε β} {b : β} :
    (x >>= f) = .ok b ↔ ∃ a, x = .ok a ∧ f a = .ok b := by
  cases x with
  | error e => exact ⟨nofun, nofun⟩
  | ok a => exact ⟨fun h => ⟨a, rfl, h⟩, fun ⟨_, ha, h⟩ => Except.ok.inj ha ▸ h⟩

/-- The text, where the empty one counts as none. -/
def filled (text : String) : Option String := if text = "" then none else some text

/-- The constraint that a text stands for. -/
def compiled (text : String) : Constraint :=
  (filled text).bind Pattern.anchored?

theorem filledText_eq_ok {o : Option String} :
    filledText d field = .ok o ↔ MayState d field ∧ filled (statedText d field) = o := by
  unfold filledText MayState statedText
  cases d.get? field with
  | none => simp [filled]
  | some value =>
    cases value with
    | text s => by_cases hs : s = "" <;> simp [filled, hs, Document.text?]
    | null => simp [filled, Document.text?]
    | _ => simp

theorem constraint_eq_ok {c : Constraint} :
    constraint d field = .ok c ↔
      MayState d field ∧ Compiles (statedText d field) ∧ compiled (statedText d field) = c := by
  unfold constraint
  rw [bind_eq_ok]
  simp only [filledText_eq_ok, and_assoc, exists_and_left, exists_eq_left']
  by_cases hs : statedText d field = ""
  · simp [hs, filled, compiled, Compiles, pure, Except.pure]
  · cases hp : Pattern.anchored? (statedText d field) with
    | none =>
      have hfails : ¬ Compiles (statedText d field) := by
        intro h
        obtain ⟨pattern, hpattern⟩ := h hs
        exact absurd (hp.symm.trans hpattern) nofun
      simp [hs, hp, filled, hfails, throw, throwThe, MonadExceptOf.throw]
    | some pattern =>
      have hcompiles : Compiles (statedText d field) := fun _ => ⟨pattern, hp⟩
      simp [hs, hp, filled, compiled, hcompiles, pure, Except.pure]

theorem constrainedFields_eq_ok {fields : List String} {l : List (String × Pattern)} :
    constrainedFields d fields = .ok l ↔
      (∀ f ∈ fields, MayState d f ∧ Compiles (statedText d f)) ∧
        (fields.filterMap fun f => (compiled (statedText d f)).map (f, ·)) = l := by
  induction fields generalizing l with
  | nil => simp [constrainedFields]
  | cons f r ih =>
    rw [constrainedFields, bind_eq_ok]
    simp only [constraint_eq_ok, and_assoc, exists_and_left, exists_eq_left']
    cases hc : compiled (statedText d f) with
    | none => simp [hc, ih, and_assoc]
    | some pattern =>
      simp only [bind_eq_ok, ih, List.forall_mem_cons, List.filterMap_cons, hc, Option.map_some,
        pure, Except.pure, Except.ok.injEq, and_assoc, exists_and_left, exists_eq_left']

theorem metadataPart_eq_ok {part : Document} :
    metadataPart d = .ok part ↔
      (d.get? Key.metadata = none ∨ d.get? Key.metadata = some .null ∨
        ∃ fields, d.get? Key.metadata = some (.object fields)) ∧ metadataOf d = part := by
  unfold metadataPart metadataOf
  cases d.get? Key.metadata with
  | none => simp
  | some value => cases value <;> simp

/-- The conditional that a document stands for. -/
def declared (d : Document) : Conditional where
  raw := d
  entityType := filled (statedEntity d)
  metadata :=
    { name := compiled (statedText (metadataOf d) "attribute")
      value := compiled (statedText (metadataOf d) "value")
      units := compiled (statedText (metadataOf d) "units") }
  fields := patternFields.filterMap fun f => (compiled (statedText d f)).map (f, ·)

theorem filled_statedEntity (d : Document) :
    filled (statedEntity d) =
      (filled (statedText d Key.entityType)).or
        (filled (statedText (metadataOf d) Key.entityType)) := by
  unfold statedEntity
  by_cases h : statedText d Key.entityType = "" <;> simp [h, filled]

theorem forall_places {P : Place → Prop} :
    (∀ p ∈ places, P p) ↔
      (P (.inMetadata "attribute") ∧ P (.inMetadata "value") ∧ P (.inMetadata "units")) ∧
        ∀ f ∈ patternFields, P (.outer f) := by
  simp only [places, metadataFields, List.forall_mem_append, List.forall_mem_map,
    List.forall_mem_cons, List.not_mem_nil, false_implies, implies_true, and_true]
  exact and_comm

theorem parse_object_eq_ok {fields : Fields} {c : Conditional} :
    parse (.object fields) = .ok c ↔
      WellFormed (.object fields) ∧ declared (.object fields) = c := by
  have hwell : WellFormed (.object fields) ↔ _ :=
    ⟨fun h => And.intro h.metadata (And.intro h.entity h.patterns), fun h => ⟨h.1, h.2.1, h.2.2⟩⟩
  rw [hwell, forall_places, declared, filled_statedEntity]
  simp only [parse, bind_eq_ok, metadataPart_eq_ok, filledText_eq_ok, constraint_eq_ok,
    constrainedFields_eq_ok, pure, Except.pure, Except.ok.injEq, and_assoc, exists_and_left,
    exists_eq_left', Place.Fits, Place.stated]

theorem wellFormed_null : WellFormed .null where
  metadata := .inl rfl
  entity := ⟨.inl rfl, .inl rfl⟩
  patterns := forall_places.mpr
    ⟨⟨⟨.inl rfl, nofun⟩, ⟨.inl rfl, nofun⟩, ⟨.inl rfl, nofun⟩⟩, fun _ _ => ⟨.inl rfl, nofun⟩⟩

/-- What is compiled is what was declared, and only a conditional is compiled. -/
theorem parse_eq_ok {c : Conditional} :
    parse d = .ok c ↔
      (d = .null ∨ ∃ fields, d = .object fields) ∧ WellFormed d ∧ declared d = c := by
  cases d with
  | null =>
    have hempty : declared .null = {} := by rfl
    simp [parse, wellFormed_null, hempty]
  | object fields => simp [parse_object_eq_ok]
  | _ => simp [parse]

end Parse

section Accepts

variable {d : Document} {text : String}

theorem accepts_compiled (h : Compiles text) (field : String) :
    (compiled text).accepts field = true ↔
      (text ≠ "" → ∃ pattern, Pattern.compile? ("^(?:" ++ text ++ ")$") = some pattern ∧
        pattern.occursIn field = true) := by
  by_cases ht : text = ""
  · simp [compiled, filled, ht, Constraint.accepts]
  · obtain ⟨pattern, hpattern⟩ := h ht
    simp [compiled, filled, ht, Pattern.anchored?, Pattern.anchoredText, hpattern,
      Constraint.accepts]

theorem field_eq_statedText (record : EventRecord) (field : String) :
    record.field field = statedText record.toDocument field := rfl

theorem metadataField_eq_statedText (record : EventRecord) (field : String) :
    record.metadataField field = statedText (metadataOf record.toDocument) field := by
  have hmetadata : record.toDocument.get? Key.metadata = record.get? Key.metadata := rfl
  unfold EventRecord.metadataField statedText metadataOf
  rw [hmetadata]
  cases record.get? Key.metadata <;> rfl

theorem recordEntityType_eq_statedEntity (record : EventRecord) :
    recordEntityType record = statedEntity record.toDocument := by
  simp only [recordEntityType, statedEntity, field_eq_statedText, metadataField_eq_statedText,
    beq_iff_eq]

theorem acceptsEntity_declared (d : Document) (record : EventRecord) :
    (declared d).acceptsEntity record = true ↔
      (statedEntity d = "" ∨ statedEntity record.toDocument = "" ∨
        statedEntity record.toDocument = statedEntity d) := by
  rw [← recordEntityType_eq_statedEntity]
  by_cases h : statedEntity d = "" <;> simp [acceptsEntity, declared, filled, h]

theorem acceptsFields_declared (d : Document) (record : EventRecord) :
    (declared d).acceptsFields record = true ↔
      ∀ p ∈ places, (compiled (p.stated d)).accepts (p.stated record.toDocument) = true := by
  rw [forall_places]
  simp only [acceptsFields, declared, MetadataPattern.accepts, Bool.and_eq_true, List.all_eq_true,
    List.mem_filterMap, Option.map_eq_some_iff, Place.stated, field_eq_statedText,
    metadataField_eq_statedText, and_assoc]
  refine and_congr_right fun _ => and_congr_right fun _ => and_congr_right fun _ => ?_
  constructor
  · intro h f hf
    cases hc : compiled (statedText d f) with
    | none => rfl
    | some pattern => exact h (f, pattern) ⟨f, hf, pattern, hc, rfl⟩
  · rintro h _ ⟨f, hf, pattern, hc, rfl⟩
    have haccepts := h f hf
    rw [hc] at haccepts
    exact haccepts

theorem accepts_declared (h : WellFormed d) (record : EventRecord) :
    (declared d).accepts record = true ↔ Admits d record := by
  rw [accepts_eq, Bool.and_eq_true, acceptsEntity_declared, acceptsFields_declared, Admits]
  refine and_congr_right fun _ => forall₂_congr fun p hp => ?_
  exact accepts_compiled (h.patterns p hp).2 _

end Accepts

/-- A document is compiled exactly if it is a conditional, and then accepts the records
that it admits. Whether nothing is constrained need not be asked before the fields are
looked at, and nothing but the entity type and the texts of the seven places counts. -/
theorem parse_means :
    (∀ d, (∃ c, parse d = .ok c) ↔
      d = .null ∨ (∃ fields, d = .object fields) ∧ WellFormed d) ∧
    (∀ d c, parse d = .ok c → ∀ record, c.accepts record = true ↔ Admits d record) ∧
    (∀ (c : Conditional) record,
      c.accepts record = (c.acceptsEntity record && c.acceptsFields record)) ∧
    (∀ d d' c c', parse d = .ok c → parse d' = .ok c' → statedEntity d = statedEntity d' →
      (∀ p ∈ places, p.stated d = p.stated d') →
      ∀ record, c.accepts record = c'.accepts record) := by
  refine ⟨?_, ?_, accepts_eq, ?_⟩
  · intro d
    simp only [parse_eq_ok, exists_and_left, exists_eq', and_true]
    constructor
    · rintro ⟨hnull | hobject, hwell⟩
      · exact .inl hnull
      · exact .inr ⟨hobject, hwell⟩
    · rintro (rfl | ⟨hobject, hwell⟩)
      · exact ⟨.inl rfl, wellFormed_null⟩
      · exact ⟨.inr hobject, hwell⟩
  · intro d c hparse record
    obtain ⟨-, hwell, rfl⟩ := parse_eq_ok.mp hparse
    exact accepts_declared hwell record
  · intro d d' c c' hparse hparse' hentity hplaces record
    obtain ⟨-, hwell, rfl⟩ := parse_eq_ok.mp hparse
    obtain ⟨-, hwell', rfl⟩ := parse_eq_ok.mp hparse'
    have hadmits : Admits d record ↔ Admits d' record := by
      unfold Admits
      rw [hentity]
      refine and_congr_right fun _ => forall₂_congr fun p hp => ?_
      rw [hplaces p hp]
    rw [Bool.eq_iff_iff, accepts_declared hwell, accepts_declared hwell', hadmits]

/-- The homes of two users. -/
def homes : Document :=
  .object [(Key.entityType, .text "data_object"), (Key.logicalPath, .text "/zone/home/(alice|bob)")]

/-- The same, with the entity type in the metadata. -/
def homesInMetadata : Document :=
  .object [(Key.entityType, .null), (Key.logicalPath, .text "/zone/home/(alice|bob)"),
    (Key.metadata, .object [(Key.entityType, .text "data_object"), ("units", .text "")])]

/-- An object at a path. -/
def objectAt (path : String) : EventRecord :=
  ⟨[(Key.entityType, .text "data_object"), (Key.logicalPath, .text path)]⟩

/-- Where the entity type stands makes no difference. The home itself is accepted, and what lies
in it is not. -/
theorem parse_means_homes : ∃ c c', parse homes = .ok c ∧
    parse homesInMetadata = .ok c' ∧
    (∀ record, c.accepts record = true ↔ Admits homes record) ∧
    (∀ record, c.accepts record = c'.accepts record) ∧
    c.accepts (objectAt "/zone/home/alice") = true ∧
    c.accepts (objectAt "/zone/home/alice/a") = false := by
  have hdecided : (parse homes).toOption.any (fun c => c.accepts (objectAt "/zone/home/alice") &&
      !c.accepts (objectAt "/zone/home/alice/a")) = true := by decide +kernel
  have hparsed' : (parse homesInMetadata).toBool = true := by decide +kernel
  cases hc : parse homes with
  | error e => rw [hc] at hdecided; cases hdecided
  | ok c =>
    rw [hc] at hdecided
    simp only [Except.toOption, Option.any_some, Bool.and_eq_true, Bool.not_eq_true'] at hdecided
    cases hc' : parse homesInMetadata with
    | error e => rw [hc'] at hparsed'; cases hparsed'
    | ok c' =>
      have hsame : ∀ p ∈ places, p.stated homes = p.stated homesInMetadata :=
        forall_places.mpr ⟨⟨by rfl, by rfl, by rfl⟩, by decide⟩
      exact ⟨c, c', rfl, rfl, parse_means.2.1 _ c hc,
        parse_means.2.2.2 _ _ c c' hc hc' (by decide) hsame, hdecided⟩

end Conditional

end GridPolicy
