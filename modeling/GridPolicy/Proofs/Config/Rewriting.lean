import GridPolicy.Config
import GridPolicy.Proofs.Document.Finite
import GridPolicy.Proofs.Document.Size

/-!
# Configurations written and read again

A configuration can be spelled in many ways: members may be left out or be `null`, records
may be arrays, and the whole may stand in the entry for a plugin. It is written in one way
only, from which it is read as it was.
-/
namespace GridPolicy

/-- A document that a setting may hold: none that stands for an absent one, and none that
cannot be written. -/
structure Document.Settled (d : Document) : Prop where
  ne_null : d ≠ .null
  writable : d.Writable

namespace Decode

variable {d v : Document}

theorem writable_of_members {names : List (List String)} {found : List (Option Document)}
    (hd : d.Writable) (h : members names d = some found) (hv : some v ∈ found) : v.Writable := by
  rcases mem_of_members h hv with ⟨fields, key, rfl, hmem⟩ | ⟨items, rfl, hmem⟩
  · exact Document.writable_object.mp hd _ hmem
  · exact Document.writable_array.mp hd _ hmem

theorem anything_of_ne_null (h : d ≠ .null) : anything d = some (some d.finite) := by
  cases d with
  | null => exact absurd rfl h
  | _ => rfl

theorem anything_of_settled (h : d.Settled) : anything d = some (some d) := by
  have hfinite : d.finite = d := h.writable
  rw [anything_of_ne_null h.ne_null, hfinite]

/-- What a setting is decoded to stands for no absent one. -/
theorem settled_of_anything {m : Option Document} (hm : ∀ d, m = some d → d.Writable)
    (h : orElse none anything m = some (some v)) : v.Settled := by
  cases m with
  | none => cases h
  | some d =>
    have hd : d.Writable := hm d rfl
    have hfinite : d.finite = d := hd
    by_cases hnull : d = .null
    · subst hnull
      cases h
    · rw [orElse, anything_of_ne_null hnull, hfinite] at h
      cases h
      exact ⟨hnull, hd⟩

/-- Settings that are left out if they have no value are read as they were. -/
theorem orElse_anything {o : Option Document} (h : ∀ d, o = some d → d.Settled) :
    orElse none anything o = some o := by
  cases o with
  | none => rfl
  | some d => exact anything_of_settled (h d rfl)

theorem list_map {α : Type} {f : Document → Option α} {g : α → Document} {as : List α}
    (h : ∀ a ∈ as, f (g a) = some a) : list f (.array (as.map g)) = some as := by
  rw [list]
  induction as with
  | nil => rfl
  | cons a rest ih =>
    obtain ⟨ha, hrest⟩ := List.forall_mem_cons.mp h
    simp [ha, ih hrest]

theorem list_text (texts : List String) : list text (.ofTexts texts) = some texts :=
  list_map fun _ _ => rfl

end Decode

namespace PolicyDescriptor

variable {p : PolicyDescriptor} {d : Document}

/-- Each document that it holds is one that a setting may hold. -/
structure Settled (p : PolicyDescriptor) : Prop where
  conditional : ∀ d, p.conditional = some d → d.Settled
  configuration : ∀ d, p.configuration = some d → d.Settled
  parameters : ∀ d, p.parameters = some d → d.Settled

theorem settled_of_decode (hd : d.Writable) (h : decode d = some p) : p.Settled := by
  unfold decode at h
  obtain ⟨found, hfound, h⟩ := Option.bind_eq_some_iff.mp h
  have hsettled (m : Option Document) (hm : m ∈ found) {o : Option Document}
      (ho : Decode.orElse none Decode.anything m = some o) (v : Document) (hv : o = some v) :
      v.Settled := by
    subst hv
    refine Decode.settled_of_anything (fun d' hd' => ?_) ho
    subst hd'
    exact Decode.writable_of_members hd hfound hm
  split at h
  · next policy events clauses conditional configuration parameters =>
    simp only [Option.bind_eq_bind, Option.bind_eq_some_iff] at h
    obtain ⟨_, -, _, -, _, -, _, hconditional, _, hconfiguration, _, hparameters, heq⟩ := h
    cases heq
    constructor
    · exact hsettled conditional (by simp) hconditional
    · exact hsettled configuration (by simp) hconfiguration
    · exact hsettled parameters (by simp) hparameters
  · cases h

end PolicyDescriptor

section Members

open PolicyDescriptor (optionalField)

variable {members : List (String × Option Document)} {key : String} {o : Option Document}

/-- The fields of a record whose members are left out if they have no value. -/
def presentFields (members : List (String × Option Document)) : Fields :=
  members.flatMap fun m => optionalField m.1 m.2

theorem get?_optionalField (key other : String) (o : Option Document) :
    Fields.get? other (optionalField key o) = if key = other then o else none := by
  cases o with
  | none => simp [optionalField]
  | some d => simp [optionalField, Fields.get?_cons]

theorem keys_presentFields (members : List (String × Option Document)) :
    ((presentFields members).map Prod.fst).Sublist (members.map Prod.fst) := by
  induction members with
  | nil => exact .slnil
  | cons m rest ih =>
    obtain ⟨key, o⟩ := m
    have hfirst : ((optionalField key o).map Prod.fst).Sublist [key] := by
      cases o <;> simp [optionalField]
    rw [presentFields, List.flatMap_cons, List.map_append]
    exact hfirst.append ih

/-- A member that is there is found, and one that is not is not. -/
theorem get?_presentFields (h : (members.map Prod.fst).Nodup) (hm : (key, o) ∈ members) :
    (presentFields members).get? key = o := by
  induction members with
  | nil => cases hm
  | cons m rest ih =>
    obtain ⟨hfirst, hrest⟩ := List.nodup_cons.mp h
    rw [presentFields, List.flatMap_cons, Fields.get?_append, get?_optionalField,
      ← presentFields]
    rcases List.mem_cons.mp hm with rfl | hm
    · have habsent : (presentFields rest).get? key = none :=
        Fields.get?_eq_none.mpr fun hkey => hfirst ((keys_presentFields rest).subset hkey)
      rw [if_pos rfl, habsent, Option.or_none]
    · have hne : m.1 ≠ key := fun heq => hfirst (heq ▸ List.mem_map_of_mem hm)
      rw [if_neg hne, ih hrest hm, Option.none_or]

/-- The members of a record are read as they were written. -/
theorem Decode.members_present (h : (members.map Prod.fst).Nodup) :
    Decode.members (members.map fun m => [m.1]) (Document.ofFields (presentFields members)) =
      some (members.map Prod.snd) := by
  have hdistinct : (presentFields members).Distinct := h.sublist (keys_presentFields members)
  have hnames : (members.map fun m => [m.1]) = (members.map Prod.fst).map fun name => [name] := by
    simp
  rw [Document.ofFields, hnames, members_object (Fields.ordered_ofList _).distinct,
    List.map_map, Option.some.injEq]
  refine List.map_congr_left fun m hm => ?_
  rw [Function.comp_apply, Fields.get?_ofList hdistinct, get?_presentFields h hm]

end Members

namespace PolicyDescriptor

/-- The members of a descriptor in order. -/
def writtenMembers (p : PolicyDescriptor) : List (String × Option Document) :=
  [("policy", some (.text p.policy)), ("events", some (.ofTexts p.events)),
    (clausesKey, some (.ofTexts p.clauses)), (Key.conditional, p.conditional),
    (Key.configuration, p.configuration), (Key.parameters, p.parameters)]

theorem toDocument_eq (p : PolicyDescriptor) :
    p.toDocument = Document.ofFields (presentFields p.writtenMembers) := by
  simp [toDocument, presentFields, writtenMembers, optionalField]

theorem decode_toDocument {p : PolicyDescriptor} (h : p.Settled) :
    decode p.toDocument = some p := by
  have hkeys : List.Nodup ["policy", "events", clausesKey, Key.conditional, Key.configuration,
    Key.parameters] := by decide
  have hmembers : Decode.members memberNames p.toDocument =
      some [some (.text p.policy), some (.ofTexts p.events), some (.ofTexts p.clauses),
        p.conditional, p.configuration, p.parameters] := by
    rw [toDocument_eq]
    exact Decode.members_present hkeys
  rw [decode, hmembers]
  simp only [Option.bind_eq_bind, Option.bind_some, Decode.orElse_anything h.conditional,
    Decode.orElse_anything h.configuration, Decode.orElse_anything h.parameters]
  simp only [Decode.orElse, Decode.list_text]
  rfl

end PolicyDescriptor

namespace EngineConfig

/-- The members of the engine's settings in order. -/
def writtenMembers (c : EngineConfig) : List (String × Option Document) :=
  [("instance_name", some (.text c.instanceName)), ("log_level", some (.text c.logLevel)),
    ("logs_dir", c.logsDirectory.map .text)]

theorem toDocument_eq (c : EngineConfig) :
    c.toDocument = Document.ofFields (presentFields c.writtenMembers) := by
  simp [toDocument, presentFields, writtenMembers, PolicyDescriptor.optionalField]

theorem decode_toDocument (c : EngineConfig) : decode c.toDocument = some c := by
  have hkeys : List.Nodup ["instance_name", "log_level", "logs_dir"] := by decide
  have hmembers : Decode.members memberNames c.toDocument =
      some [some (.text c.instanceName), some (.text c.logLevel),
        c.logsDirectory.map .text] := by
    rw [toDocument_eq]
    exact Decode.members_present hkeys
  rw [decode, hmembers]
  obtain ⟨instanceName, logLevel, logsDirectory⟩ := c
  cases logsDirectory <;> rfl

end EngineConfig

namespace Config

variable {c : Config} {d : Document}

theorem settled_of_ofDocument (hd : d.Writable) (h : ofDocument d = .ok c) :
    ∀ p ∈ c.policies, p.Settled := by
  have hbody : ((d.get? pluginKey).getD d).Writable := by
    cases hplugin : d.get? pluginKey with
    | none => exact hd
    | some body => exact hd.get? hplugin
  unfold ofDocument at h
  extract_lets body policiesOf at h
  have hpolicies (engine : EngineConfig) (h : policiesOf engine = .ok c) :
      ∀ p ∈ c.policies, p.Settled := by
    dsimp only [policiesOf] at h
    split at h
    · cases h
      nofun
    · next part hpart =>
      split at h
      · next policies hdecoded =>
        cases h
        intro p hp
        unfold Decode.list at hdecoded
        split at hdecoded
        · next items =>
          obtain ⟨item, hitem, hdecode⟩ := exists_of_mem_mapM hdecoded hp
          have hitems := Document.writable_array.mp (hbody.get? hpart)
          exact PolicyDescriptor.settled_of_decode (hitems item hitem) hdecode
        · cases hdecoded
      · cases h
  split at h
  · exact hpolicies _ h
  · split at h
    · exact hpolicies _ h
    · cases h

/-- What a configuration is written as holds it, and nothing else. -/
theorem ofDocument_toDocument (h : ∀ p ∈ c.policies, p.Settled) :
    ofDocument c.toDocument = .ok c := by
  have hfields : Fields.Distinct [(engineKey, c.engine.toDocument),
      (Key.policiesToInvoke, .array (c.policies.map PolicyDescriptor.toDocument))] := by
    have hkeys : List.Nodup [engineKey, Key.policiesToInvoke] := by decide
    exact hkeys
  have hget (key : String) : c.toDocument.get? key = Fields.get? key
      [(engineKey, c.engine.toDocument),
        (Key.policiesToInvoke, .array (c.policies.map PolicyDescriptor.toDocument))] :=
    Fields.get?_ofList hfields key
  have hplugin : c.toDocument.get? pluginKey = none := hget pluginKey
  have hinstance : c.toDocument.get? instanceKey = none := hget instanceKey
  have hengine : c.toDocument.get? engineKey = some c.engine.toDocument := hget engineKey
  have hpolicies : c.toDocument.get? Key.policiesToInvoke =
      some (.array (c.policies.map PolicyDescriptor.toDocument)) := hget Key.policiesToInvoke
  have hlist : Decode.list PolicyDescriptor.decode
      (.array (c.policies.map PolicyDescriptor.toDocument)) = some c.policies :=
    Decode.list_map fun p hp => PolicyDescriptor.decode_toDocument (h p hp)
  unfold ofDocument
  rw [hplugin, hinstance]
  dsimp only [Option.getD_none]
  rw [hengine, hpolicies]
  dsimp only
  rw [EngineConfig.decode_toDocument, hlist]
  rfl

/-- A configuration that was read is read again from what it is written as, however it was
spelled before. That the text of the document is read as this document is what the reader
and the printer of JSON are relied on for. -/
theorem ofJson_rewritten {text : String} (hread : ofJson text = .ok c) :
    ofDocument c.toDocument = .ok c ∧
    (Document.Reader.parse c.toDocument.written = some c.toDocument →
      ofJson c.toDocument.written = .ok c) := by
  have hsettled : ∀ p ∈ c.policies, p.Settled := by
    unfold ofJson at hread
    split at hread
    · cases hread
    · next d hparse =>
      exact settled_of_ofDocument (Document.Reader.writable_of_parse hparse) hread
  refine ⟨ofDocument_toDocument hsettled, fun hprinted => ?_⟩
  rw [ofJson, hprinted]
  exact ofDocument_toDocument hsettled

/-- The entry for a plugin, with an array for a descriptor and a member that is `null`. -/
def entryText : String :=
  "\x7b\"instance_name\":\"edge\",\"plugin_specific_configuration\":" ++
  "\x7b\"policies_to_invoke\":[[\"alpha\",[],[],null,[-7]]]\x7d\x7d"

/-- The tree that it is read as. -/
def entryTree : Document :=
  .object [("instance_name", .text "edge"), ("plugin_specific_configuration",
    .object [("policies_to_invoke", .array [.array [.text "alpha", .array [], .array [], .null,
      .array [.number (.whole (-7))]]])])]

/-- What it stands for. -/
def entry : Config where
  engine := { instanceName := "edge" }
  policies := [{ policy := "alpha", configuration := some (.array [.number (.whole (-7))]) }]

theorem parseWritten_entryText : Document.Reader.parseWritten entryText = some entryTree := by
  unfold entryText
  dsimp only [String.reduceAppend]
  simp [Document.Reader.parseWritten]
  rfl

theorem parseWritten_entry :
    Document.Reader.parseWritten entry.toDocument.written = some entry.toDocument := by
  have hwritten : entry.toDocument.written =
      "\x7b\"engine\":\x7b\"instance_name\":\"edge\",\"log_level\":\"info\"\x7d," ++
      "\"policies_to_invoke\":[\x7b\"active_policy_clauses\":[],\"configuration\":[-7]," ++
      "\"events\":[],\"policy\":\"alpha\"\x7d]\x7d" := by decide +kernel
  simp only [hwritten, String.reduceAppend]
  simp [Document.Reader.parseWritten]
  rfl

theorem ofJson_rewritten_entry : ofJson entryText = .ok entry ∧
    Document.Reader.parse entry.toDocument.written = some entry.toDocument ∧
    ofJson entry.toDocument.written = .ok entry := by
  have hread : ofJson entryText = .ok entry := by
    rw [ofJson, Document.Reader.parse, parseWritten_entryText]
    rfl
  have hprinted : Document.Reader.parse entry.toDocument.written = some entry.toDocument := by
    rw [Document.Reader.parse, parseWritten_entry]
    rfl
  exact ⟨hread, hprinted, (ofJson_rewritten hread).2 hprinted⟩

end Config

end GridPolicy
