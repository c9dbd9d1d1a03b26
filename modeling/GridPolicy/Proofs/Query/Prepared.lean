import GridPolicy.Policy.QueryProcessor
import GridPolicy.Proofs.Document.Size
import GridPolicy.Proofs.Run.Errors
import GridPolicy.Proofs.Run.Settled
import Mathlib.Data.List.Forall2

/-!
# What a query processor prepares

Before a query processor sends its query it reads its parameters, and asks what it has to know
to fill the tokens: what the path of the event names, which leaves its resources have, how long
a lifetime is. Here it is said of the parameters which iteration they ask for, and which these
questions are; what is prepared is that iteration, after no other questions.
-/
namespace GridPolicy

namespace Run.AddsOnly

variable {kind : Entry → Prop}

theorem objectKind {path : String}
    (hobject : kind (.call (.query (objectQuery (LogicalPath.split path).1
      (LogicalPath.split path).2) 1 .general)))
    (hcollection : kind (.call (.query (collectionQuery path) 1 .general))) :
    (GridPolicy.objectKind path).AddsOnly kind := by
  rw [objectKind_eq]
  refine .bind ?_ fun objects => ?_
  · unfold objectsOf
    split
    · exact .pure []
    · exact .queryRows hobject
  · unfold kindBehind
    split
    · exact .pure _
    · refine .bind (.queryRows hcollection) fun collections => ?_
      split
      · exact .pure _
      · exact .pure _

/-- To fill a template only the leaves of the two resources are asked for. -/
theorem fillNamed {c : Circumstances} (hsource : kind (.call (.leafBundle c.sourceResource)))
    (hdestination : kind (.call (.leafBundle c.destinationResource))) (query : String) :
    (Template.fillNamed query c).AddsOnly kind := by
  have hleaves {resource : String} (h : kind (.call (.leafBundle resource))) :
      (leafBundle resource).AddsOnly kind := by
    refine .bind (.mapError (.ask h)) fun ids => ?_
    dsimp only
    split
    · exact .fail _
    · exact .pure _
  have hvalue (token : Token) : (c.value token).AddsOnly kind := by
    cases token with
    | sourceLeaves => exact hleaves hsource
    | destinationLeaves => exact hleaves hdestination
    | currentTime => exact .pure _
    | lifetime => exact .pure _
    | userName => exact .pure _
    | collectionName => exact .pure _
    | dataName => exact .pure _
    | sourceResource => exact .pure _
    | destinationResource => exact .pure _
  unfold Template.fillNamed
  induction Template.parts query.toList with
  | nil => exact .pure _
  | cons part rest ih =>
    cases part with
    | literal text => exact .bind ih fun _ => .pure _
    | token token => exact .bind (hvalue token) fun _ => .bind ih fun _ => .pure _
    | unknown name => exact .fail _
    | unterminated => exact .fail _

end Run.AddsOnly

theorem Template.fillNamed_answersIn {P : SubstitutionError → Prop} (h : ∀ e, P e)
    (query : String) (c : Circumstances) : (fillNamed query c).AnswersIn P := by
  have hleaves (resource : String) : (leafBundle resource).AnswersIn P := by
    refine .bind (.mapError (.ask (fun _ => h _) _)) fun ids => ?_
    dsimp only
    split
    · exact .fail (h _)
    · exact .pure _
  have hvalue (token : Token) : (c.value token).AnswersIn P := by
    cases token with
    | sourceLeaves => exact hleaves _
    | destinationLeaves => exact hleaves _
    | currentTime => exact .pure _
    | lifetime => exact .pure _
    | userName => exact .pure _
    | collectionName => exact .pure _
    | dataName => exact .pure _
    | sourceResource => exact .pure _
    | destinationResource => exact .pure _
  unfold fillNamed
  induction parts query.toList with
  | nil => exact .pure _
  | cons part rest ih =>
    cases part with
    | literal text => exact .bind ih fun _ => .pure _
    | token token => exact .bind (hvalue token) fun _ => .bind ih fun _ => .pure _
    | unknown name => exact .fail (h _)
    | unterminated => exact .fail (h _)

/-- The error reports on the rows of a query. -/
def PolicyError.OfRows (e : PolicyError) : Prop :=
  ∃ query errors, e = .query (.rowFailures query errors)

/-- A flag is set by `true`, or by that word in any case. -/
theorem Document.flagField_eq_true {d : Document} {key : String} :
    d.flagField key = true ↔ d.get? key = some (.flag true) ∨
      ∃ word, d.get? key = some (.text word) ∧ Text.lower word = "true" := by
  have hlower : Text.lower "true" = "true" := by decide
  unfold flagField Text.sameLetters
  rw [hlower]
  split
  · next b hflag => simp [hflag]
  · next word htext => simp [htext]
  · next hflag htext =>
    refine iff_of_false Bool.false_ne_true ?_
    rintro (h | ⟨word, h, -⟩)
    · exact hflag true h
    · exact htext word h

namespace QueryProcessor

/-! What the parameters ask for -/

/-- The values that stand under these keys. -/
def valuesAt (keys : List String) (fields : Fields) : List Document :=
  (fields.filter fun field => keys.contains field.1).map Prod.snd

/-- A document that an entry has of its own, if it has one; `null` is none. -/
inductive Own : List Document → Option Document → Prop
  | absent : Own [] none
  | null : Own [.null] none
  | given {d : Document} (hd : d ≠ .null) : Own [d] (some d.finite)

/-- An entry of the list, and the policy that it stands for: an object that has the name under
one key or the other, or an array of the three members that may end early. -/
inductive EntryOf : Document → ChainedPolicy → Prop
  | object {fields : Fields} {policy : String} {parameters configuration : Option Document}
      (hname : valuesAt [singleEntryKey, "policy"] fields = [.text policy])
      (hparameters : Own (valuesAt [Key.parameters] fields) parameters)
      (hconfiguration : Own (valuesAt [Key.configuration] fields) configuration) :
      EntryOf (.object fields) ⟨policy, parameters, configuration⟩
  | array {policy : String} {rest : List Document} {parameters configuration : Option Document}
      (hparameters : Own (rest.take 1) parameters)
      (hconfiguration : Own (rest.drop 1) configuration) :
      EntryOf (.array (.text policy :: rest)) ⟨policy, parameters, configuration⟩

/-- The rows of a list: each array in it is a row of its values, as they stand in a query. What
is no array is passed over. -/
inductive ListsRows : List Document → List Row → Prop
  | nil : ListsRows [] []
  | row {values rest : List Document} {rows : List Row} (hrest : ListsRows rest rows) :
      ListsRows (.array values :: rest) (values.map Document.plain :: rows)
  | other {d : Document} {rest : List Document} {rows : List Row}
      (hother : ∀ values, d ≠ .array values) (hrest : ListsRows rest rows) :
      ListsRows (d :: rest) rows

def defaultRowsKey : String := "default_results_when_no_rows_found"

/-- The parameters ask for this iteration, its query apart. -/
structure AsksFor (i : Invocation) (it : QueryIteration) : Prop where
  listed : it.chain ≠ []
  /-- Each entry of the list in its place. -/
  chain : List.Forall₂ EntryOf (chainEntries i.parameters) it.chain
  named : ∀ chained ∈ it.chain, chained.policy ≠ ""
  stops : it.stopOnError = true ↔
    i.parameters.get? "stop_on_error" = some (.flag true) ∨
      ∃ word, i.parameters.get? "stop_on_error" = some (.text word) ∧ Text.lower word = "true"
  defaults : ∀ given, i.parameters.get? defaultRowsKey = some (.array given) →
    ListsRows given it.defaultRows
  noDefaults : (∀ given, i.parameters.get? defaultRowsKey ≠ some (.array given)) →
    it.defaultRows = []
  kind : QueryKind.parse ((i.parameters.filledField? "query_type").getD "") = .ok it.kind
  limit : ∀ n : Nat, n ≤ 4294967295 → i.parameters.integerField? "query_limit" = some (n : Int) →
    it.limit = n
  noLimit : (∀ n : Nat, n ≤ 4294967295 →
    i.parameters.integerField? "query_limit" ≠ some (n : Int)) → it.limit = 0
  given : ∀ fields, i.parameters.get? Key.parameters = some (.object fields) →
    it.baseParameters = fields
  notGiven : (∀ fields, i.parameters.get? Key.parameters ≠ some (.object fields)) →
    it.baseParameters = i.parameters.fields
  configuration : it.defaultConfiguration = (i.parameters.get? Key.configuration).getD .null

/-- What the parameters themselves say of what the named tokens stand for. -/
structure Knows (i : Invocation) (c : Circumstances) : Prop where
  userName : c.userName = (Capture.ofParameters i.parameters .root).userName
  sourceResource : c.sourceResource = (Capture.ofParameters i.parameters .root).sourceResource
  destinationResource :
    c.destinationResource = (Capture.ofParameters i.parameters .root).destinationResource

/-- The query is that of the parameters, with the values of the row put in and its named tokens
filled; it is ready when the log is this. -/
def Fills (i : Invocation) (grid : Grid) (query : String) (mid : List Entry) : Prop :=
  ∃ template c log, i.parameters.filledField? "query_string" = some template ∧
    Knows i c ∧ c.currentTime = grid.now ∧
    Template.fillNamed (Template.fillRow template (ownRow i.parameters)) c grid log =
      (.done query, mid)

/-- The questions that come before the query. -/
inductive Preliminary (i : Invocation) : Entry → Prop
  | object {path : String} (hpath : path = (Capture.ofParameters i.parameters .root).logicalPath) :
      Preliminary i (.call (.query (objectQuery (LogicalPath.split path).1
        (LogicalPath.split path).2) 1 .general))
  | collection {path : String}
      (hpath : path = (Capture.ofParameters i.parameters .root).logicalPath) :
      Preliminary i (.call (.query (collectionQuery path) 1 .general))
  | source {resource : String}
      (hresource : resource = (Capture.ofParameters i.parameters .root).sourceResource) :
      Preliminary i (.call (.leafBundle resource))
  | destination {resource : String}
      (hresource : resource = (Capture.ofParameters i.parameters .root).destinationResource) :
      Preliminary i (.call (.leafBundle resource))
  /-- The nested query of the lifetime, its named tokens filled. -/
  | lifetime {text nested query : String} {c : Circumstances} {grid : Grid} {log mid : List Entry}
      (hgiven : i.parameters.get? "lifetime" = some (.text text))
      (hnested : Template.nestedQuery? text = some nested) (hknown : Knows i c)
      (hfilled : Template.fillNamed nested c grid log = (.done query, mid)) :
      Preliminary i (.call (.query query 1 .general))

/-- After these questions and no others, the iteration that the parameters ask for is ready. -/
structure Prepares (i : Invocation) (grid : Grid) (log : List Entry) (it : QueryIteration)
    (asked : List Entry) : Prop where
  done : iteration i grid log = (.done it, log ++ asked)
  asksFor : AsksFor i it
  fills : Fills i grid it.query (log ++ asked)
  preliminary : ∀ entry ∈ asked, Preliminary i entry

variable {i : Invocation} {grid : Grid} {log mid : List Entry}

/-! The questions -/

theorem Knows.fillNamed_addsOnly {c : Circumstances} (h : Knows i c) (query : String) :
    (Template.fillNamed query c).AddsOnly (Preliminary i) :=
  .fillNamed (.source h.sourceResource) (.destination h.destinationResource) query

theorem namesFor_addsOnly :
    (namesFor (Capture.ofParameters i.parameters .root).logicalPath).AddsOnly (Preliminary i) := by
  unfold namesFor
  split
  · exact .pure _
  · refine .bind (.mapError (.objectKind (.object rfl) (.collection rfl))) fun kind => ?_
    cases kind with
    | dataObject => exact .pure _
    | collection => exact .pure _
    | missing => exact .pure _

theorem cutoff_addsOnly {c : Circumstances} (hknown : Knows i c) :
    (cutoff i c).AddsOnly (Preliminary i) := by
  have hseconds {lifetime : Document} (hlifetime : i.parameters.get? "lifetime" = some lifetime) :
      (lifetimeSeconds i c lifetime).AddsOnly (Preliminary i) := by
    unfold lifetimeSeconds
    split
    · next hnested =>
      dsimp only
      obtain ⟨text, rfl⟩ : ∃ text, lifetime = .text text := by
        cases lifetime with
        | text text => exact ⟨text, rfl⟩
        | _ => cases hnested
      split
      · exact .fail _
      · next query hquery =>
        refine .bind ?_ fun first => ?_
        · refine .bind_of (.mapError (hknown.fillNamed_addsOnly query)) ?_
          intro filled grid log mid hfilled
          rw [Run.mapError_apply_eq_done] at hfilled
          exact .bind (.mapError (.queryRows (.lifetime hlifetime hquery hknown hfilled)))
            fun rows => .pure _
        · split
          · exact .pure _
          · exact .fail _
    · split
      · exact .pure _
      · exact .fail _
  unfold cutoff
  split
  · exact .pure _
  · next lifetime hlifetime => exact .bind (hseconds hlifetime) fun seconds => .pure _

/-- What becomes of the circumstances when the lifetime is known, they know as before. -/
theorem knows_of_circumstances {c : Circumstances}
    (h : circumstances i grid log = (.done c, mid)) : Knows i c ∧ c.currentTime = grid.now := by
  obtain ⟨names, _, -, h⟩ := Run.done_of_bind h
  obtain ⟨now, _, hnow, h⟩ := Run.done_of_bind h
  cases hnow
  obtain ⟨lifetime, _, -, h⟩ := Run.done_of_bind h
  cases h
  exact ⟨⟨rfl, rfl, rfl⟩, rfl⟩

theorem circumstances_addsOnly : (circumstances i).AddsOnly (Preliminary i) := by
  refine .bind namesFor_addsOnly fun names => ?_
  refine .bind .now fun now => ?_
  exact .bind (cutoff_addsOnly ⟨rfl, rfl, rfl⟩) fun lifetime => .pure _

/-- Before the query is ready no other questions are asked, whatever comes of it. -/
theorem iteration_addsOnly : (iteration i).AddsOnly (Preliminary i) := by
  have hchain : (chain i).AddsOnly (Preliminary i) := by
    unfold chain
    dsimp only
    split
    · exact .fail _
    split
    · exact .fail _
    split
    · exact .fail _
    · exact .pure _
  have hkind : (kind i).AddsOnly (Preliminary i) := by
    unfold kind
    split
    · exact .pure _
    · exact .fail _
  unfold iteration
  split
  · exact .fail _
  refine .bind hchain fun chained => ?_
  refine .bind hkind fun kind => ?_
  refine .bind_of circumstances_addsOnly fun c grid log mid hc => ?_
  have hknown := (knows_of_circumstances hc).1
  exact .bind (.mapError (hknown.fillNamed_addsOnly _)) fun filled => .pure _

/-! What it can fail with -/

theorem cutoff_answersIn (i : Invocation) (c : Circumstances) :
    (cutoff i c).AnswersIn fun e => ¬e.OfRows := by
  have hfirst (query : String) : (firstValue query c).AnswersIn fun e => ¬e.OfRows := by
    refine .bind (.mapError (Template.fillNamed_answersIn (by nofun) _ _)) fun filled => ?_
    exact .bind (.mapError (.queryRows (by nofun) _ _ _)) fun rows => .pure _
  have hseconds (lifetime : Document) :
      (lifetimeSeconds i c lifetime).AnswersIn fun e => ¬e.OfRows := by
    unfold lifetimeSeconds
    split
    · dsimp only
      split
      · exact .fail (by nofun)
      · refine .bind (hfirst _) fun first => ?_
        split
        · exact .pure _
        · exact .fail (by nofun)
    · split
      · exact .pure _
      · exact .fail (by nofun)
  unfold cutoff
  split
  · exact .pure _
  · exact .bind (hseconds _) fun seconds => .pure _

theorem circumstances_answersIn (i : Invocation) :
    (circumstances i).AnswersIn fun e => ¬e.OfRows := by
  have hnames (path : String) : (namesFor path).AnswersIn fun e => ¬e.OfRows := by
    unfold namesFor
    split
    · exact .pure _
    · refine .bind (.mapError (objectKind_answersIn (by nofun) path)) fun kind => ?_
      cases kind with
      | dataObject => exact .pure _
      | collection => exact .pure _
      | missing => exact .pure _
  refine .bind (hnames _) fun names => ?_
  refine .bind .now fun now => ?_
  exact .bind (cutoff_answersIn _ _) fun lifetime => .pure _

/-- The preparation gives an answer, and what it can fail with is nothing about rows. -/
theorem iteration_answersIn (i : Invocation) : (iteration i).AnswersIn fun e => ¬e.OfRows := by
  have hchain : (chain i).AnswersIn fun e => ¬e.OfRows := by
    unfold chain
    dsimp only
    split
    · exact .fail (by nofun)
    split
    · exact .fail (by nofun)
    split
    · exact .fail (by nofun)
    · exact .pure _
  have hkind : (kind i).AnswersIn fun e => ¬e.OfRows := by
    unfold kind
    split
    · exact .pure _
    · exact .fail (by nofun)
  unfold iteration
  split
  · exact .fail (by nofun)
  refine .bind hchain fun chained => ?_
  refine .bind hkind fun kind => ?_
  refine .bind (circumstances_answersIn i) fun c => ?_
  exact .bind (.mapError (Template.fillNamed_answersIn (by nofun) _ _)) fun filled => .pure _

/-! What is read -/

theorem listsRows (given : List Document) :
    ListsRows given ((given.filterMap Document.array?).map fun row => row.map Document.plain) := by
  induction given with
  | nil => exact .nil
  | cons d rest ih =>
    cases d with
    | array values => exact .row ih
    | null => exact .other nofun ih
    | flag => exact .other nofun ih
    | number => exact .other nofun ih
    | text => exact .other nofun ih
    | object => exact .other nofun ih

theorem own_of_orElse {value : Option Document} {own : Option Document}
    (h : Decode.orElse none Decode.anything value = some own) : Own value.toList own := by
  cases value with
  | none =>
    cases h
    exact .absent
  | some d =>
    cases d with
    | null =>
      cases h
      exact .null
    | _ =>
      cases h
      exact .given nofun

theorem text_of_required {value : Option Document} {policy : String}
    (h : Decode.required Decode.text value = some policy) : value.toList = [.text policy] := by
  obtain ⟨d, rfl, hd⟩ := Option.bind_eq_some_iff.mp h
  cases d with
  | text word =>
    cases hd
    rfl
  | _ => cases hd

theorem valuesAt_of_member {keys : List String} {fields : Fields} {value : Option Document}
    (h : (match fields.filter fun field => keys.contains field.1 with
      | [] => some none
      | [field] => some (some field.2)
      | _ => none) = some value) : valuesAt keys fields = value.toList := by
  unfold valuesAt
  split at h
  · next hnone =>
    cases h
    rw [hnone]
    rfl
  · next field hone =>
    cases h
    rw [hone]
    rfl
  · cases h

theorem entryOf_of_decode {entry : Document} {chained : ChainedPolicy}
    (h : ChainedPolicy.decode entry = some chained) : EntryOf entry chained := by
  obtain ⟨found, hfound, h⟩ := Option.bind_eq_some_iff.mp h
  split at h
  next name parameters configuration =>
    simp only [bind, Option.bind_eq_some_iff] at h
    obtain ⟨policy, hpolicy, own, hown, other, hother, h⟩ := h
    cases h
    have hname := text_of_required hpolicy
    have hparameters := own_of_orElse hown
    have hconfiguration := own_of_orElse hother
    unfold Decode.members at hfound
    split at hfound
    · next fields =>
      simp only [List.mapM_cons, List.mapM_nil, bind, Option.bind_eq_some_iff] at hfound
      obtain ⟨_, hfirst, _, ⟨_, hsecond, _, ⟨_, hthird, _, hnil, hlast⟩, hmore⟩,
        hmembers⟩ := hfound
      cases hnil
      cases hlast
      cases hmore
      cases hmembers
      rw [← valuesAt_of_member hfirst] at hname
      rw [← valuesAt_of_member hsecond] at hparameters
      rw [← valuesAt_of_member hthird] at hconfiguration
      exact .object hname hparameters hconfiguration
    · next items =>
      split at hfound
      · match items with
        | [] =>
          cases hfound
          cases hname
        | [first] =>
          cases hfound
          cases hname
          exact .array hparameters hconfiguration
        | [first, second] =>
          cases hfound
          cases hname
          exact .array hparameters hconfiguration
        | [first, second, third] =>
          cases hfound
          cases hname
          exact .array hparameters hconfiguration
        | _ :: _ :: _ :: _ :: rest => simp at hfound
      · cases hfound
    · cases hfound
  · cases h

theorem entriesOf_of_decoded {entries : List Document} {chained : List ChainedPolicy}
    (h : chained.map some = entries.map ChainedPolicy.decode) :
    List.Forall₂ EntryOf entries chained := by
  induction entries generalizing chained with
  | nil => exact List.map_eq_nil_iff.mp h ▸ .nil
  | cons entry rest ih =>
    cases chained with
    | nil => cases h
    | cons first more =>
      rw [List.map_cons, List.map_cons, List.cons.injEq] at h
      exact .cons (entryOf_of_decode h.1.symm) (ih h.2)

/-- The chain is the whole list, each entry read in its place. -/
theorem chain_silent : (chain i).Silent fun chained =>
    chained ≠ [] ∧ chained.map some = (chainEntries i.parameters).map ChainedPolicy.decode ∧
      ∀ c ∈ chained, c.policy ≠ "" := by
  unfold chain
  dsimp only
  split
  · exact .fail _
  next hfilled =>
  split
  · exact .fail _
  next decoded hdecoded =>
  split
  · exact .fail _
  next hnamed =>
  have hread := map_some_of_mapM hdecoded
  refine .pure ⟨?_, hread, ?_⟩
  · rintro rfl
    have hentries : chainEntries i.parameters = [] := List.map_eq_nil_iff.mp hread.symm
    exact hfilled (by rw [hentries]; rfl)
  · rw [List.findIdx?_eq_none_iff] at hnamed
    exact fun c hc => by simpa using hnamed c hc

theorem kind_silent : (kind i).Silent fun read =>
    QueryKind.parse ((i.parameters.filledField? "query_type").getD "") = .ok read := by
  unfold kind
  split
  · next hparsed => exact .pure hparsed
  · exact .fail _

theorem limit_of_read {parameters : Document} {n : Nat} (hn : n ≤ 4294967295)
    (h : parameters.integerField? "query_limit" = some (n : Int)) : limit parameters = n := by
  unfold limit
  rw [h]
  have hfits : (decide (0 ≤ (n : Int)) && decide ((n : Int) ≤ 4294967295)) = true := by
    simp only [Bool.and_eq_true, decide_eq_true_eq]
    omega
  simp only [hfits, ↓reduceIte, Int.toNat_natCast]

theorem limit_of_unread {parameters : Document} (h : ∀ n : Nat, n ≤ 4294967295 →
    parameters.integerField? "query_limit" ≠ some (n : Int)) : limit parameters = 0 := by
  unfold limit
  split
  · next n hn =>
    split
    · next hfits =>
      simp only [Bool.and_eq_true, decide_eq_true_eq] at hfits
      refine absurd hn ?_
      have hnat := h n.toNat (by omega)
      rwa [Int.toNat_of_nonneg hfits.1] at hnat
    · rfl
  · rfl

theorem defaultRows_of_given {parameters : Document} {given : List Document}
    (h : parameters.get? defaultRowsKey = some (.array given)) :
    ListsRows given (defaultRows parameters) := by
  unfold defaultRowsKey at h
  unfold defaultRows
  rw [h]
  exact listsRows given

theorem defaultRows_of_none {parameters : Document}
    (h : ∀ given, parameters.get? defaultRowsKey ≠ some (.array given)) :
    defaultRows parameters = [] := by
  unfold defaultRowsKey at h
  unfold defaultRows
  split
  · next given hgiven => exact absurd hgiven (h given)
  · rfl

theorem baseParameters_of_object {parameters : Document} {fields : Fields}
    (h : parameters.get? Key.parameters = some (.object fields)) :
    baseParameters parameters = fields := by
  unfold baseParameters
  rw [h]

theorem baseParameters_of_no_object {parameters : Document}
    (h : ∀ fields, parameters.get? Key.parameters ≠ some (.object fields)) :
    baseParameters parameters = parameters.fields := by
  unfold baseParameters
  split
  · next fields hfields => exact absurd hfields (h fields)
  · rfl

/-- An iteration that is ready has gone through all of its preparation. -/
theorem of_iteration {it : QueryIteration} (h : iteration i grid log = (.done it, mid)) :
    ∃ template chained kind c filled first second third,
      i.parameters.filledField? "query_string" = some template ∧
      chain i grid log = (.done chained, first) ∧
      QueryProcessor.kind i grid first = (.done kind, second) ∧
      circumstances i grid second = (.done c, third) ∧
      Template.fillNamed (Template.fillRow template (ownRow i.parameters)) c grid third =
        (.done filled, mid) ∧
      it = {
        query := filled
        limit := limit i.parameters
        kind
        workers := workers i.parameters
        chain := chained
        baseParameters := baseParameters i.parameters
        defaultConfiguration := (i.parameters.get? Key.configuration).getD .null
        stopOnError := i.parameters.flagField "stop_on_error"
        defaultRows := defaultRows i.parameters } := by
  unfold iteration at h
  cases htemplate : i.parameters.filledField? "query_string" with
  | none =>
    rw [htemplate] at h
    cases h
  | some template =>
    rw [htemplate] at h
    obtain ⟨chained, first, hchain, h⟩ := Run.done_of_bind h
    obtain ⟨kind, second, hkind, h⟩ := Run.done_of_bind h
    obtain ⟨c, third, hc, h⟩ := Run.done_of_bind h
    obtain ⟨filled, _, hfilled, h⟩ := Run.done_of_bind h
    cases h
    rw [Run.mapError_apply_eq_done] at hfilled
    exact ⟨template, chained, kind, c, filled, first, second, third, rfl, hchain, hkind, hc,
      hfilled, rfl⟩

/-- What is prepared is what the parameters ask for, and no other questions come before it. -/
theorem prepares_of_done {it : QueryIteration} (h : iteration i grid log = (.done it, mid)) :
    ∃ asked, mid = log ++ asked ∧ Prepares i grid log it asked := by
  obtain ⟨asked, hlog, hpreliminary⟩ := iteration_addsOnly (i := i) grid log
  rw [h] at hlog
  dsimp only at hlog
  subst hlog
  obtain ⟨template, chained, kind, c, filled, _, _, _, htemplate, hchain, hkind, hc, hfilled,
    rfl⟩ := of_iteration h
  obtain ⟨hlisted, hread, hnamed⟩ := chain_silent.of_done hchain
  obtain ⟨hknows, hnow⟩ := knows_of_circumstances hc
  refine ⟨asked, rfl, h, ?_, ⟨template, c, _, htemplate, hknows, hnow, hfilled⟩, hpreliminary⟩
  exact {
    listed := hlisted
    chain := entriesOf_of_decoded hread
    named := hnamed
    stops := Document.flagField_eq_true
    defaults := fun given => defaultRows_of_given
    noDefaults := defaultRows_of_none
    kind := kind_silent.of_done hkind
    limit := fun n => limit_of_read
    noLimit := limit_of_unread
    given := fun fields => baseParameters_of_object
    notGiven := baseParameters_of_no_object
    configuration := rfl }

end QueryProcessor

end GridPolicy
