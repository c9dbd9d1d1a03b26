import GridPolicy.Event.Classifier
import Mathlib.Data.List.Induction

/-!
# What a session remembers

A session is a function of the calls that were classified before. A call has one of
four effects on it, whatever becomes of the call itself, and the run of a list of
calls is the run of their effects. So the records in flight are those of the opens
that were not closed since, and the hierarchy operation is that of the last
resolution.
-/
namespace GridPolicy

/-- A call at an interception point. -/
structure HookCall where
  name : String
  arguments : CallArguments

/-- What a call does to a session. -/
inductive SessionEffect where
  | opens (handle : Handle) (input : DataObjectInput)
  | closes (handle : Handle)
  | resolves (operation : String)
  | nothing

namespace HookCall

/-- The operations that open an object. -/
def openOperations : List String :=
  ["data_obj_open", "data_obj_create", "data_obj_create_and_stat", "replica_open"]

/-- The operations that close an object. -/
def closeOperations : List String := ["data_obj_close", "replica_close"]

/-- The operations that move within an open object. -/
def seekOperations : List String := ["data_obj_lseek"]

/-- The handle that a call to one of the operations is for. -/
def handleFor? (operations : List String) (call : HookCall) : Option Handle :=
  (InterceptionPoint.parse? call.name).bind fun point =>
    if point.base ∈ operations then
      (Classifier.handleOf point call.arguments).toOption
    else none

/-- An open counts in any phase and with a handle only, a close once the operation
has succeeded or failed. -/
def effect (call : HookCall) : SessionEffect :=
  match InterceptionPoint.parse? call.name with
  | none => .nothing
  | some point =>
    if point.base ∈ openOperations then
      match call.arguments with
      | .opened input (some handle) => .opens handle input
      | _ => .nothing
    else if point.base ∈ closeOperations ∧ (point.phase = .post ∨ point.phase = .except) then
      match Classifier.handleOf point call.arguments with
      | .ok handle => .closes handle
      | .error _ => .nothing
    else if point.base = "resolve_hierarchy" then
      match call.arguments with
      | .hierarchyResolution operation => .resolves operation
      | _ => .nothing
    else .nothing

section

variable {call : HookCall} {point : InterceptionPoint} {handle : Handle}

theorem effect_of_open {input : DataObjectInput}
    (hpoint : InterceptionPoint.parse? call.name = some point)
    (hbase : point.base ∈ openOperations) (hinput : call.arguments = .opened input handle) :
    call.effect = .opens handle input := by
  simp [effect, hpoint, hbase, hinput]

theorem effect_of_close (hpoint : InterceptionPoint.parse? call.name = some point)
    (hbase : point.base ∈ closeOperations) (hphase : point.phase = .post ∨ point.phase = .except)
    (hhandle : Classifier.handleOf point call.arguments = .ok handle) :
    call.effect = .closes handle := by
  have hopen : point.base ∉ openOperations := by
    simp only [closeOperations, List.mem_cons, List.not_mem_nil, or_false] at hbase
    rcases hbase with hbase | hbase <;> rw [hbase] <;> decide
  simp [effect, hpoint, hopen, hbase, hphase, hhandle]

theorem effect_of_resolve {operation : String}
    (hpoint : InterceptionPoint.parse? call.name = some point)
    (hbase : point.base = "resolve_hierarchy")
    (hoperation : call.arguments = .hierarchyResolution operation) :
    call.effect = .resolves operation := by
  simp [effect, hpoint, hbase, hoperation, openOperations, closeOperations]

end

end HookCall

/-- What an effect leaves of a session. -/
def Session.apply (s : Session) : SessionEffect → Session
  | .opens handle input => s.track handle (Classifier.objectRecord input)
  | .closes handle => s.release handle
  | .resolves operation => s.setHierarchyOperation (Text.trim operation)
  | .nothing => s

namespace Classifier

variable {s : Session} {point : InterceptionPoint} {arguments : CallArguments}

theorem handle_of_open (h : point.base ∈ HookCall.openOperations) :
    handle s point arguments = openObject s point arguments := by
  simp only [HookCall.openOperations, List.mem_cons, List.not_mem_nil, or_false] at h
  rcases h with h | h | h | h <;> simp [handle, h]

theorem handle_of_close (h : point.base ∈ HookCall.closeOperations) :
    handle s point arguments = closeObject s point arguments := by
  simp only [HookCall.closeOperations, List.mem_cons, List.not_mem_nil, or_false] at h
  rcases h with h | h <;> simp [handle, h]

theorem handle_of_seek (h : point.base ∈ HookCall.seekOperations) :
    handle s point arguments = (s, seekObject s point arguments) := by
  simp only [HookCall.seekOperations, List.mem_cons, List.not_mem_nil, or_false] at h
  simp [handle, h]

theorem handle_of_resolve (h : point.base = "resolve_hierarchy") :
    handle s point arguments = resolveHierarchy s point arguments := by
  simp [handle, h]

/-- No other operation touches the session. -/
theorem handle_session_of_other (hopen : point.base ∉ HookCall.openOperations)
    (hclose : point.base ∉ HookCall.closeOperations)
    (hresolve : point.base ≠ "resolve_hierarchy") : (handle s point arguments).1 = s := by
  simp only [HookCall.openOperations, HookCall.closeOperations, List.mem_cons,
    List.not_mem_nil, or_false, not_or] at hopen hclose
  unfold handle
  split <;> simp_all
  split <;> rfl

theorem resolveHierarchy_session : (resolveHierarchy s point arguments).1 =
    s.apply (match arguments with
      | .hierarchyResolution operation => .resolves operation
      | _ => .nothing) := by
  cases arguments <;> rfl

theorem openObject_session : (openObject s point arguments).1 =
    s.apply (match arguments with
      | .opened input (some handle) => .opens handle input
      | _ => .nothing) := by
  cases arguments with
  | opened input handle => cases handle <;> rfl
  | _ => rfl

theorem closeObject_session : (closeObject s point arguments).1 =
    s.apply (if point.phase = .post ∨ point.phase = .except then
      match handleOf point arguments with
      | .ok handle => .closes handle
      | .error _ => .nothing
    else .nothing) := by
  unfold closeObject
  cases handleOf point arguments with
  | error e => cases point.phase <;> rfl
  | ok handle =>
    dsimp only
    cases point.phase <;> cases s.peek? handle <;> rfl

end Classifier

namespace Session

/-- The session after a call. -/
def after (s : Session) (call : HookCall) : Session := (classify s call.name call.arguments).1

/-- What the call is classified as. -/
def reports (s : Session) (call : HookCall) : Except ClassifierError (List ClassifiedEvent) :=
  (classify s call.name call.arguments).2

/-- The session after a list of calls. -/
def replay (s : Session) (calls : List HookCall) : Session := calls.foldl after s

theorem replay_snoc (s : Session) (calls : List HookCall) (call : HookCall) :
    s.replay (calls ++ [call]) = (s.replay calls).after call := by simp [replay]

/-- A call changes the session by its effect and not otherwise. -/
theorem after_eq_apply (s : Session) (call : HookCall) : s.after call = s.apply call.effect := by
  unfold after classify HookCall.effect
  cases InterceptionPoint.parse? call.name with
  | none => rfl
  | some point =>
    dsimp only
    by_cases hopen : point.base ∈ HookCall.openOperations
    · rw [Classifier.handle_of_open hopen, if_pos hopen, Classifier.openObject_session]
    rw [if_neg hopen]
    by_cases hclose : point.base ∈ HookCall.closeOperations
    · have hresolve : point.base ≠ "resolve_hierarchy" := by
        intro h
        rw [h] at hclose
        exact absurd hclose (by decide)
      rw [Classifier.handle_of_close hclose, Classifier.closeObject_session]
      simp only [hclose, true_and, if_neg hresolve]
    · simp only [hclose, false_and, ↓reduceIte]
      by_cases hresolve : point.base = "resolve_hierarchy"
      · rw [Classifier.handle_of_resolve hresolve, if_pos hresolve,
          Classifier.resolveHierarchy_session]
      · rw [Classifier.handle_session_of_other hopen hclose hresolve, if_neg hresolve]
        rfl

end Session

/-- In the list the value is the last: a member brings it, and no later one ends it. -/
def Latest {α β : Type} (brings : α → β → Prop) (ends : α → Prop) (items : List α) (b : β) :
    Prop :=
  ∃ before a after, items = before ++ a :: after ∧ brings a b ∧ ∀ later ∈ after, ¬ ends later

theorem not_latest_nil {α β : Type} {brings : α → β → Prop} {ends : α → Prop} {b : β} :
    ¬ Latest brings ends [] b := by
  rintro ⟨before, a, after, hitems, -⟩
  simp at hitems

theorem latest_snoc {α β : Type} {brings : α → β → Prop} {ends : α → Prop} {items : List α}
    {a : α} {b : β} : Latest brings ends (items ++ [a]) b ↔
      brings a b ∨ (¬ ends a ∧ Latest brings ends items b) := by
  constructor
  · rintro ⟨before, c, after, hitems, hbrings, hends⟩
    rcases List.eq_nil_or_concat after with rfl | ⟨rest, last, rfl⟩
    · obtain ⟨-, hlast⟩ := List.append_inj' hitems rfl
      rw [List.cons.injEq] at hlast
      exact .inl (hlast.1 ▸ hbrings)
    · have hsplit : items ++ [a] = (before ++ c :: rest) ++ [last] := by simpa using hitems
      obtain ⟨hrest, hlast⟩ := List.append_inj' hsplit rfl
      rw [List.cons.injEq] at hlast
      refine .inr ⟨?_, before, c, rest, hrest, hbrings, ?_⟩
      · rw [hlast.1]
        exact hends last (by simp)
      · exact fun later hlater => hends later (by simp [hlater])
  · rintro (hbrings | ⟨hends, before, c, after, rfl, hbrings, hafter⟩)
    · exact ⟨items, a, [], rfl, hbrings, by simp⟩
    · refine ⟨before, c, after ++ [a], by simp, hbrings, ?_⟩
      intro later hlater
      rcases List.mem_append.mp hlater with hlater | hlater
      · exact hafter later hlater
      · exact List.mem_singleton.mp hlater ▸ hends

namespace HookCall

/-- The call opens the handle with this input. -/
def Opens (handle : Handle) (call : HookCall) (input : DataObjectInput) : Prop :=
  call.effect = .opens handle input

def Closes (handle : Handle) (call : HookCall) : Prop := call.effect = .closes handle

/-- The call resolves a hierarchy to this operation, without the blanks around it. -/
def Resolves (call : HookCall) (operation : String) : Prop :=
  ∃ text, call.effect = .resolves text ∧ operation = Text.trim text

/-- The input that a handle was last opened with, and not closed since. -/
def LastOpen (handle : Handle) (calls : List HookCall) (input : DataObjectInput) : Prop :=
  Latest (Opens handle) (fun later => (∃ input, Opens handle later input) ∨ Closes handle later)
    calls input

end HookCall

namespace Session

theorem peek?_after (s : Session) (call : HookCall) (handle : Handle) (record : EventRecord) :
    (s.after call).peek? handle = some record ↔
      (∃ input, call.Opens handle input ∧ record = Classifier.objectRecord input) ∨
      ((¬ ((∃ input, call.Opens handle input) ∨ call.Closes handle)) ∧
        s.peek? handle = some record) := by
  rw [after_eq_apply]
  unfold HookCall.Opens HookCall.Closes
  cases call.effect with
  | opens other input =>
    by_cases h : handle = other
    · subst h
      simp [apply, eq_comm]
    · have hne : ¬ other = handle := fun e => h e.symm
      simp [apply, h, hne]
  | closes other =>
    by_cases h : handle = other
    · subst h
      simp [apply]
    · have hne : ¬ other = handle := fun e => h e.symm
      simp [apply, h, hne]
  | resolves text => simp [apply]
  | nothing => simp [apply]

/-- The records in flight are those of the inputs that were opened last. -/
theorem peek?_replay (client : ClientInfo) (calls : List HookCall) (handle : Handle)
    (record : EventRecord) : ((start client).replay calls).peek? handle = some record ↔
      ∃ input, HookCall.LastOpen handle calls input ∧
        record = Classifier.objectRecord input := by
  induction calls using List.reverseRecOn with
  | nil => simp [replay, HookCall.LastOpen, not_latest_nil]
  | append_singleton calls call ih =>
    rw [replay_snoc, peek?_after, ih]
    simp only [HookCall.LastOpen, latest_snoc]
    constructor
    · rintro (⟨input, hopens, hrecord⟩ | ⟨hkeeps, input, hlast, hrecord⟩)
      · exact ⟨input, .inl hopens, hrecord⟩
      · exact ⟨input, .inr ⟨hkeeps, hlast⟩, hrecord⟩
    · rintro ⟨input, hopens | ⟨hkeeps, hlast⟩, hrecord⟩
      · exact .inl ⟨input, hopens, hrecord⟩
      · exact .inr ⟨hkeeps, input, hlast, hrecord⟩

/-- A handle is in flight from an open of it to the next close. -/
theorem inFlight_replay (client : ClientInfo) (calls : List HookCall) (handle : Handle) :
    (((start client).replay calls).peek? handle).isSome ↔
      ∃ input, Latest (HookCall.Opens handle) (HookCall.Closes handle) calls input := by
  induction calls using List.reverseRecOn with
  | nil => simp [replay, not_latest_nil]
  | append_singleton calls call ih =>
    simp only [Option.isSome_iff_exists] at ih ⊢
    simp only [replay_snoc, peek?_after, latest_snoc]
    constructor
    · rintro ⟨record, ⟨input, hopens, -⟩ | ⟨hkeeps, hrecord⟩⟩
      · exact ⟨input, .inl hopens⟩
      · obtain ⟨input, hlatest⟩ := ih.mp ⟨record, hrecord⟩
        exact ⟨input, .inr ⟨fun hcloses => hkeeps (.inr hcloses), hlatest⟩⟩
    · rintro ⟨input, hopens | ⟨hkeeps, hlatest⟩⟩
      · exact ⟨_, .inl ⟨input, hopens, rfl⟩⟩
      · -- an open of a handle in flight replaces its record
        by_cases hreopens : ∃ input, call.Opens handle input
        · obtain ⟨reopened, hopens⟩ := hreopens
          exact ⟨_, .inl ⟨reopened, hopens, rfl⟩⟩
        · obtain ⟨record, hrecord⟩ := ih.mpr ⟨input, hlatest⟩
          exact ⟨record, .inr ⟨not_or.mpr ⟨hreopens, hkeeps⟩, hrecord⟩⟩

theorem hierarchyOperation_after (s : Session) (call : HookCall) (operation : String) :
    (s.after call).hierarchyOperation = some operation ↔
      call.Resolves operation ∨
      ((¬ ∃ other, call.Resolves other) ∧ s.hierarchyOperation = some operation) := by
  rw [after_eq_apply]
  unfold HookCall.Resolves
  cases call.effect with
  | resolves text => simp [apply, setHierarchyOperation, eq_comm]
  | opens handle input => simp [apply, track]
  | closes handle => simp [apply, release]
  | nothing => simp [apply]

/-- The hierarchy operation is that of the last resolution. -/
theorem hierarchyOperation_replay (client : ClientInfo) (calls : List HookCall)
    (operation : String) : ((start client).replay calls).hierarchyOperation = some operation ↔
      Latest HookCall.Resolves (fun later => ∃ other, later.Resolves other) calls
        operation := by
  induction calls using List.reverseRecOn with
  | nil => simp [replay, start, not_latest_nil]
  | append_singleton calls call ih => rw [replay_snoc, hierarchyOperation_after, latest_snoc, ih]

theorem client_apply (s : Session) (effect : SessionEffect) :
    (s.apply effect).client = s.client := by
  cases effect <;> rfl

@[simp] theorem client_replay (s : Session) (calls : List HookCall) :
    (s.replay calls).client = s.client := by
  induction calls using List.reverseRecOn with
  | nil => rfl
  | append_singleton calls call ih => rw [replay_snoc, after_eq_apply, client_apply, ih]

end Session

end GridPolicy
