import GridPolicy.Policy.Builtin
import GridPolicy.Proofs.Run.Additions

/-!
# Invoking the built-in policies

The built-in policies have different names, so each is found under its own, and
to invoke one by name is to run its body. A missing configuration reads as an
empty one, field by field.
-/
namespace GridPolicy

namespace Registry

theorem find?_foldl_register_of_not_mem {policies : List Policy} {registry : Registry}
    {name : String} (h : name ∉ policies.map (·.name)) :
    (policies.foldl register registry).find? name = registry.find? name := by
  induction policies generalizing registry with
  | nil => rfl
  | cons p r ih =>
    rw [List.map_cons, List.mem_cons, not_or] at h
    rw [List.foldl_cons, ih h.2, find?_register_of_ne registry p h.1]

theorem find?_foldl_register {policies : List Policy} {registry : Registry}
    (hnames : (policies.map (·.name)).Nodup) {p : Policy} (hp : p ∈ policies) :
    (policies.foldl register registry).find? p.name = some p := by
  induction policies generalizing registry with
  | nil => cases hp
  | cons q r ih =>
    rw [List.map_cons, List.nodup_cons] at hnames
    rw [List.foldl_cons]
    rcases List.mem_cons.mp hp with rfl | hp
    · rw [find?_foldl_register_of_not_mem hnames.1, find?_register_self]
    · exact ih hnames.2 hp

theorem builtin_names_nodup : (builtinPolicies.map (·.name)).Nodup := by decide

theorem find?_builtin {p : Policy} (hp : p ∈ builtinPolicies) : builtin.find? p.name = some p := by
  unfold builtin ofList
  exact find?_foldl_register builtin_names_nodup hp

theorem mem_of_find?_builtin {name : String} {p : Policy} (h : builtin.find? name = some p) :
    p ∈ builtinPolicies ∧ p.name = name := by
  by_cases hname : name ∈ builtinPolicies.map (·.name)
  · obtain ⟨q, hq, rfl⟩ := List.mem_map.mp hname
    rw [find?_builtin hq, Option.some.injEq] at h
    exact h ▸ ⟨hq, rfl⟩
  · have hnone : builtin.find? name = none := find?_foldl_register_of_not_mem hname
    exact absurd (h.symm.trans hnone) nofun

/-- What a built-in policy of that name does is to run its own body. -/
theorem invoke_builtin {name : String} {body : Invoker → Invocation → Run PolicyError Document}
    (hp : ⟨name, body⟩ ∈ builtinPolicies) (depth : Nat) (parameters configuration : Document) :
    builtin.invoke (depth + 1) name parameters configuration =
      body (builtin.invoke depth)
        ⟨name, parameters, Policy.effectiveConfiguration configuration⟩ := by
  have hfind := find?_builtin hp
  dsimp only at hfind
  simp only [invoke, hfind, Policy.run]

end Registry

/-- The log of one invocation by name among the built-in policies, from a log
without entries on. -/
def builtinLog (depth : Nat) (grid : Grid) (policy : String)
    (parameters configuration : Document) : List Entry :=
  (Registry.builtin.invoke depth policy parameters configuration grid []).2

/-- What holds of the empty log and of whatever the body of a policy adds to it holds
of the log of its invocation: without depth nothing is invoked. -/
theorem builtinLog_of_yields {name : String}
    {body : Invoker → Invocation → Run PolicyError Document}
    (hp : ⟨name, body⟩ ∈ builtinPolicies) {grid : Grid} {parameters configuration : Document}
    {Q : List Entry → Prop} (hnil : Q [])
    (hbody : ∀ depth, (body (Registry.builtin.invoke depth)
      ⟨name, parameters, Policy.effectiveConfiguration configuration⟩).Yields grid []
        fun _ added => Q added) (depth : Nat) :
    Q (builtinLog depth grid name parameters configuration) := by
  cases depth with
  | zero => exact hnil
  | succ depth =>
    obtain ⟨added, hlog, hadded⟩ := hbody depth
    unfold builtinLog
    rw [Registry.invoke_builtin hp, hlog, List.nil_append]
    exact hadded

namespace Policy

@[simp] theorem effectiveConfiguration_idem (configuration : Document) :
    effectiveConfiguration (effectiveConfiguration configuration) =
      effectiveConfiguration configuration := by
  cases configuration <;> rfl

@[simp] theorem get?_effectiveConfiguration (configuration : Document) (key : String) :
    (effectiveConfiguration configuration).get? key = configuration.get? key := by
  cases configuration <;> rfl

@[simp] theorem filledField?_effectiveConfiguration (configuration : Document) (key : String) :
    (effectiveConfiguration configuration).filledField? key = configuration.filledField? key := by
  simp [Document.filledField?, Document.textField?]

end Policy

end GridPolicy
