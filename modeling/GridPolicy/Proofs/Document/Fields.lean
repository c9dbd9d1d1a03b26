import GridPolicy.Document.Decode
import Mathlib.Data.List.Nodup

/-!
# The fields of an object

An object has no key twice. Its fields are then a finite map: to lay one object over
another is to look a key up in the upper one first, and to decode the members of a
record is to look up their names.
-/
namespace GridPolicy

namespace Fields

variable {fields base top : Fields} {key other : String} {value : Document}

/-- No key stands twice. -/
def Distinct (fields : Fields) : Prop := (fields.map Prod.fst).Nodup

instance : DecidablePred Distinct := fun fields =>
  inferInstanceAs (Decidable (fields.map Prod.fst).Nodup)

theorem get?_cons (key k : String) (v : Document) (fields : Fields) :
    get? key ((k, v) :: fields) = if k = key then some v else fields.get? key := rfl

theorem get?_eq_none : fields.get? key = none ↔ key ∉ fields.map Prod.fst := by
  induction fields with
  | nil => simp
  | cons field rest ih =>
    obtain ⟨k, v⟩ := field
    by_cases h : k = key
    · simp [get?_cons, h]
    · simp [get?_cons, h, ih, Ne.symm h]

theorem get?_append (fields more : Fields) (key : String) :
    get? key (fields ++ more) = (fields.get? key).or (more.get? key) := by
  induction fields with
  | nil => rfl
  | cons field rest ih =>
    obtain ⟨k, v⟩ := field
    rw [List.cons_append, get?_cons, get?_cons, ih]
    split <;> rfl

theorem Distinct.tail {field : String × Document} (h : Distinct (field :: fields)) :
    fields.Distinct := (List.nodup_cons.mp h).2

theorem Distinct.get?_head {k : String} {v : Document} (h : Distinct ((k, v) :: fields)) :
    fields.get? k = none := get?_eq_none.mpr (List.nodup_cons.mp h).1

theorem mem_keys_insert :
    other ∈ (fields.insert key value).map Prod.fst ↔ other = key ∨ other ∈ fields.map Prod.fst := by
  have h := get?_insert key other value fields
  rw [← not_iff_not, not_or, ← get?_eq_none, ← get?_eq_none, h]
  split <;> simp_all

theorem mem_of_get? (h : fields.get? key = some value) : (key, value) ∈ fields := by
  induction fields with
  | nil => cases h
  | cons field rest ih =>
    obtain ⟨k, v⟩ := field
    rw [get?_cons] at h
    split at h
    · next heq =>
      cases h
      simp [heq]
    · exact List.mem_cons_of_mem _ (ih h)

/-- The keys stand in ascending order, as they do in every object that is built here. -/
def Ordered (fields : Fields) : Prop := (fields.map Prod.fst).Pairwise (· < ·)

theorem Ordered.distinct (h : fields.Ordered) : fields.Distinct := h.imp fun hlt => Std.ne_of_lt hlt

theorem Ordered.insert (h : fields.Ordered) (key : String) (value : Document) :
    (fields.insert key value).Ordered := by
  induction fields with
  | nil => simp [Fields.insert, Ordered]
  | cons field rest ih =>
    obtain ⟨k, v⟩ := field
    obtain ⟨hfirst, hrest⟩ := List.pairwise_cons.mp h
    rw [Fields.insert]
    split
    · next heq =>
      subst heq
      exact List.pairwise_cons.mpr ⟨hfirst, hrest⟩
    · next hne =>
      split
      · next hlt =>
        refine List.pairwise_cons.mpr ⟨fun other hother => ?_, h⟩
        rcases List.mem_cons.mp hother with rfl | hother
        · exact hlt
        · exact String.lt_trans hlt (hfirst other hother)
      · next hge =>
        refine List.pairwise_cons.mpr ⟨fun other hother => ?_, ih hrest⟩
        rcases mem_keys_insert.mp hother with rfl | hother
        · exact Std.lt_of_le_of_ne (String.not_lt.mp hge) hne
        · exact hfirst other hother

theorem Ordered.overlay (h : base.Ordered) (top : Fields) : (base.overlay top).Ordered := by
  induction top generalizing base with
  | nil => exact h
  | cons field rest ih => exact ih (h.insert field.1 field.2)

theorem ordered_ofList (fields : List (String × Document)) : (ofList fields).Ordered := by
  have hempty : Ordered [] := .nil
  exact hempty.overlay fields

/-- What the upper object does not have is looked up in the lower one. -/
theorem get?_overlay (h : top.Distinct) (base : Fields) (key : String) :
    (overlay base top).get? key = (top.get? key).or (base.get? key) := by
  induction top generalizing base with
  | nil => rfl
  | cons field rest ih =>
    obtain ⟨k, v⟩ := field
    have hrest : (overlay base ((k, v) :: rest)).get? key =
        (get? key rest).or ((base.insert k v).get? key) := ih h.tail (base.insert k v)
    rw [hrest, get?_insert, get?_cons]
    by_cases hkey : key = k
    · subst hkey
      simp [h.get?_head]
    · simp [hkey, Ne.symm hkey]

theorem get?_ofList (h : Distinct fields) (key : String) :
    (ofList fields).get? key = fields.get? key := by
  rw [ofList, get?_overlay h, get?_nil, Option.or_none]

/-- The fields of a key are the one that is found, if one is. -/
theorem filter_key (h : fields.Distinct) (key : String) :
    fields.filter (fun field => [key].contains field.1) =
      ((fields.get? key).map fun value => (key, value)).toList := by
  induction fields with
  | nil => rfl
  | cons field rest ih =>
    obtain ⟨k, v⟩ := field
    rw [List.filter_cons, ih h.tail, get?_cons]
    by_cases hkey : k = key
    · subst hkey
      simp [h.get?_head]
    · simp [hkey]

end Fields

/-- Members of one name each are looked up. -/
theorem Decode.members_object {fields : Fields} (h : fields.Distinct) (names : List String) :
    Decode.members (names.map fun name => [name]) (.object fields) =
      some (names.map fun name => fields.get? name) := by
  rw [Decode.members]
  induction names with
  | nil => rfl
  | cons name rest ih =>
    rw [List.map_cons, List.mapM_cons, Fields.filter_key h, ih]
    cases hname : fields.get? name <;> simp [hname]

end GridPolicy
