import GridPolicy.Document.Decode
import GridPolicy.Document.Field

/-!
# Sizes of documents

A document is larger than what stands in it. Two fields stand side by side in an object,
so their values together are smaller than the object; the members that typed data is read
from are as large as they are written.
-/
namespace GridPolicy

mutual

/-- How many documents stand in a document, itself included. -/
def Document.size : Document → Nat
  | .array items => itemsSize items + 1
  | .object fields => fieldsSize fields + 1
  | .null => 1
  | .flag _ => 1
  | .number _ => 1
  | .text _ => 1

def itemsSize : List Document → Nat
  | [] => 0
  | d :: r => d.size + itemsSize r

def fieldsSize : List (String × Document) → Nat
  | [] => 0
  | (_, d) :: r => d.size + fieldsSize r

end

mutual

/-- What is not finite is as large as what takes its place. -/
theorem Document.size_finite : (d : Document) → d.finite.size = d.size
  | .array items => by
    rw [Document.finite, Document.size, Document.size, itemsSize_finiteItems items]
  | .object fields => by
    rw [Document.finite, Document.size, Document.size, fieldsSize_finiteFields fields]
  | .number (.real x) => by
    unfold Document.finite
    split <;> rfl
  | .number (.whole _) => rfl
  | .null => rfl
  | .flag _ => rfl
  | .text _ => rfl

theorem itemsSize_finiteItems : (items : List Document) →
    itemsSize (finiteItems items) = itemsSize items
  | [] => rfl
  | d :: r => by rw [finiteItems, itemsSize, itemsSize, d.size_finite, itemsSize_finiteItems r]

theorem fieldsSize_finiteFields : (fields : List (String × Document)) →
    fieldsSize (finiteFields fields) = fieldsSize fields
  | [] => rfl
  | (_, d) :: r => by
    rw [finiteFields, fieldsSize, fieldsSize, d.size_finite, fieldsSize_finiteFields r]

end

namespace Document

/-- The size of a document, if there is one. -/
def size? : Option Document → Nat
  | none => 0
  | some d => d.size

@[simp] theorem size?_none : size? none = 0 := rfl

@[simp] theorem size?_some (d : Document) : size? (some d) = d.size := rfl

theorem size_pos (d : Document) : 0 < d.size := by cases d <;> simp [size]

theorem size?_or_le (d d' : Option Document) : size? (d.or d') ≤ size? d + size? d' := by
  cases d <;> simp

end Document

open Document (size?)

theorem size_le_itemsSize {items : List Document} {d : Document} (h : d ∈ items) :
    d.size ≤ itemsSize items := by
  induction items with
  | nil => cases h
  | cons first rest ih =>
    rw [itemsSize]
    rcases List.mem_cons.mp h with rfl | h
    · omega
    · exact Nat.le_trans (ih h) (Nat.le_add_left ..)

theorem Fields.size_le_of_mem {fields : Fields} {field : String × Document}
    (h : field ∈ fields) : field.2.size ≤ fieldsSize fields := by
  induction fields with
  | nil => cases h
  | cons first rest ih =>
    rw [fieldsSize]
    rcases List.mem_cons.mp h with rfl | h
    · exact Nat.le_add_right ..
    · exact Nat.le_trans (ih h) (Nat.le_add_left ..)

theorem Fields.size?_le (key : String) (fields : Fields) :
    size? (fields.get? key) ≤ fieldsSize fields := by
  induction fields with
  | nil => exact Nat.zero_le _
  | cons field rest ih =>
    obtain ⟨k, v⟩ := field
    rw [get?, fieldsSize]
    split
    · exact Nat.le_add_right ..
    · exact Nat.le_trans ih (Nat.le_add_left ..)

/-- The values of two fields stand side by side. -/
theorem Fields.size?_add_le {key other : String} (hne : key ≠ other) (fields : Fields) :
    size? (fields.get? key) + size? (fields.get? other) ≤ fieldsSize fields := by
  induction fields with
  | nil => simp [Fields.get?]
  | cons field rest ih =>
    obtain ⟨k, v⟩ := field
    rw [get?, get?, fieldsSize]
    by_cases hkey : k = key
    · have h := size?_le other rest
      rw [if_pos hkey, if_neg (hkey ▸ hne), Document.size?_some]
      omega
    · rw [if_neg hkey]
      split
      · rw [Document.size?_some]
        omega
      · omega

namespace Document

theorem size?_get?_lt (d : Document) (key : String) : size? (d.get? key) < d.size := by
  have h := Fields.size?_le key d.fields
  unfold get?
  cases d with
  | object fields => exact Nat.lt_succ_of_le h
  | _ => exact size_pos _

theorem size?_add_lt {key other : String} (hne : key ≠ other) (d : Document) :
    size? (d.get? key) + size? (d.get? other) < d.size := by
  have h := Fields.size?_add_le hne d.fields
  unfold get?
  cases d with
  | object fields => exact Nat.lt_succ_of_le h
  | _ => exact size_pos _

end Document

/-! What typed data is read from -/

/-- What is read from a list is read from its members, each in its place. -/
theorem map_some_of_mapM {α β : Type} {f : α → Option β} {as : List α} {bs : List β}
    (h : as.mapM f = some bs) : bs.map some = as.map f := by
  induction as generalizing bs with
  | nil =>
    cases h
    rfl
  | cons a rest ih =>
    simp only [List.mapM_cons, Option.bind_eq_bind, Option.bind_eq_some_iff] at h
    obtain ⟨first, hfirst, more, hmore, heq⟩ := h
    cases heq
    rw [List.map_cons, List.map_cons, ih hmore, hfirst]

theorem exists_of_mem_mapM {α β : Type} {f : α → Option β} {as : List α} {bs : List β} {b : β}
    (h : as.mapM f = some bs) (hb : b ∈ bs) : ∃ a ∈ as, f a = some b := by
  have hread : some b ∈ as.map f := map_some_of_mapM h ▸ List.mem_map_of_mem hb
  exact List.mem_map.mp hread

/-- A member is the value of a field or an item. -/
theorem Decode.mem_of_members {names : List (List String)} {d v : Document}
    {found : List (Option Document)} (h : members names d = some found) (hv : some v ∈ found) :
    (∃ (fields : Fields) (key : String), d = .object fields ∧ (key, v) ∈ fields) ∨
      ∃ items, d = .array items ∧ v ∈ items := by
  unfold members at h
  split at h
  · next fields =>
    obtain ⟨spellings, -, hmember⟩ := exists_of_mem_mapM h hv
    split at hmember
    · cases hmember
    · next field hfield =>
      cases hmember
      have hmem := (List.mem_filter.mp (hfield ▸ List.mem_singleton_self field)).1
      exact .inl ⟨fields, field.1, rfl, hmem⟩
    · cases hmember
  · next items =>
    split at h
    · cases h
      rcases List.mem_append.mp hv with hv | hv
      · obtain ⟨item, hitem, heq⟩ := List.mem_map.mp hv
        cases heq
        exact .inr ⟨items, rfl, hitem⟩
      · cases List.eq_of_mem_replicate hv
    · cases h
  · cases h

theorem Decode.size_of_members {names : List (List String)} {d v : Document}
    {found : List (Option Document)} (h : members names d = some found) (hv : some v ∈ found) :
    v.size < d.size := by
  rcases mem_of_members h hv with ⟨fields, key, rfl, hmem⟩ | ⟨items, rfl, hmem⟩
  · exact Nat.lt_succ_of_le (Fields.size_le_of_mem hmem)
  · exact Nat.lt_succ_of_le (size_le_itemsSize hmem)

theorem Decode.size_of_anything {m r : Option Document} (h : orElse none anything m = some r) :
    size? r ≤ size? m := by
  cases m with
  | none =>
    cases h
    exact Nat.le_refl _
  | some d =>
    cases d <;> cases h <;> simp [Document.size_finite]

end GridPolicy
