import GridPolicy.Policy.Chain
import GridPolicy.Proofs.Document.Size
import GridPolicy.Query.Iteration
import Mathlib.Algebra.Ring.Nat

/-!
# The weight of a chain

The entries of a chain are listed in one of two fields. Of each a part may go to the policy
that is invoked: its parameters or its configuration. The weight of the chain by such a
part is less than the field that it is listed in, and more than the part of any entry.
-/
namespace GridPolicy

open Document (size?)

/-- A part of the entries that is smaller than they are, and that an entry which is only a
name does not have. -/
structure IsPart (part : Document → Option Document) : Prop where
  lt : ∀ entry, size? (part entry) < entry.size
  bare : ∀ name, part (.object [(singleEntryKey, .text name)]) = none

/-- The weight of the entries that are listed in a document, by a part of them. -/
def chainWeight (part : Document → Option Document) (d : Document) : Nat :=
  ((chainEntries d).map fun entry => size? (part entry) + 1).sum

section

variable {part : Document → Option Document} {d : Document}

theorem le_chainWeight (part : Document → Option Document) {entry : Document}
    (h : entry ∈ chainEntries d) :
    size? (part entry) + 1 ≤ chainWeight part d := by
  obtain ⟨before, after, hsplit⟩ := List.append_of_mem h
  rw [chainWeight, hsplit, List.map_append, List.map_cons, List.sum_append, List.sum_cons]
  omega

/-- The entries stand in one of two fields. -/
theorem chainWeight_le (hpart : IsPart part) (d : Document) :
    ∃ key, (key = Key.policiesToInvoke ∨ key = singleEntryKey) ∧
      chainWeight part d ≤ size? (d.get? key) := by
  have hitems (items : List Document) :
      (items.map fun entry => size? (part entry) + 1).sum ≤ itemsSize items := by
    induction items with
    | nil => simp [itemsSize]
    | cons entry rest ih =>
      have := hpart.lt entry
      rw [List.map_cons, List.sum_cons, itemsSize]
      omega
  have hone (fields : Fields) : ([Document.object fields].map fun entry =>
      size? (part entry) + 1).sum ≤ (Document.object fields).size := by
    have := hpart.lt (.object fields)
    simp only [List.map_cons, List.map_nil, List.sum_cons, List.sum_nil]
    omega
  unfold chainWeight chainEntries
  split
  · next items h =>
    refine ⟨_, .inl rfl, ?_⟩
    rw [h]
    exact Nat.le_succ_of_le (hitems items)
  · next fields h =>
    refine ⟨_, .inl rfl, ?_⟩
    rw [h]
    exact hone fields
  · split
    · next name h =>
      refine ⟨_, .inr rfl, ?_⟩
      rw [h]
      simp [hpart.bare, Document.size]
    · next fields h =>
      refine ⟨_, .inr rfl, ?_⟩
      rw [h]
      exact hone fields
    · exact ⟨_, .inl rfl, Nat.zero_le _⟩

theorem chainWeight_lt_size (hpart : IsPart part) (d : Document) :
    chainWeight part d < d.size := by
  obtain ⟨key, -, hle⟩ := chainWeight_le hpart d
  exact Nat.lt_of_le_of_lt hle (d.size?_get?_lt key)

theorem chainWeight_add_lt (hpart : IsPart part) (d : Document) {key : String}
    (hlist : key ≠ Key.policiesToInvoke) (hsingle : key ≠ singleEntryKey) :
    chainWeight part d + size? (d.get? key) < d.size := by
  obtain ⟨chainKey, rfl | rfl, hle⟩ := chainWeight_le hpart d
  · have := d.size?_add_lt (Ne.symm hlist)
    omega
  · have := d.size?_add_lt (Ne.symm hsingle)
    omega

end

namespace ChainedPolicy

/-- The parameters and the configuration of an entry stand in it. -/
theorem size_of_decode {entry : Document} {c : ChainedPolicy} (h : decode entry = some c) :
    size? c.parameters < entry.size ∧ size? c.configuration < entry.size := by
  unfold decode at h
  obtain ⟨found, hfound, h⟩ := Option.bind_eq_some_iff.mp h
  have hsize (m : Option Document) (hm : m ∈ found) : size? m < entry.size := by
    cases m with
    | none => exact entry.size_pos
    | some v => exact Decode.size_of_members hfound hm
  split at h
  · next policy parameters configuration =>
    simp only [Option.bind_eq_bind, Option.bind_eq_some_iff] at h
    obtain ⟨name, -, p, hp, conf, hconf, heq⟩ := h
    cases heq
    refine ⟨?_, ?_⟩
    · exact Nat.lt_of_le_of_lt (Decode.size_of_anything hp) (hsize parameters (by simp))
    · exact Nat.lt_of_le_of_lt (Decode.size_of_anything hconf) (hsize configuration (by simp))
  · cases h

/-- The parameters that an entry lists for its policy. -/
def ownParameters? (entry : Document) : Option Document :=
  (decode entry).bind (·.parameters)

/-- The configuration that an entry lists for its policy. -/
def ownConfiguration? (entry : Document) : Option Document :=
  (decode entry).bind (·.configuration)

theorem isPart_ownParameters? : IsPart ownParameters? where
  lt entry := by
    unfold ownParameters?
    cases h : decode entry with
    | none => exact entry.size_pos
    | some c => exact (size_of_decode h).1
  bare _ := rfl

theorem isPart_ownConfiguration? : IsPart ownConfiguration? where
  lt entry := by
    unfold ownConfiguration?
    cases h : decode entry with
    | none => exact entry.size_pos
    | some c => exact (size_of_decode h).2
  bare _ := rfl

end ChainedPolicy

theorem isPart_configuration : IsPart (·.get? Key.configuration) where
  lt entry := entry.size?_get?_lt Key.configuration
  bare _ := rfl

end GridPolicy
