import GridPolicy.Document.Reader
import GridPolicy.Proofs.Document.Fields

/-!
# Documents that can be written

A double that is not finite has no written form. None is read from text: a number that is
too large is refused, so in what is read every double is finite, at whatever depth it
stands, and taking out what cannot be written changes nothing.
-/
namespace GridPolicy

namespace Document

/-- Every double that stands in it is finite. -/
def Writable (d : Document) : Prop := d.finite = d

end Document

theorem finiteItems_eq_self {items : List Document} :
    finiteItems items = items ↔ ∀ d ∈ items, d.Writable := by
  induction items with
  | nil => simp [finiteItems]
  | cons d rest ih => simp [finiteItems, ih, Document.Writable]

theorem finiteFields_eq_self {fields : Fields} :
    finiteFields fields = fields ↔ ∀ field ∈ fields, field.2.Writable := by
  induction fields with
  | nil => simp [finiteFields]
  | cons field rest ih =>
    obtain ⟨k, d⟩ := field
    simp [finiteFields, ih, Document.Writable]

namespace Document

theorem writable_array {items : List Document} :
    (array items).Writable ↔ ∀ d ∈ items, d.Writable := by
  rw [← finiteItems_eq_self, Writable, finite, array.injEq]

theorem writable_object {fields : Fields} :
    (object fields).Writable ↔ ∀ field ∈ fields, field.2.Writable := by
  rw [← finiteFields_eq_self, Writable, finite, object.injEq]

theorem writable_real {x : Float} (h : x.isFinite = true) : (number (.real x)).Writable := by
  rw [Writable, finite, if_pos h]

theorem Writable.get? {d v : Document} {key : String} (h : d.Writable) (hv : d.get? key = some v) :
    v.Writable := by
  cases d with
  | object fields => exact writable_object.mp h _ (Fields.mem_of_get? hv)
  | _ => cases hv

end Document

namespace Fields

variable {base top fields : Fields} {key : String} {value : Document} {field : String × Document}

theorem mem_of_mem_insert (h : field ∈ fields.insert key value) :
    field = (key, value) ∨ field ∈ fields := by
  induction fields with
  | nil => simpa [Fields.insert] using h
  | cons first rest ih =>
    obtain ⟨k, v⟩ := first
    rw [Fields.insert] at h
    split at h
    · rcases List.mem_cons.mp h with h | h
      · exact .inl h
      · exact .inr (List.mem_cons_of_mem _ h)
    · split at h
      · exact List.mem_cons.mp h
      · rcases List.mem_cons.mp h with h | h
        · exact .inr (h ▸ List.mem_cons_self ..)
        · exact (ih h).imp_right (List.mem_cons_of_mem _)

theorem mem_of_mem_overlay (h : field ∈ overlay base top) : field ∈ base ∨ field ∈ top := by
  induction top generalizing base with
  | nil => exact .inl h
  | cons first rest ih =>
    rcases ih h with h | h
    · rcases mem_of_mem_insert h with h | h
      · exact .inr (h ▸ List.mem_cons_self ..)
      · exact .inl h
    · exact .inr (List.mem_cons_of_mem _ h)

theorem mem_of_mem_ofList (h : field ∈ ofList fields) : field ∈ fields := by
  rcases mem_of_mem_overlay h with h | h
  · cases h
  · exact h

end Fields

mutual

theorem Document.Writable.canonical : (d : Document) → d.Writable → d.canonical.Writable
  | .array items, h => by
    rw [Document.canonical]
    exact Document.writable_array.mpr (writable_canonicalItems items (Document.writable_array.mp h))
  | .object fields, h => by
    have hfields := writable_canonicalFields fields (Document.writable_object.mp h)
    rw [Document.canonical]
    exact Document.writable_object.mpr fun field hfield =>
      hfields field (Fields.mem_of_mem_ofList hfield)
  | .null, h => h
  | .flag _, h => h
  | .number _, h => h
  | .text _, h => h

theorem writable_canonicalItems : (items : List Document) → (∀ d ∈ items, d.Writable) →
    ∀ d ∈ canonicalItems items, d.Writable
  | [], _ => nofun
  | d :: r, h => by
    obtain ⟨hd, hr⟩ := List.forall_mem_cons.mp h
    exact List.forall_mem_cons.mpr ⟨hd.canonical, writable_canonicalItems r hr⟩

theorem writable_canonicalFields : (fields : Fields) → (∀ field ∈ fields, field.2.Writable) →
    ∀ field ∈ canonicalFields fields, field.2.Writable
  | [], _ => nofun
  | (k, d) :: r, h => by
    obtain ⟨hd, hr⟩ := List.forall_mem_cons.mp h
    exact List.forall_mem_cons.mpr ⟨hd.canonical, writable_canonicalFields r hr⟩

end

namespace Document.Reader

theorem writable_of_doubleOf? {negative : Bool} {significand : Nat} {exponent : Int} {n : Number}
    (h : (Decimal.doubleOf? negative significand exponent).map .real = some n) :
    (number n).Writable := by
  obtain ⟨x, hx, rfl⟩ := Option.map_eq_some_iff.mp h
  exact writable_real (Decimal.isFinite_of_doubleOf? hx)

/-- Whatever is left behind it, a double that is read is finite. -/
theorem writable_of_read {negative : Bool} {significand : Nat} {exponent : Int} {n : Number}
    {left rest : List Char}
    (h : (Decimal.doubleOf? negative significand exponent).map
      (fun x => (Number.real x, left)) = some (n, rest)) : (number n).Writable := by
  obtain ⟨x, hx, heq⟩ := Option.map_eq_some_iff.mp h
  cases heq
  exact writable_real (Decimal.isFinite_of_doubleOf? hx)

theorem writable_of_wholeOf? {negative : Bool} {value : Nat} {n : Number}
    (h : wholeOf? negative value = some n) : (number n).Writable := by
  unfold wholeOf? at h
  split at h
  · cases h
    rfl
  · split at h
    · exact writable_of_doubleOf? h
    · cases h
      rfl

theorem writable_of_whole {negative : Bool} {value : Nat} {n : Number} {left rest : List Char}
    (h : (wholeOf? negative value).map (fun n => (n, left)) = some (n, rest)) :
    (number n).Writable := by
  obtain ⟨m, hm, heq⟩ := Option.map_eq_some_iff.mp h
  cases heq
  exact writable_of_wholeOf? hm

theorem writable_of_readExponent {negative : Bool} {significand : Nat} {start : Int}
    {cs rest : List Char} {n : Number}
    (h : readExponent negative significand start cs = some (n, rest)) : (number n).Writable := by
  unfold readExponent at h
  split at h
  next down left hsign =>
  dsimp only at h
  split at h
  · cases h
  · split at h
    · split at h
      · cases h
      · cases h
        refine writable_real ?_
        cases negative <;> decide
    · exact writable_of_read h

theorem writable_of_readNumber {negative : Bool} {cs rest : List Char} {n : Number}
    (h : readNumber negative cs = some (n, rest)) : (number n).Writable := by
  unfold readNumber at h
  dsimp only at h
  split at h
  · cases h
  · cases h
  · split at h
    · split at h
      · cases h
      · split at h
        · split at h
          · exact writable_of_readExponent h
          · exact writable_of_read h
        · exact writable_of_read h
    · split at h
      · exact writable_of_readExponent h
      · split at h
        · exact writable_of_whole h
        · exact writable_of_read h
    · split at h
      · exact writable_of_whole h
      · exact writable_of_read h

/-- What is read in so many steps is writable, if what was read before is. -/
structure ReadsWritable (steps : Nat) : Prop where
  value : ∀ depth cs d rest, readValue depth steps cs = some (d, rest) → d.Writable
  items : ∀ depth cs acc items rest, (∀ d ∈ acc, d.Writable) →
    readItems depth steps cs acc = some (items, rest) → ∀ d ∈ items, d.Writable
  fields : ∀ depth cs acc fields rest, (∀ field ∈ acc, field.2.Writable) →
    readFields depth steps cs acc = some (fields, rest) → ∀ field ∈ fields, field.2.Writable

theorem ReadsWritable.zero : ReadsWritable 0 where
  value := by simp [readValue]
  items := by simp [readItems]
  fields := by simp [readFields]

theorem ReadsWritable.succ {steps : Nat} (ih : ReadsWritable steps) :
    ReadsWritable (steps + 1) where
  value depth cs d rest h := by
    unfold readValue at h
    split at h
    · cases h
      rfl
    · cases h
      rfl
    · cases h
      rfl
    · obtain ⟨⟨s, r⟩, -, heq⟩ := Option.map_eq_some_iff.mp h
      cases heq
      rfl
    · obtain ⟨⟨n, r⟩, hn, heq⟩ := Option.map_eq_some_iff.mp h
      cases heq
      exact writable_of_readNumber hn
    · split at h
      · cases h
      · split at h
        · cases h
          exact writable_array.mpr (by simp)
        · obtain ⟨⟨items, r⟩, hitems, heq⟩ := Option.map_eq_some_iff.mp h
          cases heq
          exact writable_array.mpr (ih.items _ _ _ _ _ (by simp) hitems)
    · split at h
      · cases h
      · split at h
        · cases h
          exact writable_object.mpr (by simp)
        · obtain ⟨⟨fields, r⟩, hfields, heq⟩ := Option.map_eq_some_iff.mp h
          cases heq
          exact writable_object.mpr (ih.fields _ _ _ _ _ (by simp) hfields)
    · split at h
      · obtain ⟨⟨n, r⟩, hn, heq⟩ := Option.map_eq_some_iff.mp h
        cases heq
        exact writable_of_readNumber hn
      · cases h
    · cases h
  items depth cs acc items rest hacc h := by
    unfold readItems at h
    split at h
    · cases h
    · next item r hitem =>
      have hmore : ∀ d ∈ item :: acc, d.Writable :=
        List.forall_mem_cons.mpr ⟨ih.value _ _ _ _ hitem, hacc⟩
      split at h
      · exact ih.items _ _ _ _ _ hmore h
      · cases h
        exact fun d hd => hmore d (List.mem_reverse.mp hd)
      · cases h
  fields depth cs acc fields rest hacc h := by
    unfold readFields at h
    split at h
    · split at h
      · cases h
      · split at h
        · split at h
          · cases h
          · next key _ _ _ _ _ _ value _ hvalue =>
            have hmore : ∀ field ∈ (key, value) :: acc, field.2.Writable :=
              List.forall_mem_cons.mpr ⟨ih.value _ _ _ _ hvalue, hacc⟩
            split at h
            · exact ih.fields _ _ _ _ _ hmore h
            · cases h
              exact fun field hfield => hmore field (List.mem_reverse.mp hfield)
            · cases h
        · cases h
    · cases h

theorem readsWritable (steps : Nat) : ReadsWritable steps := by
  induction steps with
  | zero => exact .zero
  | succ steps ih => exact ih.succ

/-- All that is read from text can be written. -/
theorem writable_of_parse {text : String} {d : Document} (h : parse text = some d) :
    d.Writable := by
  obtain ⟨raw, hraw, rfl⟩ := Option.map_eq_some_iff.mp h
  unfold parseWritten at hraw
  dsimp only at hraw
  split at hraw
  · next value rest hvalue =>
    split at hraw
    · cases hraw
      exact ((readsWritable _).value _ _ _ _ hvalue).canonical
    · cases hraw
  · cases hraw

end Document.Reader

end GridPolicy
