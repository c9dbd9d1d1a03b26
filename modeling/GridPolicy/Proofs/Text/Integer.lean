import GridPolicy.Text.Integer

/-!
# Integers read back

An integer that is written in decimal digits is read back as it was, by every
reader whose range it lies in. A record holds its numbers as such texts.
-/
namespace GridPolicy.Text

theorem digitsFrom_eq_ofDigitChars {digits : List Char} (h : ∀ c ∈ digits, c.isDigit = true)
    (acc : Nat) : digitsFrom acc digits = some (Nat.ofDigitChars 10 digits acc) := by
  induction digits generalizing acc with
  | nil => simp [digitsFrom]
  | cons c rest ih =>
    have hc : c.isDigit = true := h c (List.mem_cons_self ..)
    have hrest : ∀ c ∈ rest, c.isDigit = true := fun d hd => h d (List.mem_cons_of_mem _ hd)
    have hvalue : '0'.toNat = 48 := by decide
    simp only [digitsFrom, digit?, hc, ↓reduceIte]
    rw [ih hrest, Nat.ofDigitChars_cons, Nat.mul_comm acc 10, hvalue]

theorem isDigit_of_mem_repr {n : Nat} {c : Char} (h : c ∈ n.repr.toList) :
    c.isDigit = true := by
  rw [Nat.toList_repr] at h
  exact Nat.isDigit_of_mem_toDigits (by decide) (by decide) h

theorem natural?_repr (n : Nat) : natural? n.repr.toList = some n := by
  have hread : digitsFrom 0 n.repr.toList = some (Nat.ofDigitChars 10 n.repr.toList 0) :=
    digitsFrom_eq_ofDigitChars (fun c hc => isDigit_of_mem_repr hc) 0
  rw [Nat.toList_repr, Nat.ofDigitChars_ten_toDigits] at hread
  rw [Nat.toList_repr]
  cases hdigits : Nat.toDigits 10 n with
  | nil => exact absurd hdigits Nat.toDigits_ne_nil
  | cons c rest => rw [natural?, ← hdigits, hread]

/-- Digits alone are read without a sign. -/
theorem signed?_of_digits {digits : List Char} (h : ∀ c ∈ digits, c.isDigit = true) :
    signed? digits = (natural? digits).map Int.ofNat := by
  unfold signed?
  split
  · exact absurd (h '-' (List.mem_cons_self ..)) (by decide)
  · exact absurd (h '+' (List.mem_cons_self ..)) (by decide)
  · rfl

theorem signed?_toString (n : Int) : signed? (toString n).toList = some n := by
  rw [Int.toString_eq_repr, Int.repr_eq_if]
  split
  · next hpos =>
    rw [signed?_of_digits (fun c hc => isDigit_of_mem_repr hc), natural?_repr,
      Option.map_some, Option.some.injEq]
    exact Int.toNat_of_nonneg hpos
  · next hneg =>
    have hlist : ("-" ++ (-n).toNat.repr).toList = '-' :: (-n).toNat.repr.toList := by simp
    have hback : -((-n).toNat : Int) = n := by omega
    rw [hlist, signed?, natural?_repr]
    simpa using hback

/-- The text of an integer of 32 bits is read as that integer. -/
theorem int32?_toString (n : Int32) : int32? (toString n.toInt) = some n.toInt := by
  have hlow := n.le_toInt
  have hhigh := n.toInt_lt
  rw [int32?, signed?_toString, Option.filter_some, if_pos]
  simp only [Bool.and_eq_true, decide_eq_true_eq]
  constructor <;> omega

end GridPolicy.Text
