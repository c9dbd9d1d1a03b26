import GridPolicy.Pattern.CharSet

/-!
# Ranges of bytes

An automaton reads bytes. A range of code points becomes sequences of byte ranges:
the code points of each have the same number of bytes, and each combination of bytes
from the ranges is one of them. The sequences come in ascending order.
-/
namespace GridPolicy.Pattern

structure ByteRange where
  first : Nat
  last : Nat
  deriving DecidableEq, Repr

/-- The bytes of a code point. -/
def encode (n : Nat) : List Nat :=
  let tail (shift : Nat) : Nat := 0x80 + n / shift % 64
  if n ≤ 0x7F then [n]
  else if n ≤ 0x7FF then [0xC0 + n / 64, tail 1]
  else if n ≤ 0xFFFF then [0xE0 + n / 4096, tail 64, tail 1]
  else [0xF0 + n / 262144, tail 4096, tail 64, tail 1]

/-- Where a range of code points with equally many bytes has to be cut, so that the
last bytes run through all values wherever more than one of them changes. `block` is
how many code points have all bytes but the last few in common. -/
def blockCut? (first last block : Nat) : Option Nat :=
  if first / block = last / block then none
  else if first % block ≠ 0 then some ((first / block + 1) * block)
  else if (last + 1) % block ≠ 0 then some (last / block * block)
  else none

/-- Where a range has to be cut first: between the lengths of codes, else inside. -/
def cut? (first last : Nat) : Option Nat :=
  match [0x80, 0x800, 0x10000].find? fun c => first < c && c ≤ last with
  | some c => some c
  | none =>
    if last ≤ 0x7F then none
    else [64, 4096, 262144].findSome? (blockCut? first last)

/-- The sequences of a range without halves of pairs. -/
def sequencesOf (first last : Nat) : List (List ByteRange) :=
  match cut? first last with
  | none => [List.zipWith ByteRange.mk (encode first) (encode last)]
  | some c =>
    if _ : first < c ∧ c ≤ last then sequencesOf first (c - 1) ++ sequencesOf c last
    else [List.zipWith ByteRange.mk (encode first) (encode last)]
termination_by last - first

/-- The sequences of a range; halves of pairs have none. -/
def byteSequences (first last : Nat) : List (List ByteRange) :=
  if 0xD7FF < last && first < 0xE000 then
    (if first ≤ 0xD7FF then sequencesOf first 0xD7FF else []) ++ sequencesOf 0xE000 last
  else sequencesOf first last

namespace CharSet

/-- The sequences of all members, in ascending order. -/
def byteSequences (s : CharSet) : List (List ByteRange) :=
  s.ranges.toList.flatMap fun r => Pattern.byteSequences r.1 r.2

end CharSet

end GridPolicy.Pattern
