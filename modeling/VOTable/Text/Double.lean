/-!
# Double-precision range

Which decimal magnitudes have a finite double-precision value. A magnitude can be rounded as a
whole, which gives the nearest such number; or its significand and its power of ten can each be
rounded, and then their product. The second way is a little off at the upper end of the range, in
both directions.

Natural numbers suffice for either, since a magnitude below one is never out of range.
-/

namespace VOTable.Text.Double

/-- The least magnitude that is rounded to infinity: half a step above the largest finite number. -/
def overflow : Nat := Nat.pow 2 1024 - Nat.pow 2 970

/-- The natural number of at most 53 significant bits that is nearest to the given one; of two, the
one with an even significand. -/
def round (n : Nat) : Nat :=
  let step := Nat.pow 2 (n.log2 - 52)
  let below := n / step
  let rest := n % step
  if 2 * rest < step ∨ (2 * rest = step ∧ below % 2 = 0) then below * step
  else (below + 1) * step

/-- Whether the number is finite when it is rounded as a whole. Its count of digits settles the
magnitudes that are out of the question before powers of ten are computed. -/
def isFinite (significand : Nat) (exponent : Int) : Bool :=
  if significand = 0 then true
  else
    let digits := (Nat.toDigits 10 significand).length
    if (digits : Int) + exponent > 310 then false
    else if (digits : Int) + exponent < 300 then true
    else if exponent < 0 then significand < overflow * Nat.pow 10 (-exponent).toNat
    else significand * Nat.pow 10 exponent.toNat < overflow

/-- Whether the number is finite when its significand and its power of ten are rounded first. The
power must be finite itself, unless the significand is zero. -/
def isFiniteByParts (significand : Nat) (exponent : Int) : Bool :=
  if significand = 0 ∨ exponent < 0 then true
  else if 308 < exponent then false
  else round significand * round (Nat.pow 10 exponent.toNat) < overflow

end VOTable.Text.Double
