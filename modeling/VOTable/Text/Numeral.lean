/-!
# Integer numerals

Reading of integers in a base. A numeral is one or more digits with at most one sign in front: a
plus sign is always allowed, a minus sign only where negative numbers are. Leading zeros do not
matter, and a numeral of any length is read exactly before its range is checked.
-/

namespace VOTable.Text

/-- The value of a digit in the base, in either case of letters. -/
def digit? (base : Nat) (c : Char) : Option Nat :=
  let value :=
    if '0' ≤ c ∧ c ≤ '9' then some (c.toNat - '0'.toNat)
    else if 'a' ≤ c ∧ c ≤ 'z' then some (c.toNat - 'a'.toNat + 10)
    else if 'A' ≤ c ∧ c ≤ 'Z' then some (c.toNat - 'A'.toNat + 10)
    else none
  value.filter (· < base)

/-- Whether the character is an ASCII decimal digit. -/
def isDigit (c : Char) : Bool :=
  '0' ≤ c && c ≤ '9'

/-- The number that the digits continue when `value` stands before them. -/
def continueDigits (base value : Nat) : List Char → Option Nat
  | [] => some value
  | c :: rest =>
    match digit? base c with
    | some d => continueDigits base (base * value + d) rest
    | none => none

/-- The number written by one or more digits and nothing else. -/
def digits? (base : Nat) : List Char → Option Nat
  | [] => none
  | text => continueDigits base 0 text

/-- The natural number written by digits with an optional plus sign. -/
def natural? (base : Nat) : List Char → Option Nat
  | '+' :: rest => digits? base rest
  | text => digits? base text

/-- The integer written by decimal digits with an optional sign. -/
def integer? : List Char → Option Int
  | '-' :: rest => (digits? 10 rest).map fun n => -(n : Int)
  | text => (natural? 10 text).map fun n => (n : Int)

/-- The natural number below `bound` that a decimal numeral writes. -/
def naturalBelow? (bound : Nat) (text : String) : Option Nat :=
  (natural? 10 text.toList).filter (· < bound)

/-- Whether the integer fits a signed word of the given number of bits. -/
def fitsSigned (bits : Nat) (n : Int) : Bool :=
  -(Nat.pow 2 (bits - 1) : Int) ≤ n && n < (Nat.pow 2 (bits - 1) : Int)

/-- The integer of the given number of bits that a signed decimal numeral writes. -/
def signed? (bits : Nat) (text : String) : Option Int :=
  (integer? text.toList).filter (fitsSigned bits)

end VOTable.Text
