/-!
# Ordinal numbers

The position of a row or cell in words of a report: 1st, 2nd, 3rd, 4th, 11th, 12th, 13th, 21st.
-/

namespace VOTable.Text

/-- The ending of the ordinal of a number. Numbers that end in 11, 12 or 13 take the common one. -/
def ordinalSuffix (n : Nat) : String :=
  if 11 ≤ n % 100 ∧ n % 100 ≤ 13 then "th"
  else
    match n % 10 with
    | 1 => "st"
    | 2 => "nd"
    | 3 => "rd"
    | _ => "th"

/-- The ordinal of a number. -/
def ordinal (n : Nat) : String :=
  toString n ++ ordinalSuffix n

end VOTable.Text
