/-!
# Digits

* `Digits.value?`: the value of a digit, where letters stand for ten and more;
* `Digits.inBase?`: the number that digits of a base spell;
* `Digits.decimal`: the number that decimal digits spell;
* `Digits.spell`: the digits of a number in a base.
-/

namespace ScriptHost

namespace Digits

/-- The value of a digit, where letters stand for ten and more. -/
def value? (c : Char) : Option Nat :=
  if c.isDigit then some (c.toNat - '0'.toNat)
  else if 'a' ≤ c && c ≤ 'z' then some (c.toNat - 'a'.toNat + 10)
  else if 'A' ≤ c && c ≤ 'Z' then some (c.toNat - 'A'.toNat + 10)
  else none

/-- Whether a character is a digit of a base. -/
def isDigit (base : Nat) (c : Char) : Bool := (value? c).any fun d => d < base

/-- The number that digits of a base spell. -/
def inBase? (base : Nat) (ds : List Char) : Option Nat :=
  ds.foldlM (fun n c => do
    let d ← value? c
    if d < base then some (base * n + d) else none) 0

/-- The number that decimal digits spell. -/
def decimal (ds : List Char) : Nat := ds.foldl (fun n c => 10 * n + (c.toNat - '0'.toNat)) 0

/-- The same with a sign. -/
def signed (neg : Bool) (ds : List Char) : Int := if neg then -(decimal ds : Int) else decimal ds

/-- The digit of a value, where letters stand for ten and more. -/
def ofValue (k : Nat) : Char :=
  if k < 10 then Char.ofNat ('0'.toNat + k) else Char.ofNat ('a'.toNat + (k - 10))

/-- The digits of a number in a base, in front of others; `fuel` bounds their number. -/
def spellFrom (base : Nat) : Nat → Nat → List Char → List Char
  | 0, _, ds => ds
  | fuel + 1, n, ds =>
    if n < base then ofValue n :: ds else spellFrom base fuel (n / base) (ofValue (n % base) :: ds)

/-- The digits of a number in a base, which is at least two. -/
def spell (base n : Nat) : List Char := spellFrom base (n.log2 + 1) n []

end Digits

end ScriptHost
