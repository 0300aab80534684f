import ScriptHost.Number.Arithmetic
import ScriptHost.Text.Digits
import ScriptHost.Text.Units

/-!
# Numerals in scripts

* `Blank.isBlank`: the characters that scripts take for blanks;
* `Numeral.ofDigits`: the number that digits of a base spell;
* `Numeral.ofChars`: the number that a text spells, with blanks around it; a text that spells none
  gives a NaN, and a blank one zero.
-/

namespace ScriptHost

namespace Blank

/-- The blanks and line ends of Unicode, and the byte order mark. -/
def codes : List (Nat × Nat) :=
  [(0x9, 0xD), (0x20, 0x20), (0xA0, 0xA0), (0x1680, 0x1680), (0x2000, 0x200A), (0x2028, 0x2029),
    (0x202F, 0x202F), (0x205F, 0x205F), (0x3000, 0x3000), (0xFEFF, 0xFEFF)]

def isBlank (c : Char) : Bool := codes.any fun (low, high) => low ≤ c.toNat && c.toNat ≤ high

/-- The characters between the first and the last that are no blanks. -/
def trim (cs : List Char) : List Char :=
  ((cs.dropWhile isBlank).reverse.dropWhile isBlank).reverse

end Blank

namespace Numeral

/-- The greatest word to which one more digit of a base can be added. -/
def maxWord (base : Nat) : Nat := (twoTo 64 - base) / base

/-- The word that digits spell, and how many digits were left out because it was full. -/
def absorb (base : Nat) : List Char → Nat → Nat × Nat
  | [], n => (n, 0)
  | d :: ds, n =>
    if n ≤ maxWord base then absorb base ds (base * n + (Digits.value? d).getD 0)
    else (n, ds.length + 1)

/-- The power of a base, as a double. -/
def power (base count : Nat) : Double :=
  if count > 1100 then .infinity false else .ofInt (Nat.pow base count : Nat)

/-- The number that digits of a base spell.  Only decimal digits are read to the last; of the
others, a word full is read, and those left out count as zeros. -/
def ofDigits (base : Nat) (ds : List Char) : Double :=
  if base = 10 then .ofDecimal false (Digits.decimal ds) 0
  else
    match absorb base ds 0 with
    | (n, 0) => .ofInt n
    | (n, count) => (Double.ofInt n).mul (power base count)

/-- The number that digits of a base spell, at least one and nothing else. -/
def inBase? (base : Nat) (ds : List Char) : Option Double :=
  if ds.isEmpty || !ds.all (Digits.isDigit base) then none else some (ofDigits base ds)

/-- The exponent after the digits of a number, if what is left is one or nothing. -/
def exponent? (cs : List Char) : Option Int :=
  match cs with
  | [] => some 0
  | c :: rest =>
    if c = 'e' || c = 'E' then
      let (neg, ds) := match rest with
        | '+' :: ds => (false, ds)
        | '-' :: ds => (true, ds)
        | ds => (false, ds)
      if ds.isEmpty || !ds.all Char.isDigit then none
      else some (Digits.signed neg ds)
    else none

/-- The number without sign that digits, a point and an exponent spell. -/
def unsigned? (neg : Bool) (cs : List Char) : Option Double :=
  if cs = "Infinity".toList then some (.infinity neg)
  else
    let whole := cs.takeWhile Char.isDigit
    let (fraction, rest) := match cs.dropWhile Char.isDigit with
      | '.' :: rest => (rest.takeWhile Char.isDigit, rest.dropWhile Char.isDigit)
      | rest => ([], rest)
    if whole.isEmpty && fraction.isEmpty then none
    else
      (exponent? rest).map fun e =>
        Double.ofDecimal neg (Digits.decimal (whole ++ fraction)) (e - fraction.length)

/-- The number that a text spells. -/
def ofChars (cs : List Char) : Double :=
  let number? : Option Double :=
    match Blank.trim cs with
    | [] => some (.zero false)
    | '0' :: 'x' :: ds | '0' :: 'X' :: ds => inBase? 16 ds
    | '0' :: 'o' :: ds | '0' :: 'O' :: ds => inBase? 8 ds
    | '0' :: 'b' :: ds | '0' :: 'B' :: ds => inBase? 2 ds
    | '+' :: rest => unsigned? false rest
    | '-' :: rest => unsigned? true rest
    | rest => unsigned? false rest
  number?.getD .nan

/-- The number that a text spells; a surrogate that stands alone spells none. -/
def ofText (t : Text) : Double :=
  match t.toUnicode with
  | .ok s => ofChars s.toList
  | .error _ => .nan

end Numeral

end ScriptHost
