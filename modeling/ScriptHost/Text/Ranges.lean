/-!
# Ranges of codes

* `Ranges`: codes, each pair from a first to a last one;
* `Ranges.complement`, `Ranges.minus`: the codes that ranges leave out, and those that ranges hold
  and others leave out;
* `Ranges.ofGaps`: ranges told by their lengths and the lengths of the gaps between them;
* `Packed.numbers`: numbers written without blanks between them.
-/

namespace ScriptHost

/-- Codes, each pair from a first to a last one. -/
abbrev Ranges := List (Nat × Nat)

namespace Ranges

def has (rs : Ranges) (c : Nat) : Bool := rs.any fun (low, high) => low ≤ c && c ≤ high

/-- The highest code. -/
def maxCode : Nat := 0x10FFFF

/-- The codes from `start` on that increasing ranges leave out. -/
def gapsFrom (start : Nat) : Ranges → Ranges
  | [] => if start ≤ maxCode then [(start, maxCode)] else []
  | (low, high) :: rest =>
    if start < low then (start, low - 1) :: gapsFrom (high + 1) rest else gapsFrom (high + 1) rest

/-- The codes that increasing ranges leave out. -/
def complement (rs : Ranges) : Ranges := gapsFrom 0 rs

/-- The codes of ranges that other, increasing ranges leave out. -/
def minus (rs qs : Ranges) : Ranges :=
  rs.flatMap fun (low, high) => qs.complement.filterMap fun (first, last) =>
    if max low first ≤ min high last then some (max low first, min high last) else none

/-- The ranges from a code on, told by how many codes are left out before each one, and how many
follow its first. -/
def ofGaps : Nat → List Nat → Ranges
  | start, gap :: more :: rest =>
    (start + gap, start + gap + more) :: ofGaps (start + gap + more + 1) rest
  | _, _ => []

def digits : Ranges := [(0x30, 0x39)]
def word : Ranges := [(0x30, 0x39), (0x41, 0x5A), (0x5F, 0x5F), (0x61, 0x7A)]
def lineEnds : Ranges := [(0xA, 0xA), (0xD, 0xD), (0x2028, 0x2029)]

end Ranges

/-!
Tables are written as numbers in base thirty-two.  The last digit of a number is one of `0` to
`9` and `A` to `V`; digits before it are `W` to `Z`, `a` to `z`, `+` and `-`, and count as the
others do.
-/

namespace Packed

/-- The value of a digit; from thirty-two on it is one that others follow. -/
def digit (c : Char) : Nat :=
  if c.isDigit then c.toNat - 48
  else if c.isUpper then c.toNat - 55
  else if c.isLower then c.toNat - 61
  else if c = '+' then 62
  else 63

/-- The numbers that lines of digits spell, after those found so far; the last of them may be
unfinished. -/
def extend (found : Array Nat × Nat) (c : Char) : Array Nat × Nat :=
  let d := digit c
  if d < 32 then (found.1.push (32 * found.2 + d), 0) else (found.1, 32 * found.2 + (d - 32))

/-- The numbers that lines of digits spell. -/
def numbers (lines : List String) : List Nat :=
  (lines.foldl (fun found s => s.foldl extend found) (#[], 0)).1.toList

end Packed

end ScriptHost
