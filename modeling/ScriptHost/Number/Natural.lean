/-!
# Powers and sums

* `twoTo`, `tenTo`: the powers of two and of ten;
* `total`: the sum of a list.
-/

namespace ScriptHost

/-- The number of words of so many bits. -/
abbrev twoTo (bits : Nat) : Nat := Nat.pow 2 bits

/-- The number of words of so many decimal digits. -/
abbrev tenTo (digits : Nat) : Nat := Nat.pow 10 digits

/-- The sum of a list. -/
def total : List Nat → Nat
  | [] => 0
  | n :: rest => n + total rest

end ScriptHost
