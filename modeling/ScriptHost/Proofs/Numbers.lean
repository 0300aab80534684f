import ScriptHost.Engine.Coerce

/-!
# Integers as doubles

* `Double.decode_ofFields`: what a word stands for that is put together from its fields;
* `Double.Held`: finite doubles by their sign, mantissa and exponent, which `Double.pack` makes;
* `Double.ofInt_small`, `Double.ofInt_large`: the doubles nearest to integers;
* `Double.safeInt?_ofInt`, `Double.safeInt?_ofInt_of_unsafe`: which integers they give back.
-/

namespace ScriptHost

theorem twoTo_pos (bits : Nat) : 0 < twoTo bits := Nat.two_pow_pos bits

theorem twoTo_add (a b : Nat) : twoTo (a + b) = twoTo a * twoTo b := Nat.pow_add 2 a b

namespace Double

/-! ### Fields -/

section Fields

variable {neg : Bool} {e f : Nat}

theorem toNat_ofFields (he : e < 2048) (hf : f < twoTo 52) :
    (ofFields neg e f).bits.toNat = (if neg then twoTo 63 else 0) + e * twoTo 52 + f := by
  simp only [Nat.pow_eq] at hf
  rw [ofFields, UInt64.toNat_ofNat']
  cases neg <;> simp only [Nat.pow_eq, if_true, Bool.false_eq_true, if_false] <;> omega

theorem exponentField_ofFields (he : e < 2048) (hf : f < twoTo 52) :
    (ofFields neg e f).exponentField = e := by
  simp only [Nat.pow_eq] at hf
  rw [exponentField, toNat_ofFields he hf]
  cases neg <;> simp only [Nat.pow_eq, if_true, Bool.false_eq_true, if_false] <;> omega

theorem fractionField_ofFields (he : e < 2048) (hf : f < twoTo 52) :
    (ofFields neg e f).fractionField = f := by
  simp only [Nat.pow_eq] at hf
  rw [fractionField, toNat_ofFields he hf]
  cases neg <;> simp only [Nat.pow_eq, if_true, Bool.false_eq_true, if_false] <;> omega

theorem negative_ofFields (he : e < 2048) (hf : f < twoTo 52) :
    (ofFields neg e f).negative = neg := by
  simp only [Nat.pow_eq] at hf
  rw [negative, toNat_ofFields he hf]
  cases neg <;> simp only [Nat.pow_eq, if_true, Bool.false_eq_true, if_false, beq_iff_eq,
    beq_eq_false_iff_ne] <;> omega

/-- A word with a full mantissa. -/
theorem decode_ofFields (he : 0 < e) (hm : e < 2047) (hf : f < twoTo 52) :
    (ofFields neg e f).decode = .finite neg (twoTo 52 + f) ((e : Int) - 1075) := by
  have bound : e < 2048 := by omega
  unfold decode
  rw [exponentField_ofFields bound hf, fractionField_ofFields bound hf, negative_ofFields bound hf]
  split
  · omega
  · omega
  · rfl

end Fields

/-! ### Rounded integers -/

section Pack

variable {neg : Bool} {m : Nat} {e : Int}

/-- A full mantissa within the range of exponents is kept. -/
theorem decode_pack (full : twoTo 52 ≤ m) (fits : m < twoTo 53) (least : -1074 ≤ e)
    (greatest : e ≤ 971) : (pack neg m e).decode = .finite neg m e := by
  have width : twoTo 53 = twoTo 52 + twoTo 52 := by decide
  have packed : pack neg m e = ofFields neg (e + 1075).toNat (m - twoTo 52) := by
    rw [pack, if_neg (by omega), if_neg (by omega)]
    exact if_neg (by omega)
  have mantissa : twoTo 52 + (m - twoTo 52) = m := by omega
  have exponent : (((e + 1075).toNat : Nat) : Int) - 1075 = e := by omega
  rw [packed, decode_ofFields (by omega) (by omega) (by omega), mantissa, exponent]

theorem decode_pack_endless (full : twoTo 52 ≤ m) (fits : m < twoTo 53) (beyond : 971 < e) :
    (pack neg m e).decode = .infinite neg := by
  have packed : pack neg m e = infinity neg := by
    rw [pack, if_neg (by omega), if_neg (by omega)]
    exact if_pos (by omega)
  rw [packed]
  cases neg <;> decide

/-- A mantissa that rounding has filled up carries over into the exponent. -/
theorem pack_carry (neg : Bool) (e : Int) : pack neg (twoTo 53) e = pack neg (twoTo 52) (e + 1) := by
  have width : twoTo 53 = twoTo 52 + twoTo 52 := by decide
  have some_ : 0 < twoTo 52 := by decide
  rw [pack, if_neg (by omega), if_pos rfl, pack, if_neg (by omega), if_neg (by omega)]

end Pack

section Integers

variable {n : Int}

/-- An integer is rounded so that fifty-three of its bits are left. -/
theorem gridExponent_one {k : Nat} (hk : k ≠ 0) : gridExponent k 1 = (k.log2 : Int) - 52 := by
  have low : 2 ^ k.log2 ≤ k := Nat.log2_self_le hk
  have one : Nat.log2 1 = 0 := by decide
  have notBelow : ¬ (if (k.log2 : Int) - (0 : Nat) - 52 ≥ 0 then
      k < 1 * twoTo (52 + ((k.log2 : Int) - (0 : Nat) - 52).toNat)
      else k * twoTo (-((k.log2 : Int) - (0 : Nat) - 52)).toNat < 1 * twoTo 52) := by
    split
    · next large =>
      have bits : 52 + ((k.log2 : Int) - (0 : Nat) - 52).toNat = k.log2 := by omega
      rw [bits, Nat.one_mul]
      exact Nat.not_lt.2 low
    · next small =>
      have bits : k.log2 + (-((k.log2 : Int) - (0 : Nat) - 52)).toNat = 52 := by omega
      have scaled := Nat.mul_le_mul_right (2 ^ (-((k.log2 : Int) - (0 : Nat) - 52)).toNat) low
      rw [← Nat.pow_add, bits] at scaled
      rw [Nat.one_mul]
      exact Nat.not_lt.2 scaled
  unfold gridExponent
  simp only [one]
  rw [if_neg notBelow]
  omega

theorem roundDiv_one (k : Nat) : roundDiv k 1 = k := by
  simp [roundDiv, Nat.mod_one]

/-- What rounding leaves of a quotient is not far from it. -/
theorem roundDiv_bounds {k d : Nat} : k / d ≤ roundDiv k d ∧ roundDiv k d ≤ k / d + 1 := by
  unfold roundDiv
  dsimp only
  split
  · omega
  · split
    · omega
    · split <;> omega

/-- An integer of at most fifty-three bits needs no rounding. -/
theorem decode_ofInt_small (nonzero : n ≠ 0) (small : n.natAbs < twoTo 53) :
    (ofInt n).decode = .finite (n < 0) (n.natAbs * twoTo (52 - n.natAbs.log2))
      ((n.natAbs.log2 : Int) - 52) := by
  have hk : n.natAbs ≠ 0 := Int.natAbs_ne_zero.2 nonzero
  have low : 2 ^ n.natAbs.log2 ≤ n.natAbs := Nat.log2_self_le hk
  have high : n.natAbs < 2 ^ (n.natAbs.log2 + 1) := Nat.lt_log2_self
  have bits : n.natAbs.log2 ≤ 52 := Nat.lt_succ_iff.1 ((Nat.log2_lt hk).2 small)
  have packed : ofInt n = pack (n < 0) (n.natAbs * twoTo (52 - n.natAbs.log2))
      ((n.natAbs.log2 : Int) - 52) := by
    rw [ofInt, ofRatio, if_neg hk]
    dsimp only
    rw [gridExponent_one hk]
    congr 1
    split
    · have exact_ : n.natAbs.log2 = 52 := by omega
      simp [exact_, roundDiv_one]
    · have shift : (-((n.natAbs.log2 : Int) - 52)).toNat = 52 - n.natAbs.log2 := by omega
      rw [roundDiv_one, shift]
  have full : twoTo 52 ≤ n.natAbs * twoTo (52 - n.natAbs.log2) := by
    have up : 52 = n.natAbs.log2 + (52 - n.natAbs.log2) := by omega
    calc twoTo 52 = twoTo n.natAbs.log2 * twoTo (52 - n.natAbs.log2) := by rw [← twoTo_add, ← up]
      _ ≤ _ := Nat.mul_le_mul_right _ low
  have fits : n.natAbs * twoTo (52 - n.natAbs.log2) < twoTo 53 := by
    have up : n.natAbs.log2 + 1 + (52 - n.natAbs.log2) = 53 := by omega
    calc _ < twoTo (n.natAbs.log2 + 1) * twoTo (52 - n.natAbs.log2) :=
          Nat.mul_lt_mul_of_pos_right high (twoTo_pos _)
      _ = twoTo 53 := by rw [← twoTo_add, up]
  rw [packed, decode_pack full fits (by omega) (by omega)]

/-- A longer integer keeps fifty-three bits, and becomes infinite only if it is far too large. -/
theorem decode_ofInt_large (large : twoTo 53 ≤ n.natAbs) :
    ∃ m e, twoTo 52 ≤ m ∧ 1 ≤ e ∧ e ≤ (n.natAbs.log2 : Int) - 51 ∧
      (ofInt n).decode = if e ≤ 971 then .finite (n < 0) m e else .infinite (n < 0) := by
  have hk : n.natAbs ≠ 0 := by
    have : 0 < twoTo 53 := by decide
    omega
  have low : 2 ^ n.natAbs.log2 ≤ n.natAbs := Nat.log2_self_le hk
  have high : n.natAbs < 2 ^ (n.natAbs.log2 + 1) := Nat.lt_log2_self
  have bits : 53 ≤ n.natAbs.log2 := (Nat.le_log2 hk).2 large
  generalize hs : n.natAbs.log2 - 52 = s at *
  have packed : ofInt n = pack (n < 0) (roundDiv n.natAbs (twoTo s)) s := by
    rw [ofInt, ofRatio, if_neg hk]
    dsimp only
    rw [gridExponent_one hk]
    have shift : ((n.natAbs.log2 : Int) - 52) = s := by omega
    rw [shift, if_pos (by omega), Nat.one_mul, Int.toNat_natCast]
  have full : twoTo 52 ≤ n.natAbs / twoTo s := by
    have up : 52 + s = n.natAbs.log2 := by omega
    rw [Nat.le_div_iff_mul_le (twoTo_pos s), ← twoTo_add, up]
    exact low
  have fits : n.natAbs / twoTo s < twoTo 53 := by
    have up : 53 + s = n.natAbs.log2 + 1 := by omega
    rw [Nat.div_lt_iff_lt_mul (twoTo_pos s), ← twoTo_add, up]
    exact high
  obtain ⟨above, below⟩ := @roundDiv_bounds n.natAbs (twoTo s)
  rw [packed]
  by_cases filled : roundDiv n.natAbs (twoTo s) = twoTo 53
  · refine ⟨twoTo 52, (s : Int) + 1, Nat.le_refl _, by omega, by omega, ?_⟩
    rw [filled, pack_carry]
    split
    · next fit => exact decode_pack (Nat.le_refl _) (by decide) (by omega) fit
    · next unfit => exact decode_pack_endless (Nat.le_refl _) (by decide) (by omega)
  · refine ⟨roundDiv n.natAbs (twoTo s), s, by omega, by omega, by omega, ?_⟩
    split
    · next fit => exact decode_pack (by omega) (by omega) (by omega) fit
    · next unfit => exact decode_pack_endless (by omega) (by omega) (by omega)

theorem sign_natAbs (n : Int) :
    (if decide (n < 0) = true then -(n.natAbs : Int) else n.natAbs) = n := by
  by_cases negative : n < 0 <;> simp only [negative, decide_true, decide_false, if_true,
    Bool.false_eq_true, if_false] <;> omega

/-- A safe integer is its nearest double. -/
theorem toInt?_ofInt (small : n.natAbs < twoTo 53) : (ofInt n).toInt? = some n := by
  by_cases nonzero : n = 0
  · rw [nonzero]
    decide +kernel
  · have bits : n.natAbs.log2 ≤ 52 :=
      Nat.lt_succ_iff.1 ((Nat.log2_lt (Int.natAbs_ne_zero.2 nonzero)).2 small)
    have shift : (-((n.natAbs.log2 : Int) - 52)).toNat = 52 - n.natAbs.log2 := by omega
    have magnitude : (if (n.natAbs.log2 : Int) - 52 ≥ 0 then
        some (n.natAbs * twoTo (52 - n.natAbs.log2) * twoTo ((n.natAbs.log2 : Int) - 52).toNat)
        else if n.natAbs * twoTo (52 - n.natAbs.log2) % twoTo (52 - n.natAbs.log2) = 0 then
          some (n.natAbs * twoTo (52 - n.natAbs.log2) / twoTo (52 - n.natAbs.log2))
        else none) = some n.natAbs := by
      split
      · have all : n.natAbs.log2 = 52 := by omega
        simp [all]
      · rw [if_pos (Nat.mul_mod_left _ _), Nat.mul_div_left _ (twoTo_pos _)]
    rw [toInt?, decode_ofInt_small nonzero small]
    unfold integral?
    dsimp only
    rw [shift, magnitude]
    exact congrArg some (sign_natAbs n)

theorem safeInt?_ofInt (safe : n.natAbs ≤ maxSafeInteger) : (ofInt n).safeInt? = some n := by
  have small : n.natAbs < twoTo 53 := Nat.lt_of_le_pred (twoTo_pos 53) safe
  rw [safeInt?, toInt?_ofInt small]
  simpa using safe

/-- The double nearest to any other integer is no safe integer. -/
theorem safeInt?_ofInt_of_unsafe (beyond : ¬ n.natAbs ≤ maxSafeInteger) :
    (ofInt n).safeInt? = none := by
  have large : twoTo 53 ≤ n.natAbs := Nat.le_of_pred_lt (Nat.lt_of_not_le beyond)
  obtain ⟨m, e, full, least, _, decoded⟩ := decode_ofInt_large large
  rw [safeInt?, toInt?, decoded]
  by_cases fit : e ≤ 971
  · have doubled : twoTo 53 ≤ m * twoTo e.toNat :=
      calc twoTo 53 = twoTo 52 * twoTo 1 := twoTo_add 52 1
        _ ≤ m * twoTo e.toNat := Nat.mul_le_mul full (Nat.pow_le_pow_right (by decide) (by omega))
    have magnitude : ∀ k, integral? (n < 0) m e = some k → ¬ k.natAbs ≤ maxSafeInteger := by
      intro k hk
      rw [integral?, if_pos (by omega)] at hk
      obtain rfl := Option.some.inj hk
      have same : (if decide (n < 0) = true then -((m * twoTo e.toNat : Nat) : Int)
          else (m * twoTo e.toNat : Nat)).natAbs = m * twoTo e.toNat := by
        split <;> omega
      rw [same]
      exact Nat.not_le.2 (Nat.lt_of_lt_of_le (Nat.pred_lt (Nat.ne_of_gt (twoTo_pos 53))) doubled)
    rw [if_pos fit]
    simpa [Option.filter_eq_none_iff] using magnitude
  · rw [if_neg fit]
    rfl

/-- The double nearest to an integer of 64 bits is finite. -/
theorem isFinite_ofInt (small : n.natAbs < twoTo 64) : (ofInt n).isFinite = true := by
  by_cases nonzero : n = 0
  · rw [nonzero]
    decide +kernel
  · rw [isFinite]
    by_cases large : twoTo 53 ≤ n.natAbs
    · obtain ⟨m, e, _, _, most, decoded⟩ := decode_ofInt_large large
      have bits : n.natAbs.log2 < 64 := (Nat.log2_lt (Int.natAbs_ne_zero.2 nonzero)).2 small
      rw [decoded, if_pos (by omega)]
    · rw [decode_ofInt_small nonzero (Nat.lt_of_not_le large)]

/-- The whole part of a short integer is the integer. -/
theorem toIntTrunc_ofInt (small : n.natAbs < twoTo 53) : (ofInt n).toIntTrunc = n := by
  by_cases nonzero : n = 0
  · rw [nonzero]
    decide +kernel
  · have bits : n.natAbs.log2 ≤ 52 :=
      Nat.lt_succ_iff.1 ((Nat.log2_lt (Int.natAbs_ne_zero.2 nonzero)).2 small)
    have shift : (-((n.natAbs.log2 : Int) - 52)).toNat = 52 - n.natAbs.log2 := by omega
    have magnitude : (if 0 ≤ (n.natAbs.log2 : Int) - 52 then
        n.natAbs * twoTo (52 - n.natAbs.log2) * twoTo ((n.natAbs.log2 : Int) - 52).toNat
        else n.natAbs * twoTo (52 - n.natAbs.log2) / twoTo (52 - n.natAbs.log2)) = n.natAbs := by
      split
      · have all : n.natAbs.log2 = 52 := by omega
        simp [all]
      · rw [Nat.mul_div_left _ (twoTo_pos _)]
    rw [toIntTrunc, decode_ofInt_small nonzero small]
    dsimp only
    rw [shift, magnitude]
    exact sign_natAbs n

/-- A length is what it is as a number. -/
theorem clampTo_ofInt {high : Nat} (k : Nat) (short : k ≤ high) (small : high < twoTo 53) :
    (ofInt k).clampTo 0 high = k := by
  have bound : (k : Int).natAbs < twoTo 53 := Nat.lt_of_le_of_lt short small
  have finite := isFinite_ofInt (n := k) (Nat.lt_trans bound (by decide))
  have whole := toIntTrunc_ofInt bound
  unfold isFinite at finite
  unfold clampTo
  split at finite
  · next h =>
    rw [h]
    dsimp only
    rw [whole]
    omega
  · cases finite

end Integers

end Double

end ScriptHost
