import ClusterScript.Proofs.Number.Values

/-!
# Integers as floats

A float has fifty-three binary digits. An integer with more of them is rounded
to a multiple of its unit, the power of two with as many zeros as there are
digits too many: to the nearest multiple, of two to the even one. From `2^52`
units on the floats are the multiples of the unit, and below that no float is
nearer to the integer than these `2^52` units are.

* `Rounds`: a float is the nearest one to a number, of two the even one.
* `rounded`: an integer with fifty-three binary digits.
* `ofInt_rounds`: the float of an integer is the nearest one, and it stands for
  the rounded integer.
* `rounded_eq_self_iff`: which integers are floats.
-/
namespace ClusterScript.Binary64

/-- A float stands for `s`, and no float is nearer to `r`; where another number is as near, the
significand ends in a zero bit. -/
structure Rounds (x : Binary64) (r s : ℚ) : Prop where
  value : x.value? = some s
  nearest : ∀ (y : Binary64) (t : ℚ), y.value? = some t → |r - s| ≤ |r - t|
  even : ∀ (y : Binary64) (t : ℚ), y.value? = some t → t ≠ s → |r - t| = |r - s| →
    x.bits.toNat % 2 = 0

/-- The weight of the last of fifty-three binary digits of an integer, 1 if it has fewer. -/
def unit (n : Nat) : Nat := 2 ^ (n.log2 - 52)

/-- An integer rounded to fifty-three binary digits, to the even one of two. -/
def rounded (n : Int) : Int :=
  n.sign * (roundHalfEven n.natAbs (unit n.natAbs) * unit n.natAbs : Nat)

section

variable {n m : Nat} {q : Int} {negative : Bool}

theorem leadingBit_eq : leadingBit = 4503599627370496 := by decide

theorem signBit_eq : signBit = 9223372036854775808 := by decide

/-! ## Packing -/

theorem toNat_pack (low : leadingBit ≤ m) (high : m ≤ 2 * leadingBit) (hq : -1074 ≤ q)
    (hq' : q < 900) :
    (pack negative m q).bits.toNat =
      (q + 1074).toNat * leadingBit + m + if negative then signBit else 0 := by
  have hsign : (if negative then signBit else 0) ≤ 9223372036854775808 := by
    rw [signBit_eq]
    split <;> omega
  rw [leadingBit_eq] at *
  have hpack : pack negative m q = ⟨UInt64.ofNat ((q + 1074).toNat * 4503599627370496 + m +
      if negative then signBit else 0)⟩ := by
    simp only [pack, leadingBit_eq, if_neg (Nat.not_lt.2 low)]
    rw [if_pos (by omega)]
  rw [hpack]
  exact UInt64.toNat_ofNat_of_lt' (by simp only [UInt64.size]; omega)

/-- A significand of fifty-three digits is read as it was packed. -/
theorem reading_pack (low : leadingBit ≤ m) (high : m < 2 * leadingBit) (hq : -1074 ≤ q)
    (hq' : q < 900) : (pack negative m q).reading = .finite negative m q := by
  have hbits : (pack negative m q).bits.toNat = _ := toNat_pack low (Nat.le_of_lt high) hq hq'
  rw [leadingBit_eq, signBit_eq] at *
  have hexponent : (pack negative m q).exponentField = (q + 1075).toNat := by
    rw [exponentField, hbits, leadingBit_eq]
    split <;> omega
  have hfraction : (pack negative m q).fractionField = m - 4503599627370496 := by
    rw [fractionField, hbits, leadingBit_eq]
    split <;> omega
  have hnegative : (pack negative m q).negative = negative := by
    rw [Binary64.negative, hbits, signBit_eq]
    cases negative
    · simp
      omega
    · simp
  simp only [reading, hexponent, hfraction, hnegative, leadingBit_eq]
  rw [if_neg (by omega), if_neg (by omega), Reading.finite.injEq]
  exact ⟨rfl, by omega, by omega⟩

/-- A significand that was rounded up to `2^53` is that of the next exponent. -/
theorem pack_carry (hq : -1074 ≤ q) :
    pack negative (2 * leadingBit) q = pack negative leadingBit (q + 1) := by
  have hsum : (q + 1074).toNat * leadingBit + 2 * leadingBit =
      (q + 1 + 1074).toNat * leadingBit + leadingBit := by
    rw [leadingBit_eq]
    omega
  have hdouble : ¬ 2 * leadingBit < leadingBit := by decide
  simp only [pack, hsum, if_neg hdouble, if_neg (Nat.lt_irrefl leadingBit)]

theorem value?_of_reading {x : Binary64} (h : x.reading = .finite negative m q) :
    x.value? = some ((if negative then (-1 : ℚ) else 1) * (m * 2 ^ q)) := by
  rw [value?, h]

theorem value?_pack (low : leadingBit ≤ m) (high : m ≤ 2 * leadingBit) (hq : -1074 ≤ q)
    (hq' : q < 899) :
    (pack negative m q).value? = some ((if negative then (-1 : ℚ) else 1) * (m * 2 ^ q)) := by
  rcases Nat.lt_or_eq_of_le high with h | rfl
  · exact value?_of_reading (reading_pack low h hq (by omega))
  · have hlead : leadingBit < 2 * leadingBit := by decide
    rw [pack_carry hq, value?_of_reading (reading_pack (Nat.le_refl _) hlead (by omega) (by omega)),
      zpow_add_one₀ two_ne_zero]
    push_cast
    congr 2
    ring

/-- Every float has fifty-three binary digits at most. -/
theorem abs_value? {x : Binary64} {r : ℚ} (h : x.value? = some r) :
    ∃ (m : Nat) (q : Int), m < 2 ^ 53 ∧ |r| = m * 2 ^ q := by
  have hfraction : x.fractionField < leadingBit := Nat.mod_lt _ (by decide)
  rw [leadingBit_eq] at hfraction
  have hdigits : ∀ negative m q, x.reading = .finite negative m q → m < 2 ^ 53 := by
    intro negative m q hr
    simp only [reading, leadingBit_eq] at hr
    split at hr
    · split at hr <;> cases hr
    · split at hr <;> cases hr <;> omega
  unfold value? at h
  split at h
  · next negative m q hr =>
    cases h
    refine ⟨m, q, hdigits _ _ _ hr, ?_⟩
    have hpos : (0 : ℚ) ≤ m * 2 ^ q := by positivity
    cases negative <;> simp [abs_of_nonneg hpos]
  · cases h

/-! ## Units -/

theorem unitExponent_nat (hn : n ≠ 0) : unitExponent n 1 = (n.log2 : Int) - 52 := by
  have hone : Nat.log2 1 = 0 := by decide
  have hself : 2 ^ n.log2 ≤ n := Nat.log2_self_le hn
  -- The logarithm is exact, so that the first guess has fifty-three digits.
  have hguess : ¬ (inUnits n 1 ((n.log2 : Int) - 52)).1 / (inUnits n 1 ((n.log2 : Int) - 52)).2 <
      leadingBit := by
    have hlead : leadingBit = 2 ^ 52 := rfl
    rw [Nat.not_lt, hlead]
    by_cases hlog : (n.log2 : Int) - 52 < 0
    · have hexp : 52 = n.log2 + (-((n.log2 : Int) - 52)).toNat := by omega
      rw [inUnits, if_pos hlog, Nat.div_one, hexp, Nat.pow_add]
      exact Nat.mul_le_mul_right _ hself
    · have hexp : n.log2 = 52 + ((n.log2 : Int) - 52).toNat := by omega
      rw [inUnits, if_neg hlog, Nat.one_mul]
      refine (Nat.le_div_iff_mul_le (Nat.two_pow_pos _)).2 ?_
      rw [← Nat.pow_add, ← hexp]
      exact hself
  simp only [unitExponent, hone, Int.natCast_zero, Int.sub_zero, if_neg hguess]
  rw [if_neg (by omega)]

theorem roundHalfEven_le {n d m : Nat} (h : n / d < m) : roundHalfEven n d ≤ m := by
  simp only [roundHalfEven]
  repeat' split
  all_goals omega

theorem le_roundHalfEven (n d : Nat) : n / d ≤ roundHalfEven n d := by
  simp only [roundHalfEven]
  repeat' split
  all_goals omega

theorem roundHalfEven_one (n : Nat) : roundHalfEven n 1 = n := by
  simp [roundHalfEven, Nat.mod_one]

theorem ofRatio_small (hn : n ≠ 0) (hlog : n.log2 < 52) :
    ofRatio negative n 1 = pack negative (n * 2 ^ (52 - n.log2)) ((n.log2 : Int) - 52) := by
  have hneg : (n.log2 : Int) - 52 < 0 := by omega
  have hexp : (-((n.log2 : Int) - 52)).toNat = 52 - n.log2 := by omega
  simp only [ofRatio, if_neg hn, unitExponent_nat hn, inUnits, if_pos hneg, hexp, roundHalfEven_one]
  rfl

theorem ofRatio_large (hn : n ≠ 0) (hlog : 52 ≤ n.log2) :
    ofRatio negative n 1 = pack negative (roundHalfEven n (unit n)) ((n.log2 : Int) - 52) := by
  have hneg : ¬ (n.log2 : Int) - 52 < 0 := by omega
  have hexp : ((n.log2 : Int) - 52).toNat = n.log2 - 52 := by omega
  simp only [ofRatio, if_neg hn, unitExponent_nat hn, inUnits, if_neg hneg, hexp, Nat.one_mul]
  rfl

/-! ## Nearest multiples -/

/-- Rounding is off by half a unit at most, and by so much only from an even multiple. -/
theorem roundHalfEven_half (n : Nat) {d : Nat} (hd : 0 < d) :
    2 * |(n : Int) - roundHalfEven n d * d| ≤ d ∧
      (2 * |(n : Int) - roundHalfEven n d * d| = d → roundHalfEven n d % 2 = 0) := by
  have hdivides : ((n / d : Nat) : Int) * d + (n % d : Nat) = n := by
    exact_mod_cast Nat.div_add_mod' n d
  have hrest : n % d < d := Nat.mod_lt n hd
  have hbelow : |(n : Int) - (n / d : Nat) * d| = (n % d : Nat) := by
    rw [← hdivides, add_sub_cancel_left, abs_of_nonneg (by omega)]
  have habove : |(n : Int) - (n / d + 1 : Nat) * d| = d - (n % d : Nat) := by
    have hdistance : (n : Int) - (n / d + 1 : Nat) * d = -(d - (n % d : Nat)) := by
      rw [Nat.cast_add_one]
      linarith
    rw [hdistance, abs_neg, abs_of_nonneg (by omega)]
  simp only [roundHalfEven]
  split
  · rw [hbelow]
    omega
  · split
    · rw [habove]
      omega
    · split
      · rw [hbelow]
        omega
      · rw [habove]
        omega

/-- No multiple is nearer than one that is off by half a unit at most. -/
theorem multiple_nearest {a t j u : Int} (hu : 0 < u) (h : 2 * |a - t * u| ≤ u) :
    |a - t * u| ≤ |a - j * u| ∧ (j ≠ t → |a - j * u| = |a - t * u| → 2 * |a - t * u| = u) := by
  rcases eq_or_ne j t with rfl | hne
  · exact ⟨le_refl _, fun hne => absurd rfl hne⟩
  · have hapart : u ≤ |(t - j) * u| := by
      rw [abs_mul, abs_of_pos hu]
      exact le_mul_of_one_le_left hu.le (Int.one_le_abs (sub_ne_zero.2 hne.symm))
    have htriangle : |(t - j) * u| ≤ |a - j * u| + |a - t * u| := by
      have := abs_sub (a - j * u) (a - t * u)
      rwa [show a - j * u - (a - t * u) = (t - j) * u by ring] at this
    exact ⟨by omega, fun _ heq => by omega⟩

/-- A number of fifty-three digits is a multiple of `2^k`, or below `2^52` of them. -/
theorem multiple_or_below {k : Nat} {r : ℚ} (hm : m < 2 ^ 53) (hr : |r| = m * 2 ^ q) :
    (∃ j : Int, r = j * 2 ^ k) ∨ |r| < 2 ^ 52 * 2 ^ k := by
  rcases lt_or_ge q k with hlt | hge
  · right
    have hm' : (m : ℚ) < 2 ^ 53 := by exact_mod_cast hm
    calc |r| = m * 2 ^ q := hr
      _ < 2 ^ 53 * 2 ^ q := by gcongr
      _ ≤ 2 ^ 53 * 2 ^ ((k : Int) - 1) := by
        gcongr
        · norm_num
        · omega
      _ = 2 ^ 52 * 2 ^ k := by
        rw [zpow_sub_one₀ two_ne_zero, zpow_natCast]
        ring
  · left
    obtain ⟨e, rfl⟩ : ∃ e : Nat, q = e + k := ⟨(q - k).toNat, by omega⟩
    have hmultiple : |r| = (m * 2 ^ e : Int) * 2 ^ k := by
      rw [hr, zpow_add₀ two_ne_zero, zpow_natCast, zpow_natCast]
      push_cast
      ring
    rcases abs_choice r with h | h
    · exact ⟨_, h.symm.trans hmultiple⟩
    · refine ⟨-(m * 2 ^ e), ?_⟩
      rw [← neg_neg r, ← h, hmultiple]
      push_cast
      ring

/-- From `2^52` units on, a multiple that is off by half a unit at most is the nearest number of
fifty-three digits. -/
theorem digits_nearest {n t k : Nat} {r : ℚ} (hn : 2 ^ 52 * 2 ^ k ≤ n)
    (h : 2 * |(n : Int) - t * 2 ^ k| ≤ 2 ^ k) (hm : m < 2 ^ 53) (hr : |r| = m * 2 ^ q) :
    |(n : ℚ) - t * 2 ^ k| ≤ |n - r| ∧
      (r ≠ t * 2 ^ k → |n - r| = |(n : ℚ) - t * 2 ^ k| → 2 * |(n : Int) - t * 2 ^ k| = 2 ^ k) := by
  have hunit : (0 : Int) < 2 ^ k := by positivity
  rcases multiple_or_below (k := k) hm hr with ⟨j, rfl⟩ | hbelow
  · obtain ⟨hnearest, htie⟩ := multiple_nearest (j := j) hunit h
    refine ⟨by exact_mod_cast hnearest, fun hne heq => htie ?_ (by exact_mod_cast heq)⟩
    rintro rfl
    exact hne (by push_cast; rfl)
  · -- `2^52` units lie between such a number and `n`.
    have hn' : (2 : ℚ) ^ 52 * 2 ^ k ≤ n := by exact_mod_cast hn
    have hfirst := Int.cast_le (R := ℚ).2 (multiple_nearest (j := 2 ^ 52) hunit h).1
    push_cast at hfirst
    rw [abs_of_nonneg (show (0 : ℚ) ≤ n - 4503599627370496 * 2 ^ k by linarith)] at hfirst
    have hstrict : |(n : ℚ) - t * 2 ^ k| < |n - r| := by
      have := le_abs_self r
      have := le_abs_self ((n : ℚ) - r)
      linarith
    exact ⟨hstrict.le, fun _ heq => absurd heq hstrict.ne'⟩

/-! ## The float of an integer -/

theorem unit_of_small (h : n.log2 < 53) : unit n = 1 := by
  rw [unit, show n.log2 - 52 = 0 by omega, Nat.pow_zero]

theorem log2_lt_of_lt {k : Nat} (hn : n ≠ 0) (h : n < 2 ^ k) : n.log2 < k :=
  (Nat.log2_lt hn).2 h

/-- An integer of more than fifty-two digits has at least `2^52` of its units. -/
theorem units_le (hn : n ≠ 0) (hlog : 52 ≤ n.log2) : 2 ^ 52 * unit n ≤ n := by
  rw [unit, ← Nat.pow_add, Nat.add_sub_cancel' hlog]
  exact Nat.log2_self_le hn

theorem units_bounds (hn : n ≠ 0) (hlog : 52 ≤ n.log2) :
    leadingBit ≤ roundHalfEven n (unit n) ∧ roundHalfEven n (unit n) ≤ 2 * leadingBit := by
  have hlead : leadingBit = 2 ^ 52 := rfl
  have hunit : 0 < unit n := Nat.two_pow_pos _
  constructor
  · refine Nat.le_trans ?_ (le_roundHalfEven n (unit n))
    rw [hlead]
    exact (Nat.le_div_iff_mul_le hunit).2 (units_le hn hlog)
  · refine roundHalfEven_le ((Nat.div_lt_iff_lt_mul hunit).2 ?_)
    have hexp : n.log2 + 1 = 53 + (n.log2 - 52) := by omega
    rw [hlead, unit, show 2 * 2 ^ 52 = 2 ^ 53 by rfl, ← Nat.pow_add, ← hexp]
    exact Nat.lt_log2_self

/-- The float of a natural number stands for the multiple of its unit. -/
theorem value?_ofRatio (hn : n ≠ 0) (hlog : n.log2 < 64) :
    (ofRatio negative n 1).value? =
      some ((if negative then (-1 : ℚ) else 1) * (roundHalfEven n (unit n) * unit n)) := by
  rcases Nat.lt_or_ge n.log2 52 with hsmall | hlarge
  · have hlead : leadingBit = 2 ^ 52 := rfl
    have hexp : 2 ^ n.log2 * 2 ^ (52 - n.log2) = 2 ^ 52 := by
      rw [← Nat.pow_add, Nat.add_sub_cancel' (by omega)]
    have hlow : leadingBit ≤ n * 2 ^ (52 - n.log2) := by
      rw [hlead, ← hexp]
      exact Nat.mul_le_mul_right _ (Nat.log2_self_le hn)
    have hhigh : n * 2 ^ (52 - n.log2) ≤ 2 * leadingBit := by
      rw [hlead, ← hexp, ← Nat.mul_assoc, ← Nat.pow_succ']
      exact Nat.mul_le_mul_right _ Nat.lt_log2_self.le
    have hcancel : (2 : ℚ) ^ (52 - n.log2) * 2 ^ ((n.log2 : Int) - 52) = 1 := by
      rw [← zpow_natCast, ← zpow_add₀ two_ne_zero, Nat.cast_sub (by omega)]
      simp
    rw [ofRatio_small hn hsmall, value?_pack hlow hhigh (by omega) (by omega),
      unit_of_small (by omega), roundHalfEven_one]
    push_cast
    rw [mul_assoc (n : ℚ), hcancel]
  · obtain ⟨hlow, hhigh⟩ := units_bounds hn hlarge
    have hunit : (unit n : ℚ) = 2 ^ ((n.log2 : Int) - 52) := by
      rw [unit, Nat.cast_pow, ← zpow_natCast, Nat.cast_sub hlarge]
      rfl
    rw [ofRatio_large hn hlarge, value?_pack hlow hhigh (by omega) (by omega), hunit]

theorem value?_ofInt {i : Int} (h : i.natAbs < 2 ^ 64) :
    (ofInt i).value? = some (rounded i : ℚ) := by
  rcases eq_or_ne i 0 with rfl | hi
  · rw [value?_of_reading (show (ofInt 0).reading = .finite false 0 (-1074) by decide)]
    simp [rounded]
  · have hn : i.natAbs ≠ 0 := Int.natAbs_ne_zero.2 hi
    rw [ofInt, value?_ofRatio hn (log2_lt_of_lt hn h), rounded]
    rcases lt_or_gt_of_ne hi with hneg | hpos
    · simp [hneg, Int.sign_eq_neg_one_of_neg hneg]
    · simp [not_lt.2 hpos.le, Int.sign_eq_one_of_pos hpos]

theorem rounded_of_small {i : Int} (h : i.natAbs ≤ 2 ^ 53) : rounded i = i := by
  have hself : roundHalfEven i.natAbs (unit i.natAbs) * unit i.natAbs = i.natAbs := by
    rcases Nat.lt_or_eq_of_le h with hlt | heq
    · rcases eq_or_ne i.natAbs 0 with hz | hn
      · simp [hz, roundHalfEven]
      · rw [unit_of_small (log2_lt_of_lt hn hlt), roundHalfEven_one, Nat.mul_one]
    · rw [heq]
      decide
  rw [rounded, hself, Int.sign_mul_natAbs]

theorem rounded_eq_zero {i : Int} : rounded i = 0 ↔ i = 0 := by
  constructor
  · intro h
    by_contra hi
    have hn : i.natAbs ≠ 0 := Int.natAbs_ne_zero.2 hi
    have hunit : unit i.natAbs ≤ i.natAbs :=
      (Nat.pow_le_pow_right (by decide) (Nat.sub_le _ _)).trans (Nat.log2_self_le hn)
    have hpos : 0 < unit i.natAbs := Nat.two_pow_pos _
    have hquotient := (Nat.div_pos hunit hpos).trans_le (le_roundHalfEven i.natAbs _)
    rw [rounded, Int.mul_eq_zero, Int.sign_eq_zero_iff_zero, Int.natCast_eq_zero] at h
    exact h.elim hi (Nat.mul_pos hquotient hpos).ne'
  · rintro rfl
    rfl

theorem rounded_neg_iff {i : Int} : rounded i < 0 ↔ i < 0 := by
  rcases lt_trichotomy i 0 with hneg | rfl | hpos
  · have hne : rounded i ≠ 0 := fun h => hneg.ne (rounded_eq_zero.1 h)
    rw [rounded, Int.sign_eq_neg_one_of_neg hneg] at hne ⊢
    omega
  · simp [rounded]
  · rw [rounded, Int.sign_eq_one_of_pos hpos]
    omega

/-- Packing keeps the last bit of the significand. -/
theorem even_pack (low : leadingBit ≤ m) (high : m ≤ 2 * leadingBit) (hq : -1074 ≤ q)
    (hq' : q < 900) (h : m % 2 = 0) : (pack negative m q).bits.toNat % 2 = 0 := by
  rw [toNat_pack low high hq hq', leadingBit_eq, signBit_eq]
  split <;> omega

/-- Distances from an integer are those from its magnitude. -/
theorem distance_natAbs {i : Int} (hi : i ≠ 0) (r : ℚ) :
    |(i : ℚ) - r| = |(i.natAbs : ℚ) - i.sign * r| := by
  rw [Nat.cast_natAbs]
  rcases lt_or_gt_of_ne hi with hneg | hpos
  · rw [Int.sign_eq_neg_one_of_neg hneg, abs_of_neg hneg, ← abs_neg]
    push_cast
    congr 1
    ring
  · simp [Int.sign_eq_one_of_pos hpos, abs_of_pos hpos]

theorem sign_mul_rounded {i : Int} (hi : i ≠ 0) :
    (i.sign : ℚ) * rounded i =
      roundHalfEven i.natAbs (unit i.natAbs) * 2 ^ (i.natAbs.log2 - 52) := by
  have hsign : i.sign * i.sign = 1 := by
    rw [← abs_mul_abs_self, Int.abs_sign_of_ne_zero hi, one_mul]
  rw [rounded, ← Int.cast_mul, ← mul_assoc, hsign, one_mul, unit]
  push_cast
  rfl

/-- Nothing is nearer to an integer of more than fifty-two digits than the multiple of its unit
that it is rounded to. -/
theorem rounded_nearest {i : Int} {r : ℚ} (hi : i ≠ 0) (hlog : 52 ≤ i.natAbs.log2)
    (hm : m < 2 ^ 53) (hr : |r| = m * 2 ^ q) :
    |(i : ℚ) - rounded i| ≤ |i - r| ∧
      (r ≠ rounded i → |(i : ℚ) - r| = |(i : ℚ) - rounded i| →
        roundHalfEven i.natAbs (unit i.natAbs) % 2 = 0) := by
  have hn : i.natAbs ≠ 0 := Int.natAbs_ne_zero.2 hi
  have hsign : (i.sign : ℚ) ≠ 0 := by simpa using hi
  have hone : |(i.sign : ℚ)| = 1 := by
    rw [← Int.cast_abs, Int.abs_sign_of_ne_zero hi, Int.cast_one]
  have habs : |(i.sign : ℚ) * r| = m * 2 ^ q := by rw [abs_mul, hone, one_mul, hr]
  obtain ⟨hhalf, htie⟩ := roundHalfEven_half i.natAbs (Nat.two_pow_pos (i.natAbs.log2 - 52))
  rw [Nat.cast_pow, Nat.cast_ofNat] at hhalf htie
  obtain ⟨hnearest, hsame⟩ := digits_nearest (units_le hn hlog) hhalf hm habs
  rw [distance_natAbs hi, distance_natAbs hi r, sign_mul_rounded hi]
  refine ⟨hnearest, fun hne heq => htie (hsame (fun h => hne ?_) heq)⟩
  exact mul_left_cancel₀ hsign (h.trans (sign_mul_rounded hi).symm)

/-- **The float of an integer is the nearest one.** -/
theorem ofInt_rounds {i : Int} (h : i.natAbs < 2 ^ 64) : Rounds (ofInt i) i (rounded i) := by
  rcases Nat.lt_or_ge (2 ^ 53) i.natAbs with hlarge | hsmall
  · have hn : i.natAbs ≠ 0 := by omega
    have hlog : 52 ≤ i.natAbs.log2 := (Nat.le_log2 hn).2 (by omega)
    have hlog' : i.natAbs.log2 < 64 := log2_lt_of_lt hn h
    refine ⟨value?_ofInt h, fun y r hr => ?_, fun y r hr hne heq => ?_⟩
    · obtain ⟨m, q, hm, habs⟩ := abs_value? hr
      exact (rounded_nearest (Int.natAbs_ne_zero.1 hn) hlog hm habs).1
    · obtain ⟨m, q, hm, habs⟩ := abs_value? hr
      obtain ⟨hlow, hhigh⟩ := units_bounds hn hlog
      rw [ofInt, ofRatio_large hn hlog]
      refine even_pack hlow hhigh (by omega) (by omega) ?_
      exact (rounded_nearest (Int.natAbs_ne_zero.1 hn) hlog hm habs).2 hne heq
  · have hself : (rounded i : ℚ) = i := by rw [rounded_of_small hsmall]
    refine ⟨value?_ofInt h, fun y r _ => ?_, fun y r _ hne heq => ?_⟩
    · rw [hself, sub_self, abs_zero]
      exact abs_nonneg _
    · rw [hself, sub_self, abs_zero, abs_eq_zero, sub_eq_zero] at heq
      exact absurd (heq.symm.trans hself.symm) hne

/-- An integer keeps its value exactly if it is the value of some float. -/
theorem rounded_eq_self_iff {i : Int} (h : i.natAbs < 2 ^ 64) :
    rounded i = i ↔ ∃ x : Binary64, x.value? = some (i : ℚ) := by
  constructor
  · intro hself
    exact ⟨ofInt i, by rw [value?_ofInt h, hself]⟩
  · rintro ⟨x, hx⟩
    have hnearest := (ofInt_rounds h).nearest x i hx
    rw [sub_self, abs_zero, abs_nonpos_iff, sub_eq_zero] at hnearest
    exact_mod_cast hnearest.symm

end

end ClusterScript.Binary64
