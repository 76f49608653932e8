import ClusterScript.Number.Decimal
import ClusterScript.Proofs.Number.Nearest

/-!
# Numbers with six places after the point

A float is written with the millionths that are nearest to it: the sign, the
whole part, a point and six digits. A whole number of them is written as it
is, however many digits it has.

* `Nearest`: the natural number nearest to a number, of two the even one.
* `Writes`: a text writes a float with six decimals, and it is the only one
  that does.
* `pointed_eq`: the digits before and behind the point.
* `sixPlaces_writes`: `sixPlaces` writes every finite float.
* `sixPlaces_whole`: the text of a whole float.
* `sixPlaces_ofInt`: that of the float of an integer.
-/
namespace ClusterScript.Decimal

open Binary64 (roundHalfEven)

/-- The natural number nearest to a number, of two the even one. -/
structure Nearest (r : ℚ) (n : Nat) : Prop where
  nearest : ∀ k : Nat, |r - n| ≤ |r - k|
  even : ∀ k : Nat, k ≠ n → |r - k| = |r - n| → n % 2 = 0

/-- The last decimal digits of a number, zeros where it has fewer. -/
def lastDigits : Nat → Nat → List Char
  | 0, _ => []
  | places + 1, n => lastDigits places (n / 10) ++ [Nat.digitChar (n % 10)]

/-- A text writes a float with six decimals: the sign, the whole part, a point and six digits of
the millionths nearest to it. -/
def Writes (x : Binary64) (text : String) : Prop :=
  ∃ (r : ℚ) (millionths : Nat), x.value? = some r ∧ Nearest (|r| * 10 ^ 6) millionths ∧
    text = (if x.negative then "-" else "") ++
      (toString (millionths / 10 ^ 6) ++ "." ++ String.ofList (lastDigits 6 millionths))

section

variable {n m p : Nat}

/-! ## Nearest numbers -/

theorem Nearest.unique {r : ℚ} (hn : Nearest r n) (hm : Nearest r m) : n = m := by
  by_contra hne
  have heq : |r - n| = |r - m| := le_antisymm (hn.nearest m) (hm.nearest n)
  have hpair : (n : ℚ) + m = 2 * r := by
    rcases abs_eq_abs.1 heq with h | h
    · exact absurd (by exact_mod_cast sub_right_inj.1 h) hne
    · linarith
  -- Between two even numbers there is one that is nearer.
  have hevenn := hn.even m (Ne.symm hne) heq.symm
  have hevenm := hm.even n hne heq
  obtain ⟨k, hk⟩ : ∃ k : Nat, n + m = 2 * k := ⟨(n + m) / 2, by omega⟩
  have hr : r = k := by
    have : (n : ℚ) + m = 2 * k := by exact_mod_cast hk
    linarith
  have hnearer := hn.nearest k
  rw [hr, sub_self, abs_zero, abs_nonpos_iff, sub_eq_zero] at hnearer
  have hkn : k = n := by exact_mod_cast hnearer
  omega

/-- Half-even rounding of a quotient finds the nearest number. -/
theorem nearest_roundHalfEven (n : Nat) {d : Nat} (hd : 0 < d) :
    Nearest (n / d) (roundHalfEven n d) := by
  obtain ⟨hhalf, htie⟩ := Binary64.roundHalfEven_half n hd
  have hunit : (0 : Int) < d := by exact_mod_cast hd
  have hd' : (0 : ℚ) < d := by exact_mod_cast hd
  have hdistance : ∀ k : Nat, |(n : ℚ) / d - k| = (|(n : Int) - k * d| : Int) / d := by
    intro k
    rw [div_sub' hd'.ne', abs_div, abs_of_pos hd', mul_comm]
    push_cast
    rfl
  constructor
  · intro k
    rw [hdistance, hdistance, div_le_div_iff_of_pos_right hd', Int.cast_le]
    exact (Binary64.multiple_nearest hunit hhalf).1
  · intro k hk heq
    rw [hdistance, hdistance, div_left_inj' hd'.ne', Int.cast_inj] at heq
    exact htie ((Binary64.multiple_nearest hunit hhalf).2 (by exact_mod_cast hk) heq)

/-! ## Digits around the point -/

theorem length_lastDigits (p n : Nat) : (lastDigits p n).length = p := by
  induction p generalizing n with
  | zero => rfl
  | succ p ih => rw [lastDigits, List.length_append, ih, List.length_singleton]

/-- Behind a whole number there are zeros. -/
theorem lastDigits_mul (p n : Nat) : lastDigits p (n * 10 ^ p) = List.replicate p '0' := by
  induction p with
  | zero => rfl
  | succ p ih =>
    rw [lastDigits, Nat.pow_succ, ← Nat.mul_assoc, Nat.mul_div_cancel _ (by decide), ih,
      Nat.mul_mod_left, List.replicate_succ']
    rfl

theorem toList_repr_of_lt (h : n < 10) : n.repr.toList = [Nat.digitChar n] := by
  rw [Nat.repr_eq_ofList_toDigits, String.toList_ofList, Nat.toDigits_of_lt_base h]

theorem toList_repr_of_le (h : 10 ≤ n) :
    n.repr.toList = (n / 10).repr.toList ++ [Nat.digitChar (n % 10)] := by
  have hsplit := Nat.toDigits_append_toDigits (b := 10) (n := n / 10) (d := n % 10) (by decide)
    (by omega) (by omega)
  rw [Nat.toDigits_of_lt_base (Nat.mod_lt _ (by decide)), Nat.div_add_mod] at hsplit
  rw [Nat.repr_eq_ofList_toDigits, Nat.repr_eq_ofList_toDigits, String.toList_ofList,
    String.toList_ofList, hsplit]

/-- Zeros before a number, so that it has more digits than there are places. -/
theorem padded_eq (p n : Nat) :
    List.replicate (p + 1 - n.repr.toList.length) '0' ++ n.repr.toList =
      (n / 10 ^ p).repr.toList ++ lastDigits p n := by
  induction p generalizing n with
  | zero =>
    have hdigits := List.length_pos_of_ne_nil (show n.repr.toList ≠ [] by
      rw [Nat.repr_eq_ofList_toDigits, String.toList_ofList]
      exact Nat.toDigits_ne_nil)
    rw [show 0 + 1 - n.repr.toList.length = 0 by omega, Nat.pow_zero, Nat.div_one, lastDigits]
    simp
  | succ p ih =>
    have hquotient : n / 10 ^ (p + 1) = n / 10 / 10 ^ p := by
      rw [Nat.div_div_eq_div_mul, Nat.pow_succ']
    rw [hquotient, lastDigits, ← List.append_assoc, ← ih]
    rcases Nat.lt_or_ge n 10 with hlt | hge
    · -- The zero before one digit is the quotient.
      have hzero : (0 : Nat).repr.toList = ['0'] := by decide
      rw [toList_repr_of_lt hlt, Nat.div_eq_of_lt hlt, Nat.mod_eq_of_lt hlt, hzero]
      exact congrArg (· ++ _) List.replicate_succ'
    · rw [toList_repr_of_le hge, List.length_append, List.length_singleton, List.append_assoc,
        Nat.add_sub_add_right]

theorem toList_zeros (n : Nat) : (zeros n).toList = List.replicate n '0' := String.toList_ofList

/-- The digits of the whole part stand before the point, the last ones behind it. -/
theorem pointed_eq (n : Nat) (hp : p ≠ 0) :
    pointed n p = toString (n / 10 ^ p) ++ "." ++ String.ofList (lastDigits p n) := by
  have hpadded : zeros (p + 1 - n.repr.length) ++ n.repr =
      String.ofList ((n / 10 ^ p).repr.toList ++ lastDigits p n) := by
    rw [← String.toList_inj, String.toList_append, toList_zeros, String.toList_ofList,
      ← String.length_toList, padded_eq]
  have hlength : ((n / 10 ^ p).repr.toList ++ lastDigits p n).length - p =
      (n / 10 ^ p).repr.toList.length := by
    rw [List.length_append, length_lastDigits, Nat.add_sub_cancel]
  simp only [pointed, Nat.toString_eq_repr, hpadded, if_neg hp, String.toList_ofList,
    String.length_ofList, hlength, List.take_left, List.drop_left, String.ofList_toList]

/-! ## Floats -/

/-- A magnitude as a quotient. -/
theorem magnitude_eq (m : Nat) (q : Int) :
    0 < (Binary64.magnitude m q).2 ∧
      (m : ℚ) * 2 ^ q = (Binary64.magnitude m q).1 / (Binary64.magnitude m q).2 := by
  unfold Binary64.magnitude
  split
  · next hq =>
    have hpos : (0 : ℚ) < 2 ^ (-q).toNat := by positivity
    refine ⟨Nat.two_pow_pos _, (Binary64.magnitude_eq_iff hq _).2 ?_⟩
    show (m : ℚ) = m / (2 ^ (-q).toNat : Nat) * 2 ^ (-q).toNat
    push_cast
    rw [div_mul_cancel₀ _ hpos.ne']
  · next hq =>
    obtain ⟨e, rfl⟩ : ∃ e : Nat, q = e := ⟨q.toNat, by omega⟩
    refine ⟨Nat.one_pos, ?_⟩
    show (m : ℚ) * 2 ^ (e : Int) = (m * 2 ^ e : Nat) / (1 : Nat)
    push_cast
    rw [zpow_natCast, div_one]

theorem roundHalfEven_mul (n : Nat) {d : Nat} (hd : 0 < d) : roundHalfEven (n * d) d = n := by
  simp [roundHalfEven, Nat.mul_div_cancel _ hd, hd]

/-- Nothing is rounded where a quotient is a whole number. -/
theorem fixed_whole (n : Nat) {d : Nat} (hd : 0 < d) : fixed p (n * d) d = n * 10 ^ p := by
  rw [fixed, Nat.mul_right_comm, roundHalfEven_mul _ hd]
  rfl

theorem exists_reading {x : Binary64} (h : x.isFinite = true) :
    ∃ negative m q, x.reading = .finite negative m q := by
  simp only [Binary64.isFinite, decide_eq_true_eq] at h
  simp only [Binary64.reading, if_neg h]
  split
  · exact ⟨_, _, _, rfl⟩
  · exact ⟨_, _, _, rfl⟩

theorem sixPlaces_of_reading {x : Binary64} {negative : Bool} {q : Int}
    (hreading : x.reading = .finite negative m q) (hvalue : (m : ℚ) * 2 ^ q = n) :
    sixPlaces x = (if negative then "-" else "") ++ (n.repr ++ ".000000") := by
  obtain ⟨hpos, hquotient⟩ := magnitude_eq m q
  have hnumerator : (Binary64.magnitude m q).1 = n * (Binary64.magnitude m q).2 := by
    have hpos' : ((Binary64.magnitude m q).2 : ℚ) ≠ 0 := by exact_mod_cast hpos.ne'
    rw [hvalue, eq_div_iff hpos'] at hquotient
    exact_mod_cast hquotient.symm
  have hunits : fixed 6 (Binary64.magnitude m q).1 (Binary64.magnitude m q).2 = n * 10 ^ 6 := by
    rw [hnumerator, fixed_whole n hpos]
  have hzeros : "." ++ String.ofList (List.replicate 6 '0') = ".000000" := by decide
  simp only [sixPlaces, hreading, hunits]
  rw [pointed_eq _ (by decide), lastDigits_mul, Nat.mul_div_cancel _ (by decide),
    String.append_assoc, hzeros]
  rfl

/-- **A finite float is written with the millionths nearest to it.** -/
theorem sixPlaces_writes {x : Binary64} (h : x.isFinite = true) : Writes x (sixPlaces x) := by
  obtain ⟨negative, m, q, hreading⟩ := exists_reading h
  obtain ⟨hpos, hquotient⟩ := magnitude_eq m q
  have habs : |(if negative then (-1 : ℚ) else 1) * (m * 2 ^ q)| = m * 2 ^ q := by
    have hnonneg : (0 : ℚ) ≤ m * 2 ^ q := by positivity
    cases negative <;> simp [abs_of_nonneg hnonneg]
  have hnearest : Nearest (m * 2 ^ q * 10 ^ 6)
      (fixed 6 (Binary64.magnitude m q).1 (Binary64.magnitude m q).2) := by
    have hrounded := nearest_roundHalfEven ((Binary64.magnitude m q).1 * 10 ^ 6) hpos
    rwa [Nat.cast_mul, Nat.cast_pow, Nat.cast_ofNat, mul_div_right_comm, ← hquotient] at hrounded
  refine ⟨_, _, Binary64.value?_of_reading hreading, habs ▸ hnearest, ?_⟩
  simp only [sixPlaces, hreading, Binary64.negative_of_reading hreading]
  rw [pointed_eq _ (by decide)]

/-- A float has one text with six decimals. -/
theorem Writes.unique {x : Binary64} {s t : String} (hs : Writes x s) (ht : Writes x t) :
    s = t := by
  obtain ⟨r, n, hr, hn, rfl⟩ := hs
  obtain ⟨r', m, hr', hm, rfl⟩ := ht
  cases hr.symm.trans hr'
  rw [hn.unique hm]

theorem repr_signed (i : Int) : i.repr = (if i < 0 then "-" else "") ++ i.natAbs.repr := by
  rw [Int.repr_eq_if]
  by_cases hi : i < 0
  · rw [if_neg (by omega), if_pos hi, show (-i).toNat = i.natAbs by omega]
  · rw [if_pos (by omega), if_neg hi, String.empty_append, show i.toNat = i.natAbs by omega]

/-- **A whole float is written with its exact digits**, however many they are. -/
theorem sixPlaces_whole {x : Binary64} {i : Int} (h : x.value? = some (i : ℚ))
    (hzero : i = 0 → x.negative = false) : sixPlaces x = toString i ++ ".000000" := by
  unfold Binary64.value? at h
  split at h
  · next negative m q hreading =>
    rw [Binary64.negative_of_reading hreading] at hzero
    obtain ⟨hvalue, hnegative⟩ := Binary64.signed_whole (by positivity) (Option.some.inj h) hzero
    rw [sixPlaces_of_reading hreading hvalue, hnegative, ← String.append_assoc]
    show _ = i.repr ++ ".000000"
    simp [repr_signed]
  · cases h

/-- The float of an integer is written with the digits of the rounded integer. -/
theorem sixPlaces_ofInt {i : Int} (h : i.natAbs < 2 ^ 64) :
    sixPlaces (Binary64.ofInt i) = toString (Binary64.rounded i) ++ ".000000" := by
  refine sixPlaces_whole (Binary64.value?_ofInt h) fun hzero => ?_
  rw [Binary64.rounded_eq_zero.1 hzero]
  decide

theorem append_places_inj {i k : Int} :
    toString i ++ ".000000" = toString k ++ ".000000" ↔ i = k := by
  rw [String.append_left_inj]
  exact Int.repr_inj

end

end ClusterScript.Decimal
