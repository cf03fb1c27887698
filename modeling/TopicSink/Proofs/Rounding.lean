import Mathlib.Tactic.Ring
import TopicSink.Binary64.Basic

/-!
How far rounding goes. A rounded quotient is off by half a unit at most. Thousandths below `2 ^ 48`
are rounded to units of `2 ^ -13` or finer; above, they are rounded to numbers of at least `2 ^ 38`.
-/

namespace TopicSink

namespace Binary64

/-- A rounded quotient is off by half a unit at most. -/
theorem roundHalfEven_bounds {den : Nat} (hden : 0 < den) (num : Nat) :
    2 * (roundHalfEven num den * den) ≤ 2 * num + den ∧
      2 * num ≤ 2 * (roundHalfEven num den * den) + den := by
  have hdiv : den * (num / den) + num % den = num := Nat.div_add_mod num den
  have hmod : num % den < den := Nat.mod_lt num hden
  obtain ⟨whole, hwhole⟩ : ∃ w, w = den * (num / den) := ⟨_, rfl⟩
  unfold roundHalfEven
  dsimp only
  split_ifs with hup
  · have hnext : (num / den + 1) * den = whole + den := by
      rw [Nat.add_mul, Nat.one_mul, Nat.mul_comm, hwhole]
    rw [hnext]
    omega
  · have hsame : num / den * den = whole := by rw [Nat.mul_comm, hwhole]
    rw [hsame]
    omega

theorem div_le_roundHalfEven (num den : Nat) : num / den ≤ roundHalfEven num den := by
  unfold roundHalfEven
  dsimp only
  split_ifs
  · exact Nat.le_succ _
  · exact le_refl _

theorem inUnits_neg (num den k : Nat) : inUnits num den (-(k : Int)) = (num * 2 ^ k, den) := by
  have hpos : (-(-(k : Int))).toNat = k := by omega
  have hneg : (-(k : Int)).toNat = 0 := by omega
  rw [inUnits, hpos, hneg, Nat.pow_zero, Nat.mul_one]

theorem inUnits_natCast (num den k : Nat) : inUnits num den (k : Int) = (num, den * 2 ^ k) := by
  have hpos : (-(k : Int)).toNat = 0 := by omega
  have hneg : ((k : Int)).toNat = k := by omega
  rw [inUnits, hpos, hneg, Nat.pow_zero, Nat.mul_one]

theorem inUnits_snd_pos {den : Nat} (hden : 0 < den) {num : Nat} (e : Int) :
    0 < (inUnits num den e).2 :=
  Nat.mul_pos hden (Nat.pow_pos (by omega))

/-- Twice the unit is counted half as often. -/
theorem inUnits_succ {num den c : Nat} {e : Int}
    (h : 2 * c * (inUnits num den e).2 ≤ (inUnits num den e).1) :
    c * (inUnits num den (e + 1)).2 ≤ (inUnits num den (e + 1)).1 := by
  obtain ⟨k, rfl | rfl⟩ : ∃ k : Nat, e = k ∨ e = -((k + 1 : Nat) : Int) := by
    by_cases he : 0 ≤ e
    · exact ⟨e.toNat, .inl (by omega)⟩
    · exact ⟨(-e - 1).toNat, .inr (by omega)⟩
  · have hsucc : (k : Int) + 1 = (k + 1 : Nat) := rfl
    rw [inUnits_natCast] at h
    rw [hsucc, inUnits_natCast]
    calc c * (den * 2 ^ (k + 1)) = 2 * c * (den * 2 ^ k) := by
          rw [Nat.pow_succ]
          ring
      _ ≤ num := h
  · have hsucc : -((k + 1 : Nat) : Int) + 1 = -(k : Int) := by omega
    rw [inUnits_neg] at h
    rw [hsucc, inUnits_neg]
    have hpower : num * 2 ^ (k + 1) = 2 * (num * 2 ^ k) := by
      rw [Nat.pow_succ]
      ring
    have htwice : 2 * c * den = 2 * (c * den) := Nat.mul_assoc 2 c den
    rw [hpower, htwice] at h
    exact Nat.le_of_mul_le_mul_left h (by omega)

/-- A quotient by a number below `2 ^ 10` has a count of more than 52 bits in its lead less 62. -/
theorem inUnits_full {num : Nat} (h : num ≠ 0) :
    2 ^ 52 * (inUnits num 1000 ((num.log2 : Int) - 62)).2 ≤
      (inUnits num 1000 ((num.log2 : Int) - 62)).1 := by
  have hself : 2 ^ num.log2 ≤ num := Nat.log2_self_le h
  have hden : 2 ^ 52 * 1000 ≤ 2 ^ 62 := by decide
  by_cases hlarge : 62 ≤ num.log2
  · obtain ⟨k, hk⟩ : ∃ k, num.log2 = 62 + k := ⟨num.log2 - 62, by omega⟩
    have hexponent : (num.log2 : Int) - 62 = (k : Int) := by omega
    rw [hexponent, inUnits_natCast]
    calc 2 ^ 52 * (1000 * 2 ^ k) = 2 ^ 52 * 1000 * 2 ^ k := (Nat.mul_assoc _ _ _).symm
      _ ≤ 2 ^ 62 * 2 ^ k := Nat.mul_le_mul_right _ hden
      _ = 2 ^ num.log2 := by rw [hk, Nat.pow_add]
      _ ≤ num := hself
  · obtain ⟨k, hk⟩ : ∃ k, num.log2 + k = 62 := ⟨62 - num.log2, by omega⟩
    have hexponent : (num.log2 : Int) - 62 = -(k : Int) := by omega
    rw [hexponent, inUnits_neg]
    calc 2 ^ 52 * 1000 ≤ 2 ^ 62 := hden
      _ = 2 ^ num.log2 * 2 ^ k := by rw [← Nat.pow_add, hk]
      _ ≤ num * 2 ^ k := Nat.mul_le_mul_right _ hself

theorem exponentFor_cases (num den : Nat) :
    let e := max ((num.log2 : Int) - den.log2 - 53) minExponent
    let parts := inUnits num den e
    exponentFor num den = e ∧ parts.1 / parts.2 < 2 ^ 53 ∨
      exponentFor num den = e + 1 ∧ 2 ^ 53 ≤ parts.1 / parts.2 := by
  intro e parts
  unfold exponentFor
  dsimp only
  split_ifs with h
  · exact .inl ⟨rfl, h⟩
  · exact .inr ⟨rfl, Nat.le_of_not_lt h⟩

theorem ofMantissa_cases (negative : Bool) (mantissa : Nat) (e : Int) :
    maxExponent ≤ e ∧ ofMantissa negative mantissa e = .infinite negative ∨
      mantissa = 2 ^ 53 ∧ ofMantissa negative mantissa e = .finite negative (2 ^ 52) (e + 1) ∨
      ofMantissa negative mantissa e = .finite negative mantissa e := by
  unfold ofMantissa
  by_cases hfull : mantissa = 2 ^ 53
  · rw [if_pos hfull]
    dsimp only
    split_ifs with hlarge
    · exact .inl ⟨by omega, rfl⟩
    · exact .inr (.inl ⟨hfull, rfl⟩)
  · rw [if_neg hfull]
    dsimp only
    split_ifs with hlarge
    · exact .inl ⟨by omega, rfl⟩
    · exact .inr (.inr rfl)

/-- A number of thousandths below `2 ^ 48` is rounded to a unit of at most `2 ^ -13`, and is off by
half a unit at most. -/
theorem ofQuotient_fine (negative : Bool) {num : Nat} (h : num < 2 ^ 48) :
    ∃ mantissa k : Nat, 13 ≤ k ∧
      ofQuotient negative num 1000 = .finite negative mantissa (-(k : Int)) ∧
      2 * (mantissa * 1000) ≤ 2 * (num * 2 ^ k) + 1000 ∧
      2 * (num * 2 ^ k) ≤ 2 * (mantissa * 1000) + 1000 := by
  by_cases hzero : num = 0
  · refine ⟨0, 1074, by omega, ?_, by omega, ?_⟩
    · rw [ofQuotient, if_pos hzero]
      rfl
    · rw [hzero, Nat.zero_mul]
      omega
  have hlog : num.log2 < 48 := (Nat.log2_lt hzero).mpr h
  have hden : (1000 : Nat).log2 = 9 := by decide
  -- The exponent comes out between -62 and -14.
  obtain ⟨k, hk, hexponent⟩ : ∃ k : Nat, 14 ≤ k ∧ exponentFor num 1000 = -(k : Int) := by
    have hcases := exponentFor_cases num 1000
    rw [hden, minExponent] at hcases
    rcases hcases with ⟨he, -⟩ | ⟨he, -⟩
    · exact ⟨(62 - num.log2), by omega, by omega⟩
    · exact ⟨(61 - num.log2), by omega, by omega⟩
  have hthousand : 0 < 1000 := by omega
  obtain ⟨hto, hfrom⟩ := roundHalfEven_bounds hthousand (num * 2 ^ k)
  obtain ⟨rounded, hrounded⟩ : ∃ r, r = roundHalfEven (num * 2 ^ k) 1000 := ⟨_, rfl⟩
  have hquotient : ofQuotient negative num 1000 = ofMantissa negative rounded (-(k : Int)) := by
    rw [ofQuotient, if_neg hzero]
    dsimp only
    rw [hexponent, inUnits_neg, hrounded]
  rw [← hrounded] at hto hfrom
  clear hrounded
  rcases ofMantissa_cases negative rounded (-(k : Int)) with
    ⟨hlarge, -⟩ | ⟨hfull, hcarried⟩ | hplain
  · rw [maxExponent] at hlarge
    omega
  -- A mantissa that rounding has filled up is halved, and so is the power.
  · obtain ⟨k', rfl⟩ : ∃ k', k = k' + 1 := ⟨k - 1, by omega⟩
    have hpower : num * 2 ^ (k' + 1) = 2 * (num * 2 ^ k') := by
      rw [Nat.pow_succ]
      ring
    have hhalf : rounded = 2 * 2 ^ 52 := hfull
    rw [hpower, hhalf] at hto hfrom
    refine ⟨2 ^ 52, k', by omega, ?_, ?_⟩
    · rw [hquotient, hcarried]
      congr 1
      omega
    · generalize num * 2 ^ k' = scaled at hto hfrom ⊢
      omega
  · exact ⟨rounded, k, by omega, hquotient.trans hplain, hto, hfrom⟩

theorem exponentFor_coarse {num : Nat} (h : 2 ^ 48 ≤ num) :
    -14 ≤ exponentFor num 1000 ∧
      2 ^ 52 ≤ (inUnits num 1000 (exponentFor num 1000)).1 /
        (inUnits num 1000 (exponentFor num 1000)).2 := by
  have hzero : num ≠ 0 := by omega
  have hlog : 48 ≤ num.log2 := (Nat.le_log2 hzero).mpr h
  have hden : (1000 : Nat).log2 = 9 := by decide
  have hfull := inUnits_full hzero
  have hcases := exponentFor_cases num 1000
  have hlead : max ((num.log2 : Int) - (1000 : Nat).log2 - 53) minExponent =
      (num.log2 : Int) - 62 := by
    rw [hden, minExponent]
    omega
  rw [hlead] at hcases
  rcases hcases with ⟨he, -⟩ | ⟨he, habove⟩
  · rw [he]
    refine ⟨by omega, ?_⟩
    exact (Nat.le_div_iff_mul_le (inUnits_snd_pos (by omega) _)).mpr hfull
  · rw [he]
    refine ⟨by omega, ?_⟩
    have htwice : (2 : Nat) ^ 53 = 2 * 2 ^ 52 := rfl
    rw [htwice, Nat.le_div_iff_mul_le (inUnits_snd_pos (by omega) _)] at habove
    exact (Nat.le_div_iff_mul_le (inUnits_snd_pos (by omega) _)).mpr (inUnits_succ habove)

/-- A number of thousandths from `2 ^ 48` on is rounded to a mantissa of 53 bits, and its unit is `2
^ -14` at least. -/
theorem ofQuotient_coarse (negative : Bool) {num : Nat} (h : 2 ^ 48 ≤ num) :
    ofQuotient negative num 1000 = .infinite negative ∨
      ∃ (mantissa : Nat) (e : Int), 2 ^ 52 ≤ mantissa ∧ -14 ≤ e ∧
        ofQuotient negative num 1000 = .finite negative mantissa e := by
  have hzero : num ≠ 0 := by omega
  obtain ⟨hexponent, hfull⟩ := exponentFor_coarse h
  obtain ⟨rounded, hrounded⟩ : ∃ r, r = roundHalfEven
      (inUnits num 1000 (exponentFor num 1000)).1 (inUnits num 1000 (exponentFor num 1000)).2 :=
    ⟨_, rfl⟩
  have hquotient : ofQuotient negative num 1000 =
      ofMantissa negative rounded (exponentFor num 1000) := by
    rw [ofQuotient, if_neg hzero, hrounded]
  have hlarge : 2 ^ 52 ≤ rounded := by
    rw [hrounded]
    exact le_trans hfull (div_le_roundHalfEven _ _)
  rw [hquotient]
  rcases ofMantissa_cases negative rounded (exponentFor num 1000) with
    ⟨-, hinfinite⟩ | ⟨-, hcarried⟩ | hplain
  · exact .inl hinfinite
  · exact .inr ⟨2 ^ 52, _, le_refl _, by omega, hcarried⟩
  · exact .inr ⟨rounded, _, hlarge, hexponent, hplain⟩

end Binary64

end TopicSink
