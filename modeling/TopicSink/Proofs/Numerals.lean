import Mathlib.Tactic.Ring
import TopicSink.Event.Basic
import TopicSink.Record.Basic

namespace TopicSink

namespace Text

theorem digitsOnto_cons (acc : Nat) (c : CodePoint) (t : Text) :
    digitsOnto acc (c :: t) = digitsOnto (10 * acc + c.digitValue) t := by
  unfold digitsOnto
  rw [List.foldl_cons]

/-- Digits read on from a number stay below the next number with as many digits behind it. -/
theorem digitsOnto_lt (t : Text) (ht : ∀ c ∈ t, c.digitValue < 10) (acc : Nat) :
    digitsOnto acc t < (acc + 1) * 10 ^ t.length := by
  induction t generalizing acc with
  | nil =>
    have hnil : digitsOnto acc [] = acc := rfl
    rw [hnil, List.length_nil, pow_zero]
    omega
  | cons c t ih =>
    have hc : c.digitValue < 10 := ht c List.mem_cons_self
    have hrest := ih (fun d hd => ht d (List.mem_cons_of_mem c hd)) (10 * acc + c.digitValue)
    -- Ten times as much and a digit is less than ten times one more.
    calc digitsOnto acc (c :: t) = digitsOnto (10 * acc + c.digitValue) t := digitsOnto_cons acc c t
      _ < (10 * acc + c.digitValue + 1) * 10 ^ t.length := hrest
      _ ≤ ((acc + 1) * 10) * 10 ^ t.length := Nat.mul_le_mul_right _ (by omega)
      _ = (acc + 1) * 10 ^ (c :: t).length := by
        rw [List.length_cons, pow_succ]
        ring

theorem digitValue_lt {c : CodePoint} (h : c.isDigit = true) : c.digitValue < 10 := by
  have hc : 0x30 ≤ c.val ∧ c.val ≤ 0x39 := by
    simpa only [CodePoint.isDigit, Bool.and_eq_true, decide_eq_true_eq] using h
  unfold CodePoint.digitValue
  omega

theorem digits_lt {t : Text} (ht : ∀ c ∈ t, c.isDigit = true) : digits t < 10 ^ t.length := by
  have h := digitsOnto_lt t (fun c hc => digitValue_lt (ht c hc)) 0
  rw [Nat.zero_add, Nat.one_mul] at h
  exact h

end Text

namespace Numeral

theorem fits_iff {i : Int} : fits i = true ↔ i.natAbs < 10 ^ limit := by
  unfold fits
  rw [decide_eq_true_iff, Nat.pow_eq]

theorem fits_of_natAbs_lt {i : Int} {n : Nat} (hn : n ≤ limit) (h : i.natAbs < 10 ^ n) :
    fits i = true := by
  rw [fits_iff]
  exact lt_of_lt_of_le h (Nat.pow_le_pow_right (by omega) hn)

theorem fits_neg (i : Int) : fits (-i) = fits i := by
  unfold fits
  rw [Int.natAbs_neg]

/-- An integer read off digits within the limit has a numeral within the limit. -/
theorem fits_of_digits {t : Text} (ht : ∀ c ∈ t, c.isDigit = true) (hlength : t.length ≤ limit) :
    fits (Text.digits t : Int) = true := by
  apply fits_of_natAbs_lt hlength
  rw [Int.natAbs_natCast]
  exact Text.digits_lt ht

theorem fits_of_fitsWord {i : Int} (h : InsertEvent.fitsWord i = true) : fits i = true := by
  have hi : -2 ^ 63 < i ∧ i < 2 ^ 63 := by
    simpa only [InsertEvent.fitsWord, Bool.and_eq_true, decide_eq_true_eq] using h
  have hn : (20 : Nat) ≤ limit := by
    unfold limit
    omega
  apply fits_of_natAbs_lt hn
  omega

theorem fits_bool (b : Bool) : fits (if b then 1 else 0) = true := by
  apply fits_of_fitsWord
  cases b <;> decide

end Numeral

namespace EventNumeral

/-- What a plain numeral is read as has a numeral within the limit. -/
theorem fits_of_readPlain {t : Text} {i : Int} (h : readPlain t = .ok i) :
    Numeral.fits i = true := by
  have hdigits : ∀ body : Text, ∀ c ∈ body.takeWhile CodePoint.isDigit, c.isDigit = true := by
    intro body c hc
    exact List.all_eq_true.mp (List.all_takeWhile) c hc
  unfold readPlain at h
  dsimp only at h
  split_ifs at h with hsign hform hlimit hrest
  · rw [Except.ok.injEq] at h
    rw [← h, Numeral.fits_neg]
    exact Numeral.fits_of_digits (hdigits (t.drop 1)) (by omega)
  · rw [Except.ok.injEq] at h
    rw [← h]
    exact Numeral.fits_of_digits (hdigits t) (by omega)

theorem fits_of_read {t : Text} {i : Int} (h : read t = .ok i) : Numeral.fits i = true := by
  unfold read at h
  cases hplain : readPlain t with
  | ok j =>
    rw [hplain] at h
    cases h
    exact fits_of_readPlain hplain
  | error flaw =>
    have hform : ∃ form, plainForm t = some form ∧ readPlain form = .ok i := by
      cases hp : plainForm t with
      | none => cases flaw <;> simp [hplain, hp] at h
      | some form => cases hr : readPlain form <;> cases flaw <;> simp_all
    obtain ⟨form, -, hr⟩ := hform
    exact fits_of_readPlain hr

end EventNumeral

end TopicSink
