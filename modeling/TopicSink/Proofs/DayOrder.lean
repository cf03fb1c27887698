import Mathlib.Data.List.Induction
import Mathlib.Data.List.Lex
import Mathlib.Order.Fin.Basic
import TopicSink.Proofs.DefaultNames
import TopicSink.Proofs.Instants

/-!
The order of days as texts. A day is written as its year, month and day between hyphens, and the
year has no zeros in front. `Record.ofMessage_day` says what becomes of the order of days by that:
among texts of one length it is the order of time, and a shorter text stands in front of a longer
one just when its year does in front of as many digits of the other.
-/

namespace TopicSink

namespace Text

/-- Texts are compared by their fronts first. -/
theorem append_lt_append_iff {t t' : Text} (h : t.length = t'.length) (u u' : Text) :
    t ++ u < t' ++ u' ↔ t < t' ∨ t = t' ∧ u < u' := by
  induction t generalizing t' with
  | nil =>
    have hnil : t' = [] := List.eq_nil_of_length_eq_zero h.symm
    rw [hnil]
    simp
  | cons c t ih =>
    cases t' with
    | nil => cases h
    | cons c' t' =>
      rw [List.cons_append, List.cons_append, List.cons_lt_cons_iff, List.cons_lt_cons_iff,
        ih (Nat.succ.inj h), List.cons.injEq]
      tauto

theorem append_lt_append_left (t : Text) {u u' : Text} : t ++ u < t ++ u' ↔ u < u' := by
  rw [append_lt_append_iff rfl]
  simp

theorem digits_append (t u : Text) : digits (t ++ u) = digits t * 10 ^ u.length + digits u := by
  induction u using List.reverseRecOn with
  | nil => simp [digits, digitsOnto]
  | append_singleton u c ih =>
    rw [← List.append_assoc, digits_append_singleton, digits_append_singleton, ih,
      List.length_append, List.length_singleton, pow_succ]
    ring

theorem digits_cons (c : CodePoint) (t : Text) :
    digits (c :: t) = c.digitValue * 10 ^ t.length + digits t := by
  have hone : digits [c] = c.digitValue := by simp [digits, digitsOnto]
  rw [← hone, ← digits_append, List.singleton_append]

/-- A text of `width` digits, zeros in front among them, that is read as `n`. -/
structure HasDigits (t : Text) (width n : Nat) : Prop where
  isDigit : ∀ c ∈ t, c.isDigit = true
  length : t.length = width
  value : digits t = n

section Digits

variable {t t' : Text} {width n n' : Nat}

theorem digitValue_lt_iff {c c' : CodePoint} (h : c.isDigit = true) (h' : c'.isDigit = true) :
    c < c' ↔ c.digitValue < c'.digitValue := by
  simp only [CodePoint.isDigit, Bool.and_eq_true, decide_eq_true_eq] at h h'
  rw [Fin.lt_def]
  unfold CodePoint.digitValue
  omega

/-- Of as many digits, those in front decide. -/
theorem lt_iff_digits_lt (h : ∀ c ∈ t, c.isDigit = true) (h' : ∀ c ∈ t', c.isDigit = true)
    (hlength : t.length = t'.length) : t < t' ↔ digits t < digits t' := by
  induction t generalizing t' with
  | nil =>
    have hnil : t' = [] := List.eq_nil_of_length_eq_zero hlength.symm
    rw [hnil]
    simp
  | cons c t ih =>
    cases t' with
    | nil => cases hlength
    | cons c' t' =>
      have hrest := ih (fun d hd => h d (List.mem_cons_of_mem c hd))
        (fun d hd => h' d (List.mem_cons_of_mem c' hd)) (Nat.succ.inj hlength)
      have hfirst := digitValue_lt_iff (h c List.mem_cons_self) (h' c' List.mem_cons_self)
      have hfirst' := digitValue_lt_iff (h' c' List.mem_cons_self) (h c List.mem_cons_self)
      have hsmall := digits_lt fun d hd => h d (List.mem_cons_of_mem c hd)
      have hsmall' := digits_lt fun d hd => h' d (List.mem_cons_of_mem c' hd)
      rw [← Nat.succ.inj hlength] at hsmall'
      rw [List.cons_lt_cons_iff, digits_cons, digits_cons, ← Nat.succ.inj hlength, hrest]
      generalize 10 ^ t.length = unit at hsmall hsmall'
      rcases lt_trichotomy c c' with hlt | rfl | hgt
      -- A smaller digit in front is not made up for by those behind it.
      · have hstep : (c.digitValue + 1) * unit ≤ c'.digitValue * unit :=
          Nat.mul_le_mul_right unit (hfirst.mp hlt)
        have hless : c.digitValue * unit + digits t < c'.digitValue * unit + digits t' := by
          rw [Nat.add_mul, Nat.one_mul] at hstep
          omega
        exact iff_of_true (.inl hlt) hless
      · simp
      · have hstep : (c'.digitValue + 1) * unit ≤ c.digitValue * unit :=
          Nat.mul_le_mul_right unit (hfirst'.mp hgt)
        have hmore : ¬c.digitValue * unit + digits t < c'.digitValue * unit + digits t' := by
          rw [Nat.add_mul, Nat.one_mul] at hstep
          omega
        have hnot : ¬(c < c' ∨ c = c' ∧ digits t < digits t') := by
          rintro (hlt | ⟨rfl, -⟩)
          · exact lt_asymm hlt hgt
          · exact lt_irrefl c hgt
        exact iff_of_false hnot hmore

theorem HasDigits.lt_iff (h : t.HasDigits width n) (h' : t'.HasDigits width n') :
    t < t' ↔ n < n' := by
  rw [lt_iff_digits_lt h.isDigit h'.isDigit (h.length.trans h'.length.symm), h.value, h'.value]

theorem HasDigits.eq_iff (h : t.HasDigits width n) (h' : t'.HasDigits width n') :
    t = t' ↔ n = n' := by
  have hlt := h.lt_iff h'
  have hgt := h'.lt_iff h
  rcases lt_trichotomy t t' with hless | heq | hmore
  · exact iff_of_false (ne_of_lt hless) (by have := hlt.mp hless; omega)
  · exact iff_of_true heq (by rw [← h.value, heq, h'.value])
  · exact iff_of_false (ne_of_gt hmore) (by have := hgt.mp hmore; omega)

theorem hasDigits_ofNat (hlow : 10 ^ (width - 1) ≤ n) (hhigh : n < 10 ^ width) (hpos : 0 < width) :
    (ofNat n).HasDigits width n := by
  have hnumeral := isNumeralOf_ofNat n
  have hle : (ofNat n).length ≤ width := length_ofNat_le hpos hhigh
  have hlt : n < 10 ^ (ofNat n).length := by
    calc n = digits (ofNat n) := hnumeral.value.symm
      _ < 10 ^ (ofNat n).length := digits_lt hnumeral.isDigit
  have hge : width - 1 < (ofNat n).length :=
    (Nat.pow_lt_pow_iff_right (by omega)).mp (lt_of_le_of_lt hlow hlt)
  exact ⟨hnumeral.isDigit, by omega, hnumeral.value⟩

theorem hasDigits_padded (hpos : 0 < width) (h : n < 10 ^ width) :
    (padded width n).HasDigits width n := by
  have hnumeral := isNumeralOf_ofNat n
  have hle : (ofNat n).length ≤ width := length_ofNat_le hpos h
  refine ⟨?_, ?_, ?_⟩
  · intro c hc
    rcases List.mem_append.mp hc with hzero | hdigit
    · rw [List.eq_of_mem_replicate hzero]
      decide
    · exact hnumeral.isDigit c hdigit
  · unfold padded fillFront
    rw [List.length_append, List.length_replicate]
    omega
  · exact (digits_zeros_append _ _).trans hnumeral.value

/-- The digits in front of a number are the number without as many as there are behind them. -/
theorem HasDigits.take (h : t.HasDigits width n) {k : Nat} (hk : k ≤ width) :
    HasDigits (t.take k) k (n / 10 ^ (width - k)) := by
  have hlength := h.length
  have hdrop : (t.drop k).length = width - k := by rw [List.length_drop, hlength]
  refine ⟨fun c hc => h.isDigit c (List.mem_of_mem_take hc), ?_, ?_⟩
  · rw [List.length_take]
    omega
  · have hsmall := digits_lt fun c hc => h.isDigit c (List.mem_of_mem_drop (i := k) hc)
    calc digits (t.take k) = digits (t.take k ++ t.drop k) / 10 ^ (t.drop k).length := by
          rw [digits_append, Nat.mul_comm, Nat.mul_add_div (Nat.pow_pos (by omega)),
            Nat.div_eq_of_lt hsmall, Nat.add_zero]
      _ = n / 10 ^ (width - k) := by rw [List.take_append_drop, h.value, hdrop]

end Digits

/-- Year, month and day of a date between hyphens, `width` digits of year and two of each other. -/
def IsDate (t : Text) (width : Nat) (d : Date) : Prop :=
  ∃ year month day : Text, t = year ++ "-" ++ month ++ "-" ++ day ∧
    year.HasDigits width d.year.toNat ∧ month.HasDigits 2 d.month ∧ day.HasDigits 2 d.day

section Dates

variable {t t' : Text} {width width' : Nat} {d d' : Date}

theorem IsDate.length (h : t.IsDate width d) : t.length = width + 6 := by
  obtain ⟨year, month, day, rfl, hyear, hmonth, hday⟩ := h
  have hhyphen : ("-" : Text).length = 1 := rfl
  simp only [List.length_append, hhyphen, hyear.length, hmonth.length, hday.length]

theorem IsDate.unique (h : t.IsDate width d) (h' : t'.IsDate width d) : t = t' := by
  obtain ⟨year, month, day, rfl, hyear, hmonth, hday⟩ := h
  obtain ⟨year', month', day', rfl, hyear', hmonth', hday'⟩ := h'
  rw [(hyear.eq_iff hyear').mpr rfl, (hmonth.eq_iff hmonth').mpr rfl, (hday.eq_iff hday').mpr rfl]

/-- A date is printed with as many digits of year as it has, and with two digits of month and day.
-/
theorem isDate_render (h : d.IsValid) (hpos : 0 < width) (hlow : 10 ^ (width - 1) ≤ d.year)
    (hhigh : d.year < 10 ^ width) : d.render.IsDate width d := by
  have hmonth : d.month < 10 ^ 2 := by
    have := h.month_le
    omega
  have hday : d.day < 10 ^ 2 := by
    have hle := h.day_le
    unfold Date.monthLength at hle
    split_ifs at hle <;> omega
  have hyear : (d.year.toNat : Int) = d.year := by
    apply Int.toNat_of_nonneg
    exact le_trans (by positivity) hlow
  have hname : Text.ofInt d.year = Text.ofNat d.year.toNat := by
    rw [ofInt_of_nonneg (by omega)]
    congr 1
    omega
  refine ⟨ofNat d.year.toNat, padded 2 d.month, padded 2 d.day, ?_, ?_, ?_, ?_⟩
  · rw [Date.render, hname]
  · apply hasDigits_ofNat _ _ hpos
    · exact_mod_cast hyear ▸ hlow
    · exact_mod_cast hyear ▸ hhigh
  · exact hasDigits_padded (by omega) hmonth
  · exact hasDigits_padded (by omega) hday

end Dates

end Text

namespace Date

variable {d d' : Date}

def Before (d d' : Date) : Prop :=
  d.year < d'.year ∨ d.year = d'.year ∧ (d.month < d'.month ∨ d.month = d'.month ∧ d.day < d'.day)

theorem IsValid.toDay_lt_of_before (h : d.IsValid) (h' : d'.IsValid) (hbefore : d.Before d') :
    d.toDay < d'.toDay := by
  rcases hbefore with hyear | ⟨hyear, hmonth | ⟨hmonth, hday⟩⟩
  · have hyears := daysBeforeYear_mono (show d.year + 1 ≤ d'.year from hyear)
    have hbounds := h.toDay_bounds
    have hbounds' := h'.toDay_bounds
    omega
  · have hmonths := daysBeforeMonth_mono d'.year (Nat.le_add_left 1 d.month)
      (show d.month + 1 ≤ d'.month from hmonth)
    have hnext := daysBeforeMonth_succ d'.year h.month_pos
    have hle := h.day_le
    have hpos := h'.day_pos
    rw [toDay_eq, toDay_eq, hyear]
    rw [hyear] at hle
    omega
  · rw [toDay_eq, toDay_eq, hyear, hmonth]
    omega

/-- Dates come in the order of their days. -/
theorem IsValid.toDay_lt_iff (h : d.IsValid) (h' : d'.IsValid) :
    d.toDay < d'.toDay ↔ d.Before d' := by
  refine ⟨fun hlt => ?_, h.toDay_lt_of_before h'⟩
  by_contra hnot
  -- Of two dates neither of which is before the other, every part is the same.
  have hsame : d'.Before d ∨ d = d' := by
    cases d
    cases d'
    simp only [Before, Date.mk.injEq] at hnot ⊢
    omega
  rcases hsame with hafter | rfl
  · have hgt := h'.toDay_lt_of_before h hafter
    omega
  · exact lt_irrefl _ hlt

end Date

namespace Text

section Dates

variable {t t' : Text} {width width' : Nat} {d d' : Date}

/-- Dates with as many digits of year are compared as dates. -/
theorem IsDate.lt_iff (h : t.IsDate width d) (h' : t'.IsDate width d') (hyear : 0 ≤ d.year)
    (hyear' : 0 ≤ d'.year) : t < t' ↔ d.Before d' := by
  obtain ⟨year, month, day, rfl, hy, hm, hd⟩ := h
  obtain ⟨year', month', day', rfl, hy', hm', hd'⟩ := h'
  have hless : d.year.toNat < d'.year.toNat ↔ d.year < d'.year := by omega
  have hsame : d.year.toNat = d'.year.toNat ↔ d.year = d'.year := by omega
  simp only [List.append_assoc]
  rw [append_lt_append_iff (hy.length.trans hy'.length.symm), append_lt_append_left,
    append_lt_append_iff (hm.length.trans hm'.length.symm), append_lt_append_left,
    hy.lt_iff hy', hy.eq_iff hy', hm.lt_iff hm', hm.eq_iff hm', hd.lt_iff hd', hless, hsame,
    Date.Before]

/-- Of two years the one with fewer digits comes to its end first, and a hyphen stands in front of
every digit: its date is the smaller text unless it is more than the other year's digits up to
there. -/
theorem IsDate.lt_iff_of_width_lt (h : t.IsDate width d) (h' : t'.IsDate width' d')
    (hwidth : width < width') :
    t < t' ↔ d.year.toNat ≤ d'.year.toNat / 10 ^ (width' - width) := by
  obtain ⟨year, month, day, rfl, hy, -, -⟩ := h
  obtain ⟨year', month', day', rfl, hy', -, -⟩ := h'
  have hfront := hy'.take (le_of_lt hwidth)
  obtain ⟨c, rest, hback⟩ : ∃ c rest, year'.drop width = c :: rest := by
    have hlength : (year'.drop width).length = width' - width := by
      rw [List.length_drop, hy'.length]
    exact List.exists_cons_of_length_pos (by omega)
  have hdigit : c.isDigit = true := by
    apply hy'.isDigit c
    apply List.mem_of_mem_drop (i := width)
    rw [hback]
    exact List.mem_cons_self
  have hhyphen : CodePoint.ofChar '-' < c := by
    simp only [CodePoint.isDigit, Bool.and_eq_true, decide_eq_true_eq] at hdigit
    rw [Fin.lt_def]
    have hval : (CodePoint.ofChar '-').val = 0x2D := rfl
    omega
  have hyear' : year' = year'.take width ++ c :: rest := by rw [← hback, List.take_append_drop]
  have hsep : ("-" : Text) = [CodePoint.ofChar '-'] := rfl
  rw [hyear', hsep]
  simp only [List.append_assoc, List.cons_append, List.nil_append]
  rw [append_lt_append_iff (hy.length.trans hfront.length.symm), hy.lt_iff hfront,
    hy.eq_iff hfront, List.cons_lt_cons_iff]
  simp only [hhyphen, true_or, and_true]
  exact Nat.le_iff_lt_or_eq.symm

end Dates

end Text

namespace Record

variable [Stack] {message : Members} {r : Record}

/-- The time of a record is that of its message. -/
theorem instant_of_ofMessage (h : ofMessage message = .ok r) : instant message = .ok r.time := by
  unfold ofMessage at h
  obtain ⟨fields, -, h⟩ := bind_eq_ok_iff.mp h
  obtain ⟨time, htime, h⟩ := bind_eq_ok_iff.mp h
  obtain ⟨topic, -, h⟩ := bind_eq_ok_iff.mp h
  obtain ⟨topic', -, h⟩ := bind_eq_ok_iff.mp h
  obtain ⟨partition, -, h⟩ := bind_eq_ok_iff.mp h
  obtain ⟨partition', -, h⟩ := bind_eq_ok_iff.mp h
  obtain ⟨offset, -, h⟩ := bind_eq_ok_iff.mp h
  obtain ⟨offset', -, h⟩ := bind_eq_ok_iff.mp h
  cases h
  exact htime

theorem exists_millis_of_instant {t : Instant} (h : instant message = .ok t) :
    ∃ millis, Instant.ofMillis millis = .ok t := by
  unfold instant at h
  dsimp only at h
  split at h
  · cases h
  · rename_i millis _
    cases hmillis : Instant.ofMillis millis with
    | ok t' =>
      rw [hmillis] at h
      cases h
      exact ⟨millis, hmillis⟩
    | error why =>
      rw [hmillis] at h
      simp only at h
      unfold blame at h
      split_ifs at h
      split at h <;> cases h

/-- Whatever stands for the timestamp of a message, its record is of a date of the calendar, from
year 1 to year 9999. -/
theorem date_of_ofMessage (h : ofMessage message = .ok r) :
    r.time.date.IsValid ∧ 1 ≤ r.time.date.year ∧ r.time.date.year ≤ 9999 := by
  obtain ⟨millis, hmillis⟩ := exists_millis_of_instant (instant_of_ofMessage h)
  obtain ⟨hrange, hspec⟩ := Instant.ofMillis_spec millis
  have hbounds := hrange.mp ⟨_, hmillis⟩
  obtain ⟨hvalid, -, -, hdate⟩ := hspec _ hmillis
  have hyear := (Date.year_ofDay (millis / 86400000)).mpr (by omega)
  rw [← hdate] at hyear
  exact ⟨hvalid.date, hyear⟩

/-- The day of a record has as many digits of year as the year has. -/
theorem isDate_day (h : ofMessage message = .ok r) :
    ∃ width, r.day.IsDate width r.time.date ∧ 1 ≤ width ∧ width ≤ 4 ∧
      10 ^ (width - 1) ≤ r.time.date.year ∧ r.time.date.year < 10 ^ width := by
  obtain ⟨hvalid, hfrom, hto⟩ := date_of_ofMessage h
  have hwidth : ∃ width, 1 ≤ width ∧ width ≤ 4 ∧
      10 ^ (width - 1) ≤ r.time.date.year ∧ r.time.date.year < 10 ^ width := by
    by_cases hten : r.time.date.year < 10
    · exact ⟨1, by omega, by omega, by omega, by omega⟩
    by_cases hhundred : r.time.date.year < 100
    · exact ⟨2, by omega, by omega, by omega, by omega⟩
    by_cases hthousand : r.time.date.year < 1000
    · exact ⟨3, by omega, by omega, by omega, by omega⟩
    · exact ⟨4, by omega, by omega, by omega, by omega⟩
  obtain ⟨width, hpos, hle, hlow, hhigh⟩ := hwidth
  exact ⟨width, Text.isDate_render hvalid hpos hlow hhigh, hpos, hle, hlow, hhigh⟩

theorem length_day_eq_ten_iff (h : ofMessage message = .ok r) :
    r.day.length = 10 ↔ 1000 ≤ r.time.date.year := by
  obtain ⟨width, hdate, hpos, hle, hlow, hhigh⟩ := isDate_day h
  rw [hdate.length]
  constructor
  · intro hlength
    obtain rfl : width = 4 := by omega
    exact hlow
  · intro hyear
    have hpow : 10 ^ 3 < 10 ^ width := by exact_mod_cast lt_of_le_of_lt hyear hhigh
    have hwidth : 3 < width := (Nat.pow_lt_pow_iff_right (by omega)).mp hpow
    omega

theorem isDate_four_iff (h : ofMessage message = .ok r) :
    r.day.IsDate 4 r.time.date ↔ 1000 ≤ r.time.date.year := by
  rw [← length_day_eq_ten_iff h]
  refine ⟨fun hfour => hfour.length, fun hten => ?_⟩
  obtain ⟨width, hdate, -⟩ := isDate_day h
  obtain rfl : width = 4 := by
    have hlength := hdate.length
    omega
  exact hdate

/-- The way through a binary64 number moves no record to another millisecond or day. A message is a
record just for the timestamps of the years from 1 to 9999, and otherwise at fault as one that
cannot be decoded. The day that a record prints is that of its timestamp, with as many digits of
year as the year has. -/
theorem ofMessage_time {m : Int} (htime : Json.lookup "timestamp" message = some (.int m))
    (hfits : Numeral.fits m = true) (hrest : HasRest message) :
    ((∃ r, ofMessage message = .ok r) ↔ -62135596800000 ≤ m ∧ m ≤ 253402300799999) ∧
      (∀ f, ofMessage message = .error f → IsDecodeFault f) ∧
      ∀ r, ofMessage message = .ok r →
        r.time.IsValid ∧
          1000 * m - 500 < r.time.toMicroseconds ∧ r.time.toMicroseconds < 1000 * m + 500 ∧
          Date.IsDateOf (m / 86400000) r.time.date ∧
          ∃ width, r.day.IsDate width r.time.date ∧ 1 ≤ width ∧ width ≤ 4 ∧
            10 ^ (width - 1) ≤ r.time.date.year ∧ r.time.date.year < 10 ^ width := by
  obtain ⟨hexists, hinstants⟩ := Instant.ofMillis_spec m
  obtain ⟨r₀, hmessage⟩ := hrest.ofMessage
  have hinstant : ∀ t, instant message = .ok t ↔ Instant.ofMillis m = .ok t := by
    intro t
    obtain ⟨s, hs⟩ := hrest.source
    rw [instant_of_int htime, hfits]
    cases Instant.ofMillis m with
    | ok t' => simp
    | error why => simp [blame, hs]
  refine ⟨?_, ?_, ?_⟩
  · rw [← hexists]
    constructor
    · rintro ⟨r, hr⟩
      obtain ⟨t, ht, -⟩ := map_eq_ok_iff.mp (hmessage ▸ hr)
      exact ⟨t, (hinstant t).mp ht⟩
    · rintro ⟨t, ht⟩
      exact ⟨_, hmessage.trans (map_eq_ok_iff.mpr ⟨t, (hinstant t).mpr ht, rfl⟩)⟩
  · intro f hf
    cases hi : instant message with
    | ok t =>
      rw [hmessage, hi] at hf
      cases hf
    | error f' =>
      rw [hmessage, hi] at hf
      cases hf
      exact isDecodeFault_of_instant hrest.source htime hfits hi
  · intro r hr
    obtain ⟨t, ht, rfl⟩ := map_eq_ok_iff.mp (hmessage ▸ hr)
    obtain ⟨hvalid, hge, hle, hdate⟩ := hinstants t ((hinstant t).mp ht)
    exact ⟨hvalid, by dsimp only; omega, by dsimp only; omega, Date.isDateOf_iff.mpr hdate,
      isDate_day hr⟩

omit [Stack] in
/-- The last millisecond before 1970 belongs to the last day before it. -/
theorem ofMessage_time_last_millisecond :
    letI := Stack.usual
    let message : Members :=
      [("topic", .str "orders"), ("partition", .int 0), ("offset", .int 7),
        ("timestamp", .int (-1)), ("value", .null)]
    HasRest message ∧ (∃ r, ofMessage message = .ok r) ∧
      ∀ r, ofMessage message = .ok r →
        -1500 < r.time.toMicroseconds ∧ r.time.toMicroseconds < -500 ∧ r.day = "1969-12-31" := by
  let _ : Stack := Stack.usual
  intro message
  have hrest : HasRest message :=
    ⟨⟨[], rfl⟩, ⟨_, _, rfl, rfl⟩, ⟨_, 0, rfl, ⟨_, text_int (Numeral.fits_of_fitsWord (by decide))⟩, rfl⟩,
      ⟨_, 7, rfl, ⟨_, text_int (Numeral.fits_of_fitsWord (by decide))⟩, rfl⟩⟩
  obtain ⟨hexists, -, hrecord⟩ :=
    ofMessage_time (m := -1) rfl (Numeral.fits_of_fitsWord (by decide)) hrest
  refine ⟨hrest, hexists.mpr (by omega), ?_⟩
  intro r hr
  obtain ⟨-, hfrom, hto, hdate, width, hday, -, hle, -, hhigh⟩ := hrecord r hr
  have hlast : r.time.date = ⟨1969, 12, 31⟩ := (Date.isDateOf_iff.mp hdate).trans (by decide)
  rw [hlast] at hday hhigh
  dsimp only at hhigh
  obtain rfl : width = 4 := by
    by_contra hother
    have hpow : (10 : Int) ^ width ≤ 10 ^ 3 := pow_le_pow_right₀ (by omega) (by omega)
    omega
  have hwritten : (Date.render ⟨1969, 12, 31⟩).IsDate 4 ⟨1969, 12, 31⟩ :=
    Text.isDate_render ⟨by decide, by decide, by decide, by decide⟩ (by decide) (by decide)
      (by decide)
  exact ⟨hfrom, hto, hday.unique hwritten⟩

section Order

variable {message' : Members} {r' : Record}

theorem day_eq_iff (h : ofMessage message = .ok r) (h' : ofMessage message' = .ok r') :
    r.day = r'.day ↔ r.time.date = r'.time.date := by
  obtain ⟨-, hyear, -⟩ := date_of_ofMessage h
  obtain ⟨-, hyear', -⟩ := date_of_ofMessage h'
  refine ⟨fun heq => ?_, fun heq => congrArg Date.render heq⟩
  -- Two names of one topic are equal when their days are.
  have hnames := congrArg (fun t : Text => r.topic ++ "-" ++ t) heq
  exact ((Text.topic_day_inj (by omega) (by omega)).mp hnames).2

/-- Days with as many digits of year sort as time goes. -/
theorem day_lt_iff_of_length_eq (h : ofMessage message = .ok r)
    (h' : ofMessage message' = .ok r') (hlength : r.day.length = r'.day.length) :
    r.day < r'.day ↔ r.time.date.toDay < r'.time.date.toDay := by
  obtain ⟨hvalid, hyear, -⟩ := date_of_ofMessage h
  obtain ⟨hvalid', hyear', -⟩ := date_of_ofMessage h'
  obtain ⟨width, hdate, -⟩ := isDate_day h
  obtain ⟨width', hdate', -⟩ := isDate_day h'
  have hwidth : width' = width := by
    rw [hdate.length, hdate'.length] at hlength
    omega
  rw [hwidth] at hdate'
  calc r.day < r'.day ↔ r.time.date.Before r'.time.date :=
        hdate.lt_iff hdate' (by omega) (by omega)
    _ ↔ r.time.date.toDay < r'.time.date.toDay := (hvalid.toDay_lt_iff hvalid').symm

/-- A shorter day is always the earlier one. It sorts so just when its year is not above the first
as many digits of the other year. -/
theorem day_lt_iff_of_length_lt (h : ofMessage message = .ok r)
    (h' : ofMessage message' = .ok r') (hlength : r.day.length < r'.day.length) :
    r.time.date.toDay < r'.time.date.toDay ∧
      (r.day < r'.day ↔
        r.time.date.year ≤ r'.time.date.year / 10 ^ (r'.day.length - r.day.length)) := by
  obtain ⟨hvalid, hyear, -⟩ := date_of_ofMessage h
  obtain ⟨hvalid', hyear', -⟩ := date_of_ofMessage h'
  obtain ⟨width, hdate, -, -, -, hhigh⟩ := isDate_day h
  obtain ⟨width', hdate', -, -, hlow, -⟩ := isDate_day h'
  rw [hdate.length, hdate'.length] at hlength ⊢
  have hdigits : width' + 6 - (width + 6) = width' - width := by omega
  have hless : r.time.date.year < r'.time.date.year := by
    calc r.time.date.year < 10 ^ width := hhigh
      _ ≤ 10 ^ (width' - 1) := pow_le_pow_right₀ (by omega) (by omega)
      _ ≤ r'.time.date.year := hlow
  refine ⟨hvalid.toDay_lt_of_before hvalid' (.inl hless), ?_⟩
  rw [hdate.lt_iff_of_width_lt hdate' (by omega), hdigits]
  zify
  rw [Int.toNat_of_nonneg (by omega), Int.toNat_of_nonneg (by omega)]

/-- Names that end in the day sort as the days do, for one topic. -/
theorem indexNames_lt_iff (r r' : Record) {settings : Settings}
    (hcolumn : Text.nonempty? settings.indexColumn = none) (htopic : r.topic = r'.topic)
    (c : Connection) :
    ∃ name name', (Sink.indexName settings r c).outcome = .ok name ∧
      (Sink.indexName settings r' c).outcome = .ok name' ∧ (name < name' ↔ r.day < r'.day) := by
  have hname : ∀ r : Record, (Sink.indexName settings r c).outcome =
      .ok ((Text.nonempty? settings.index).getD r.topic ++ "-" ++ r.day) := by
    intro r
    rw [Sink.indexName_outcome, Sink.indexOf, hcolumn]
    rfl
  refine ⟨_, _, hname r, hname r', ?_⟩
  rw [htopic]
  exact Text.append_lt_append_left _

end Order

/-- Days are not all written with four digits of year: the year has as many as it needs. Those from
year 1000 on are ten code points, four, two and two digits; days of one length sort as time goes,
and so do the index names of a topic that end in them. A shorter day, always an earlier one, sorts
behind a longer one whenever its year is above the first as many digits of that one's year. -/
theorem ofMessage_day (message message' : Members) (r r' : Record) (h : ofMessage message = .ok r)
    (h' : ofMessage message' = .ok r') :
    (∃ width, r.day.IsDate width r.time.date ∧ 1 ≤ width ∧ width ≤ 4 ∧
      10 ^ (width - 1) ≤ r.time.date.year ∧ r.time.date.year < 10 ^ width) ∧
    (r.day.IsDate 4 r.time.date ↔ 1000 ≤ r.time.date.year) ∧
    (r.day.length = 10 ↔ 1000 ≤ r.time.date.year) ∧
    (r.day = r'.day ↔ r.time.date = r'.time.date) ∧
    (r.day.length = r'.day.length →
      (r.day < r'.day ↔ r.time.date.toDay < r'.time.date.toDay)) ∧
    (r.day.length < r'.day.length →
      r.time.date.toDay < r'.time.date.toDay ∧
        (r.day < r'.day ↔
          r.time.date.year ≤ r'.time.date.year / 10 ^ (r'.day.length - r.day.length))) ∧
    ∀ (settings : Settings) (c : Connection), Text.nonempty? settings.indexColumn = none →
      r.topic = r'.topic →
        ∃ name name', (Sink.indexName settings r c).outcome = .ok name ∧
          (Sink.indexName settings r' c).outcome = .ok name' ∧
            (name < name' ↔ r.day < r'.day) :=
  ⟨isDate_day h, isDate_four_iff h, length_day_eq_ten_iff h, day_eq_iff h h',
    day_lt_iff_of_length_eq h h', day_lt_iff_of_length_lt h h',
    fun _ c hcolumn htopic => indexNames_lt_iff r r' hcolumn htopic c⟩

def timed (millis : Int) : Members :=
  [("topic", .str "orders"), ("partition", .int 0), ("offset", .int 7), ("timestamp", .int millis),
    ("value", .null)]

omit [Stack] in
/-- The last day of year 999 is the day before the first of year 1000, and sorts behind it. -/
theorem ofMessage_day_thousand :
    letI := Stack.usual
    ∃ r r', ofMessage (timed (-30610310400000)) = .ok r ∧
      ofMessage (timed (-30610224000000)) = .ok r' ∧ r'.day.IsDate 4 r'.time.date ∧
        r.time.date.toDay < r'.time.date.toDay ∧ ¬r.day < r'.day := by
  let _ : Stack := Stack.usual
  obtain ⟨r, hr, hdate⟩ : ∃ r, ofMessage (timed (-30610310400000)) = .ok r ∧
      r.time.date = ⟨999, 12, 31⟩ := ⟨_, rfl, rfl⟩
  obtain ⟨r', hr', hdate'⟩ : ∃ r, ofMessage (timed (-30610224000000)) = .ok r ∧
      r.time.date = ⟨1000, 1, 1⟩ := ⟨_, rfl, rfl⟩
  have hlength : r.day.length = 9 := by
    rw [day, hdate]
    decide
  have hlength' : r'.day.length = 10 := by
    rw [day, hdate']
    decide
  obtain ⟨-, -, -, -, -, hshorter, -⟩ := ofMessage_day _ _ r r' hr hr'
  obtain ⟨hearlier, hsorts⟩ := hshorter (by omega)
  obtain ⟨-, hfour, -⟩ := ofMessage_day _ _ r' r' hr' hr'
  refine ⟨r, r', hr, hr', hfour.mpr (by rw [hdate']), hearlier, ?_⟩
  rw [hsorts, hlength, hlength', hdate, hdate']
  decide

omit [Stack] in
/-- The first day that there is has one digit of year, and the last days of three are not sorted. -/
theorem ofMessage_day_short :
    letI := Stack.usual
    (¬∀ message r, ofMessage message = .ok r →
      r.day.IsDate 4 r.time.date ∧ r.day.length = 10) ∧
    ¬∀ message message' r r', ofMessage message = .ok r → ofMessage message' = .ok r' →
      (r.day < r'.day ↔ r.time.date.toDay < r'.time.date.toDay) := by
  let _ : Stack := Stack.usual
  constructor
  · intro h
    obtain ⟨r, hr, hdate⟩ : ∃ r, ofMessage (timed (-62135596800000)) = .ok r ∧
        r.time.date = ⟨1, 1, 1⟩ := ⟨_, rfl, rfl⟩
    have hlength := (h _ r hr).2
    rw [day, hdate] at hlength
    exact absurd hlength (by decide)
  · intro h
    obtain ⟨r, hr, hdate⟩ : ∃ r, ofMessage (timed (-30610310400000)) = .ok r ∧
        r.time.date = ⟨999, 12, 31⟩ := ⟨_, rfl, rfl⟩
    obtain ⟨r', hr', hdate'⟩ : ∃ r, ofMessage (timed (-30610224000000)) = .ok r ∧
        r.time.date = ⟨1000, 1, 1⟩ := ⟨_, rfl, rfl⟩
    have hsorts := h _ _ r r' hr hr'
    rw [day, day, hdate, hdate'] at hsorts
    exact absurd hsorts (by decide)

end Record

end TopicSink
