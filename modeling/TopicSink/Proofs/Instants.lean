import Mathlib.Tactic.Linarith
import TopicSink.Proofs.Dates
import TopicSink.Proofs.Decoding
import TopicSink.Proofs.Rounding

namespace TopicSink

namespace Instant

structure IsValid (t : Instant) : Prop where
  date : t.date.IsValid
  hour : t.hour < 24
  minute : t.minute < 60
  second : t.second < 60
  microsecond : t.microsecond < 1000000

def toMicroseconds (t : Instant) : Int :=
  (((t.date.toDay * 24 + t.hour) * 60 + t.minute) * 60 + t.second) * 1000000 + t.microsecond

/-- Seconds and microseconds make an instant of the calendar, and are found again in it. -/
theorem ofSeconds_spec (seconds : Int) {microsecond : Nat} (h : microsecond < 1000000) :
    (ofSeconds seconds microsecond).IsValid ∧
      (ofSeconds seconds microsecond).toMicroseconds = seconds * 1000000 + microsecond := by
  obtain ⟨hvalid, hday⟩ := Date.ofDay_spec (seconds / 86400)
  unfold ofSeconds
  refine ⟨⟨hvalid, ?_, ?_, ?_, h⟩, ?_⟩
  · dsimp only
    omega
  · dsimp only
    omega
  · dsimp only
    omega
  · unfold toMicroseconds
    dsimp only
    rw [hday]
    omega

/-- The instants that there are lie in the years from 1 to 9999. -/
theorem ofMicroseconds_eq_ok_iff {total : Int} {t : Instant} :
    ofMicroseconds total = .ok t ↔
      (-62135596800 ≤ total / 1000000 ∧ total / 1000000 ≤ 253402300799) ∧
        t = ofSeconds (total / 1000000) (total % 1000000).toNat := by
  obtain ⟨seconds, hseconds⟩ : ∃ s, s = total / 1000000 := ⟨_, rfl⟩
  have hdate : (ofSeconds seconds (total % 1000000).toNat).date = Date.ofDay (seconds / 86400) := rfl
  have hyear := Date.year_ofDay (seconds / 86400)
  unfold ofMicroseconds hasClockYear
  dsimp only
  rw [← hseconds, hdate]
  constructor
  · intro h
    split_ifs at h with hclock hclockYear hcalendar
    rw [Except.ok.injEq] at h
    exact ⟨by omega, h.symm⟩
  · rintro ⟨hrange, rfl⟩
    have hcalendar := hyear.mpr (by omega)
    have hclock : -2 ^ 63 ≤ seconds ∧ seconds < 2 ^ 63 := by omega
    have hclockYear : (decide (-2 ^ 31 ≤ (Date.ofDay (seconds / 86400)).year - 1900) &&
        decide ((Date.ofDay (seconds / 86400)).year - 1900 < 2 ^ 31)) = true := by
      rw [Bool.and_eq_true, decide_eq_true_iff, decide_eq_true_iff]
      omega
    rw [if_neg (not_not.mpr hclock), hclockYear, Bool.not_true, if_neg Bool.false_ne_true,
      if_neg (not_not.mpr hcalendar)]

def roundedMicroseconds (num den : Nat) : Nat :=
  num / den * 1000000 + Binary64.roundHalfEven (num % den * 1000000) den

theorem microseconds_eq (negative : Bool) (mantissa : Nat) (e : Int) :
    microseconds negative mantissa e =
      if negative then -(roundedMicroseconds (mantissa * 2 ^ e.toNat) (2 ^ (-e).toNat) : Int)
      else roundedMicroseconds (mantissa * 2 ^ e.toNat) (2 ^ (-e).toNat) := rfl

theorem microseconds_neg (negative : Bool) (mantissa k : Nat) :
    microseconds negative mantissa (-(k : Int)) =
      if negative then -(roundedMicroseconds mantissa (2 ^ k) : Int)
      else roundedMicroseconds mantissa (2 ^ k) := by
  have hpos : (-(-(k : Int))).toNat = k := by omega
  have hneg : (-(k : Int)).toNat = 0 := by omega
  rw [microseconds_eq, hpos, hneg, Nat.pow_zero, Nat.mul_one]

/-- A number of seconds is rounded to whole microseconds, and is off by half a microsecond at most.
-/
theorem roundedMicroseconds_bounds (num : Nat) {den : Nat} (hden : 0 < den) :
    2 * (roundedMicroseconds num den * den) ≤ 2 * (num * 1000000) + den ∧
      2 * (num * 1000000) ≤ 2 * (roundedMicroseconds num den * den) + den := by
  obtain ⟨hto, hfrom⟩ := Binary64.roundHalfEven_bounds hden (num % den * 1000000)
  have hdiv : num = den * (num / den) + num % den := (Nat.div_add_mod num den).symm
  have htotal : roundedMicroseconds num den * den =
      1000000 * (den * (num / den)) +
        Binary64.roundHalfEven (num % den * 1000000) den * den := by
    unfold roundedMicroseconds
    ring
  rw [htotal]
  omega

/-- Thousandths of a second come to microseconds within 62, and whole seconds exactly. -/
theorem roundedMicroseconds_near {num mantissa k : Nat} (hk : 13 ≤ k)
    (hto : 2 * (mantissa * 1000) ≤ 2 * (num * 2 ^ k) + 1000)
    (hfrom : 2 * (num * 2 ^ k) ≤ 2 * (mantissa * 1000) + 1000) :
    let total := roundedMicroseconds mantissa (2 ^ k)
    total ≤ 1000 * num + 62 ∧ 1000 * num ≤ total + 62 ∧
      (num % 1000 = 0 → total = 1000 * num) := by
  intro total
  have hpos : 0 < 2 ^ k := Nat.pow_pos (by omega)
  have hunit : 8192 ≤ 2 ^ k := by
    calc 8192 = 2 ^ 13 := rfl
      _ ≤ 2 ^ k := Nat.pow_le_pow_right (by omega) hk
  obtain ⟨hto', hfrom'⟩ := roundedMicroseconds_bounds mantissa hpos
  have hto'' : 2 * (total * 2 ^ k) ≤ 2 * (mantissa * 1000000) + 2 ^ k := hto'
  have hfrom'' : 2 * (mantissa * 1000000) ≤ 2 * (total * 2 ^ k) + 2 ^ k := hfrom'
  clear_value total
  clear hto' hfrom'
  generalize 2 ^ k = unit at *
  refine ⟨?_, ?_, ?_⟩
  · have h : 2 * total * unit ≤ (2 * (1000 * num) + 125) * unit := by nlinarith
    have := Nat.le_of_mul_le_mul_right h hpos
    omega
  · have h : 2 * (1000 * num) * unit ≤ (2 * total + 125) * unit := by nlinarith
    have := Nat.le_of_mul_le_mul_right h hpos
    omega
  -- A whole number of seconds has an exact mantissa, which leaves half a microsecond of error.
  · intro hwhole
    obtain ⟨s, rfl⟩ : ∃ s, num = 1000 * s := ⟨num / 1000, by omega⟩
    have hscaled : 1000 * s * unit = 1000 * (s * unit) := Nat.mul_assoc 1000 s unit
    rw [hscaled] at hto hfrom
    have hmantissa : mantissa = s * unit := by omega
    have hless : 2 * total * unit ≤ (2 * (1000000 * s) + 1) * unit := by
      rw [hmantissa] at hto''
      nlinarith
    have hmore : 2 * (1000000 * s) * unit ≤ (2 * total + 1) * unit := by
      rw [hmantissa] at hfrom''
      nlinarith
    have := Nat.le_of_mul_le_mul_right hless hpos
    have := Nat.le_of_mul_le_mul_right hmore hpos
    omega

/-- A timestamp below `2 ^ 48` comes to microseconds within 62, and stays within its second. -/
theorem ofMillis_near {m : Int} (h : m.natAbs < 2 ^ 48) :
    ∃ total, ofMillis m = ofMicroseconds total ∧
      1000 * m - 62 ≤ total ∧ total ≤ 1000 * m + 62 ∧ total / 1000000 = m / 1000 := by
  obtain ⟨mantissa, k, hk, hquotient, hto, hfrom⟩ := Binary64.ofQuotient_fine (m < 0) h
  obtain ⟨hle, hge, hwhole⟩ := roundedMicroseconds_near hk hto hfrom
  have heq : ofMillis m = ofMicroseconds (microseconds (m < 0) mantissa (-(k : Int))) := by
    unfold ofMillis Binary64.ofRatio
    rw [hquotient]
  refine ⟨_, heq, ?_⟩
  rw [microseconds_neg]
  by_cases hsign : m < 0
  · rw [if_pos (decide_eq_true hsign)]
    omega
  · rw [if_neg (by simpa using hsign)]
    omega

theorem roundedMicroseconds_far {mantissa : Nat} {e : Int} (hmantissa : 2 ^ 52 ≤ mantissa)
    (he : -14 ≤ e) :
    2 ^ 38 * 1000000 ≤ roundedMicroseconds (mantissa * 2 ^ e.toNat) (2 ^ (-e).toNat) := by
  have hpos : 0 < 2 ^ (-e).toNat := Nat.pow_pos (by omega)
  have hden : 2 ^ (-e).toNat ≤ 2 ^ 14 := Nat.pow_le_pow_right (by omega) (by omega)
  have hnum : mantissa ≤ mantissa * 2 ^ e.toNat :=
    Nat.le_mul_of_pos_right _ (Nat.pow_pos (by omega))
  have hdiv : 2 ^ 38 ≤ mantissa * 2 ^ e.toNat / 2 ^ (-e).toNat := by
    rw [Nat.le_div_iff_mul_le hpos]
    calc 2 ^ 38 * 2 ^ (-e).toNat ≤ 2 ^ 38 * 2 ^ 14 := Nat.mul_le_mul_left _ hden
      _ = 2 ^ 52 := by rw [← Nat.pow_add]
      _ ≤ mantissa * 2 ^ e.toNat := le_trans hmantissa hnum
  unfold roundedMicroseconds
  omega

/-- No timestamp from `2 ^ 48` on, on either side of zero, has an instant. -/
theorem ofMillis_far {m : Int} (h : 2 ^ 48 ≤ m.natAbs) (t : Instant) : ofMillis m ≠ .ok t := by
  unfold ofMillis Binary64.ofRatio
  rcases Binary64.ofQuotient_coarse (m < 0) h with hinfinite | ⟨mantissa, e, hmantissa, he, hfinite⟩
  · rw [hinfinite]
    simp
  · rw [hfinite]
    dsimp only
    rw [microseconds_eq, ne_eq, ofMicroseconds_eq_ok_iff]
    have hfar := roundedMicroseconds_far hmantissa he
    generalize roundedMicroseconds _ _ = total at hfar ⊢
    rintro ⟨hrange, -⟩
    split_ifs at hrange <;> omega

/-- The timestamps that have instants, and what instants they have: off by 62 microseconds at most,
and of the day that the timestamp falls in. -/
theorem ofMillis_spec (m : Int) :
    ((∃ t, ofMillis m = .ok t) ↔ -62135596800000 ≤ m ∧ m ≤ 253402300799999) ∧
      ∀ t, ofMillis m = .ok t →
        t.IsValid ∧ 1000 * m - 62 ≤ t.toMicroseconds ∧ t.toMicroseconds ≤ 1000 * m + 62 ∧
          t.date = Date.ofDay (m / 86400000) := by
  by_cases h : m.natAbs < 2 ^ 48
  · obtain ⟨total, heq, hle, hge, hsecond⟩ := ofMillis_near h
    rw [heq]
    constructor
    · constructor
      · rintro ⟨t, ht⟩
        have hrange := (ofMicroseconds_eq_ok_iff.mp ht).1
        omega
      · intro hrange
        exact ⟨_, ofMicroseconds_eq_ok_iff.mpr ⟨by omega, rfl⟩⟩
    · intro t ht
      obtain ⟨-, rfl⟩ := ofMicroseconds_eq_ok_iff.mp ht
      have hmicrosecond : (total % 1000000).toNat < 1000000 := by omega
      obtain ⟨hvalid, htotal⟩ := ofSeconds_spec (total / 1000000) hmicrosecond
      have hday : total / 1000000 / 86400 = m / 86400000 := by omega
      refine ⟨hvalid, by omega, by omega, ?_⟩
      rw [← hday]
      rfl
  · refine ⟨⟨?_, ?_⟩, ?_⟩
    · rintro ⟨t, ht⟩
      exact absurd ht (ofMillis_far (by omega) t)
    · intro hrange
      omega
    · intro t ht
      exact absurd ht (ofMillis_far (by omega) t)

end Instant

namespace Record

variable [Stack] {message : Members}

/-- A message with a payload, a topic, a partition and an offset is a record of its instant, if it
has one. -/
theorem ofMessage_eq_map {fields : Members} {topic partition offset : Json} {t : Text} {p o : Int}
    (hfields : payload message = .ok fields)
    (htopic : Json.lookup "topic" message = some topic) (htext : text topic = .ok t)
    (hpartition : Json.lookup "partition" message = some partition)
    (hp : integer partition = .ok p) (hoffset : Json.lookup "offset" message = some offset)
    (ho : integer offset = .ok o) :
    ofMessage message =
      (instant message).map fun time => ⟨t, .int p, .int o, time, fields⟩ := by
  unfold ofMessage required
  rw [hfields, htopic, hpartition, hoffset]
  dsimp only [bind, Except.bind]
  rw [htext, hp, ho]
  cases instant message <;> rfl

def HasInteger (message : Members) (name : Text) : Prop :=
  ∃ v i, Json.lookup name message = some v ∧ (∃ t, text v = .ok t) ∧ integer v = .ok i

/-- The payload of a message and its members besides the timestamp make a record. -/
structure HasRest (message : Members) : Prop where
  payload : ∃ fields, payload message = .ok fields
  topic : ∃ v t, Json.lookup "topic" message = some v ∧ text v = .ok t
  partition : HasInteger message "partition"
  offset : HasInteger message "offset"

theorem HasRest.source (h : HasRest message) : ∃ s, source message = .ok s := by
  obtain ⟨topic, t, htopic, htext⟩ := h.topic
  obtain ⟨partition, _, hpartition, hpartition', -⟩ := h.partition
  obtain ⟨offset, _, hoffset, hoffset', -⟩ := h.offset
  exact source_of_writable htopic hpartition hoffset ⟨t, htext⟩ hpartition' hoffset'

theorem HasRest.ofMessage (h : HasRest message) :
    ∃ r : Record, ofMessage message = (instant message).map fun t => { r with time := t } := by
  obtain ⟨fields, hfields⟩ := h.payload
  obtain ⟨topic, t, htopic, htext⟩ := h.topic
  obtain ⟨partition, p, hpartition, -, hp⟩ := h.partition
  obtain ⟨offset, o, hoffset, -, ho⟩ := h.offset
  exact ⟨⟨t, .int p, .int o, ⟨⟨1970, 1, 1⟩, 0, 0, 0, 0⟩, fields⟩,
    ofMessage_eq_map hfields htopic htext hpartition hp hoffset ho⟩

end Record

end TopicSink
