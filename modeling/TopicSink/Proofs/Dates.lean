import Mathlib.Tactic.IntervalCases
import TopicSink.Calendar

/-!
The dates of days. `Date.IsDateOf` counts dates one by one from the first day of 1970, by the
lengths of months and the rule of leap years; `Date.isDateOf_iff` says that computing the date of a
day comes to the same. Both are joined through the number of a date, which no two dates share.
-/

namespace TopicSink

namespace Date

structure IsValid (d : Date) : Prop where
  month_pos : 1 ≤ d.month
  month_le : d.month ≤ 12
  day_pos : 1 ≤ d.day
  day_le : d.day ≤ monthLength d.year d.month

def next (d : Date) : Date :=
  if d.day < monthLength d.year d.month then { d with day := d.day + 1 }
  else if d.month < 12 then ⟨d.year, d.month + 1, 1⟩
  else ⟨d.year + 1, 1, 1⟩

def leapDays (year : Int) : Nat := if isLeap year then 1 else 0

theorem leapDays_eq (year : Int) :
    (year % 4 = 0 ∧ (year % 100 ≠ 0 ∨ year % 400 = 0) ∧ leapDays year = 1) ∨
      (¬(year % 4 = 0 ∧ (year % 100 ≠ 0 ∨ year % 400 = 0)) ∧ leapDays year = 0) := by
  unfold leapDays
  by_cases h : isLeap year = true
  · have hrule : year % 4 = 0 ∧ (year % 100 ≠ 0 ∨ year % 400 = 0) := by simpa [isLeap] using h
    exact .inl ⟨hrule.1, hrule.2, if_pos h⟩
  · have hrule : ¬(year % 4 = 0 ∧ (year % 100 ≠ 0 ∨ year % 400 = 0)) := by simpa [isLeap] using h
    exact .inr ⟨hrule, if_neg h⟩

theorem daysBeforeYear_eq (year : Int) :
    daysBeforeYear year =
      365 * (year - 1) + (year - 1) / 4 - (year - 1) / 100 + (year - 1) / 400 := rfl

theorem daysBeforeYear_succ (year : Int) :
    daysBeforeYear (year + 1) = daysBeforeYear year + 365 + leapDays year := by
  rw [daysBeforeYear_eq, daysBeforeYear_eq]
  rcases leapDays_eq year with ⟨h4, hcentury, hleap⟩ | ⟨hcommon, hleap⟩
  · rw [hleap]
    omega
  · rw [hleap]
    omega

theorem daysBeforeYear_mono {year year' : Int} (h : year ≤ year') :
    daysBeforeYear year ≤ daysBeforeYear year' := by
  rw [daysBeforeYear_eq, daysBeforeYear_eq]
  by_cases heq : year = year'
  · rw [heq]
  · omega

theorem daysBeforeMonth_succ (year : Int) {month : Nat} (h : 1 ≤ month) :
    daysBeforeMonth year (month + 1) = daysBeforeMonth year month + monthLength year month := by
  have hmonth : month - 1 + 1 = month := by omega
  unfold daysBeforeMonth
  rw [Nat.add_sub_cancel]
  conv_lhs => rw [← hmonth, List.range_succ, List.foldl_append, List.foldl_cons, List.foldl_nil, hmonth]

theorem daysBeforeMonth_mono (year : Int) {month month' : Nat} (hpos : 1 ≤ month)
    (h : month ≤ month') : daysBeforeMonth year month ≤ daysBeforeMonth year month' := by
  induction month', h using Nat.le_induction with
  | base => exact le_refl _
  | succ later hle ih =>
    rw [daysBeforeMonth_succ year (by omega)]
    omega

/-- The days before each month, and before the end of the twelfth: from March on, months are thirty
and three fifths of a day long. -/
theorem daysBeforeMonth_eq (year : Int) {month : Nat} (hpos : 1 ≤ month) (hle : month ≤ 13) :
    daysBeforeMonth year month =
      if month ≤ 2 then 31 * (month - 1)
      else 59 + leapDays year + (153 * (month - 3) + 2) / 5 := by
  unfold leapDays
  interval_cases month <;> cases hleap : isLeap year <;>
    simp [daysBeforeMonth, List.range_succ, monthLength, hleap]

theorem daysBeforeMonth_late (year : Int) (shifted : Nat) (h : shifted ≤ 10) :
    daysBeforeMonth year (shifted + 3) = 59 + leapDays year + (153 * shifted + 2) / 5 := by
  rw [daysBeforeMonth_eq year (by omega) (by omega), if_neg (by omega), Nat.add_sub_cancel]

theorem daysBeforeMonth_thirteen (year : Int) :
    daysBeforeMonth year 13 = 365 + leapDays year := by
  rw [daysBeforeMonth_late year 10 (le_refl 10)]
  omega

theorem toDay_eq (d : Date) :
    d.toDay = daysBeforeYear d.year + daysBeforeMonth d.year d.month + d.day - 719163 := by
  have hepoch : daysBeforeYear 1970 = 719162 := by decide
  unfold toDay
  rw [hepoch]
  omega

/-- The days of a year follow those of the years before it. -/
theorem IsValid.toDay_bounds {d : Date} (h : d.IsValid) :
    daysBeforeYear d.year - 719162 ≤ d.toDay ∧ d.toDay < daysBeforeYear (d.year + 1) - 719162 := by
  have hday := h.day_le
  have hpos := h.day_pos
  have hnext := daysBeforeMonth_succ d.year h.month_pos
  have hmonth : d.month + 1 ≤ 13 := Nat.succ_le_succ h.month_le
  have hlater := daysBeforeMonth_mono d.year (Nat.le_add_left 1 d.month) hmonth
  rw [daysBeforeMonth_thirteen] at hlater
  rw [toDay_eq, daysBeforeYear_succ]
  omega

theorem IsValid.year_le {d d' : Date} (h : d.IsValid) (h' : d'.IsValid)
    (hday : d.toDay = d'.toDay) : d.year ≤ d'.year := by
  by_contra hlt
  have hafter : d'.year + 1 ≤ d.year := by omega
  have hyears := daysBeforeYear_mono hafter
  have hbounds := h.toDay_bounds
  have hbounds' := h'.toDay_bounds
  omega

theorem IsValid.month_le_of_toDay {d d' : Date} (h : d.IsValid) (h' : d'.IsValid)
    (hyear : d.year = d'.year) (hday : d.toDay = d'.toDay) : d.month ≤ d'.month := by
  by_contra hlt
  have hafter : d'.month + 1 ≤ d.month := by omega
  have hmonths := daysBeforeMonth_mono d'.year (Nat.le_add_left 1 d'.month) hafter
  have hnext := daysBeforeMonth_succ d'.year h'.month_pos
  have hle := h'.day_le
  have hpos := h.day_pos
  rw [toDay_eq, toDay_eq, hyear] at hday
  omega

/-- No two dates are the same day. -/
theorem IsValid.eq_of_toDay {d d' : Date} (h : d.IsValid) (h' : d'.IsValid)
    (hday : d.toDay = d'.toDay) : d = d' := by
  have hyear : d.year = d'.year := le_antisymm (h.year_le h' hday) (h'.year_le h hday.symm)
  have hmonth : d.month = d'.month :=
    le_antisymm (h.month_le_of_toDay h' hyear hday) (h'.month_le_of_toDay h hyear.symm hday.symm)
  have hdays : d.day = d'.day := by
    rw [toDay_eq, toDay_eq, hyear, hmonth] at hday
    omega
  cases d
  cases d'
  simp_all

/-- Dates are numbered one by one. -/
theorem toDay_next {d : Date} (h : d.IsValid) : d.next.toDay = d.toDay + 1 := by
  have hday := h.day_le
  have hnext := daysBeforeMonth_succ d.year h.month_pos
  unfold next
  split_ifs with hwithin hmonth
  · rw [toDay_eq, toDay_eq]
    dsimp only
    omega
  · rw [toDay_eq, toDay_eq]
    dsimp only
    omega
  -- The last day of a year: twelve months have gone by.
  · have hlast : d.month = 12 := by
      have := h.month_le
      omega
    have hyear := daysBeforeMonth_thirteen d.year
    have hfirst : daysBeforeMonth (d.year + 1) 1 = 0 := rfl
    have hthirteen : 12 + 1 = 13 := rfl
    rw [hlast, hthirteen] at hnext
    rw [hlast] at hwithin hday
    rw [toDay_eq, toDay_eq, hlast, daysBeforeYear_succ, hfirst]
    dsimp only
    omega

theorem monthLength_pos (year : Int) (month : Nat) : 1 ≤ monthLength year month := by
  unfold monthLength
  split_ifs <;> omega

theorem IsValid.next {d : Date} (h : d.IsValid) : d.next.IsValid := by
  have hpos := h.month_pos
  have hle := h.month_le
  unfold Date.next
  split_ifs with hwithin hmonth
  · exact ⟨hpos, hle, by dsimp only; omega, hwithin⟩
  · exact ⟨by dsimp only; omega, hmonth, le_refl 1, monthLength_pos _ _⟩
  · exact ⟨le_refl 1, by dsimp only; omega, le_refl 1, monthLength_pos _ _⟩

def yearOfEra (day : Int) : Int := (day - day / 1460 + day / 36524 - day / 146096) / 365

def dayOfYear (day : Int) : Int :=
  day - (365 * yearOfEra day + yearOfEra day / 4 - yearOfEra day / 100)

def ofMarch (year day : Int) : Date :=
  let shifted := (5 * day + 2) / 153
  let month := if shifted < 10 then shifted + 3 else shifted - 9
  ⟨year + if month ≤ 2 then 1 else 0, month.toNat, (day - (153 * shifted + 2) / 5 + 1).toNat⟩

theorem ofDay_eq (n : Int) :
    ofDay n =
      ofMarch (yearOfEra ((n + 719468) % 146097) + (n + 719468) / 146097 * 400)
        (dayOfYear ((n + 719468) % 146097)) := rfl

theorem yearOfEra_eq {day century quad rest year : Int} (hcentury : 0 ≤ century ∧ century ≤ 3)
    (hquad : 0 ≤ quad ∧ quad ≤ 24) (hrest : 0 ≤ rest ∧ rest ≤ 1460)
    (hyear : 0 ≤ year ∧ year ≤ 3) (hfrom : 365 * year ≤ rest)
    (hto : rest < 365 * (year + 1) ∨ year = 3)
    (hday : day = 36524 * century + 1461 * quad + rest)
    (hlast : 1461 * quad + rest ≤ 36523 ∨ century = 3 ∧ quad = 24 ∧ rest = 1460) :
    yearOfEra day = 100 * century + 4 * quad + year := by
  have hquads : day / 1460 = 25 * century + quad + (24 * century + quad + rest) / 1460 := by omega
  have hcenturies : day / 36524 - day / 146096 = century := by
    rcases hlast with hlast | ⟨rfl, rfl, rfl⟩
    · have hwithin : day / 36524 = century := by omega
      omega
    · omega
  -- The days by which four years outnumber 1460 may have added up to one more such number.
  have hcarry : (24 * century + quad + rest) / 1460 = 0 ∧ 24 * century + quad + rest < 1460 ∨
      (24 * century + quad + rest) / 1460 = 1 ∧ 1460 ≤ 24 * century + quad + rest := by omega
  unfold yearOfEra
  rcases hcarry with ⟨hcarry, hbelow⟩ | ⟨hcarry, habove⟩
  · rcases hto with hto | hto <;> omega
  · rcases hto with hto | hto <;> omega

/-- The days of an era fall in its 400 years, and each in a year that has it. -/
theorem dayOfYear_bounds (day : Int) (hpos : 0 ≤ day) (hlt : day < 146097) :
    (0 ≤ yearOfEra day ∧ yearOfEra day ≤ 399) ∧
      0 ≤ dayOfYear day ∧ dayOfYear day ≤ 364 + leapDays (yearOfEra day + 1) := by
  -- A century of four centuries, four years of a century, and a year of four years; the last ones
  -- of each hold the leap day that the others lack.
  obtain ⟨century, hcentury⟩ : ∃ c, c = min (day / 36524) 3 := ⟨_, rfl⟩
  obtain ⟨quad, hquad⟩ : ∃ q, q = (day - 36524 * century) / 1461 := ⟨_, rfl⟩
  obtain ⟨rest, hrest⟩ : ∃ r, r = day - 36524 * century - 1461 * quad := ⟨_, rfl⟩
  obtain ⟨year, hyear⟩ : ∃ y, y = min (rest / 365) 3 := ⟨_, rfl⟩
  have hcenturies : 0 ≤ century ∧ century ≤ 3 := by omega
  have hquads : 0 ≤ quad ∧ quad ≤ 24 := by omega
  have hrests : 0 ≤ rest ∧ rest ≤ 1460 := by omega
  have hyears : 0 ≤ year ∧ year ≤ 3 := by omega
  have hlast : 1461 * quad + rest ≤ 36523 ∨ century = 3 ∧ quad = 24 ∧ rest = 1460 := by omega
  have heq : yearOfEra day = 100 * century + 4 * quad + year :=
    yearOfEra_eq hcenturies hquads hrests hyears (by omega) (by omega) (by omega) hlast
  have hday : dayOfYear day = rest - 365 * year := by
    unfold dayOfYear
    rw [heq]
    omega
  rw [hday, heq]
  refine ⟨by omega, by omega, ?_⟩
  rcases leapDays_eq (100 * century + 4 * quad + year + 1) with ⟨-, -, hleap⟩ | ⟨hcommon, hleap⟩
  · rw [hleap]
    omega
  · rw [hleap]
    rcases hlast with hlast | ⟨rfl, rfl, rfl⟩ <;> omega

/-- A day of a year, counted from one, is a date of the month that it falls in. -/
theorem isValid_of_within (year : Int) (month x : Nat) (hpos : 1 ≤ month) (hle : month ≤ 12)
    (hfrom : daysBeforeMonth year month < x) (hto : x ≤ daysBeforeMonth year (month + 1)) :
    let d : Date := ⟨year, month, x - daysBeforeMonth year month⟩
    d.IsValid ∧ d.toDay = daysBeforeYear year + x - 719163 := by
  intro d
  have hlength := daysBeforeMonth_succ year hpos
  refine ⟨⟨hpos, hle, ?_, ?_⟩, ?_⟩
  · change 1 ≤ x - daysBeforeMonth year month
    omega
  · change x - daysBeforeMonth year month ≤ monthLength year month
    omega
  · rw [toDay_eq]
    change daysBeforeYear year + daysBeforeMonth year month +
      ((x - daysBeforeMonth year month : Nat) : Int) - 719163 = _
    omega

/-- A day of a year that begins in March is a date of the calendar, and comes that many days after
the end of February. -/
theorem ofMarch_isValid (year : Int) {day : Int} (hpos : 0 ≤ day) (hle : day ≤ 364 + leapDays (year + 1)) :
    (ofMarch year day).IsValid ∧
      (ofMarch year day).toDay = daysBeforeYear (year + 1) + day - 719468 := by
  have hleap : leapDays (year + 1) ≤ 1 := by
    unfold leapDays
    split_ifs <;> omega
  have hyear := daysBeforeYear_succ year
  obtain ⟨shifted, hshifted⟩ : ∃ s : Nat, (s : Int) = (5 * day + 2) / 153 :=
    ⟨((5 * day + 2) / 153).toNat, by omega⟩
  by_cases hlate : shifted < 10
  -- March to December, in the year that has begun.
  · have hfrom := daysBeforeMonth_late year shifted (by omega)
    have hto := daysBeforeMonth_late year (shifted + 1) (by omega)
    have hsucc : shifted + 1 + 3 = shifted + 3 + 1 := rfl
    rw [hsucc] at hto
    obtain ⟨x, hx⟩ : ∃ x : Nat, (x : Int) = day + 60 + leapDays year :=
      ⟨(day + 60 + leapDays year).toNat, by omega⟩
    have hdate : ofMarch year day =
        ⟨year, shifted + 3, x - daysBeforeMonth year (shifted + 3)⟩ := by
      have hmonth : ¬((shifted : Int) + 3 ≤ 2) := by omega
      have hten : (shifted : Int) < 10 := by omega
      unfold ofMarch
      rw [← hshifted]
      simp only [hten, if_true, hmonth, if_false, Int.add_zero, Date.mk.injEq, true_and]
      omega
    obtain ⟨hvalid, htoDay⟩ := isValid_of_within year (shifted + 3) x
      (by omega) (by omega) (by omega) (by omega)
    rw [hdate]
    exact ⟨hvalid, by rw [htoDay]; omega⟩
  -- January and February, in the year after it.
  · obtain ⟨month, hmonth⟩ : ∃ m : Nat, m + 9 = shifted := ⟨shifted - 9, by omega⟩
    have hmonths : month = 1 ∨ month = 2 := by omega
    have hjanuary : daysBeforeMonth (year + 1) 1 = 0 := rfl
    have hfebruary : daysBeforeMonth (year + 1) 2 = 31 := rfl
    have hmarch : daysBeforeMonth (year + 1) 3 = 59 + leapDays (year + 1) :=
      daysBeforeMonth_late (year + 1) 0 (by omega)
    obtain ⟨x, hx⟩ : ∃ x : Nat, (x : Int) = day - 305 := ⟨(day - 305).toNat, by omega⟩
    have hdate : ofMarch year day =
        ⟨year + 1, month, x - daysBeforeMonth (year + 1) month⟩ := by
      unfold ofMarch
      rw [← hshifted, ← hmonth]
      rcases hmonths with rfl | rfl
      · rw [hjanuary, Date.mk.injEq]
        exact ⟨rfl, rfl, by omega⟩
      · rw [hfebruary, Date.mk.injEq]
        exact ⟨rfl, rfl, by omega⟩
    have hwithin : daysBeforeMonth (year + 1) month < x ∧
        x ≤ daysBeforeMonth (year + 1) (month + 1) := by
      rcases hmonths with rfl | rfl
      · rw [hjanuary, hfebruary]
        omega
      · rw [hfebruary, hmarch]
        omega
    obtain ⟨hvalid, htoDay⟩ := isValid_of_within (year + 1) month x
      (by omega) (by omega) hwithin.1 hwithin.2
    rw [hdate]
    exact ⟨hvalid, by rw [htoDay]; omega⟩

theorem ofDay_spec (n : Int) : (ofDay n).IsValid ∧ (ofDay n).toDay = n := by
  obtain ⟨day, hday⟩ : ∃ d, d = (n + 719468) % 146097 := ⟨_, rfl⟩
  obtain ⟨era, hera⟩ : ∃ e, e = (n + 719468) / 146097 := ⟨_, rfl⟩
  obtain ⟨⟨hyear, hyear'⟩, hpos, hle⟩ := dayOfYear_bounds day (by omega) (by omega)
  -- Eras have all the same years.
  have hleap : leapDays (yearOfEra day + era * 400 + 1) = leapDays (yearOfEra day + 1) := by
    rcases leapDays_eq (yearOfEra day + 1) with ⟨_, _, h⟩ | ⟨_, h⟩ <;>
      rcases leapDays_eq (yearOfEra day + era * 400 + 1) with ⟨_, _, h'⟩ | ⟨_, h'⟩ <;> omega
  obtain ⟨hvalid, htoDay⟩ := ofMarch_isValid (yearOfEra day + era * 400) hpos (by omega)
  rw [ofDay_eq, ← hday, ← hera]
  refine ⟨hvalid, ?_⟩
  rw [htoDay, daysBeforeYear_eq]
  unfold dayOfYear
  omega

/-- Dates counted one by one, from the first day of 1970 in both directions. -/
inductive IsDateOf : Int → Date → Prop
  | epoch : IsDateOf 0 ⟨1970, 1, 1⟩
  | next {n : Int} {d : Date} : IsDateOf n d → IsDateOf (n + 1) d.next
  | previous {n : Int} {d : Date} : d.IsValid → IsDateOf (n + 1) d.next → IsDateOf n d

theorem IsDateOf.spec {n : Int} {d : Date} (h : IsDateOf n d) : d.IsValid ∧ d.toDay = n := by
  induction h with
  | epoch => exact ⟨⟨by decide, by decide, by decide, by decide⟩, by decide⟩
  | next _ ih => exact ⟨ih.1.next, by rw [toDay_next ih.1, ih.2]⟩
  | previous hvalid _ ih =>
    refine ⟨hvalid, ?_⟩
    have hnext := ih.2
    rw [toDay_next hvalid] at hnext
    omega

theorem next_ofDay (n : Int) : (ofDay n).next = ofDay (n + 1) := by
  obtain ⟨hvalid, hday⟩ := ofDay_spec n
  obtain ⟨hvalid', hday'⟩ := ofDay_spec (n + 1)
  apply hvalid.next.eq_of_toDay hvalid'
  rw [toDay_next hvalid, hday, hday']

theorem isDateOf_ofDay (n : Int) : IsDateOf n (ofDay n) := by
  induction n using Int.induction_on with
  | zero => exact .epoch
  | succ k ih =>
    rw [← next_ofDay]
    exact ih.next
  | pred k ih =>
    apply IsDateOf.previous (ofDay_spec _).1
    rw [next_ofDay, Int.sub_add_cancel]
    exact ih

/-- The date of a day is the one that is come to by counting, and no other. -/
theorem isDateOf_iff {n : Int} {d : Date} : IsDateOf n d ↔ d = ofDay n := by
  constructor
  · intro h
    obtain ⟨hvalid, hday⟩ := h.spec
    obtain ⟨hvalid', hday'⟩ := ofDay_spec n
    exact hvalid.eq_of_toDay hvalid' (hday.trans hday'.symm)
  · rintro rfl
    exact isDateOf_ofDay n

/-- The days of the years from 1 to 9999. -/
theorem year_ofDay (n : Int) :
    (1 ≤ (ofDay n).year ∧ (ofDay n).year ≤ 9999) ↔ -719162 ≤ n ∧ n ≤ 2932896 := by
  obtain ⟨hvalid, hday⟩ := ofDay_spec n
  obtain ⟨hfrom, hto⟩ := hvalid.toDay_bounds
  rw [hday, daysBeforeYear_eq] at hfrom hto
  omega

end Date

end TopicSink
