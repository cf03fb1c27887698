import Mathlib.Data.List.Basic
import Mathlib.Tactic.SplitIfs
import TopicSink.Duration
import TopicSink.Proofs.Segments

namespace TopicSink

namespace CodePoint

/-- Digits and spaces are told apart. -/
theorem isSpace_of_isDecimal {c : CodePoint} (h : c.isDecimal = true) : c.isSpace = false := by
  have hzeros : ∀ z ∈ zeros, ∀ d < 10, inRanges blankRanges (z + d) = false ∧
      (0x1C ≤ z + d → 0x1F < z + d) := by
    decide +kernel
  unfold isDecimal decimalValue? at h
  rw [Option.isSome_map] at h
  obtain ⟨z, hz⟩ := Option.isSome_iff_exists.mp h
  have hrange : z ≤ c.val ∧ c.val < z + 10 := by simpa using List.find?_some hz
  obtain ⟨hblank, hseparator⟩ :=
    hzeros z (List.mem_of_find?_eq_some hz) (c.val - z) (by omega)
  have hvalue : z + (c.val - z) = c.val := by omega
  rw [hvalue] at hblank hseparator
  simpa [isSpace, isBlank, hblank] using hseparator

end CodePoint

namespace Duration

inductive IsUnit : Text → Scale → Prop
  | absent : IsUnit [] .seconds
  | milliseconds : IsUnit "ms" .milliseconds
  | seconds : IsUnit "s" .seconds
  | minutes : IsUnit "m" .minutes
  | hours : IsUnit "h" .hours

def pointed (fraction : Text) : Text := if fraction = [] then [] else '.' :: fraction

def AreSpaces (t : Text) : Prop := ∀ c ∈ t, c.isSpace = true

/-- A text is a number and a unit, with spaces around each: decimal digits, perhaps a point and
further digits, and perhaps one of the units. -/
structure IsSpelledAs (t : Text) (w : Written) : Prop where
  nonempty : w.whole ≠ []
  whole : ∀ c ∈ w.whole, c.isDecimal = true
  fraction : ∀ c ∈ w.fraction, c.isDecimal = true
  parts : ∃ before between unit after,
    t = before ++ (w.whole ++ (pointed w.fraction ++ (between ++ unit))) ++ after ∧
      AreSpaces before ∧ AreSpaces between ∧ AreSpaces after ∧ IsUnit unit w.scale

/-- The same number in the same unit, whatever script its digits are of. -/
structure Written.IsAlike (w w' : Written) : Prop where
  whole : w'.whole.map CodePoint.toAsciiDigit = w.whole.map CodePoint.toAsciiDigit
  fraction : w'.fraction.map CodePoint.toAsciiDigit = w.fraction.map CodePoint.toAsciiDigit
  scale : w'.scale = w.scale

variable {t unit : Text} {scale : Scale} {w w' : Written}

theorem scale?_eq_some_iff : scale? t = some scale ↔ IsUnit t scale := by
  constructor
  · intro h
    unfold scale? at h
    split_ifs at h with habsent hms hs hm hh <;> cases h <;> subst t
    · exact .absent
    · exact .milliseconds
    · exact .seconds
    · exact .minutes
    · exact .hours
  · intro h
    cases h <;> decide

/-- The letters of a unit are neither digits nor spaces, and no unit begins with a point. -/
theorem IsUnit.letters (h : IsUnit unit scale) :
    ∀ c ∈ unit, c.isDecimal = false ∧ c.isSpace = false ∧ c ≠ CodePoint.ofChar '.' := by
  have hall : (unit.all fun c => !c.isDecimal && !c.isSpace && c ≠ CodePoint.ofChar '.') = true := by
    cases h <;> decide +kernel
  simpa [List.all_eq_true, and_assoc] using hall

theorem AreSpaces.isDecimal (h : AreSpaces t) : ∀ c ∈ t, c.isDecimal = false := by
  intro c hc
  cases hd : c.isDecimal with
  | false => rfl
  | true =>
    have hspace := h c hc
    rw [CodePoint.isSpace_of_isDecimal hd] at hspace
    cases hspace

/-- What stands behind the number begins with no digit and no point. -/
theorem head_between {between : Text} (hbetween : AreSpaces between) (hunit : IsUnit unit scale) :
    ∀ c ∈ (between ++ unit).head?, c.isDecimal = false ∧ c ≠ CodePoint.ofChar '.' := by
  intro c hc
  have hpoint : (CodePoint.ofChar '.').isSpace = false := by decide
  rcases List.mem_append.mp (List.mem_of_mem_head? hc) with hmem | hmem
  · refine ⟨hbetween.isDecimal c hmem, ?_⟩
    rintro rfl
    have hspace := hbetween _ hmem
    rw [hpoint] at hspace
    cases hspace
  · obtain ⟨hdecimal, -, hother⟩ := hunit.letters c hmem
    exact ⟨hdecimal, hother⟩

theorem splitFraction_pointed {fraction rest : Text} (hfraction : ∀ c ∈ fraction, c.isDecimal = true)
    (hrest : ∀ c ∈ rest.head?, c.isDecimal = false ∧ c ≠ CodePoint.ofChar '.') :
    splitFraction (pointed fraction ++ rest) = (fraction, rest) := by
  unfold pointed
  split_ifs with hempty
  -- No fraction: what follows does not begin with a point.
  · rw [hempty, List.nil_append]
    cases rest with
    | nil => rfl
    | cons c rest => exact if_neg fun h => (hrest c rfl).2 h.1
  · obtain ⟨htake, hdrop⟩ := Text.span_append hfraction fun c hc => (hrest c hc).1
    have hpoint : CodePoint.ofChar '.' = CodePoint.ofChar '.' ∧ fraction ≠ [] := ⟨rfl, hempty⟩
    rw [List.cons_append, splitFraction, htake, hdrop]
    exact if_pos hpoint

/-- A fraction is split off as it was put on. -/
theorem pointed_splitFraction (t : Text) :
    t = pointed (splitFraction t).1 ++ (splitFraction t).2 ∧
      ∀ c ∈ (splitFraction t).1, c.isDecimal = true := by
  unfold splitFraction
  cases t with
  | nil => exact ⟨rfl, by simp⟩
  | cons c t =>
    dsimp only
    split_ifs with h
    · obtain ⟨rfl, hdigits⟩ := h
      refine ⟨?_, fun d hd => List.mem_takeWhile_imp hd⟩
      rw [pointed, if_neg hdigits, List.cons_append, List.takeWhile_append_dropWhile]
    · exact ⟨rfl, by simp⟩

/-- What is read was spelled so. -/
theorem isSpelledAs_of_read? (h : read? t = some w) : IsSpelledAs t w := by
  obtain ⟨⟨before, after, hbody, hbefore, hafter⟩, -, -⟩ := Text.hasCore_trim CodePoint.isSpace t
  unfold read? at h
  dsimp only at h
  generalize Text.trim CodePoint.isSpace t = body at h hbody
  have hsplit := pointed_splitFraction (body.dropWhile CodePoint.isDecimal)
  generalize splitFraction (body.dropWhile CodePoint.isDecimal) = split at h hsplit
  obtain ⟨fraction, rest⟩ := split
  obtain ⟨hfraction, hdigits⟩ := hsplit
  dsimp only at h hfraction hdigits
  split_ifs at h with hwhole
  obtain ⟨scale, hscale, rfl⟩ := Option.map_eq_some_iff.mp h
  refine ⟨hwhole, fun c hc => List.mem_takeWhile_imp hc, hdigits, before,
    rest.takeWhile CodePoint.isSpace, rest.dropWhile CodePoint.isSpace, after, ?_, hbefore,
    fun c hc => List.mem_takeWhile_imp hc, hafter, scale?_eq_some_iff.mp hscale⟩
  rw [List.takeWhile_append_dropWhile, ← hfraction, List.takeWhile_append_dropWhile]
  exact hbody

/-- A number and a unit without spaces around them are read apart. -/
theorem read?_of_core {between : Text} (hcore : Text.HasCore CodePoint.isSpace t
      (w.whole ++ (pointed w.fraction ++ (between ++ unit)))) (hnonempty : w.whole ≠ [])
    (hwhole : ∀ c ∈ w.whole, c.isDecimal = true)
    (hfraction : ∀ c ∈ w.fraction, c.isDecimal = true) (hbetween : AreSpaces between)
    (hunit : IsUnit unit w.scale) : read? t = some w := by
  have hrest := head_between hbetween hunit
  have hpointed : ∀ c ∈ (pointed w.fraction ++ (between ++ unit)).head?,
      c.isDecimal = false := by
    unfold pointed
    split_ifs
    · exact fun c hc => (hrest c hc).1
    · intro c hc
      rw [← Option.some.inj hc]
      decide
  obtain ⟨htake, hdrop⟩ := Text.span_append hwhole hpointed
  obtain ⟨-, hdropSpaces⟩ := Text.span_append hbetween
    (fun c hc => (hunit.letters c (List.mem_of_mem_head? hc)).2.1)
  unfold read?
  dsimp only
  rw [hcore.trim_eq, htake, hdrop, splitFraction_pointed hfraction hrest]
  dsimp only
  rw [if_neg hnonempty, hdropSpaces, scale?_eq_some_iff.mpr hunit]
  rfl

theorem head_number (hnonempty : w.whole ≠ []) (hwhole : ∀ c ∈ w.whole, c.isDecimal = true)
    (rest : Text) : ∀ c ∈ (w.whole ++ rest).head?, c.isSpace = false := by
  intro c hc
  rw [List.head?_append_of_ne_nil _ hnonempty] at hc
  exact CodePoint.isSpace_of_isDecimal (hwhole c (List.mem_of_mem_head? hc))

/-- What is spelled as a duration is read as that. -/
theorem IsSpelledAs.read?_eq (h : IsSpelledAs t w) : read? t = some w := by
  obtain ⟨hnonempty, hwhole, hfraction, before, between, unit, after, rfl, hbefore, hbetween, hafter,
    hunit⟩ := h
  by_cases habsent : unit = []
  -- Without a unit the text ends with digits, and the spaces behind them are all around it.
  · subst habsent
    have hends : ∀ c ∈ (w.whole ++ pointed w.fraction).getLast?, c.isSpace = false := by
      intro c hc
      rcases List.mem_append.mp (List.mem_of_mem_getLast? hc) with hmem | hmem
      · exact CodePoint.isSpace_of_isDecimal (hwhole c hmem)
      · unfold pointed at hmem
        split_ifs at hmem
        · cases hmem
        · rcases List.mem_cons.mp hmem with rfl | hmem
          · decide
          · exact CodePoint.isSpace_of_isDecimal (hfraction c hmem)
    have hbehind : ∀ c ∈ between ++ after, c.isSpace = true := by
      intro c hc
      exact (List.mem_append.mp hc).elim (hbetween c) (hafter c)
    have hcore : Text.HasCore CodePoint.isSpace
        (before ++ (w.whole ++ (pointed w.fraction ++ (between ++ []))) ++ after)
        (w.whole ++ (pointed w.fraction ++ ([] ++ []))) := by
      refine ⟨⟨before, between ++ after, ?_, hbefore, hbehind⟩, head_number hnonempty hwhole _, ?_⟩
      · simp only [List.append_assoc, List.append_nil]
      · rw [List.append_nil, List.append_nil]
        exact hends
    exact read?_of_core hcore hnonempty hwhole hfraction (List.forall_mem_nil _) hunit
  · apply read?_of_core _ hnonempty hwhole hfraction hbetween hunit
    refine ⟨⟨before, after, rfl, hbefore, hafter⟩, head_number hnonempty hwhole _, ?_⟩
    intro c hc
    have hlast : c ∈ unit.getLast? := by
      simpa only [← List.append_assoc, List.getLast?_append_of_ne_nil _ habsent] using hc
    exact (hunit.letters c (List.mem_of_mem_getLast? hlast)).2.1

theorem read?_eq_some_iff : read? t = some w ↔ IsSpelledAs t w :=
  ⟨isSpelledAs_of_read?, IsSpelledAs.read?_eq⟩

/-- The seconds in each unit, the nearest number to a thousandth among them. -/
def factors : List (Scale × Binary64) :=
  [(.milliseconds, .ofDecimal false 1 (-3)), (.seconds, .ofInt 1), (.minutes, .ofInt 60),
    (.hours, .ofInt 3600)]

theorem mem_factors_iff {factor : Binary64} : (scale, factor) ∈ factors ↔ factor = scale.factor := by
  cases scale <;> simp [factors, Scale.factor]

theorem IsSpelledAs.ne_nil (h : IsSpelledAs t w) : t ≠ [] := by
  obtain ⟨hnonempty, -, -, before, between, unit, after, rfl, -⟩ := h
  simp [hnonempty]

theorem parse_of_spelled (h : IsSpelledAs t w) (fallback : Json) :
    parse (.str t) fallback = .ok (.float w.seconds) := by
  rw [parse, if_neg h.ne_nil, read?_eq_some_iff.mpr h]

theorem parse_of_not_spelled (ht : t ≠ []) (h : ¬∃ w, IsSpelledAs t w) (fallback : Json) :
    parse (.str t) fallback = .error (.badDuration t) := by
  have hread : read? t = none :=
    Option.eq_none_iff_forall_ne_some.mpr fun w hw => h ⟨w, read?_eq_some_iff.mp hw⟩
  rw [parse, if_neg ht, hread]

theorem Written.IsAlike.seconds_eq (h : w.IsAlike w') : w'.seconds = w.seconds := by
  have hlength : w'.fraction.length = w.fraction.length := by
    have hmap := congrArg List.length h.fraction
    rwa [List.length_map, List.length_map] at hmap
  unfold seconds number
  rw [List.map_append, List.map_append, h.whole, h.fraction, h.scale, hlength]

/-- A text is a duration exactly when it is spelled as one. It is then spelled in one way only, and
its seconds are the number nearest to its digits times 0.001, 1, 60 or 3600 by its unit, whatever
spaces stand in it and whatever scripts the digits are of. Any other text is refused, and no default
takes its place. -/
theorem parse_spelled {t : Text} (ht : t ≠ []) (fallback : Json) :
    (∀ v, parse (.str t) fallback = .ok v ↔
      ∃ w factor, IsSpelledAs t w ∧
        (w.scale, factor) ∈ [(Scale.milliseconds, Binary64.ofDecimal false 1 (-3)),
          (.seconds, .ofInt 1), (.minutes, .ofInt 60), (.hours, .ofInt 3600)] ∧
        v = .float ((Binary64.ofDecimal false
          (Text.digits ((w.whole ++ w.fraction).map CodePoint.toAsciiDigit))
          (-(w.fraction.length : Int))).mul factor)) ∧
    (∀ w w', IsSpelledAs t w → IsSpelledAs t w' → w' = w) ∧
    ((¬∃ w, IsSpelledAs t w) →
      parse (.str t) fallback = .error (.badDuration t) ∧ (Fault.badDuration t).kind = .value) ∧
    ∀ t' w w' fallback', IsSpelledAs t w → IsSpelledAs t' w' → w.IsAlike w' →
      parse (.str t') fallback' = parse (.str t) fallback := by
  refine ⟨fun v => ⟨fun h => ?_, ?_⟩, fun w w' h h' => ?_, fun h => ?_, ?_⟩
  · by_cases hspelled : ∃ w, IsSpelledAs t w
    · obtain ⟨w, hw⟩ := hspelled
      rw [parse_of_spelled hw] at h
      exact ⟨w, w.scale.factor, hw, mem_factors_iff.mpr rfl, (Except.ok.inj h).symm⟩
    · rw [parse_of_not_spelled ht hspelled] at h
      cases h
  · rintro ⟨w, factor, hw, hfactor, rfl⟩
    rw [mem_factors_iff.mp hfactor]
    exact parse_of_spelled hw fallback
  · have hsome : some w' = some w := by rw [← h.read?_eq, ← h'.read?_eq]
    exact Option.some.inj hsome
  · exact ⟨parse_of_not_spelled ht h fallback, rfl⟩
  · intro t' w w' fallback' h h' halike
    rw [parse_of_spelled h, parse_of_spelled h', halike.seconds_eq]

/-- An hour and a half in Arabic-Indic digits, between a hard space and the end of a line. -/
theorem parse_spelled_arabic_indic :
    let t : Text := "\u00a0١.٥ h\n"
    t ≠ [] ∧ IsSpelledAs t ⟨"١", "٥", .hours⟩ ∧
      parse (.str t) .null = .ok (.float (.ofInt 5400)) := by
  intro t
  have ht : t ≠ [] := List.cons_ne_nil _ _
  have hspelled : IsSpelledAs t ⟨"١", "٥", .hours⟩ := by
    refine ⟨List.cons_ne_nil _ _, List.forall_mem_singleton.mpr (by decide +kernel),
      List.forall_mem_singleton.mpr (by decide +kernel), "\u00a0", " ", "h", "\n",
      by decide +kernel, List.forall_mem_singleton.mpr (by decide +kernel),
      List.forall_mem_singleton.mpr (by decide +kernel),
      List.forall_mem_singleton.mpr (by decide +kernel), .hours⟩
  obtain ⟨hparse, -⟩ := parse_spelled ht .null
  exact ⟨ht, hspelled, (hparse _).mpr ⟨_, .ofInt 3600, hspelled, by decide,
    congrArg Json.float (by decide +kernel)⟩⟩

end Duration

end TopicSink
