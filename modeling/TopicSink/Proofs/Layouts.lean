import TopicSink.Proofs.RoundTrips

namespace TopicSink

namespace Binary64

namespace Decimal

variable {mantissa : Nat} {e : Int} {value d : Decimal}

theorem digits_of_readsBack (hm : mantissa ≠ 0) (h : d.readsBack mantissa e = true) :
    d.digits ≠ 0 := by
  intro hzero
  have hread : ofDecimal false d.digits d.exponent = .finite false mantissa e := by
    simpa [readsBack] using h
  rw [hzero, ofDecimal, if_pos (.inl rfl)] at hread
  exact hm (Binary64.finite.inj hread).2.1.symm

theorem digits_onGrid? (hm : mantissa ≠ 0) {drop : Nat}
    (h : onGrid? value mantissa e drop = some d) : d.digits ≠ 0 := by
  unfold onGrid? at h
  extract_lets unit below above rest nearer farther at h
  split_ifs at h with hnearer hfarther
  · exact Option.some.inj h ▸ digits_of_readsBack hm hnearer
  · exact Option.some.inj h ▸ digits_of_readsBack hm hfarther

theorem digits_stripZeros (fuel : Nat) (h : d.digits ≠ 0) : (stripZeros fuel d).digits ≠ 0 := by
  induction fuel generalizing d with
  | zero => exact h
  | succ fuel ih =>
    unfold stripZeros
    split_ifs with hzero
    · exact ih (by dsimp only; omega)
    · exact h

/-- The shortest decimal of a number that is not zero is not zero. -/
theorem digits_shortest (hm : mantissa ≠ 0) (e : Int) : (shortest mantissa e).digits ≠ 0 := by
  have hexact : (exact mantissa e).digits ≠ 0 := by
    unfold Decimal.exact
    split_ifs
    · exact Nat.mul_ne_zero hm (Nat.pow_pos (by omega)).ne'
    · exact Nat.mul_ne_zero hm (Nat.pow_pos (by omega)).ne'
  unfold shortest
  extract_lets value places grids d
  apply digits_stripZeros
  cases hd : grids.findSome? (onGrid? value mantissa e) with
  | none =>
    have hvalue : d = value := by simp only [d, hd, Option.getD_none]
    rw [hvalue]
    exact hexact
  | some found =>
    have hfound : d = found := by simp only [d, hd, Option.getD_some]
    obtain ⟨drop, -, hdrop⟩ := List.exists_of_findSome?_eq_some hd
    rw [hfound]
    exact digits_onGrid? hm hdrop

end Decimal

end Binary64

namespace Json

section Strings

variable {t s rest : Text}

/-- Behind the escape of a unit anything goes on that is a string: it makes a pair with what
follows, or it does not. -/
theorem SpellsString.exists_unit {a b c d : CodePoint} {u : Nat} (hu : unit? a b c d = some u)
    (h : SpellsString t s) :
    ∃ s', SpellsString
      (CodePoint.ofChar '\\' :: CodePoint.ofChar 'u' :: a :: b :: c :: d :: t) s' := by
  by_cases hpairs : ∃ x y a' b' c' d' t' p,
      t = x :: y :: a' :: b' :: c' :: d' :: t' ∧ pair? u x y a' b' c' d' = some p
  · obtain ⟨x, y, a', b', c', d', t', p, rfl, hpair⟩ := hpairs
    obtain ⟨-, rfl, rfl, low, hlow, hrange⟩ := of_pair? hpair
    -- The escape behind is one by itself, since its unit begins no pair.
    cases h with
    | plain _ hbackslash _ _ => exact absurd rfl hbackslash
    | letter hletter _ => exact absurd rfl (ne_of_escaped? hletter)
    | unit _ _ hbehind => exact ⟨_, .pair hu hpair hbehind⟩
    | pair hhigh hother _ =>
      obtain ⟨⟨-, hlt⟩, -⟩ := of_pair? hother
      rw [hlow] at hhigh
      have hsame : low = _ := Option.some.inj hhigh
      omega
  · refine ⟨_, .unit hu (fun x y a' b' c' d' t' ht => ?_) h⟩
    cases hpair : pair? u x y a' b' c' d' with
    | none => rfl
    | some p => exact absurd ⟨x, y, a', b', c', d', t', p, ht, hpair⟩ hpairs

/-- A printed string spells some text, even where surrogates in it make pairs. -/
theorem exists_spellsString (t : Text) : ∃ s, SpellsString (t.flatMap escape) s := by
  induction t with
  | nil => exact ⟨[], .nil⟩
  | cons c t ih =>
    obtain ⟨s, hs⟩ := ih
    rw [List.flatMap_cons]
    cases hc : c.isSurrogate with
    | false => exact ⟨_, .escape hc hs⟩
    | true =>
      have hrange : 0xD800 ≤ c.val ∧ c.val < 0xE000 := by
        simpa [CodePoint.isSurrogate] using hc
      have hother : ∀ d : CodePoint, d.val < 0xD800 → c ≠ d := by
        rintro d hd rfl
        omega
      have hescape : escape c = unitEscape c.val := by
        rw [escape, if_neg (hother _ (by decide)), if_neg (hother _ (by decide)),
          if_neg (hother _ (by decide)), if_neg (hother _ (by decide)),
          if_neg (hother _ (by decide)), if_neg (by omega), if_neg (by omega), if_neg (by omega),
          if_pos (by omega)]
      rw [hescape, unitEscape_eq]
      exact hs.exists_unit (unit?_hex (by omega))

end Strings

section Numbers

theorem zeros_isDigit (n : Nat) :
    ∀ c ∈ List.replicate n (CodePoint.ofChar '0'), c.isDigit = true := by
  intro c hc
  rw [List.eq_of_mem_replicate hc]
  decide

/-- The exponent of a printed number is one as it is written. -/
theorem exists_power (e : Int) :
    ∃ p : Power, p.text = CodePoint.ofChar 'e' :: Binary64.exponentText e := by
  have hdigits : AreDigits (Text.padded 2 e.natAbs) := by
    unfold Text.padded Text.fillFront
    exact areDigits_append (zeros_isDigit _) (areDigits_ofNat _)
  let sign : CodePoint := if e < 0 then '-' else '+'
  have hsign : ∀ c ∈ some sign, c = CodePoint.ofChar '-' ∨ c = CodePoint.ofChar '+' := by
    intro c hc
    rw [← Option.some.inj hc]
    unfold sign
    split_ifs
    · exact .inl rfl
    · exact .inr rfl
  exact ⟨⟨CodePoint.ofChar 'e', some sign, _, .inl rfl, hsign, hdigits⟩, rfl⟩

variable {digits : Text}

theorem AreDigits.of_mem_some (h : AreDigits digits) : ∀ t ∈ some digits, AreDigits t :=
  fun _ ht => Option.some.inj ht ▸ h

/-- Behind a digit that is no zero any digits may go on. -/
theorem NumberForm.exists_of_first (negative : Bool) {c : CodePoint}
    (hfirst : c ≠ CodePoint.ofChar '0') (h : ∀ x ∈ c :: digits, x.isDigit = true)
    {behindPoint : Option Text} (hbehind : ∀ t ∈ behindPoint, AreDigits t) (power : Option Power) :
    ∃ n : NumberForm, n.negative = negative ∧
      n.unsigned = c :: digits ++ (fractionText behindPoint ++ powerText power) :=
  ⟨⟨negative, c :: digits, behindPoint, power, ⟨List.cons_ne_nil c digits, h⟩,
    fun _ hzero => absurd (List.cons.inj hzero).1 hfirst, hbehind⟩, rfl, rfl⟩

theorem NumberForm.exists_of_fraction (negative : Bool) (h : AreDigits digits) :
    ∃ n : NumberForm, n.negative = negative ∧ n.unsigned = Text.ofString "0." ++ digits := by
  refine ⟨⟨negative, [CodePoint.ofChar '0'], some digits, none, areDigits_singleton (by decide),
    fun rest hrest => (List.cons.inj hrest).2.symm, h.of_mem_some⟩, rfl, ?_⟩
  rw [NumberForm.unsigned, powerText_none, List.append_nil]
  rfl

/-- What is laid out of a decimal above zero is a number as it is written. -/
theorem exists_layout (negative : Bool) {d : Binary64.Decimal} (hd : d.digits ≠ 0) :
    ∃ n : NumberForm, n.negative = negative ∧ n.unsigned = Binary64.layout d := by
  obtain ⟨hdigit, -, c, behind, hcons, hzero⟩ := Text.isNumeralOf_ofNat d.digits
  have hfirst : c ≠ CodePoint.ofChar '0' := fun hc => hd (hzero hc).1
  unfold Binary64.layout
  rw [hcons] at hdigit ⊢
  extract_lets ds point fraction
  have hdrop : ∀ n, n < ds.length → AreDigits (ds.drop n) := fun n hn =>
    ⟨List.drop_eq_nil_iff.not.mpr (by omega), fun x hx => hdigit x (List.mem_of_mem_drop hx)⟩
  have htake : ∀ n, ∀ x ∈ c :: behind.take n, x.isDigit = true :=
    fun n x hx => hdigit x (List.mem_of_mem_take (l := ds) (i := n + 1) hx)
  have hpoint : Text.ofString "." = [CodePoint.ofChar '.'] := rfl
  -- The point stands in front of all digits, between them, behind them or in an exponent.
  split_ifs with hplain hsmall hinside
  · rw [List.append_assoc]
    exact NumberForm.exists_of_fraction negative
      (areDigits_append (zeros_isDigit _) ⟨List.cons_ne_nil c behind, hdigit⟩)
  · obtain ⟨n, hn⟩ : ∃ n, point.toNat = n + 1 := ⟨point.toNat - 1, by omega⟩
    obtain ⟨form, hnegative, htext⟩ := NumberForm.exists_of_first negative hfirst (htake n)
      (hdrop (n + 1) (by omega)).of_mem_some none
    refine ⟨form, hnegative, htext.trans ?_⟩
    rw [hn]
    simp [ds, hpoint]
  · have hzeros : ∀ x ∈ ds ++ List.replicate (point.toNat - ds.length) (CodePoint.ofChar '0'),
        x.isDigit = true := List.forall_mem_append.mpr ⟨hdigit, zeros_isDigit _⟩
    exact NumberForm.exists_of_first negative hfirst hzeros
      (areDigits_singleton (c := CodePoint.ofChar '0') (by decide)).of_mem_some none
  · obtain ⟨power, hpower⟩ := exists_power (point - 1)
    let behindPoint : Option Text := if 1 < ds.length then some (ds.drop 1) else none
    have hbehind : ∀ t ∈ behindPoint, AreDigits t := by
      unfold behindPoint
      split_ifs with hmore
      · exact (hdrop 1 hmore).of_mem_some
      · exact fun _ ht => by cases ht
    have hfraction : NumberForm.fractionText behindPoint = fraction := by
      unfold behindPoint fraction
      split_ifs <;> rfl
    obtain ⟨form, hnegative, htext⟩ :=
      NumberForm.exists_of_first negative hfirst (htake 0) hbehind (some power)
    have hexponent : Text.ofString "e" = [CodePoint.ofChar 'e'] := rfl
    refine ⟨form, hnegative, htext.trans ?_⟩
    rw [hfraction, NumberForm.powerText_some, hpower]
    simp [ds, hexponent]

/-- A finite number is printed as a number is written. -/
theorem exists_number (negative : Bool) (mantissa : Nat) (exponent : Int) :
    ∃ n : NumberForm, n.text = number (.finite negative mantissa exponent) := by
  have hmagnitude : ∃ n : NumberForm,
      n.negative = negative ∧ n.unsigned = Binary64.magnitudeText mantissa exponent := by
    unfold Binary64.magnitudeText
    split_ifs with hm
    · have hdigit : AreDigits [CodePoint.ofChar '0'] := areDigits_singleton (by decide)
      exact NumberForm.exists_of_fraction negative hdigit
    · exact exists_layout negative (Binary64.Decimal.digits_shortest hm exponent)
  obtain ⟨n, hnegative, hunsigned⟩ := hmagnitude
  refine ⟨n, ?_⟩
  rw [NumberForm.text, hnegative, hunsigned]
  cases negative <;> rfl

end Numbers

end Json

end TopicSink
