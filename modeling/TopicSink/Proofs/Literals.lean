import Mathlib.Tactic.Common
import Mathlib.Tactic.SplitIfs
import TopicSink.Json.Printer
import TopicSink.Json.Reader
import TopicSink.Proofs.Numerals
import TopicSink.Proofs.Outcomes
import TopicSink.Proofs.Segments

namespace TopicSink

namespace CodePoint

theorem hexValue?_ofHexValue {d : Nat} (h : d < 16) : (ofHexValue d).hexValue? = some d := by
  have hall : ∀ d : Fin 16, (ofHexValue d).hexValue? = some d.val := by decide
  exact hall ⟨d, h⟩

theorem ofNat_val (c : CodePoint) : ofNat c.val = c := dif_pos c.isLt

theorem ofNat_of_eq {c : CodePoint} {n : Nat} (h : n = c.val) : ofNat n = c := by
  rw [h]
  exact ofNat_val c

end CodePoint

namespace Text

-- Among all code points, those of the text are few.
instance (t : Text) : Decidable t.IsScalar :=
  List.decidableBAll (fun c : CodePoint => c.isSurrogate = false) t

structure IsNumeralOf (n : Nat) (t : Text) : Prop where
  isDigit : ∀ c ∈ t, c.isDigit = true
  value : digits t = n
  leading : ∃ c rest, t = c :: rest ∧ (c = CodePoint.ofChar '0' → n = 0 ∧ rest = [])

theorem digit_spec {d : Nat} (h : d < 10) :
    (CodePoint.ofChar d.digitChar).isDigit = true ∧
      (CodePoint.ofChar d.digitChar).digitValue = d ∧
      (CodePoint.ofChar d.digitChar = CodePoint.ofChar '0' → d = 0) := by
  have hall : ∀ d : Fin 10, (CodePoint.ofChar d.val.digitChar).isDigit = true ∧
      (CodePoint.ofChar d.val.digitChar).digitValue = d.val ∧
      (CodePoint.ofChar d.val.digitChar = CodePoint.ofChar '0' → d.val = 0) := by
    decide
  exact hall ⟨d, h⟩

theorem ofNat_of_lt {n : Nat} (h : n < 10) : ofNat n = [CodePoint.ofChar n.digitChar] := by
  unfold ofNat inBase
  rw [Nat.toDigits_of_lt_base h]
  rfl

theorem ofNat_of_ge {n : Nat} (h : 10 ≤ n) :
    ofNat n = ofNat (n / 10) ++ [CodePoint.ofChar (n % 10).digitChar] := by
  unfold ofNat inBase
  rw [Nat.toDigits_of_base_le (by omega) h, List.map_append]
  rfl

theorem digits_append_singleton (t : Text) (c : CodePoint) :
    digits (t ++ [c]) = 10 * digits t + c.digitValue := by
  unfold digits digitsOnto
  rw [List.foldl_append, List.foldl_cons, List.foldl_nil]

/-- The digits of a number are a numeral of it. -/
theorem isNumeralOf_ofNat (n : Nat) : IsNumeralOf n (ofNat n) := by
  induction n using Nat.strongRecOn with
  | ind n ih =>
    by_cases h : n < 10
    · obtain ⟨hdigit, hvalue, hzero⟩ := digit_spec h
      rw [ofNat_of_lt h]
      refine ⟨?_, ?_, ?_⟩
      · intro c hc
        rw [List.mem_singleton.mp hc]
        exact hdigit
      · have happend := digits_append_singleton [] (CodePoint.ofChar n.digitChar)
        rw [hvalue] at happend
        exact happend.trans (Nat.zero_add n)
      · exact ⟨_, [], rfl, fun hc => ⟨hzero hc, rfl⟩⟩
    · have hfront := ih (n / 10) (by omega)
      obtain ⟨hdigit, hvalue, -⟩ := digit_spec (d := n % 10) (by omega)
      obtain ⟨c, rest, hcons, hzero⟩ := hfront.leading
      rw [ofNat_of_ge (by omega)]
      refine ⟨?_, ?_, ?_⟩
      · intro c hc
        rcases List.mem_append.mp hc with hc | hc
        · exact hfront.isDigit c hc
        · rw [List.mem_singleton.mp hc]
          exact hdigit
      · rw [digits_append_singleton, hfront.value, hvalue]
        omega
      -- What stands in front of the last digit is a number above zero.
      · rw [hcons]
        refine ⟨c, _, rfl, fun hc => ?_⟩
        have hquotient := (hzero hc).1
        omega

theorem ne_of_beginsInt {c d : CodePoint} (hc : c.isDigit = true ∨ c = CodePoint.ofChar '-')
    (hd : d.isDigit = false ∧ d ≠ CodePoint.ofChar '-') : c ≠ d := by
  rintro rfl
  rcases hc with hc | hc
  · rw [hd.1] at hc
    cases hc
  · exact hd.2 hc

theorem length_ofNat_le {n k : Nat} (hk : 0 < k) (h : n < 10 ^ k) : (ofNat n).length ≤ k := by
  unfold ofNat inBase
  rw [List.length_map]
  exact (Nat.length_toDigits_le_iff (by omega) hk).mpr h

end Text

namespace Json

variable (start : Nat) {rest : Text}

def behind (c : CodePoint) (r : Read Text) : Read Text := r.map fun p => (c :: p.1, p.2)

theorem unit?_hex {u : Nat} (h : u < 0x10000) :
    unit? (CodePoint.ofHexValue (u / 16 / 16 / 16 % 16)) (CodePoint.ofHexValue (u / 16 / 16 % 16))
      (CodePoint.ofHexValue (u / 16 % 16)) (CodePoint.ofHexValue (u % 16)) = some u := by
  have hvalue : ∀ n, (CodePoint.ofHexValue (n % 16)).hexValue? = some (n % 16) :=
    fun n => CodePoint.hexValue?_ofHexValue (Nat.mod_lt n (by omega))
  unfold unit?
  rw [hvalue, hvalue, hvalue, hvalue]
  dsimp only
  congr 1
  omega

theorem pair?_hex {high low : Nat} (hhigh : 0xD800 ≤ high ∧ high < 0xDC00)
    (hlow : 0xDC00 ≤ low ∧ low < 0xE000) :
    pair? high (CodePoint.ofChar '\\') (CodePoint.ofChar 'u')
        (CodePoint.ofHexValue (low / 16 / 16 / 16 % 16))
        (CodePoint.ofHexValue (low / 16 / 16 % 16)) (CodePoint.ofHexValue (low / 16 % 16))
        (CodePoint.ofHexValue (low % 16)) =
      some (CodePoint.ofNat (0x10000 + (high - 0xD800) * 0x400 + (low - 0xDC00))) := by
  unfold pair?
  rw [if_pos ⟨hhigh.1, hhigh.2, rfl, rfl⟩, unit?_hex (by omega)]
  exact if_pos hlow

theorem unitEscape_eq (u : Nat) :
    unitEscape u =
      [CodePoint.ofChar '\\', CodePoint.ofChar 'u', CodePoint.ofHexValue (u / 16 / 16 / 16 % 16),
        CodePoint.ofHexValue (u / 16 / 16 % 16), CodePoint.ofHexValue (u / 16 % 16),
        CodePoint.ofHexValue (u % 16)] := rfl

theorem stringFrom_quote (rest : Text) :
    stringFrom start (CodePoint.ofChar '"' :: rest) = .ok ([], rest) := by
  rw [stringFrom.eq_def]
  exact if_pos rfl

theorem stringFrom_plain {c : CodePoint} (hquote : c ≠ CodePoint.ofChar '"')
    (hbackslash : c ≠ CodePoint.ofChar '\\') (h : 0x20 ≤ c.val) (rest : Text) :
    stringFrom start (c :: rest) = behind c (stringFrom start rest) := by
  rw [stringFrom.eq_def]
  dsimp only
  rw [if_neg hquote, if_neg hbackslash, if_neg (by omega)]
  rfl

theorem stringFrom_letter {e p : CodePoint} (hunit : e ≠ CodePoint.ofChar 'u')
    (h : escaped? e = some p) (rest : Text) :
    stringFrom start (CodePoint.ofChar '\\' :: e :: rest) = behind p (stringFrom start rest) := by
  have hquote : CodePoint.ofChar '\\' ≠ CodePoint.ofChar '"' := by decide
  rw [stringFrom.eq_def]
  dsimp only
  rw [if_neg hquote, if_pos rfl, if_neg hunit, h]
  rfl

/-- A unit is read alone unless it makes a pair with what stands behind it. -/
theorem stringFrom_unit? {a b c d : CodePoint} {u : Nat} (hu : unit? a b c d = some u)
    (halone : ∀ x y a' b' c' d' q more, rest = x :: y :: a' :: b' :: c' :: d' :: q :: more →
      pair? u x y a' b' c' d' = none) (hrest : rest ≠ []) :
    stringFrom start
        (CodePoint.ofChar '\\' :: CodePoint.ofChar 'u' :: a :: b :: c :: d :: rest) =
      behind (CodePoint.ofNat u) (stringFrom start rest) := by
  have hquote : CodePoint.ofChar '\\' ≠ CodePoint.ofChar '"' := by decide
  rw [stringFrom.eq_def]
  simp only [hquote, if_true, if_false, hu]
  split
  · exact absurd rfl hrest
  · rw [halone _ _ _ _ _ _ _ _ rfl]
    rfl
  · rfl

/-- Two units that make a pair are read as one code point. -/
theorem stringFrom_pair? {a b c d x y a' b' c' d' p : CodePoint} {u : Nat}
    (hu : unit? a b c d = some u) (hpair : pair? u x y a' b' c' d' = some p) (hrest : rest ≠ []) :
    stringFrom start
        (CodePoint.ofChar '\\' :: CodePoint.ofChar 'u' :: a :: b :: c :: d ::
          x :: y :: a' :: b' :: c' :: d' :: rest) =
      behind p (stringFrom start rest) := by
  have hquote : CodePoint.ofChar '\\' ≠ CodePoint.ofChar '"' := by decide
  obtain ⟨q, rest', rfl⟩ := List.exists_cons_of_ne_nil hrest
  rw [stringFrom.eq_def]
  simp only [hquote, if_true, if_false, hu, hpair]
  rfl

def EndsNumber (rest : Text) : Prop :=
  ∀ c ∈ rest.head?, c.isDigit = false ∧ c ≠ CodePoint.ofChar '.' ∧ c ≠ CodePoint.ofChar 'e' ∧
    c ≠ CodePoint.ofChar 'E'

theorem endsNumber_nil : EndsNumber [] := by
  intro c hc
  cases hc

theorem endsNumber_cons {c : CodePoint}
    (hc : c.isDigit = false ∧ c ≠ CodePoint.ofChar '.' ∧ c ≠ CodePoint.ofChar 'e' ∧
      c ≠ CodePoint.ofChar 'E') (rest : Text) : EndsNumber (c :: rest) := by
  intro d hd
  rw [← Option.some.inj hd]
  exact hc

theorem splitDigits_append {t : Text} (ht : ∀ c ∈ t, c.isDigit = true)
    (hrest : ∀ c ∈ rest.head?, c.isDigit = false) : splitDigits (t ++ rest) = (t, rest) := by
  obtain ⟨htake, hdrop⟩ := Text.span_append ht hrest
  unfold splitDigits
  rw [htake, hdrop]

/-- The words have no digit among their first two letters, and so no number is taken for one. -/
theorem find?_words_of_digit {t : Text} {c : CodePoint} (hc : c.isDigit = true)
    (hmem : c ∈ t.take 2) : (words.find? fun w => w.1.isPrefixOf t) = none := by
  have hwords : ∀ w ∈ words, 2 ≤ w.1.length ∧ (w.1.take 2).any CodePoint.isDigit = false := by
    decide
  rw [List.find?_eq_none]
  intro w hw hbegins
  obtain ⟨behind, rfl⟩ := List.isPrefixOf_iff_prefix.mp hbegins
  obtain ⟨hlength, hletters⟩ := hwords w hw
  rw [List.take_append_of_le_length hlength] at hmem
  exact List.any_eq_false.mp hletters c hmem hc

end Json

end TopicSink
