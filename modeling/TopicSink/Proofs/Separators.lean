import TopicSink.Proofs.Literals

namespace TopicSink

namespace Text

/-- Two texts are equal when they are in front of the last separator and behind it. -/
theorem append_separator_inj {sep : CodePoint} {front front' tail tail' : Text} (h : sep ∉ tail)
    (h' : sep ∉ tail') :
    front ++ [sep] ++ tail = front' ++ [sep] ++ tail' ↔ front = front' ∧ tail = tail' := by
  constructor
  · intro heq
    rw [List.append_assoc, List.append_assoc, List.singleton_append, List.singleton_append,
      List.append_eq_append_iff] at heq
    -- If one front went on where the other one ends, it would take a separator out of a tail.
    rcases heq with ⟨more, rfl, hmore⟩ | ⟨more, rfl, hmore⟩
    · rcases List.cons_eq_append_iff.mp hmore with ⟨rfl, htail⟩ | ⟨more', rfl, htail⟩
      · exact ⟨(List.append_nil front).symm, (List.cons.inj htail).2.symm⟩
      · have hmem : sep ∈ tail := by simp [htail]
        exact absurd hmem h
    · rcases List.cons_eq_append_iff.mp hmore with ⟨rfl, htail⟩ | ⟨more', rfl, htail⟩
      · exact ⟨List.append_nil front', (List.cons.inj htail).2⟩
      · have hmem : sep ∈ tail' := by simp [htail]
        exact absurd hmem h'
  · rintro ⟨rfl, rfl⟩
    rfl

section Numbers

variable {sep : CodePoint}

theorem ofNat_injective : Function.Injective ofNat := by
  intro m n h
  have hm := (isNumeralOf_ofNat m).value
  rw [h, (isNumeralOf_ofNat n).value] at hm
  exact hm.symm

theorem not_mem_ofNat (hsep : sep.isDigit = false) (n : Nat) : sep ∉ ofNat n := by
  intro hmem
  have hdigit := (isNumeralOf_ofNat n).isDigit sep hmem
  rw [hsep] at hdigit
  cases hdigit

theorem ofInt_of_nonneg {i : Int} (h : 0 ≤ i) : ofInt i = ofNat i.natAbs := if_neg (by omega)

theorem ofInt_of_neg {i : Int} (h : i < 0) :
    ofInt i = CodePoint.ofChar '-' :: ofNat i.natAbs := if_pos h

theorem ofNat_ne_minus (m : Nat) (t : Text) : ofNat m ≠ CodePoint.ofChar '-' :: t := by
  intro heq
  have hminus : CodePoint.ofChar '-' ∉ ofNat m := not_mem_ofNat (by decide) m
  rw [heq] at hminus
  exact hminus List.mem_cons_self

theorem ofInt_injective : Function.Injective ofInt := by
  intro i j h
  -- Where the signs differ, only one of the two texts begins with a minus.
  rcases lt_or_ge i 0 with hi | hi <;> rcases lt_or_ge j 0 with hj | hj
  · rw [ofInt_of_neg hi, ofInt_of_neg hj] at h
    have habs := ofNat_injective (List.cons.inj h).2
    omega
  · rw [ofInt_of_neg hi, ofInt_of_nonneg hj] at h
    exact absurd h.symm (ofNat_ne_minus _ _)
  · rw [ofInt_of_nonneg hi, ofInt_of_neg hj] at h
    exact absurd h (ofNat_ne_minus _ _)
  · rw [ofInt_of_nonneg hi, ofInt_of_nonneg hj] at h
    have habs := ofNat_injective h
    omega

theorem not_mem_ofInt (hsep : sep.isDigit = false) (hminus : sep ≠ CodePoint.ofChar '-') (i : Int) :
    sep ∉ ofInt i := by
  rcases lt_or_ge i 0 with hi | hi
  · rw [ofInt_of_neg hi, List.mem_cons, not_or]
    exact ⟨hminus, not_mem_ofNat hsep _⟩
  · rw [ofInt_of_nonneg hi]
    exact not_mem_ofNat hsep _

theorem digits_zeros_append (k : Nat) (t : Text) :
    digits (List.replicate k (CodePoint.ofChar '0') ++ t) = digits t := by
  induction k with
  | zero => rfl
  | succ k ih =>
    rw [List.replicate_succ, List.cons_append]
    exact ih

/-- Zeros in front do not change what number is read. -/
theorem padded_injective (width : Nat) : Function.Injective (padded width) := by
  intro m n h
  have hread : ∀ n, digits (padded width n) = n := fun n =>
    (digits_zeros_append _ _).trans (isNumeralOf_ofNat n).value
  rw [← hread m, h, hread n]

theorem not_mem_padded (hsep : sep.isDigit = false) (width n : Nat) : sep ∉ padded width n := by
  intro hmem
  rcases List.mem_append.mp hmem with hzero | hdigit
  · have hdigit : sep.isDigit = true := by
      rw [List.eq_of_mem_replicate hzero]
      decide
    rw [hsep] at hdigit
    cases hdigit
  · exact not_mem_ofNat hsep n hdigit

end Numbers

end Text

end TopicSink
