import TopicSink.Proofs.Members
import TopicSink.Proofs.Parsing

namespace TopicSink

namespace Json

variable {limits : Limits} {t : Text} {v : Json}

theorem digits_of_enter {inner : Limits} (h : limits.enter = some inner) :
    inner.digits = limits.digits := by
  unfold Limits.enter at h
  split at h
  · rw [← Option.some.inj h]
  · cases h
  · rw [← Option.some.inj h]

theorem NumberForm.writable {n : NumberForm} (hl : limits.digits = some Numeral.limit)
    (hn : n.Keeps limits) : n.value.writable = true := by
  unfold NumberForm.value
  cases hf : n.fraction with
  | some digits => rfl
  | none =>
    cases hp : n.power with
    | some power => rfl
    | none =>
      have hfits := Numeral.fits_of_digits n.areDigits.2 (hn hf hp Numeral.limit hl)
      dsimp only
      split_ifs
      · exact (Numeral.fits_neg _).trans hfits
      · exact hfits

/-- What is derived within limits can be written. -/
theorem Spells.writable (hl : limits.digits = some Numeral.limit)
    (h : Spells .reader limits t v) : v.writable = true := by
  induction h with
  | word hw =>
    have hwords : ∀ w ∈ words, w.2.writable = true := by decide
    exact hwords _ hw
  | number _ hn => exact NumberForm.writable hl hn
  | str _ => rfl
  | emptyArr _ _ => rfl
  | arr henter _ ih =>
    rw [Json.writable, writableAll_iff, List.forall_mem_map]
    exact fun e he => ih e he ((digits_of_enter henter).trans hl)
  | emptyObj _ _ => rfl
  | @obj _ _ first others henter _ ih =>
    obtain ⟨kept, hkept, hsubset⟩ := ofMembers_subset ((first :: others).map Member.member)
    rw [hkept, Json.writable, writableMembers_iff]
    intro m hm
    obtain ⟨member, hmember, rfl⟩ := List.mem_map.mp (hsubset hm)
    exact ih member hmember ((digits_of_enter henter).trans hl)

theorem NumberForm.nesting_value (n : NumberForm) (bare : Nat) : n.value.nesting bare = 0 := by
  unfold NumberForm.value
  cases n.fraction <;> cases n.power <;> rfl

/-- Inside of one more container there is room for one less. -/
theorem enter_cases {n : Nat} (hn : limits.nesting = some n) :
    (limits.enter = none ∧ n = 0) ∨
      ∃ inner k, limits.enter = some inner ∧ inner.nesting = some k ∧ n = k + 1 := by
  unfold Limits.enter
  rw [hn]
  cases n with
  | zero => exact .inl ⟨rfl, rfl⟩
  | succ k => exact .inr ⟨_, k, rfl, rfl, rfl⟩

theorem enter_eq_some {inner : Limits} {n : Nat} (hn : limits.nesting = some n)
    (h : limits.enter = some inner) : ∃ k, inner.nesting = some k ∧ n = k + 1 := by
  rcases enter_cases hn with ⟨hnone, -⟩ | ⟨inner', k, henter, hk, rfl⟩
  · rw [hnone] at h
    cases h
  · rw [henter] at h
    cases h
    exact ⟨k, hk, rfl⟩

/-- What is derived within limits is nested no deeper than they allow. -/
theorem Spells.nesting_le {n : Nat} (hn : limits.nesting = some n)
    (h : Spells .reader limits t v) : v.nesting 1 ≤ n := by
  induction h generalizing n with
  | word hw =>
    have hwords : ∀ w ∈ words, w.2.nesting 1 = 0 := by decide
    rw [hwords _ hw]
    exact Nat.zero_le n
  | number _ _ =>
    rw [NumberForm.nesting_value]
    exact Nat.zero_le n
  | str _ => exact Nat.zero_le n
  | emptyArr henter _ =>
    obtain ⟨k, -, rfl⟩ := enter_eq_some hn henter
    exact Nat.le_add_left 1 k
  | arr henter _ ih =>
    obtain ⟨k, hk, rfl⟩ := enter_eq_some hn henter
    exact Nat.succ_le_succ (nestingAll_le_iff.mpr (List.forall_mem_map.mpr fun e he => ih e he hk))
  | emptyObj henter _ =>
    obtain ⟨k, -, rfl⟩ := enter_eq_some hn henter
    exact Nat.le_add_left 1 k
  | obj henter _ ih =>
    obtain ⟨k, hk, rfl⟩ := enter_eq_some hn henter
    exact nesting_ofMembers_le (List.forall_mem_map.mpr fun m hm => ih m hm hk)

/-- A document that is read within limits can be written. -/
theorem writable_of_read (hl : limits.digits = some Numeral.limit) (h : read limits t = .ok v) :
    v.writable = true := by
  obtain ⟨e, -, rfl, hspells⟩ := read_eq_ok_iff.mp h
  exact hspells.writable hl

theorem nesting_of_read {n : Nat} (hn : limits.nesting = some n) (h : read limits t = .ok v) :
    v.nesting 1 ≤ n := by
  obtain ⟨e, -, rfl, hspells⟩ := read_eq_ok_iff.mp h
  exact hspells.nesting_le hn

end Json

end TopicSink
