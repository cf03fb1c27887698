import Mathlib.Data.List.TakeWhile
import TopicSink.Text.Basic

namespace TopicSink

namespace Text

/-- A segment has no separator in it, and separators or the ends of the text on both of its sides.
-/
structure IsSegment (sep : CodePoint) (t segment : Text) : Prop where
  separates : sep ∉ segment
  stands : ∃ before after, t = before ++ segment ++ after ∧
    (∀ c ∈ before.getLast?, c = sep) ∧ ∀ c ∈ after.head?, c = sep

structure IsCutInto (sep : CodePoint) (t : Text) (segments : List Text) : Prop where
  separates : ∀ segment ∈ segments, sep ∉ segment
  joined : joinWith [sep] segments = t
  nonempty : segments ≠ []

/-- A text is a core with space around it, and the core neither begins nor ends with any. -/
structure HasCore (space : CodePoint → Bool) (t core : Text) : Prop where
  around : ∃ before after, t = before ++ core ++ after ∧
    (∀ c ∈ before, space c = true) ∧ ∀ c ∈ after, space c = true
  begins : ∀ c ∈ core.head?, space c = false
  ends : ∀ c ∈ core.getLast?, space c = false

section Segments

variable {sep : CodePoint} {t segment : Text}

theorem splitOn_eq (sep : CodePoint) (t : Text) : splitOn sep t = List.splitOn sep t := by
  induction t with
  | nil => rfl
  | cons c t ih =>
    rw [List.splitOn_cons_eq_if_modifyHead, splitOn, ih]
    by_cases hc : c = sep
    · simp [hc]
    · cases h : List.splitOn sep t with
      | nil => exact absurd h (List.splitOn_ne_nil sep t)
      | cons piece pieces => simp [hc]

theorem splitOn_append (t u : Text) :
    splitOn sep (t ++ sep :: u) = splitOn sep t ++ splitOn sep u := by
  simp only [splitOn_eq, List.splitOn_append_cons_self]

theorem splitOn_of_not_mem (h : sep ∉ t) : splitOn sep t = [t] := by
  rw [splitOn_eq, List.splitOn_eq_singleton h]

/-- Splitting finds every segment. -/
theorem IsSegment.mem_splitOn (h : IsSegment sep t segment) : segment ∈ splitOn sep t := by
  obtain ⟨hsep, before, after, rfl, hbefore, hafter⟩ := h
  -- What follows the segment is cut off first, then what precedes it.
  have hfront : segment ∈ splitOn sep (segment ++ after) := by
    cases after with
    | nil => simp [splitOn_of_not_mem hsep]
    | cons c after =>
      have hc : c = sep := hafter c rfl
      rw [hc, splitOn_append, splitOn_of_not_mem hsep]
      exact List.mem_append_left _ List.mem_cons_self
  rw [List.append_assoc]
  rcases List.eq_nil_or_concat before with rfl | ⟨before, c, rfl⟩
  · exact hfront
  · have hc : c = sep := hbefore c (by simp)
    rw [hc, List.concat_eq_append, List.append_assoc]
    have hcut : splitOn sep (before ++ ([sep] ++ (segment ++ after))) =
        splitOn sep before ++ splitOn sep (segment ++ after) := splitOn_append _ _
    rw [hcut]
    exact List.mem_append_right _ hfront

theorem isSegment_self (h : sep ∉ t) : IsSegment sep t t :=
  ⟨h, [], [], by simp, by simp, by simp⟩

theorem isSegment_first (h : sep ∉ t) (rest : Text) : IsSegment sep (t ++ sep :: rest) t :=
  ⟨h, [], sep :: rest, by simp, by simp, by simp⟩

theorem IsSegment.behind (h : IsSegment sep t segment) (first : Text) :
    IsSegment sep (first ++ sep :: t) segment := by
  obtain ⟨hsep, before, after, rfl, hbefore, hafter⟩ := h
  refine ⟨hsep, first ++ sep :: before, after, by simp, ?_, hafter⟩
  intro c hc
  cases hlast : before.getLast? with
  | none =>
    rw [List.getLast?_append, List.getLast?_cons, hlast] at hc
    simpa using hc.symm
  | some last =>
    rw [List.getLast?_append, List.getLast?_cons, hlast] at hc
    have hlast' : last = c := by simpa using hc
    rw [← hlast']
    exact hbefore last hlast

/-- Splitting a text finds its segments. -/
theorem mem_splitOn_iff : segment ∈ splitOn sep t ↔ IsSegment sep t segment := by
  refine ⟨fun h => ?_, IsSegment.mem_splitOn⟩
  -- Induction on the length: behind the first separator there is less text.
  induction hn : t.length using Nat.strongRecOn generalizing t with
  | ind n ih =>
    by_cases hmem : sep ∈ t
    · obtain ⟨first, rest, rfl, hfirst⟩ := List.eq_append_cons_of_mem hmem
      rw [splitOn_append, splitOn_of_not_mem hfirst] at h
      rcases List.mem_cons.mp h with rfl | h
      · exact isSegment_first hfirst rest
      · have hless : rest.length < n := by
          rw [← hn, List.length_append, List.length_cons]
          omega
        exact (ih rest.length hless h rfl).behind first
    · rw [splitOn_of_not_mem hmem] at h
      rw [List.mem_singleton.mp h]
      exact isSegment_self hmem

theorem joinWith_eq (sep : Text) (segments : List Text) :
    joinWith sep segments = sep.intercalate segments := by
  induction segments with
  | nil => rfl
  | cons segment rest ih =>
    cases rest with
    | nil => simp [joinWith]
    | cons next rest => rw [joinWith, ih, List.intercalate_cons_cons, List.append_assoc]

theorem IsCutInto.splitOn_eq {segments : List Text} (h : IsCutInto sep t segments) :
    splitOn sep t = segments := by
  calc splitOn sep t = List.splitOn sep (joinWith [sep] segments) := by
        rw [Text.splitOn_eq, h.joined]
    _ = List.splitOn sep ([sep].intercalate segments) := by rw [joinWith_eq]
    _ = segments := List.splitOn_intercalate sep h.separates h.nonempty

end Segments

section Core

variable {space : CodePoint → Bool} {t core : Text}

theorem dropWhile_of_head (h : ∀ c ∈ t.head?, space c = false) : t.dropWhile space = t := by
  cases t with
  | nil => rfl
  | cons c t => exact List.dropWhile_cons_of_neg (by simp [h c rfl])

/-- A text is parted from what stands behind it where that begins with nothing of its kind. -/
theorem span_append {kind : CodePoint → Bool} {t rest : Text} (ht : ∀ c ∈ t, kind c = true)
    (hrest : ∀ c ∈ rest.head?, kind c = false) :
    (t ++ rest).takeWhile kind = t ∧ (t ++ rest).dropWhile kind = rest := by
  rw [List.takeWhile_append_of_pos ht, List.dropWhile_append_of_pos ht]
  cases rest with
  | nil => simp
  | cons c rest =>
    have hc : ¬kind c = true := by simp [hrest c rfl]
    rw [List.takeWhile_cons_of_neg hc, List.dropWhile_cons_of_neg hc, List.append_nil]
    exact ⟨rfl, rfl⟩

theorem head_dropWhile (space : CodePoint → Bool) (t : Text) :
    ∀ c ∈ (t.dropWhile space).head?, space c = false := by
  intro c hc
  have h := List.head?_dropWhile_not space t
  rw [hc] at h
  exact h

/-- What is left of a text without the space around it has none at its ends. -/
theorem hasCore_trim (space : CodePoint → Bool) (t : Text) : HasCore space t (trim space t) := by
  have hcut : t.dropWhile space =
      trim space t ++ ((t.dropWhile space).reverse.takeWhile space).reverse := by
    unfold trim
    rw [← List.reverse_append, List.takeWhile_append_dropWhile, List.reverse_reverse]
  refine ⟨⟨t.takeWhile space, ((t.dropWhile space).reverse.takeWhile space).reverse, ?_, ?_, ?_⟩,
    ?_, ?_⟩
  · rw [List.append_assoc, ← hcut, List.takeWhile_append_dropWhile]
  · intro c hc
    exact List.mem_takeWhile_imp hc
  · intro c hc
    exact List.mem_takeWhile_imp (List.mem_reverse.mp hc)
  · -- The core begins as the text does where its leading space is gone.
    intro c hc
    apply head_dropWhile space t
    rw [hcut, List.head?_append, hc]
    rfl
  · intro c hc
    unfold trim at hc
    rw [List.getLast?_reverse] at hc
    exact head_dropWhile space _ c hc

theorem HasCore.trim_eq (h : HasCore space t core) : trim space t = core := by
  obtain ⟨⟨before, after, rfl, hbefore, hafter⟩, hbegins, hends⟩ := h
  have hafter' : ∀ c ∈ after.reverse, space c = true := by simpa using hafter
  unfold trim
  rw [List.append_assoc, List.dropWhile_append_of_pos hbefore]
  cases core with
  | nil =>
    rw [List.nil_append, List.dropWhile_eq_nil_iff.mpr hafter]
    rfl
  | cons c core =>
    have hfront : (c :: core ++ after).dropWhile space = c :: core ++ after :=
      dropWhile_of_head hbegins
    have hback : (c :: core).reverse.dropWhile space = (c :: core).reverse := by
      apply dropWhile_of_head
      rw [List.head?_reverse]
      exact hends
    rw [hfront, List.reverse_append, List.dropWhile_append_of_pos hafter', hback,
      List.reverse_reverse]

/-- Trimming a text leaves its core. -/
theorem trim_eq_iff : trim space t = core ↔ HasCore space t core :=
  ⟨fun h => h ▸ hasCore_trim space t, HasCore.trim_eq⟩

end Core

end Text

end TopicSink
