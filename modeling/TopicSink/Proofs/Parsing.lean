import TopicSink.Proofs.Grammar

namespace TopicSink

namespace Json

/-- A value is read from its text, up to what ends a number, with fuel enough for the text. -/
def IsReadFrom (limits : Limits) (t : Text) (v : Json) : Prop :=
  ∀ fuel rest, 3 * t.length ≤ fuel → EndsNumber rest →
    valueFrom limits fuel (t ++ rest) = .ok (v, rest)

def BeginsValue (t : Text) : Prop :=
  ∃ c behind, t = c :: behind ∧ isBlank c = false ∧ c ≠ CodePoint.ofChar ']'

section Scalars

variable {limits : Limits} {t rest : Text} {v : Json}

theorem of_scalar (h : scalar limits t = .ok (v, rest)) :
    ∃ core, t = core ++ rest ∧ Spells .reader limits core v := by
  unfold scalar at h
  cases hw : words.find? fun w => w.1.isPrefixOf t with
  | some w =>
    rw [hw] at h
    cases h
    have hprefix := List.find?_some hw
    obtain ⟨behind, rfl⟩ := List.isPrefixOf_iff_prefix.mp hprefix
    exact ⟨w.1, by rw [List.drop_left], .word (List.mem_of_find?_eq_some hw)⟩
  | none =>
    rw [hw] at h
    cases t with
    | nil => cases h
    | cons c t =>
      dsimp only at h
      split_ifs at h with hminus
      · obtain ⟨n, hnegative, rfl, rfl, hkeeps⟩ := of_number? h
        refine ⟨n.text, ?_, .number trivial hkeeps⟩
        rw [NumberForm.text, hnegative, hminus]
        rfl
      · obtain ⟨n, hnegative, htext, rfl, hkeeps⟩ := of_number? h
        refine ⟨n.text, ?_, .number trivial hkeeps⟩
        rw [NumberForm.text, hnegative, htext]
        rfl

theorem scalar_word {w : Text × Json} (hw : w ∈ words) (limits : Limits) (rest : Text) :
    scalar limits (w.1 ++ rest) = .ok (w.2, rest) := by
  simp only [words, List.mem_cons, List.not_mem_nil, or_false] at hw
  rcases hw with rfl | rfl | rfl | rfl | rfl | rfl <;> rfl

theorem NumberForm.unsigned_cons (n : NumberForm) :
    ∃ c behind, n.unsigned = c :: behind ∧ c.isDigit = true := by
  obtain ⟨hne, hdigits⟩ := n.areDigits
  obtain ⟨c, whole, hcons⟩ := List.exists_cons_of_ne_nil hne
  refine ⟨c, _, by rw [NumberForm.unsigned, hcons]; rfl, hdigits c ?_⟩
  rw [hcons]
  exact List.mem_cons_self

theorem scalar_number {n : NumberForm} (hn : n.Keeps limits) (hrest : EndsNumber rest) :
    scalar limits (n.text ++ rest) = .ok (n.value, rest) := by
  obtain ⟨c, behind, hcons, hdigit⟩ := n.unsigned_cons
  unfold scalar NumberForm.text
  cases hnegative : n.negative with
  | true =>
    have hread := NumberForm.number? hn (CodePoint.ofChar '-' :: (n.unsigned ++ rest)).length hrest
    have hnone := find?_words_of_digit hdigit
      (t := CodePoint.ofChar '-' :: (n.unsigned ++ rest)) (by simp [hcons])
    rw [hnegative] at hread
    simp only [if_true, List.cons_append, List.nil_append]
    rw [hnone]
    exact hread
  | false =>
    have hread := NumberForm.number? hn (n.unsigned ++ rest).length hrest
    have hnone := find?_words_of_digit hdigit (t := n.unsigned ++ rest) (by simp [hcons])
    have hminus : c ≠ CodePoint.ofChar '-' := by
      rintro rfl
      exact absurd hdigit (by decide)
    rw [hnegative] at hread
    simp only [Bool.false_eq_true, if_false, List.nil_append]
    rw [hnone]
    rw [hcons] at hread ⊢
    dsimp only [List.cons_append] at hread ⊢
    rw [if_neg hminus, hread]

end Scalars

section Completeness

variable {limits inner : Limits} {t rest : Text} {v : Json}

theorem valueFrom_scalar (limits : Limits) (fuel : Nat) {c : CodePoint}
    (hc : c ≠ CodePoint.ofChar '"' ∧ c ≠ CodePoint.ofChar '[' ∧ c ≠ CodePoint.ofChar '\x7b')
    (rest : Text) : valueFrom limits (fuel + 1) (c :: rest) = scalar limits (c :: rest) := by
  rw [valueFrom, if_neg hc.1, if_neg hc.2.1, if_neg hc.2.2]

theorem valueFrom_array (henter : limits.enter = some inner) (fuel : Nat) (rest : Text) :
    valueFrom limits (fuel + 1) (CodePoint.ofChar '[' :: rest) =
      arrayFrom inner fuel (skipBlanks rest) := by
  have hquote : CodePoint.ofChar '[' ≠ CodePoint.ofChar '"' := by decide
  rw [valueFrom, if_neg hquote, if_pos rfl, henter]

theorem valueFrom_object (henter : limits.enter = some inner) (fuel : Nat) (rest : Text) :
    valueFrom limits (fuel + 1) (CodePoint.ofChar '\x7b' :: rest) =
      objectFrom inner fuel (skipBlanks rest) := by
  have hquote : CodePoint.ofChar '\x7b' ≠ CodePoint.ofChar '"' := by decide
  have hbracket : CodePoint.ofChar '\x7b' ≠ CodePoint.ofChar '[' := by decide
  rw [valueFrom, if_neg hquote, if_neg hbracket, if_pos rfl, henter]

theorem BeginsValue.skipBlanks (h : BeginsValue t) {blanks : Text} (hblanks : AreBlanks blanks)
    (rest : Text) : Json.skipBlanks (blanks ++ (t ++ rest)) = t ++ rest := by
  obtain ⟨c, behind, rfl, hc, -⟩ := h
  rw [skipBlanks_append hblanks]
  exact skipBlanks_cons hc _

/-- Words and numbers begin with none of the letters that other values begin with. -/
theorem Spells.begins (h : Spells .reader limits t v) : BeginsValue t := by
  have hdigit : ∀ c : CodePoint, c.isDigit = true →
      isBlank c = false ∧ c ≠ CodePoint.ofChar ']' := by
    intro c hc
    have hother : ∀ d : CodePoint, d.isDigit = false ∧ d ≠ CodePoint.ofChar '-' → c ≠ d :=
      fun _ => Text.ne_of_beginsInt (.inl hc)
    refine ⟨?_, hother _ (by decide)⟩
    simp only [isBlank, Bool.or_eq_false_iff, decide_eq_false_iff_not]
    exact ⟨⟨⟨hother _ (by decide), hother _ (by decide)⟩, hother _ (by decide)⟩,
      hother _ (by decide)⟩
  cases h with
  | word hw =>
    simp only [Dialect.reader, words, List.mem_cons, List.not_mem_nil, or_false] at hw
    rcases hw with rfl | rfl | rfl | rfl | rfl | rfl <;> exact ⟨_, _, rfl, by decide, by decide⟩
  | @number _ n _ _ =>
    obtain ⟨c, behind, hcons, hc⟩ := n.unsigned_cons
    unfold NumberForm.text
    rw [hcons]
    cases n.negative with
    | true => exact ⟨_, _, rfl, by decide, by decide⟩
    | false => exact ⟨c, behind, rfl, hdigit c hc⟩
  | str _ => exact ⟨_, _, rfl, by decide, by decide⟩
  | emptyArr _ _ => exact ⟨_, _, rfl, by decide, by decide⟩
  | arr _ _ => exact ⟨_, _, rfl, by decide, by decide⟩
  | emptyObj _ _ => exact ⟨_, _, rfl, by decide, by decide⟩
  | obj _ _ => exact ⟨_, _, rfl, by decide, by decide⟩

theorem areBlanks_endsNumber {blanks : Text} (hblanks : AreBlanks blanks) (h : EndsNumber rest) :
    EndsNumber (blanks ++ rest) := by
  cases blanks with
  | nil => exact h
  | cons c blanks =>
    have hc : isBlank c = true := hblanks c List.mem_cons_self
    have hall : ∀ d : CodePoint, isBlank d = true → d.isDigit = false ∧
        d ≠ CodePoint.ofChar '.' ∧ d ≠ CodePoint.ofChar 'e' ∧ d ≠ CodePoint.ofChar 'E' := by
      intro d hd
      simp only [isBlank, Bool.or_eq_true, decide_eq_true_eq] at hd
      rcases hd with ((rfl | rfl) | rfl) | rfl <;> decide
    exact endsNumber_cons (hall c hc) _

/-- What stands behind an element or a member goes on with no number, and begins with no blank. -/
theorem closing_append {mark : CodePoint}
    (hmark : mark = CodePoint.ofChar ']' ∨ mark = CodePoint.ofChar '\x7d') (ts : List Text)
    (rest : Text) :
    EndsNumber (closing mark ts ++ rest) ∧
      skipBlanks (closing mark ts ++ rest) = closing mark ts ++ rest := by
  cases ts with
  | nil =>
    rcases hmark with rfl | rfl <;>
      exact ⟨endsNumber_cons (by decide) rest, skipBlanks_cons (by decide) rest⟩
  | cons t ts => exact ⟨endsNumber_cons (by decide) _, skipBlanks_cons (by decide) _⟩

/-- Elements as they are written are read up to the closing bracket, with fuel for each of their
characters. -/
theorem elementsFrom_spelled {first : Element} {others : List Element}
    (h : ∀ e ∈ first :: others, BeginsValue e.core ∧ IsReadFrom limits e.core e.value)
    (fuel : Nat)
    (hfuel : 3 * (first.core ++ (first.after ++
      closing (CodePoint.ofChar ']') (others.map Element.text))).length ≤ fuel)
    (rest : Text) :
    elementsFrom limits fuel (first.core ++ (first.after ++
        (closing (CodePoint.ofChar ']') (others.map Element.text) ++ rest))) =
      .ok ((first :: others).map Element.value, rest) := by
  -- By induction on the elements behind the first: each takes one step, and its comma pays for that.
  induction others generalizing first fuel with
  | nil =>
    have hbracket : (closing (CodePoint.ofChar ']') []).length = 1 := rfl
    simp only [List.map_nil, List.length_append, hbracket] at hfuel
    obtain ⟨fuel, rfl⟩ : ∃ f, fuel = f + 1 := ⟨fuel - 1, by omega⟩
    obtain ⟨hends, hskip⟩ := closing_append (.inl rfl) [] rest
    have hv := (h first List.mem_cons_self).2 fuel _ (by omega)
      (areBlanks_endsNumber first.blanksAfter hends)
    rw [List.map_nil, elementsFrom, hv]
    dsimp only
    rw [skipBlanks_append first.blanksAfter, hskip]
    rfl
  | cons e others ih =>
    have hclosing : ∀ ts, closing (CodePoint.ofChar ']') (e.text :: ts) =
        CodePoint.ofChar ',' :: (e.text ++ closing (CodePoint.ofChar ']') ts) := fun _ => rfl
    have hcomma : CodePoint.ofChar ',' ≠ CodePoint.ofChar ']' := by decide
    rw [List.map_cons, hclosing] at hfuel
    simp only [List.length_append, List.length_cons, Element.text] at hfuel
    obtain ⟨fuel, rfl⟩ : ∃ f, fuel = f + 1 := ⟨fuel - 1, by omega⟩
    obtain ⟨hends, hskip⟩ :=
      closing_append (.inl rfl) ((e :: others).map Element.text) rest
    have hv := (h first List.mem_cons_self).2 fuel _ (by omega)
      (areBlanks_endsNumber first.blanksAfter hends)
    have hlater := ih (fun x hx => h x (List.mem_cons_of_mem first hx)) fuel
      (by simp only [List.length_append]; omega)
    have hnext := (h e (by simp)).1.skipBlanks e.blanksBefore
    rw [elementsFrom, hv]
    dsimp only
    rw [skipBlanks_append first.blanksAfter, hskip, List.map_cons, hclosing]
    simp only [List.cons_append, List.append_assoc, hcomma, if_true, if_false, Element.text]
    rw [hnext, hlater]
    rfl

/-- The name of a member and the colon behind it are read up to its value. -/
theorem memberName_spelled (m : Member) (hbegins : BeginsValue m.element.core) (rest : Text) :
    memberName (quoted m.body ++ (m.after ++ CodePoint.ofChar ':' :: (m.element.text ++ rest))) =
      .ok (m.name, m.element.core ++ (m.element.after ++ rest)) := by
  rw [quoted_append, memberName, if_pos rfl, m.spelled.stringFrom]
  dsimp only
  rw [skipBlanks_append m.blanksAfter, skipBlanks_cons (by decide)]
  dsimp only
  rw [if_pos rfl, Element.text, List.append_assoc, List.append_assoc,
    hbegins.skipBlanks m.element.blanksBefore]

/-- Members as they are written are read up to the closing brace, with fuel for each of their
characters. -/
theorem membersFrom_spelled {first : Member} {others : List Member}
    (h : ∀ m ∈ first :: others, BeginsValue m.element.core ∧
      IsReadFrom limits m.element.core m.element.value)
    (fuel : Nat)
    (hfuel : 3 * (first.element.core ++ (first.element.after ++
      closing (CodePoint.ofChar '\x7d') (others.map Member.text))).length ≤ fuel)
    (rest : Text) :
    membersFrom limits fuel (quoted first.body ++ (first.after ++ CodePoint.ofChar ':' ::
        (first.element.text ++
          (closing (CodePoint.ofChar '\x7d') (others.map Member.text) ++ rest)))) =
      .ok ((first :: others).map Member.member, rest) := by
  -- As for the elements; blanks in front of a name are skipped one member before it.
  induction others generalizing first fuel with
  | nil =>
    have hbrace : (closing (CodePoint.ofChar '\x7d') []).length = 1 := rfl
    simp only [List.map_nil, List.length_append, hbrace] at hfuel
    obtain ⟨fuel, rfl⟩ : ∃ f, fuel = f + 1 := ⟨fuel - 1, by omega⟩
    obtain ⟨hends, hskip⟩ := closing_append (.inr rfl) [] rest
    obtain ⟨hbegins, hreads⟩ := h first List.mem_cons_self
    have hv := hreads fuel _ (by omega) (areBlanks_endsNumber first.element.blanksAfter hends)
    rw [List.map_nil, membersFrom, memberName_spelled first hbegins]
    dsimp only
    rw [hv]
    dsimp only
    rw [skipBlanks_append first.element.blanksAfter, hskip]
    rfl
  | cons m others ih =>
    have hclosing : ∀ ts, closing (CodePoint.ofChar '\x7d') (m.text :: ts) =
        CodePoint.ofChar ',' :: (m.text ++ closing (CodePoint.ofChar '\x7d') ts) := fun _ => rfl
    have hcomma : CodePoint.ofChar ',' ≠ CodePoint.ofChar '\x7d' := by decide
    rw [List.map_cons, hclosing] at hfuel
    simp only [List.length_append, List.length_cons, Member.text, Element.text] at hfuel
    obtain ⟨fuel, rfl⟩ : ∃ f, fuel = f + 1 := ⟨fuel - 1, by omega⟩
    obtain ⟨hends, hskip⟩ :=
      closing_append (.inr rfl) ((m :: others).map Member.text) rest
    obtain ⟨hbegins, hreads⟩ := h first List.mem_cons_self
    have hv := hreads fuel _ (by omega) (areBlanks_endsNumber first.element.blanksAfter hends)
    have hlater := ih (fun x hx => h x (List.mem_cons_of_mem first hx)) fuel
      (by simp only [List.length_append]; omega)
    have hnext : ∀ behind, skipBlanks (m.before ++ (quoted m.body ++ behind)) =
        quoted m.body ++ behind := by
      intro behind
      rw [skipBlanks_append m.blanksBefore]
      exact skipBlanks_cons (by decide) _
    rw [membersFrom, memberName_spelled first hbegins]
    dsimp only
    rw [hv]
    dsimp only
    rw [skipBlanks_append first.element.blanksAfter, hskip, List.map_cons, hclosing]
    simp only [List.cons_append, List.append_assoc, hcomma, if_true, if_false, Member.text]
    rw [hnext, hlater]
    rfl

theorem isReadFrom_scalar {c : CodePoint} {word : Text}
    (hc : c ≠ CodePoint.ofChar '"' ∧ c ≠ CodePoint.ofChar '[' ∧ c ≠ CodePoint.ofChar '\x7b')
    (hscalar : ∀ rest, EndsNumber rest → scalar limits (c :: word ++ rest) = .ok (v, rest)) :
    IsReadFrom limits (c :: word) v := by
  intro fuel rest hfuel hends
  rw [List.length_cons] at hfuel
  obtain ⟨fuel, rfl⟩ : ∃ f, fuel = f + 1 := ⟨fuel - 1, by omega⟩
  rw [← hscalar rest hends]
  exact valueFrom_scalar limits fuel hc _

theorem isReadFrom_word {w : Text × Json} (hw : w ∈ words) : IsReadFrom limits w.1 w.2 := by
  have hscalar := fun rest (_ : EndsNumber rest) => scalar_word hw limits rest
  simp only [words, List.mem_cons, List.not_mem_nil, or_false] at hw
  rcases hw with rfl | rfl | rfl | rfl | rfl | rfl <;>
    exact isReadFrom_scalar (by decide) hscalar

theorem isReadFrom_number {n : NumberForm} (hn : n.Keeps limits) :
    IsReadFrom limits n.text n.value := by
  have hscalar := fun rest (hrest : EndsNumber rest) => scalar_number hn hrest
  have hbegins : ∃ c behind, n.text = c :: behind ∧
      (c.isDigit = true ∨ c = CodePoint.ofChar '-') := by
    obtain ⟨c, behind, hcons, hc⟩ := n.unsigned_cons
    unfold NumberForm.text
    rw [hcons]
    cases n.negative with
    | true => exact ⟨_, _, rfl, .inr rfl⟩
    | false => exact ⟨c, behind, rfl, .inl hc⟩
  obtain ⟨c, behind, hcons, hc⟩ := hbegins
  have hother : ∀ d : CodePoint, d.isDigit = false ∧ d ≠ CodePoint.ofChar '-' → c ≠ d :=
    fun _ => Text.ne_of_beginsInt hc
  rw [hcons] at hscalar ⊢
  exact isReadFrom_scalar
    ⟨hother _ (by decide), hother _ (by decide), hother _ (by decide)⟩ hscalar

theorem isReadFrom_str {body s : Text} (h : SpellsString body s) :
    IsReadFrom limits (quoted body) (.str s) := by
  intro fuel rest hfuel _
  rw [quoted, List.length_cons] at hfuel
  obtain ⟨fuel, rfl⟩ : ∃ f, fuel = f + 1 := ⟨fuel - 1, by omega⟩
  rw [quoted_append, valueFrom, if_pos rfl, h.stringFrom]
  rfl

theorem isReadFrom_emptyArr (henter : limits.enter = some inner) {blanks : Text}
    (hblanks : AreBlanks blanks) :
    IsReadFrom limits (CodePoint.ofChar '[' :: (blanks ++ [CodePoint.ofChar ']'])) (.arr []) := by
  intro fuel rest hfuel _
  simp only [List.length_cons, List.length_append] at hfuel
  obtain ⟨fuel, rfl⟩ : ∃ f, fuel = f + 2 := ⟨fuel - 2, by omega⟩
  rw [List.cons_append, valueFrom_array henter, List.append_assoc, skipBlanks_append hblanks,
    List.cons_append, skipBlanks_cons (by decide), arrayFrom, if_pos rfl, List.nil_append]

theorem isReadFrom_emptyObj (henter : limits.enter = some inner) {blanks : Text}
    (hblanks : AreBlanks blanks) :
    IsReadFrom limits (CodePoint.ofChar '\x7b' :: (blanks ++ [CodePoint.ofChar '\x7d']))
      (.obj []) := by
  intro fuel rest hfuel _
  simp only [List.length_cons, List.length_append] at hfuel
  obtain ⟨fuel, rfl⟩ : ∃ f, fuel = f + 2 := ⟨fuel - 2, by omega⟩
  rw [List.cons_append, valueFrom_object henter, List.append_assoc, skipBlanks_append hblanks,
    List.cons_append, skipBlanks_cons (by decide), objectFrom, if_pos rfl, List.nil_append]

theorem isReadFrom_arr (henter : limits.enter = some inner) {first : Element}
    {others : List Element}
    (h : ∀ e ∈ first :: others, BeginsValue e.core ∧ IsReadFrom inner e.core e.value) :
    IsReadFrom limits
      (CodePoint.ofChar '[' ::
        (first.text ++ closing (CodePoint.ofChar ']') (others.map Element.text)))
      (.arr ((first :: others).map Element.value)) := by
  intro fuel rest hfuel _
  obtain ⟨hbegins, -⟩ := h first List.mem_cons_self
  simp only [List.length_cons, List.length_append, Element.text] at hfuel
  obtain ⟨fuel, rfl⟩ : ∃ f, fuel = f + 2 := ⟨fuel - 2, by omega⟩
  have helements := elementsFrom_spelled h fuel (by simp only [List.length_append]; omega) rest
  have hskip := hbegins.skipBlanks first.blanksBefore
  obtain ⟨c, behind, hcons, -, hclosing⟩ := hbegins
  rw [List.cons_append, valueFrom_array henter, Element.text]
  simp only [List.append_assoc]
  rw [hskip]
  rw [hcons, List.cons_append] at helements ⊢
  rw [arrayFrom, if_neg hclosing, helements]
  rfl

theorem isReadFrom_obj (henter : limits.enter = some inner) {first : Member} {others : List Member}
    (h : ∀ m ∈ first :: others, BeginsValue m.element.core ∧
      IsReadFrom inner m.element.core m.element.value) :
    IsReadFrom limits
      (CodePoint.ofChar '\x7b' ::
        (first.text ++ closing (CodePoint.ofChar '\x7d') (others.map Member.text)))
      (ofMembers ((first :: others).map Member.member)) := by
  intro fuel rest hfuel _
  simp only [List.length_cons, List.length_append, Member.text, Element.text] at hfuel
  obtain ⟨fuel, rfl⟩ : ∃ f, fuel = f + 2 := ⟨fuel - 2, by omega⟩
  have hmembers := membersFrom_spelled h fuel (by simp only [List.length_append]; omega) rest
  have hclosing : CodePoint.ofChar '"' ≠ CodePoint.ofChar '\x7d' := by decide
  rw [List.cons_append, valueFrom_object henter, Member.text]
  simp only [List.append_assoc, List.cons_append]
  rw [skipBlanks_append first.blanksBefore, quoted]
  rw [quoted] at hmembers
  simp only [List.cons_append] at hmembers ⊢
  rw [skipBlanks_cons (by decide), objectFrom, if_neg hclosing, hmembers]
  rfl

/-- What the grammar derives is read. -/
theorem Spells.isReadFrom (h : Spells .reader limits t v) : IsReadFrom limits t v := by
  -- Elements must begin as values do, so that no closing bracket is seen in their place.
  induction h with
  | word hw => exact isReadFrom_word hw
  | number _ hn => exact isReadFrom_number hn
  | str hs => exact isReadFrom_str hs
  | emptyArr henter hblanks => exact isReadFrom_emptyArr henter hblanks
  | arr henter hspells ih =>
    exact isReadFrom_arr henter fun e he => ⟨(hspells e he).begins, ih e he⟩
  | emptyObj henter hblanks => exact isReadFrom_emptyObj henter hblanks
  | obj henter hspells ih =>
    exact isReadFrom_obj henter fun m hm => ⟨(hspells m hm).begins, ih m hm⟩

end Completeness

section Soundness

/-- What is read with some fuel is derived by the grammar. Blanks in front of elements and members
belong to the first of them. -/
structure Derives (fuel : Nat) : Prop where
  value : ∀ {limits t v rest}, valueFrom limits fuel t = .ok (v, rest) →
    ∃ core, t = core ++ rest ∧ Spells .reader limits core v
  array : ∀ {outer limits t v rest blanks}, outer.enter = some limits → AreBlanks blanks →
    arrayFrom limits fuel t = .ok (v, rest) →
      ∃ core, CodePoint.ofChar '[' :: (blanks ++ t) = core ++ rest ∧ Spells .reader outer core v
  object : ∀ {outer limits t v rest blanks}, outer.enter = some limits → AreBlanks blanks →
    objectFrom limits fuel t = .ok (v, rest) →
      ∃ core, CodePoint.ofChar '\x7b' :: (blanks ++ t) = core ++ rest ∧ Spells .reader outer core v
  elements : ∀ {limits t vs rest blanks}, AreBlanks blanks →
    elementsFrom limits fuel t = .ok (vs, rest) →
      ∃ (first : Element) (others : List Element),
        blanks ++ t =
          first.text ++ (closing (CodePoint.ofChar ']') (others.map Element.text) ++ rest) ∧
        (∀ e ∈ first :: others, Spells .reader limits e.core e.value) ∧
        vs = (first :: others).map Element.value
  members : ∀ {limits t ms rest blanks}, AreBlanks blanks →
    membersFrom limits fuel t = .ok (ms, rest) →
      ∃ (first : Member) (others : List Member),
        blanks ++ t =
          first.text ++ (closing (CodePoint.ofChar '\x7d') (others.map Member.text) ++ rest) ∧
        (∀ m ∈ first :: others, Spells .reader limits m.element.core m.element.value) ∧
        ms = (first :: others).map Member.member

variable {outer limits : Limits} {fuel : Nat} {t rest blanks : Text} {v : Json}

/-- A value that is read with one more step of fuel is derived, if values, elements and members read
with less are. -/
theorem Derives.value_succ (ih : Derives fuel) (h : valueFrom limits (fuel + 1) t = .ok (v, rest)) :
    ∃ core, t = core ++ rest ∧ Spells .reader limits core v := by
  unfold valueFrom at h
  cases t with
  | nil => cases h
  | cons c t =>
    dsimp only at h
    split_ifs at h with hquote hbracket hbrace
    · obtain ⟨⟨s, behind⟩, hread, hp⟩ := map_eq_ok_iff.mp h
      obtain ⟨rfl, rfl⟩ := Prod.mk.inj hp
      obtain ⟨body, rfl, hbody⟩ := spellsString_of_stringFrom hread
      refine ⟨quoted body, ?_, .str hbody⟩
      simp [hquote, quoted]
    · obtain ⟨blanks, hblanks, htext⟩ := skipBlanks_spec t
      cases he : limits.enter with
      | none =>
        rw [he] at h
        cases h
      | some inner =>
        rw [he] at h
        obtain ⟨core, hcore, hspells⟩ := ih.array he hblanks h
        rw [← htext] at hcore
        exact ⟨core, hbracket ▸ hcore, hspells⟩
    · obtain ⟨blanks, hblanks, htext⟩ := skipBlanks_spec t
      cases he : limits.enter with
      | none =>
        rw [he] at h
        cases h
      | some inner =>
        rw [he] at h
        obtain ⟨core, hcore, hspells⟩ := ih.object he hblanks h
        rw [← htext] at hcore
        exact ⟨core, hbrace ▸ hcore, hspells⟩
    · exact of_scalar h

theorem Derives.array_succ (ih : Derives fuel) (henter : outer.enter = some limits)
    (hblanks : AreBlanks blanks) (h : arrayFrom limits (fuel + 1) t = .ok (v, rest)) :
    ∃ core, CodePoint.ofChar '[' :: (blanks ++ t) = core ++ rest ∧ Spells .reader outer core v := by
  cases t with
  | nil => cases h
  | cons c t =>
    unfold arrayFrom at h
    split_ifs at h with hclosing
    · cases h
      refine ⟨_, ?_, .emptyArr henter hblanks⟩
      simp [hclosing]
    · obtain ⟨⟨vs, behind⟩, hvs, hp⟩ := map_eq_ok_iff.mp h
      obtain ⟨rfl, rfl⟩ := Prod.mk.inj hp
      obtain ⟨first, others, htext, hspells, rfl⟩ := ih.elements hblanks hvs
      refine ⟨_, ?_, .arr henter hspells⟩
      rw [htext]
      simp

theorem Derives.object_succ (ih : Derives fuel) (henter : outer.enter = some limits)
    (hblanks : AreBlanks blanks) (h : objectFrom limits (fuel + 1) t = .ok (v, rest)) :
    ∃ core, CodePoint.ofChar '\x7b' :: (blanks ++ t) = core ++ rest ∧
      Spells .reader outer core v := by
  cases t with
  | nil => cases h
  | cons c t =>
    unfold objectFrom at h
    split_ifs at h with hclosing
    · cases h
      refine ⟨_, ?_, .emptyObj henter hblanks⟩
      simp [hclosing]
    · obtain ⟨⟨ms, behind⟩, hms, hp⟩ := map_eq_ok_iff.mp h
      obtain ⟨rfl, rfl⟩ := Prod.mk.inj hp
      obtain ⟨first, others, htext, hspells, rfl⟩ := ih.members hblanks hms
      refine ⟨_, ?_, .obj henter hspells⟩
      rw [htext]
      simp

/-- Elements are read as a first one, with the blanks in front of it, and others behind commas. -/
theorem Derives.elements_succ (ih : Derives fuel) {vs : List Json} (hblanks : AreBlanks blanks)
    (h : elementsFrom limits (fuel + 1) t = .ok (vs, rest)) :
    ∃ (first : Element) (others : List Element),
      blanks ++ t =
        first.text ++ (closing (CodePoint.ofChar ']') (others.map Element.text) ++ rest) ∧
      (∀ e ∈ first :: others, Spells .reader limits e.core e.value) ∧
      vs = (first :: others).map Element.value := by
  unfold elementsFrom at h
  cases hv : valueFrom limits fuel t with
  | error stop =>
    rw [hv] at h
    cases h
  | ok p =>
    obtain ⟨v, behind⟩ := p
    rw [hv] at h
    dsimp only at h
    obtain ⟨core, rfl, hcore⟩ := ih.value hv
    obtain ⟨after, hafter, hbehind⟩ := skipBlanks_spec behind
    let first : Element := ⟨blanks, core, after, v, hblanks, hafter⟩
    cases hs : skipBlanks behind with
    | nil =>
      rw [hs] at h
      cases h
    | cons c others =>
      rw [hs] at h hbehind
      dsimp only at h
      split_ifs at h with hclosing hcomma
      · cases h
        refine ⟨first, [], ?_, List.forall_mem_singleton.mpr hcore, rfl⟩
        rw [hbehind, hclosing]
        simp [first, Element.text, closing]
      · obtain ⟨⟨vs', last⟩, hvs, hp⟩ := map_eq_ok_iff.mp h
        obtain ⟨rfl, rfl⟩ := Prod.mk.inj hp
        obtain ⟨skipped, hskipped, hothers⟩ := skipBlanks_spec others
        obtain ⟨e, es, htext, hspells, rfl⟩ := ih.elements hskipped hvs
        rw [← hothers] at htext
        refine ⟨first, e :: es, ?_, List.forall_mem_cons.mpr ⟨hcore, hspells⟩, rfl⟩
        rw [hbehind, hcomma, htext]
        simp [first, Element.text, closing]

/-- What is read as the name of a member is a string, and the colon behind it. -/
theorem of_memberName {name : Text} (h : memberName t = .ok (name, rest)) :
    ∃ body after skipped, AreBlanks after ∧ AreBlanks skipped ∧ SpellsString body name ∧
      t = quoted body ++ (after ++ CodePoint.ofChar ':' :: (skipped ++ rest)) := by
  unfold memberName at h
  cases t with
  | nil => cases h
  | cons c t =>
    dsimp only at h
    split_ifs at h with hquote
    · cases hread : stringFrom (c :: t).length t with
      | error stop =>
        rw [hread] at h
        cases h
      | ok p =>
        obtain ⟨s, behind⟩ := p
        rw [hread] at h
        dsimp only at h
        obtain ⟨body, rfl, hbody⟩ := spellsString_of_stringFrom hread
        obtain ⟨after, hafter, hbehind⟩ := skipBlanks_spec behind
        cases hs : skipBlanks behind with
        | nil =>
          rw [hs] at h
          cases h
        | cons d others =>
          rw [hs] at h hbehind
          dsimp only at h
          split_ifs at h with hcolon
          · obtain ⟨skipped, hskipped, hothers⟩ := skipBlanks_spec others
            obtain ⟨rfl, rfl⟩ := Prod.mk.inj (Except.ok.inj h)
            refine ⟨body, after, skipped, hafter, hskipped, hbody, ?_⟩
            rw [hbehind, hcolon, ← hothers, hquote]
            simp [quoted]

/-- Members are read as a first one, with the blanks in front of it, and others behind commas. -/
theorem Derives.members_succ (ih : Derives fuel) {ms : Members} (hblanks : AreBlanks blanks)
    (h : membersFrom limits (fuel + 1) t = .ok (ms, rest)) :
    ∃ (first : Member) (others : List Member),
      blanks ++ t =
        first.text ++ (closing (CodePoint.ofChar '\x7d') (others.map Member.text) ++ rest) ∧
      (∀ m ∈ first :: others, Spells .reader limits m.element.core m.element.value) ∧
      ms = (first :: others).map Member.member := by
  unfold membersFrom at h
  cases hn : memberName t with
  | error stop =>
    rw [hn] at h
    cases h
  | ok p =>
    obtain ⟨name, behind⟩ := p
    rw [hn] at h
    dsimp only at h
    obtain ⟨body, between, skipped, hbetween, hskipped, hbody, rfl⟩ := of_memberName hn
    cases hv : valueFrom limits fuel behind with
    | error stop =>
      rw [hv] at h
      cases h
    | ok p =>
      obtain ⟨v, behind⟩ := p
      rw [hv] at h
      dsimp only at h
      obtain ⟨core, rfl, hcore⟩ := ih.value hv
      -- The blanks behind the value are part of its element.
      obtain ⟨after, hafter, hbehind⟩ := skipBlanks_spec behind
      let first : Member :=
        ⟨blanks, body, name, between, ⟨skipped, core, after, v, hskipped, hafter⟩, hblanks, hbody,
          hbetween⟩
      cases hs : skipBlanks behind with
      | nil =>
        rw [hs] at h
        cases h
      | cons c others =>
        rw [hs] at h hbehind
        dsimp only at h
        split_ifs at h with hclosing hcomma
        · cases h
          refine ⟨first, [], ?_, List.forall_mem_singleton.mpr hcore, rfl⟩
          rw [hbehind, hclosing]
          simp [first, Member.text, Element.text, closing]
        · obtain ⟨⟨ms', last⟩, hms, hp⟩ := map_eq_ok_iff.mp h
          obtain ⟨rfl, rfl⟩ := Prod.mk.inj hp
          obtain ⟨skipped', hskipped', hothers⟩ := skipBlanks_spec others
          obtain ⟨m, ms, htext, hspells, rfl⟩ := ih.members hskipped' hms
          rw [← hothers] at htext
          refine ⟨first, m :: ms, ?_, List.forall_mem_cons.mpr ⟨hcore, hspells⟩, rfl⟩
          rw [hbehind, hcomma, htext]
          simp [first, Member.text, Element.text, closing]

/-- Whatever the fuel, what the reader reads the grammar derives. -/
theorem derives (fuel : Nat) : Derives fuel := by
  -- The readers call one another with less fuel, so that one induction serves all five.
  induction fuel with
  | zero =>
    refine ⟨?_, ?_, ?_, ?_, ?_⟩
    · intro limits t v rest h
      cases h
    · intro outer limits t v rest blanks _ _ h
      cases h
    · intro outer limits t v rest blanks _ _ h
      cases h
    · intro limits t vs rest blanks _ h
      cases h
    · intro limits t ms rest blanks _ h
      cases h
  | succ fuel ih =>
    exact ⟨ih.value_succ, ih.array_succ, ih.object_succ, ih.elements_succ, ih.members_succ⟩

end Soundness

/-- A document is read just when it is the text of a value, and then as that value. -/
theorem read_eq_ok_iff {limits : Limits} {t : Text} {v : Json} :
    read limits t = .ok v ↔ SpellsDocument .reader limits t v := by
  have hdocument : read limits t = .ok v ↔ document limits t = .ok v := by
    unfold read
    cases document limits t <;> simp
  rw [hdocument]
  unfold document
  constructor
  · intro h
    cases hv : valueFrom limits (3 * t.length + 3) (skipBlanks t) with
    | error stop =>
      rw [hv] at h
      cases h
    | ok p =>
      obtain ⟨v', rest⟩ := p
      rw [hv] at h
      dsimp only at h
      obtain ⟨before, hbefore, htext⟩ := skipBlanks_spec t
      obtain ⟨core, hcore, hspells⟩ := (derives _).value hv
      obtain ⟨after, hafter, hrest⟩ := skipBlanks_spec rest
      cases hs : skipBlanks rest with
      | cons c rest =>
        rw [hs] at h
        cases h
      | nil =>
        rw [hs] at h hrest
        cases h
        refine ⟨⟨before, core, after, v, hbefore, hafter⟩, ?_, rfl, hspells⟩
        rw [Element.text, htext, hcore, hrest, List.append_nil]
  · rintro ⟨e, rfl, rfl, hspells⟩
    -- The fuel of a document is enough for what is derived of it, blanks not counted.
    have hlength : 3 * e.core.length ≤ 3 * e.text.length + 3 := by
      simp only [Element.text, List.length_append]
      omega
    have hends : EndsNumber e.after := by
      have hblanks := areBlanks_endsNumber e.blanksAfter endsNumber_nil
      rwa [List.append_nil] at hblanks
    have hafter : skipBlanks e.after = [] := by
      have hskip := skipBlanks_append e.blanksAfter []
      rwa [List.append_nil] at hskip
    have hread := hspells.isReadFrom (3 * e.text.length + 3) e.after hlength hends
    rw [Element.text] at hread ⊢
    rw [hspells.begins.skipBlanks e.blanksBefore, hread]
    dsimp only
    rw [hafter]

/-- A document is the text of one value only, whatever the limits. -/
theorem SpellsDocument.unique {limits limits' : Limits} {t : Text} {v v' : Json}
    (h : SpellsDocument .reader limits t v) (h' : SpellsDocument .reader limits' t v') : v = v' := by
  have hread := read_eq_ok_iff.mpr h.unlimited
  rw [read_eq_ok_iff.mpr h'.unlimited] at hread
  exact (Except.ok.inj hread).symm

end Json

end TopicSink
