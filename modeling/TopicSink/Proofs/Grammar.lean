import TopicSink.Proofs.Literals

/-!
The grammar of JSON texts, and what a text is a text of. Its dialects are all the same but for words
and numbers: the standard has three words, and the reader takes three more for numbers. The leaves
of the grammar are joined to the reader here, strings and numbers each by what is read of them in
front of anything.
-/

namespace TopicSink

namespace Json

def AreBlanks (t : Text) : Prop := ∀ c ∈ t, isBlank c = true

def AreDigits (t : Text) : Prop := t ≠ [] ∧ ∀ c ∈ t, c.isDigit = true

structure Power where
  mark : CodePoint
  sign : Option CodePoint
  digits : Text
  isMark : mark = CodePoint.ofChar 'e' ∨ mark = CodePoint.ofChar 'E'
  isSign : ∀ c ∈ sign, c = CodePoint.ofChar '-' ∨ c = CodePoint.ofChar '+'
  areDigits : AreDigits digits

def Power.text (p : Power) : Text := p.mark :: (p.sign.toList ++ p.digits)

def Power.value (p : Power) : Int :=
  if p.sign = some (CodePoint.ofChar '-') then -(Text.digits p.digits : Int)
  else Text.digits p.digits

/-- A number as it is written. No zero stands in front of other digits, and there are digits on both
sides of a point. -/
structure NumberForm where
  negative : Bool
  whole : Text
  fraction : Option Text
  power : Option Power
  areDigits : AreDigits whole
  leading : ∀ rest, whole = CodePoint.ofChar '0' :: rest → rest = []
  behindPoint : ∀ digits ∈ fraction, AreDigits digits

namespace NumberForm

def fractionText (fraction : Option Text) : Text :=
  (fraction.map fun digits => CodePoint.ofChar '.' :: digits).getD []

def powerText (power : Option Power) : Text := (power.map Power.text).getD []

@[simp] theorem fractionText_none : fractionText none = [] := rfl

@[simp] theorem fractionText_some (digits : Text) :
    fractionText (some digits) = CodePoint.ofChar '.' :: digits := rfl

@[simp] theorem powerText_none : powerText none = [] := rfl

@[simp] theorem powerText_some (power : Power) : powerText (some power) = power.text := rfl

def unsigned (n : NumberForm) : Text := n.whole ++ (fractionText n.fraction ++ powerText n.power)

def text (n : NumberForm) : Text :=
  (if n.negative then [CodePoint.ofChar '-'] else []) ++ n.unsigned

/-- Without a point and a power of ten it is an integer, otherwise the nearest binary64 number. -/
def value (n : NumberForm) : Json :=
  match n.fraction, n.power with
  | none, none => .int (if n.negative then -(Text.digits n.whole : Int) else Text.digits n.whole)
  | _, _ =>
    let behind := n.fraction.getD []
    .float (Binary64.ofDecimal n.negative (Text.digits (n.whole ++ behind))
      ((n.power.map Power.value).getD 0 - behind.length))

def Keeps (limits : Limits) (n : NumberForm) : Prop :=
  n.fraction = none → n.power = none → ∀ most ∈ limits.digits, n.whole.length ≤ most

end NumberForm

/-- A dialect of JSON: the words that it has, and the numbers that it takes. -/
structure Dialect where
  words : List (Text × Json)
  takes : NumberForm → Prop

def Dialect.standard : Dialect :=
  ⟨[("null", .null), ("true", .bool true), ("false", .bool false)], fun _ => True⟩

def Dialect.reader : Dialect := ⟨Json.words, fun _ => True⟩

/-- A dialect has no more texts than another. -/
structure Dialect.IsPartOf (dialect other : Dialect) : Prop where
  words : dialect.words ⊆ other.words
  takes : ∀ n, dialect.takes n → other.takes n

theorem Dialect.standard_isPartOf_reader : Dialect.standard.IsPartOf .reader :=
  ⟨List.take_subset 3 Json.words, fun _ _ => trivial⟩

/-- What stands between the quotes of a string, and the text that it spells. Two escapes of 16-bit
units spell one code point where they make a pair. -/
inductive SpellsString : Text → Text → Prop
  | nil : SpellsString [] []
  | plain {c : CodePoint} {t s : Text} :
    c ≠ CodePoint.ofChar '"' → c ≠ CodePoint.ofChar '\\' → 0x20 ≤ c.val → SpellsString t s →
      SpellsString (c :: t) (c :: s)
  | letter {e p : CodePoint} {t s : Text} :
    escaped? e = some p → SpellsString t s →
      SpellsString (CodePoint.ofChar '\\' :: e :: t) (p :: s)
  | unit {a b c d : CodePoint} {u : Nat} {t s : Text} :
    unit? a b c d = some u →
      (∀ x y a' b' c' d' t', t = x :: y :: a' :: b' :: c' :: d' :: t' →
        pair? u x y a' b' c' d' = none) →
      SpellsString t s →
      SpellsString (CodePoint.ofChar '\\' :: CodePoint.ofChar 'u' :: a :: b :: c :: d :: t)
        (CodePoint.ofNat u :: s)
  | pair {a b c d x y a' b' c' d' p : CodePoint} {u : Nat} {t s : Text} :
    unit? a b c d = some u → pair? u x y a' b' c' d' = some p → SpellsString t s →
      SpellsString (CodePoint.ofChar '\\' :: CodePoint.ofChar 'u' :: a :: b :: c :: d ::
        x :: y :: a' :: b' :: c' :: d' :: t) (p :: s)

def quoted (body : Text) : Text := CodePoint.ofChar '"' :: (body ++ [CodePoint.ofChar '"'])

structure Element where
  before : Text
  core : Text
  after : Text
  value : Json
  blanksBefore : AreBlanks before
  blanksAfter : AreBlanks after

def Element.text (e : Element) : Text := e.before ++ (e.core ++ e.after)

structure Member where
  before : Text
  body : Text
  name : Text
  after : Text
  element : Element
  blanksBefore : AreBlanks before
  spelled : SpellsString body name
  blanksAfter : AreBlanks after

def Member.text (m : Member) : Text :=
  m.before ++ (quoted m.body ++ (m.after ++ CodePoint.ofChar ':' :: m.element.text))

def Member.member (m : Member) : Text × Json := (m.name, m.element.value)

def closing (mark : CodePoint) : List Text → Text
  | [] => [mark]
  | t :: ts => CodePoint.ofChar ',' :: (t ++ closing mark ts)

/-- A text is the text of a value, in a dialect and within limits. The last member of a name counts.
-/
inductive Spells (dialect : Dialect) : Limits → Text → Json → Prop
  | word {limits : Limits} {w : Text × Json} : w ∈ dialect.words → Spells dialect limits w.1 w.2
  | number {limits : Limits} {n : NumberForm} :
    dialect.takes n → n.Keeps limits → Spells dialect limits n.text n.value
  | str {limits : Limits} {body t : Text} :
    SpellsString body t → Spells dialect limits (quoted body) (.str t)
  | emptyArr {limits inner : Limits} {blanks : Text} :
    limits.enter = some inner → AreBlanks blanks →
      Spells dialect limits (CodePoint.ofChar '[' :: (blanks ++ [CodePoint.ofChar ']'])) (.arr [])
  | arr {limits inner : Limits} {first : Element} {others : List Element} :
    limits.enter = some inner →
      (∀ e ∈ first :: others, Spells dialect inner e.core e.value) →
      Spells dialect limits
        (CodePoint.ofChar '[' ::
          (first.text ++ closing (CodePoint.ofChar ']') (others.map Element.text)))
        (.arr ((first :: others).map Element.value))
  | emptyObj {limits inner : Limits} {blanks : Text} :
    limits.enter = some inner → AreBlanks blanks →
      Spells dialect limits
        (CodePoint.ofChar '\x7b' :: (blanks ++ [CodePoint.ofChar '\x7d'])) (.obj [])
  | obj {limits inner : Limits} {first : Member} {others : List Member} :
    limits.enter = some inner →
      (∀ m ∈ first :: others, Spells dialect inner m.element.core m.element.value) →
      Spells dialect limits
        (CodePoint.ofChar '\x7b' ::
          (first.text ++ closing (CodePoint.ofChar '\x7d') (others.map Member.text)))
        (ofMembers ((first :: others).map Member.member))

/-- A whole document is the text of a value, with blanks around it. -/
def SpellsDocument (dialect : Dialect) (limits : Limits) (t : Text) (v : Json) : Prop :=
  ∃ e : Element, t = e.text ∧ v = e.value ∧ Spells dialect limits e.core e.value

def IsJson (t : Text) : Prop := ∃ v, SpellsDocument .standard Limits.none t v

section Dialects

variable {dialect other : Dialect} {limits : Limits} {t : Text} {v : Json}

theorem Spells.mono (hpart : dialect.IsPartOf other) (h : Spells dialect limits t v) :
    Spells other limits t v := by
  induction h with
  | word hw => exact .word (hpart.words hw)
  | number htakes hn => exact .number (hpart.takes _ htakes) hn
  | str hs => exact .str hs
  | emptyArr henter hblanks => exact .emptyArr henter hblanks
  | arr henter _ ih => exact .arr henter ih
  | emptyObj henter hblanks => exact .emptyObj henter hblanks
  | obj henter _ ih => exact .obj henter ih

/-- What is derived within limits is derived without any. -/
theorem Spells.unlimited (h : Spells dialect limits t v) : Spells dialect Limits.none t v := by
  induction h with
  | word hw => exact .word hw
  | number htakes _ => exact .number htakes fun _ _ _ hmost => by cases hmost
  | str hs => exact .str hs
  | emptyArr _ hblanks => exact .emptyArr rfl hblanks
  | arr _ _ ih => exact .arr rfl ih
  | emptyObj _ hblanks => exact .emptyObj rfl hblanks
  | obj _ _ ih => exact .obj rfl ih

theorem SpellsDocument.mono (hpart : dialect.IsPartOf other)
    (h : SpellsDocument dialect limits t v) : SpellsDocument other limits t v := by
  obtain ⟨e, rfl, rfl, hspells⟩ := h
  exact ⟨e, rfl, rfl, hspells.mono hpart⟩

theorem SpellsDocument.unlimited (h : SpellsDocument dialect limits t v) :
    SpellsDocument dialect Limits.none t v := by
  obtain ⟨e, rfl, rfl, hspells⟩ := h
  exact ⟨e, rfl, rfl, hspells.unlimited⟩

end Dialects

theorem areDigits_singleton {c : CodePoint} (h : c.isDigit = true) : AreDigits [c] :=
  ⟨List.cons_ne_nil c [], List.forall_mem_singleton.mpr h⟩

section Blanks

theorem areBlanks_nil : AreBlanks [] := List.forall_mem_nil _

theorem skipBlanks_cons {c : CodePoint} (hc : isBlank c = false) (rest : Text) :
    skipBlanks (c :: rest) = c :: rest := by
  unfold skipBlanks
  rw [List.dropWhile_cons_of_neg (by simp [hc])]

theorem skipBlanks_append {blanks : Text} (h : AreBlanks blanks) (rest : Text) :
    skipBlanks (blanks ++ rest) = skipBlanks rest :=
  List.dropWhile_append_of_pos h

/-- What is skipped are blanks. -/
theorem skipBlanks_spec (t : Text) : ∃ blanks, AreBlanks blanks ∧ t = blanks ++ skipBlanks t :=
  ⟨t.takeWhile isBlank, fun c hc => List.all_eq_true.mp List.all_takeWhile c hc,
    List.takeWhile_append_dropWhile.symm⟩

end Blanks

section Strings

variable {start : Nat} {t body s rest : Text}

theorem ne_of_escaped? {e p : CodePoint} (h : escaped? e = some p) : e ≠ CodePoint.ofChar 'u' := by
  rintro rfl
  cases h

/-- A unit is made of hexadecimal digits. -/
theorem unit?_of_none {a b c d x : CodePoint} (hx : x ∈ [a, b, c, d])
    (hnone : x.hexValue? = none) : unit? a b c d = none := by
  simp only [List.mem_cons, List.not_mem_nil, or_false] at hx
  unfold unit?
  rcases hx with rfl | rfl | rfl | rfl <;> rw [hnone]
  · cases a.hexValue? <;> rfl
  · cases a.hexValue? <;> cases b.hexValue? <;> rfl
  · cases a.hexValue? <;> cases b.hexValue? <;> cases c.hexValue? <;> rfl

theorem of_pair? {u : Nat} {x y a b c d p : CodePoint} (h : pair? u x y a b c d = some p) :
    (0xD800 ≤ u ∧ u < 0xDC00) ∧ x = CodePoint.ofChar '\\' ∧ y = CodePoint.ofChar 'u' ∧
      ∃ low, unit? a b c d = some low ∧ 0xDC00 ≤ low ∧ low < 0xE000 := by
  unfold pair? at h
  split_ifs at h with hpair
  cases hlow : unit? a b c d with
  | none =>
    rw [hlow] at h
    cases h
  | some low =>
    rw [hlow] at h
    dsimp only at h
    split_ifs at h with hrange
    exact ⟨⟨hpair.1, hpair.2.1⟩, hpair.2.2.1, hpair.2.2.2, low, rfl, hrange⟩

/-- A pair is made of escapes, and has no quote in it. -/
theorem pair?_of_quote {u : Nat} {x y a b c d : CodePoint}
    (h : CodePoint.ofChar '"' ∈ [x, y, a, b, c, d]) : pair? u x y a b c d = none := by
  cases hpair : pair? u x y a b c d with
  | none => rfl
  | some p =>
    obtain ⟨-, rfl, rfl, low, hlow, -⟩ := of_pair? hpair
    have hdigits : CodePoint.ofChar '"' ∈ [a, b, c, d] := by
      rcases List.mem_cons.mp h with hmark | h
      · exact absurd hmark (by decide)
      rcases List.mem_cons.mp h with hmark | h
      · exact absurd hmark (by decide)
      exact h
    rw [unit?_of_none hdigits (by decide)] at hlow
    cases hlow

/-- What stands in front of a quote and what stands behind it is told apart by the quote. -/
theorem exists_of_six {x y a b c d q : CodePoint} {more : Text}
    (h : t ++ CodePoint.ofChar '"' :: rest = x :: y :: a :: b :: c :: d :: q :: more) :
    (∃ t', t = x :: y :: a :: b :: c :: d :: t') ∨
      CodePoint.ofChar '"' ∈ [x, y, a, b, c, d] := by
  have happend : t ++ CodePoint.ofChar '"' :: rest = [x, y, a, b, c, d] ++ q :: more := h
  rcases List.append_eq_append_iff.mp happend with ⟨others, hsix, hrest⟩ | ⟨t', ht, -⟩
  · cases others with
    | nil => exact .inl ⟨[], by rw [hsix, List.append_nil]⟩
    | cons e others =>
      right
      rw [hsix, (List.cons.inj hrest).1]
      exact List.mem_append_right t List.mem_cons_self
  · exact .inl ⟨t', ht⟩

theorem quoted_append (body rest : Text) :
    quoted body ++ rest = CodePoint.ofChar '"' :: (body ++ CodePoint.ofChar '"' :: rest) := by
  simp [quoted]

/-- A string is read up to its closing quote. -/
theorem SpellsString.stringFrom (h : SpellsString body s) (start : Nat) (rest : Text) :
    stringFrom start (body ++ CodePoint.ofChar '"' :: rest) = .ok (s, rest) := by
  have hne : ∀ t : Text, t ++ CodePoint.ofChar '"' :: rest ≠ [] :=
    fun t => List.append_ne_nil_of_right_ne_nil t (List.cons_ne_nil _ _)
  induction h with
  | nil => exact stringFrom_quote start rest
  | plain hquote hbackslash hplain _ ih =>
    rw [List.cons_append, stringFrom_plain start hquote hbackslash hplain, ih]
    rfl
  | letter hletter _ ih =>
    rw [List.cons_append, List.cons_append,
      stringFrom_letter start (ne_of_escaped? hletter) hletter, ih]
    rfl
  | unit hunit halone _ ih =>
    simp only [List.cons_append]
    -- What is read behind the unit may be the closing quote and more, but no pair reaches beyond it.
    rw [stringFrom_unit? start hunit ?_ (hne _), ih]
    · rfl
    · intro x y a' b' c' d' q more hsix
      rcases exists_of_six hsix with ⟨t', ht'⟩ | hquote
      · exact halone x y a' b' c' d' t' ht'
      · exact pair?_of_quote hquote
  | pair hunit hpair _ ih =>
    simp only [List.cons_append]
    rw [stringFrom_pair? start hunit hpair (hne _), ih]
    rfl

theorem of_behind {c : CodePoint} {r : Read Text} (h : behind c r = .ok (s, rest)) :
    ∃ s', r = .ok (s', rest) ∧ s = c :: s' := by
  obtain ⟨⟨s', rest'⟩, hr, hp⟩ := map_eq_ok_iff.mp h
  obtain ⟨rfl, rfl⟩ := Prod.mk.inj hp
  exact ⟨s', hr, rfl⟩

/-- What is read as a string is one as it is written, and its closing quote. -/
theorem spellsString_of_stringFrom (h : Json.stringFrom start t = .ok (s, rest)) :
    ∃ body, t = body ++ CodePoint.ofChar '"' :: rest ∧ SpellsString body s := by
  fun_induction Json.stringFrom start t generalizing s
  case case2 =>
    cases h
    exact ⟨[], rfl, .nil⟩
  case case6 hunit _ _ _ _ _ _ _ _ _ hpair _ ih =>
    obtain ⟨s', hread, rfl⟩ := of_behind h
    obtain ⟨body, htext, hbody⟩ := ih hread
    rw [htext]
    exact ⟨_, rfl, .pair hunit hpair hbody⟩
  case case7 hunit _ _ _ _ _ _ _ _ hpair _ ih =>
    obtain ⟨s', hread, rfl⟩ := of_behind h
    obtain ⟨body, htext, hbody⟩ := ih hread
    refine ⟨_, by rw [htext]; rfl, .unit hunit (fun x y a' b' c' d' t' ht' => ?_) hbody⟩
    subst ht'
    simp only [List.cons_append, List.cons.injEq] at htext
    obtain ⟨rfl, rfl, rfl, rfl, rfl, rfl, -⟩ := htext
    exact hpair
  case case8 hunit _ _ hlast _ ih =>
    obtain ⟨s', hread, rfl⟩ := of_behind h
    obtain ⟨body, htext, hbody⟩ := ih hread
    refine ⟨_, by rw [htext]; rfl, .unit hunit (fun x y a' b' c' d' t' ht' => ?_) hbody⟩
    -- Too little is left for a second escape and a quote.
    subst ht'
    simp only [List.cons_append, List.cons.injEq] at htext
    cases t' with
    | nil => exact (hlast _ _ _ _ _ _ _ htext.2).elim
    | cons q t' => exact (hlast _ _ _ _ _ _ _ htext.2).elim
  case case10 hletter _ ih =>
    obtain ⟨s', hread, rfl⟩ := of_behind h
    obtain ⟨body, rfl, hbody⟩ := ih hread
    exact ⟨_, rfl, .letter hletter hbody⟩
  case case13 hquote hbackslash hplain ih =>
    obtain ⟨s', hread, rfl⟩ := of_behind h
    obtain ⟨body, rfl, hbody⟩ := ih hread
    exact ⟨_, rfl, .plain hquote hbackslash (by omega) hbody⟩
  all_goals cases h

end Strings

section Numbers

variable {t whole rest : Text} {limits : Limits}

theorem append_of_splitDigits (t : Text) :
    t = (splitDigits t).1 ++ (splitDigits t).2 ∧ ∀ c ∈ (splitDigits t).1, c.isDigit = true :=
  ⟨List.takeWhile_append_dropWhile.symm,
    fun c hc => List.all_eq_true.mp List.all_takeWhile c hc⟩

/-- The integral part that is read is a run of digits, with no zero in front of others. -/
theorem of_integral? (h : integral? t = some (whole, rest)) :
    t = whole ++ rest ∧ AreDigits whole ∧
      ∀ behind, whole = CodePoint.ofChar '0' :: behind → behind = [] := by
  unfold integral? at h
  cases t with
  | nil => cases h
  | cons c t =>
    dsimp only at h
    split_ifs at h with hzero hdigit
    · cases h
      exact ⟨rfl, areDigits_singleton (hzero ▸ rfl),
        fun behind hbehind => (List.cons.inj hbehind).2.symm⟩
    · obtain ⟨hsplit, hdigits⟩ := append_of_splitDigits (c :: t)
      have hfirst : (splitDigits (c :: t)).1 = c :: t.takeWhile CodePoint.isDigit :=
        List.takeWhile_cons_of_pos hdigit
      rw [Option.some.inj h] at hsplit hdigits hfirst
      dsimp only at hsplit hdigits hfirst
      refine ⟨hsplit, ⟨?_, hdigits⟩, fun behind hbehind => ?_⟩
      · rw [hfirst]
        exact List.cons_ne_nil _ _
      · rw [hfirst] at hbehind
        exact absurd (List.cons.inj hbehind).1 hzero

theorem fraction_spec (t : Text) :
    t = NumberForm.fractionText (fraction t).1 ++ (fraction t).2 ∧
      ∀ digits ∈ (fraction t).1, AreDigits digits := by
  cases t with
  | nil => exact ⟨rfl, fun digits hdigits => by cases hdigits⟩
  | cons c t =>
    have hnone : c :: t = NumberForm.fractionText none ++ c :: t := rfl
    unfold fraction
    dsimp only
    split_ifs with hpoint
    · obtain ⟨hsplit, hdigits⟩ := append_of_splitDigits t
      rcases hs : splitDigits t with ⟨digits, rest⟩
      rw [hs] at hsplit hdigits
      cases digits with
      | nil => exact ⟨hnone, fun digits hdigits => by cases hdigits⟩
      | cons d digits =>
        refine ⟨?_, fun digits' hdigits' => ?_⟩
        · rw [hpoint, hsplit]
          rfl
        · rw [← Option.some.inj hdigits']
          exact ⟨List.cons_ne_nil _ _, hdigits⟩
    · exact ⟨hnone, fun digits hdigits => by cases hdigits⟩

theorem exponentSign_spec (t : Text) :
    ∃ sign : Option CodePoint, t = sign.toList ++ (exponentSign t).2 ∧
      (∀ c ∈ sign, c = CodePoint.ofChar '-' ∨ c = CodePoint.ofChar '+') ∧
      ((exponentSign t).1 = true ↔ sign = some (CodePoint.ofChar '-')) := by
  cases t with
  | nil => exact ⟨none, rfl, fun _ hc => (by cases hc), by simp [exponentSign]⟩
  | cons c t =>
    unfold exponentSign
    dsimp only
    split_ifs with hminus hplus
    · exact ⟨some c, rfl, fun d hd => .inl (Option.some.inj hd ▸ hminus), by simp [hminus]⟩
    · exact ⟨some c, rfl, fun d hd => .inr (Option.some.inj hd ▸ hplus), by simp [hminus]⟩
    · exact ⟨none, rfl, fun _ hc => (by cases hc), by simp⟩

/-- What is read as an exponent is one, and where none is read nothing is taken. -/
theorem exponent_spec (t : Text) :
    ∃ power : Option Power, (exponent t).1 = power.map Power.value ∧
      t = NumberForm.powerText power ++ (exponent t).2 := by
  have hnone : ∀ t : Text, ∃ power : Option Power, none = power.map Power.value ∧
      t = NumberForm.powerText power ++ t := fun t => ⟨none, rfl, rfl⟩
  cases t with
  | nil => exact hnone []
  | cons c t =>
    unfold exponent
    dsimp only
    by_cases hmark : c = CodePoint.ofChar 'e' ∨ c = CodePoint.ofChar 'E'
    · rw [if_pos hmark]
      obtain ⟨sign, hsign, hsigns, hnegative⟩ := exponentSign_spec t
      obtain ⟨hsplit, hdigits⟩ := append_of_splitDigits (exponentSign t).2
      rcases hs : splitDigits (exponentSign t).2 with ⟨digits, rest⟩
      rw [hs] at hsplit hdigits
      cases digits with
      | nil => exact hnone (c :: t)
      | cons d digits =>
        refine ⟨some ⟨c, sign, d :: digits, hmark, hsigns, List.cons_ne_nil _ _, hdigits⟩, ?_, ?_⟩
        · simp only [Option.map_some, Power.value, ← hnegative]
        · conv_lhs => rw [hsign, hsplit]
          simp [NumberForm.powerText, Power.text]
    · rw [if_neg hmark]
      exact hnone (c :: t)

/-- What is read as a number behind its sign is one as it is written. -/
theorem of_number? {negative : Bool} {start : Nat} {v : Json}
    (h : number? limits negative start t = .ok (v, rest)) :
    ∃ n : NumberForm, n.negative = negative ∧ t = n.unsigned ++ rest ∧ v = n.value ∧
      n.Keeps limits := by
  unfold number? at h
  cases hi : integral? t with
  | none =>
    rw [hi] at h
    cases h
  | some split =>
    obtain ⟨whole, behind⟩ := split
    obtain ⟨rfl, hdigits, hleading⟩ := of_integral? hi
    rw [hi] at h
    dsimp only at h
    obtain ⟨hfraction, hbehind⟩ := fraction_spec behind
    rcases hf : fraction behind with ⟨fraction?, others⟩
    rw [hf] at h hfraction hbehind
    dsimp only at h hfraction hbehind
    obtain ⟨power, hpower, hend⟩ := exponent_spec others
    rcases he : exponent others with ⟨power?, last⟩
    rw [he] at h hpower hend
    dsimp only at h hpower hend
    let n : NumberForm := ⟨negative, whole, fraction?, power, hdigits, hleading, hbehind⟩
    have htext : whole ++ behind = n.unsigned ++ last := by
      rw [hfraction, hend]
      simp [n, NumberForm.unsigned]
    refine ⟨n, rfl, ?_⟩
    rw [htext]
    subst hpower
    -- Only where neither a point nor a power follows is the number of digits limited.
    cases fraction? with
    | none =>
      cases power with
      | none =>
        dsimp only [Option.map_none] at h
        by_cases hlong : (limits.digits.any fun most => most < whole.length) = true
        · rw [if_pos hlong] at h
          cases h
        · rw [if_neg hlong] at h
          cases h
          refine ⟨rfl, rfl, fun _ _ most hmost => ?_⟩
          rw [Option.mem_def.mp hmost] at hlong
          simpa using hlong
      | some power =>
        cases h
        exact ⟨rfl, rfl, fun _ hnone => by cases hnone⟩
    | some digits =>
      cases h
      exact ⟨rfl, rfl, fun hnone => by cases hnone⟩

theorem integral?_append (hdigits : AreDigits whole)
    (hleading : ∀ behind, whole = CodePoint.ofChar '0' :: behind → behind = [])
    (hrest : ∀ c ∈ rest.head?, c.isDigit = false) :
    integral? (whole ++ rest) = some (whole, rest) := by
  obtain ⟨hne, hdigit⟩ := hdigits
  cases whole with
  | nil => exact absurd rfl hne
  | cons c whole =>
    have hsplit := splitDigits_append hdigit hrest
    have hc : c.isDigit = true := hdigit c List.mem_cons_self
    unfold integral?
    rw [List.cons_append] at hsplit ⊢
    dsimp only
    split_ifs with hzero
    · rw [hleading whole (by rw [hzero])]
      rfl
    · rw [hsplit]

/-- A fraction is read back in front of anything that does not go on with it. -/
theorem fraction_append {digits? : Option Text} (hdigits : ∀ digits ∈ digits?, AreDigits digits)
    (hrest : ∀ c ∈ rest.head?, c.isDigit = false ∧ c ≠ CodePoint.ofChar '.') :
    fraction (NumberForm.fractionText digits? ++ rest) = (digits?, rest) := by
  cases digits? with
  | none =>
    cases rest with
    | nil => rfl
    | cons c rest => exact if_neg (hrest c rfl).2
  | some digits =>
    obtain ⟨hne, hdigit⟩ := hdigits digits rfl
    have hsplit := splitDigits_append hdigit fun c hc => (hrest c hc).1
    have htext : NumberForm.fractionText (some digits) ++ rest =
        CodePoint.ofChar '.' :: (digits ++ rest) := rfl
    unfold fraction
    rw [htext]
    dsimp only
    rw [if_pos rfl, hsplit]
    cases digits with
    | nil => exact absurd rfl hne
    | cons d digits => rfl

/-- A power of ten is read back in front of what ends a number. -/
theorem exponent_append (power : Option Power) (hrest : EndsNumber rest) :
    exponent (NumberForm.powerText power ++ rest) = (power.map Power.value, rest) := by
  cases power with
  | none =>
    cases rest with
    | nil => rfl
    | cons c rest =>
      obtain ⟨-, -, hlower, hupper⟩ := hrest c rfl
      exact if_neg fun h => h.elim hlower hupper
  | some power =>
    obtain ⟨mark, sign, digits, hmark, hsign, hne, hdigit⟩ := power
    have hsplit := splitDigits_append hdigit fun c hc => (hrest c hc).1
    cases digits with
    | nil => exact absurd rfl hne
    | cons d digits =>
      have hd : d.isDigit = true := hdigit d List.mem_cons_self
      -- A digit is no sign.
      have hother : ∀ c : CodePoint, c.isDigit = false → d ≠ c := by
        rintro c hc rfl
        rw [hd] at hc
        cases hc
      have hvalue : exponentSign (sign.toList ++ (d :: digits ++ rest)) =
          (decide (sign = some (CodePoint.ofChar '-')), d :: digits ++ rest) := by
        cases sign with
        | none =>
          exact (if_neg (hother _ (by decide))).trans (if_neg (hother _ (by decide)))
        | some c =>
          rcases hsign c rfl with rfl | rfl
          · rfl
          · rfl
      have htext : NumberForm.powerText
          (some ⟨mark, sign, d :: digits, hmark, hsign, hne, hdigit⟩) ++ rest =
            mark :: (sign.toList ++ (d :: digits ++ rest)) := by
        simp [NumberForm.powerText, Power.text]
      unfold exponent
      rw [htext]
      dsimp only
      rw [if_pos hmark, hvalue]
      dsimp only
      rw [hsplit]
      simp [Power.value]

/-- A number is read behind its sign, up to what ends it. -/
theorem NumberForm.number? {n : NumberForm} (h : n.Keeps limits) (start : Nat)
    (hrest : EndsNumber rest) :
    Json.number? limits n.negative start (n.unsigned ++ rest) = .ok (n.value, rest) := by
  -- What follows each part cannot be taken for more of it.
  have hpower : ∀ c ∈ (NumberForm.powerText n.power ++ rest).head?,
      c.isDigit = false ∧ c ≠ CodePoint.ofChar '.' := by
    cases n.power with
    | none => exact fun c hc => ⟨(hrest c hc).1, (hrest c hc).2.1⟩
    | some power =>
      intro c hc
      rw [← Option.some.inj hc]
      rcases power.isMark with hmark | hmark <;>
        · rw [hmark]
          decide
  have hfraction : ∀ c ∈ (NumberForm.fractionText n.fraction ++
      (NumberForm.powerText n.power ++ rest)).head?, c.isDigit = false := by
    cases n.fraction with
    | none => exact fun c hc => (hpower c hc).1
    | some digits =>
      intro c hc
      rw [← Option.some.inj hc]
      decide
  unfold Json.number? NumberForm.unsigned
  rw [List.append_assoc, List.append_assoc,
    integral?_append n.areDigits n.leading hfraction]
  dsimp only
  rw [fraction_append n.behindPoint hpower]
  dsimp only
  rw [exponent_append n.power hrest]
  dsimp only
  unfold NumberForm.value
  cases hf : n.fraction with
  | some digits => rfl
  | none =>
    cases hp : n.power with
    | some power => rfl
    | none =>
      have hlong : ¬(limits.digits.any fun most => most < n.whole.length) = true := by
        cases hmost : limits.digits with
        | none => simp
        | some most => simpa using h hf hp most hmost
      exact if_neg hlong

end Numbers

end Json

end TopicSink
