import TopicSink.Proofs.Reading

namespace TopicSink

namespace Json

/-- How deep brackets stand inside each other in a text, those in strings aside, where so many are
open in front of it. -/
def depthFrom : (inString : Bool) → (level : Nat) → Text → Nat
  | _, level, [] => level
  | true, level, c :: rest =>
    if c = '"' then depthFrom false level rest
    else if c = '\\' then
      match rest with
      | [] => level
      | _ :: rest => depthFrom true level rest
    else depthFrom true level rest
  | false, level, c :: rest =>
    if c = '"' then depthFrom true level rest
    else if c = '[' ∨ c = '{' then depthFrom false (level + 1) rest
    else if c = ']' ∨ c = '}' then max level (depthFrom false (level - 1) rest)
    else depthFrom false level rest

/-- How deep arrays and objects stand inside each other in a document. -/
def bracketDepth (document : Text) : Nat := depthFrom false 0 document

theorem le_depthFrom (inString : Bool) (level : Nat) (t : Text) :
    level ≤ depthFrom inString level t := by
  fun_induction depthFrom inString level t <;> omega

def IsPlain (c : CodePoint) : Prop :=
  c ≠ CodePoint.ofChar '"' ∧ c ≠ CodePoint.ofChar '[' ∧ c ≠ CodePoint.ofChar '\x7b' ∧
    c ≠ CodePoint.ofChar ']' ∧ c ≠ CodePoint.ofChar '\x7d'

instance (c : CodePoint) : Decidable (IsPlain c) := instDecidableAnd

section Scanning

variable {c : CodePoint} {t body s : Text} {level : Nat}

theorem isPlain_of_isDigit (h : c.isDigit = true) : IsPlain c := by
  have hother : ∀ d : CodePoint, d.isDigit = false → c ≠ d := by
    rintro d hd rfl
    rw [h] at hd
    cases hd
  exact ⟨hother _ (by decide), hother _ (by decide), hother _ (by decide), hother _ (by decide),
    hother _ (by decide)⟩

theorem isPlain_of_isBlank (h : isBlank c = true) : IsPlain c := by
  simp only [isBlank, Bool.or_eq_true, decide_eq_true_eq] at h
  rcases h with ((rfl | rfl) | rfl) | rfl <;> decide

theorem depthFrom_cons_of_isPlain (h : IsPlain c) (level : Nat) (rest : Text) :
    depthFrom false level (c :: rest) = depthFrom false level rest := by
  obtain ⟨hquote, hbracket, hbrace, hclosing, hclosing'⟩ := h
  rw [depthFrom, if_neg hquote, if_neg (not_or.mpr ⟨hbracket, hbrace⟩),
    if_neg (not_or.mpr ⟨hclosing, hclosing'⟩)]

theorem depthFrom_append_of_isPlain (h : ∀ c ∈ t, IsPlain c) (level : Nat) (rest : Text) :
    depthFrom false level (t ++ rest) = depthFrom false level rest := by
  induction t with
  | nil => rfl
  | cons c t ih =>
    rw [List.cons_append, depthFrom_cons_of_isPlain (h c List.mem_cons_self),
      ih fun d hd => h d (List.mem_cons_of_mem c hd)]

theorem depthFrom_skipBlanks (level : Nat) (t : Text) :
    depthFrom false level (skipBlanks t) = depthFrom false level t := by
  obtain ⟨blanks, hblanks, htext⟩ := skipBlanks_spec t
  conv_rhs => rw [htext]
  rw [depthFrom_append_of_isPlain fun c hc => isPlain_of_isBlank (hblanks c hc)]

theorem depthFrom_opening (h : c = CodePoint.ofChar '[' ∨ c = CodePoint.ofChar '\x7b') (level : Nat)
    (rest : Text) : depthFrom false level (c :: rest) = depthFrom false (level + 1) rest := by
  have hquote : c ≠ CodePoint.ofChar '"' := by
    rcases h with rfl | rfl <;> decide
  rw [depthFrom, if_neg hquote, if_pos h]

theorem depthFrom_closing (h : c = CodePoint.ofChar ']' ∨ c = CodePoint.ofChar '\x7d') (level : Nat)
    (rest : Text) :
    depthFrom false level (c :: rest) = max level (depthFrom false (level - 1) rest) := by
  have hquote : c ≠ CodePoint.ofChar '"' := by
    rcases h with rfl | rfl <;> decide
  have hopening : ¬(c = CodePoint.ofChar '[' ∨ c = CodePoint.ofChar '\x7b') := by
    rcases h with rfl | rfl <;> decide
  rw [depthFrom, if_neg hquote, if_neg hopening, if_pos h]

theorem depthFrom_inString_cons
    (h : c ≠ CodePoint.ofChar '"' ∧ c ≠ CodePoint.ofChar '\\') (level : Nat) (rest : Text) :
    depthFrom true level (c :: rest) = depthFrom true level rest := by
  rw [depthFrom.eq_def]
  dsimp only
  rw [if_neg h.1, if_neg h.2]

theorem depthFrom_escape (level : Nat) (c : CodePoint) (rest : Text) :
    depthFrom true level (CodePoint.ofChar '\\' :: c :: rest) = depthFrom true level rest := by
  have hquote : CodePoint.ofChar '\\' ≠ CodePoint.ofChar '"' := by decide
  rw [depthFrom, if_neg hquote, if_pos rfl]

theorem depthFrom_unit {a b c d : CodePoint} {u : Nat} (h : unit? a b c d = some u) (level : Nat)
    (rest : Text) : depthFrom true level (a :: b :: c :: d :: rest) = depthFrom true level rest := by
  have hdigit : ∀ x ∈ [a, b, c, d], x ≠ CodePoint.ofChar '"' ∧ x ≠ CodePoint.ofChar '\\' := by
    intro x hx
    constructor <;>
      · rintro rfl
        rw [unit?_of_none hx (by decide)] at h
        cases h
  rw [depthFrom_inString_cons (hdigit a (by simp)), depthFrom_inString_cons (hdigit b (by simp)),
    depthFrom_inString_cons (hdigit c (by simp)), depthFrom_inString_cons (hdigit d (by simp))]

/-- Nothing within a string counts, up to its closing quote. -/
theorem SpellsString.depthFrom_eq (h : SpellsString body s) (level : Nat) (rest : Text) :
    depthFrom true level (body ++ CodePoint.ofChar '"' :: rest) = depthFrom false level rest := by
  induction h with
  | nil =>
    rw [List.nil_append, depthFrom.eq_def]
    exact if_pos rfl
  | plain hquote hbackslash _ _ ih =>
    rw [List.cons_append, depthFrom_inString_cons ⟨hquote, hbackslash⟩, ih]
  | letter _ _ ih => rw [List.cons_append, List.cons_append, depthFrom_escape, ih]
  | unit hunit _ _ ih =>
    simp only [List.cons_append]
    rw [depthFrom_escape, depthFrom_unit hunit, ih]
  | pair hunit hpair _ ih =>
    obtain ⟨-, rfl, rfl, low, hlow, -⟩ := of_pair? hpair
    simp only [List.cons_append]
    rw [depthFrom_escape, depthFrom_unit hunit, depthFrom_escape, depthFrom_unit hlow, ih]

theorem depthFrom_quoted (h : SpellsString body s) (level : Nat) (rest : Text) :
    depthFrom false level (quoted body ++ rest) = depthFrom false level rest := by
  rw [quoted_append, ← h.depthFrom_eq level rest]
  exact if_pos rfl

end Scanning

structure Nests (t : Text) (n : Nat) : Prop where
  reaches : ∀ level rest, level + n ≤ depthFrom false level (t ++ rest)
  behind : ∀ level rest, depthFrom false level rest ≤ depthFrom false level (t ++ rest)

section Nesting

variable {t t' body s : Text} {n n' : Nat}

theorem Nests.of_eq (h : ∀ level rest, depthFrom false level (t ++ rest) = depthFrom false level rest) :
    Nests t 0 :=
  ⟨fun level rest => le_depthFrom false level (t ++ rest), fun level rest => (h level rest).ge⟩

theorem Nests.of_isPlain (h : ∀ c ∈ t, IsPlain c) : Nests t 0 :=
  .of_eq (depthFrom_append_of_isPlain h)

theorem Nests.of_areBlanks (h : AreBlanks t) : Nests t 0 :=
  .of_isPlain fun c hc => isPlain_of_isBlank (h c hc)

theorem Nests.append (h : Nests t n) (h' : Nests t' n') : Nests (t ++ t') (max n n') := by
  constructor
  · intro level rest
    have hfirst := h.reaches level (t' ++ rest)
    have hsecond := (h'.reaches level rest).trans (h.behind level (t' ++ rest))
    rw [List.append_assoc]
    omega
  · intro level rest
    rw [List.append_assoc]
    exact (h'.behind level rest).trans (h.behind level (t' ++ rest))

theorem Nests.mono (h : Nests t n) (hn : n' ≤ n) : Nests t n' :=
  ⟨fun level rest => (Nat.add_le_add_left hn level).trans (h.reaches level rest), h.behind⟩

theorem Nests.element {e : Element} (h : Nests e.core n) : Nests e.text n :=
  ((Nests.of_areBlanks e.blanksBefore).append (h.append (.of_areBlanks e.blanksAfter))).mono
    (by omega)

theorem Nests.member {m : Member} (h : Nests m.element.core n) : Nests m.text n := by
  have hname : Nests (quoted m.body) 0 := .of_eq (depthFrom_quoted m.spelled)
  have hcolon : Nests [CodePoint.ofChar ':'] 0 :=
    .of_isPlain (List.forall_mem_singleton.mpr (by decide))
  have hvalue := hcolon.append h.element
  exact ((Nests.of_areBlanks m.blanksBefore).append
    (hname.append ((Nests.of_areBlanks m.blanksAfter).append hvalue))).mono (by omega)

theorem isPlain_of_mem_text {number : NumberForm} {c : CodePoint} (hc : c ∈ number.text) :
    IsPlain c := by
  have hdigits : ∀ digits : Text, AreDigits digits → ∀ c ∈ digits, IsPlain c :=
    fun digits h c hc => isPlain_of_isDigit (h.2 c hc)
  have hminus : IsPlain (CodePoint.ofChar '-') := by decide
  unfold NumberForm.text NumberForm.unsigned at hc
  simp only [List.mem_append] at hc
  rcases hc with hsign | hwhole | hfraction | hpower
  · split_ifs at hsign
    · rw [List.mem_singleton.mp hsign]
      exact hminus
    · cases hsign
  · exact hdigits _ number.areDigits c hwhole
  · cases hf : number.fraction with
    | none =>
      rw [hf] at hfraction
      cases hfraction
    | some digits =>
      rw [hf, NumberForm.fractionText_some, List.mem_cons] at hfraction
      rcases hfraction with rfl | hdigit
      · decide
      · exact hdigits digits (number.behindPoint digits hf) c hdigit
  · cases hp : number.power with
    | none =>
      rw [hp] at hpower
      cases hpower
    | some power =>
      rw [hp, NumberForm.powerText_some, Power.text, List.mem_cons, List.mem_append] at hpower
      rcases hpower with rfl | hsign | hdigit
      · rcases power.isMark with hmark | hmark <;> rw [hmark] <;> decide
      · rcases power.isSign c (Option.mem_toList.mp hsign) with rfl | rfl <;> decide
      · exact hdigits _ power.areDigits c hdigit

section Containers

variable {α : Type} {text : α → Text} {size : α → Nat} {opening mark : CodePoint}

/-- The parts behind the first one are as deep as each of them, and the closing mark ends the level
that they stand on. -/
theorem le_depthFrom_closing
    (hmark : mark = CodePoint.ofChar ']' ∨ mark = CodePoint.ofChar '\x7d') {parts : List α}
    (h : ∀ p ∈ parts, Nests (text p) (size p)) (level : Nat) (rest : Text) :
    (∀ p ∈ parts,
      level + 1 + size p ≤ depthFrom false (level + 1) (closing mark (parts.map text) ++ rest)) ∧
        depthFrom false level rest ≤
          depthFrom false (level + 1) (closing mark (parts.map text) ++ rest) := by
  have hcomma : IsPlain (CodePoint.ofChar ',') := by decide
  induction parts with
  | nil =>
    refine ⟨List.forall_mem_nil _, ?_⟩
    rw [List.map_nil, closing, List.singleton_append, depthFrom_closing hmark,
      Nat.add_sub_cancel]
    exact Nat.le_max_right _ _
  | cons p parts ih =>
    obtain ⟨hreaches, hbehind⟩ := ih fun q hq => h q (List.mem_cons_of_mem p hq)
    have hp := h p List.mem_cons_self
    have hfirst := hp.behind (level + 1) (closing mark (parts.map text) ++ rest)
    rw [List.map_cons, closing, List.cons_append, List.append_assoc,
      depthFrom_cons_of_isPlain hcomma]
    exact ⟨List.forall_mem_cons.mpr
        ⟨hp.reaches _ _, fun q hq => (hreaches q hq).trans hfirst⟩, hbehind.trans hfirst⟩

/-- A container closes what it opens if its parts do, and it goes one level deeper than they do. -/
theorem nests_container
    (hopening : opening = CodePoint.ofChar '[' ∨ opening = CodePoint.ofChar '\x7b')
    (hmark : mark = CodePoint.ofChar ']' ∨ mark = CodePoint.ofChar '\x7d') {first : α}
    {others : List α} (h : ∀ p ∈ first :: others, Nests (text p) (size p))
    (hn : ∀ m, (∀ p ∈ first :: others, size p ≤ m) → n ≤ m + 1) :
    Nests (opening :: (text first ++ closing mark (others.map text))) n := by
  have hdepth : ∀ level rest,
      depthFrom false level (opening :: (text first ++ closing mark (others.map text)) ++ rest) =
        depthFrom false (level + 1) (text first ++ (closing mark (others.map text) ++ rest)) := by
    intro level rest
    rw [List.cons_append, List.append_assoc, depthFrom_opening hopening]
  obtain ⟨hfirst, hothers⟩ := List.forall_mem_cons.mp h
  -- One level below the container each part goes as deep as it nests.
  refine ⟨fun level rest => ?_, fun level rest => ?_⟩
  · obtain ⟨hreaches, -⟩ := le_depthFrom_closing hmark hothers level rest
    have hbehind := hfirst.behind (level + 1) (closing mark (others.map text) ++ rest)
    have hroom := le_depthFrom false (level + 1)
      (text first ++ (closing mark (others.map text) ++ rest))
    have hparts := hn
      (depthFrom false (level + 1) (text first ++ (closing mark (others.map text) ++ rest)) -
        (level + 1)) (List.forall_mem_cons.mpr ⟨?_, fun p hp => ?_⟩)
    · rw [hdepth]
      omega
    · have hp := hfirst.reaches (level + 1) (closing mark (others.map text) ++ rest)
      omega
    · have hp := (hreaches p hp).trans hbehind
      omega
  · obtain ⟨-, hbehind⟩ := le_depthFrom_closing hmark hothers level rest
    rw [hdepth]
    exact hbehind.trans (hfirst.behind _ _)

theorem nests_empty (hopening : opening = CodePoint.ofChar '[' ∨ opening = CodePoint.ofChar '\x7b')
    (hmark : mark = CodePoint.ofChar ']' ∨ mark = CodePoint.ofChar '\x7d') {blanks : Text}
    (hblanks : AreBlanks blanks) : Nests (opening :: (blanks ++ [mark])) 1 :=
  have hnone : ∀ p ∈ [blanks], Nests (id p) ((fun _ => 0) p) :=
    List.forall_mem_singleton.mpr (Nests.of_areBlanks hblanks)
  nests_container hopening hmark hnone fun m _ => Nat.le_add_left 1 m

end Containers

variable {v : Json} {limits : Limits}

/-- The text of a value closes what it opens, and goes at least as deep as the value. -/
theorem Spells.nests (h : Spells .reader limits t v) : Nests t (v.nesting 1) := by
  induction h with
  | @word limits w hw =>
    have hwords : ∀ w ∈ words,
        (w.1.all fun c => decide (IsPlain c)) = true ∧ w.2.nesting 1 = 0 := by decide
    obtain ⟨hplain, hnesting⟩ := hwords w hw
    rw [hnesting]
    exact .of_isPlain fun c hc => of_decide_eq_true (List.all_eq_true.mp hplain c hc)
  | @number limits n _ _ =>
    rw [NumberForm.nesting_value]
    exact .of_isPlain fun c hc => isPlain_of_mem_text hc
  | str hs => exact .of_eq (depthFrom_quoted hs)
  | emptyArr _ hblanks => exact nests_empty (.inl rfl) (.inl rfl) hblanks
  | emptyObj _ hblanks => exact nests_empty (.inr rfl) (.inr rfl) hblanks
  | arr _ _ ih =>
    refine nests_container (.inl rfl) (.inl rfl) (fun e he => (ih e he).element) fun m hm => ?_
    exact Nat.succ_le_succ (nestingAll_le_iff.mpr (List.forall_mem_map.mpr hm))
  | @obj _ _ first others _ _ ih =>
    refine nests_container (.inr rfl) (.inr rfl) (fun e he => (ih e he).member) fun m hm => ?_
    exact nesting_ofMembers_le (List.forall_mem_map.mpr hm)

/-- A value is nested no deeper than the document that it is read from. -/
theorem nesting_le_depth (h : SpellsDocument .reader limits t v) : v.nesting 1 ≤ bracketDepth t := by
  obtain ⟨e, rfl, rfl, hspells⟩ := h
  have hreaches := hspells.nests.element.reaches 0 []
  rwa [List.append_nil, Nat.zero_add] at hreaches

end Nesting

section Reading

variable {limits inner : Limits} {t rest : Text} {n fuel : Nat} {container : Container}

theorem map_eq_tooDeep {α β : Type} {r : Read α} {f : α × Text → β × Text}
    (h : r.map f = .error (.tooDeep container)) : r = .error (.tooDeep container) := by
  cases r with
  | error stop =>
    cases h
    rfl
  | ok p => cases h

theorem stringFrom_ne_tooDeep (start : Nat) (t : Text) :
    stringFrom start t ≠ .error (.tooDeep container) := by
  fun_induction stringFrom start t
  case case6 ih => exact fun h => ih (map_eq_tooDeep h)
  case case7 ih => exact fun h => ih (map_eq_tooDeep h)
  case case8 ih => exact fun h => ih (map_eq_tooDeep h)
  case case10 ih => exact fun h => ih (map_eq_tooDeep h)
  case case13 ih => exact fun h => ih (map_eq_tooDeep h)
  all_goals exact fun h => by cases h

theorem scalar_ne_tooDeep (limits : Limits) (t : Text) :
    scalar limits t ≠ .error (.tooDeep container) := by
  have hnumber : ∀ negative start t,
      number? limits negative start t ≠ .error (.tooDeep container) := by
    intro negative start t
    unfold number?
    cases integral? t with
    | none => simp
    | some p =>
      dsimp only
      cases (fraction p.2).1 <;> cases (exponent (fraction p.2).2).1 <;> simp
      split_ifs <;> simp
  unfold scalar
  cases words.find? fun w => w.1.isPrefixOf t with
  | some w => simp
  | none =>
    cases t with
    | nil => simp
    | cons c t =>
      dsimp only
      split_ifs <;> exact hnumber _ _ _

theorem memberName_ne_tooDeep (t : Text) : memberName t ≠ .error (.tooDeep container) := by
  unfold memberName
  cases t with
  | nil => simp
  | cons c t =>
    dsimp only
    split_ifs
    · cases hread : stringFrom (c :: t).length t with
      | error stop =>
        have hstop : stop ≠ .tooDeep container := by
          rintro rfl
          exact stringFrom_ne_tooDeep _ _ hread
        simpa using hstop
      | ok p =>
        dsimp only
        cases skipBlanks p.2 with
        | nil => simp
        | cons d rest =>
          dsimp only
          split_ifs <;> simp
    · simp

/-- Where a reader has no room for a container, more brackets are open than it has room for. -/
structure Exceeds (fuel : Nat) : Prop where
  value : ∀ {limits t n container}, limits.nesting = some n →
    valueFrom limits fuel t = .error (.tooDeep container) →
      ∀ level, level + n < depthFrom false level t
  array : ∀ {limits t n container}, limits.nesting = some n →
    arrayFrom limits fuel t = .error (.tooDeep container) →
      ∀ level, level + n < depthFrom false level t
  object : ∀ {limits t n container}, limits.nesting = some n →
    objectFrom limits fuel t = .error (.tooDeep container) →
      ∀ level, level + n < depthFrom false level t
  elements : ∀ {limits t n container}, limits.nesting = some n →
    elementsFrom limits fuel t = .error (.tooDeep container) →
      ∀ level, level + n < depthFrom false level t
  members : ∀ {limits t n container}, limits.nesting = some n →
    membersFrom limits fuel t = .error (.tooDeep container) →
      ∀ level, level + n < depthFrom false level t

/-- A value that there is no room for is a container, or holds one. -/
theorem Exceeds.value_succ (ih : Exceeds fuel) (hn : limits.nesting = some n)
    (h : valueFrom limits (fuel + 1) t = .error (.tooDeep container)) (level : Nat) :
    level + n < depthFrom false level t := by
  unfold valueFrom at h
  cases t with
  | nil => cases h
  | cons c t =>
    dsimp only at h
    split_ifs at h with hquote hbracket hbrace
    · exact absurd (map_eq_tooDeep h) (stringFrom_ne_tooDeep _ _)
    · rw [depthFrom_opening (.inl hbracket)]
      rcases enter_cases hn with ⟨-, rfl⟩ | ⟨inner, k, henter, hk, rfl⟩
      · exact le_depthFrom false (level + 1) t
      · rw [henter] at h
        have hdeep := ih.array hk h (level + 1)
        rw [depthFrom_skipBlanks] at hdeep
        omega
    · rw [depthFrom_opening (.inr hbrace)]
      rcases enter_cases hn with ⟨-, rfl⟩ | ⟨inner, k, henter, hk, rfl⟩
      · exact le_depthFrom false (level + 1) t
      · rw [henter] at h
        have hdeep := ih.object hk h (level + 1)
        rw [depthFrom_skipBlanks] at hdeep
        omega
    · exact absurd h (scalar_ne_tooDeep _ _)

theorem Exceeds.array_succ (ih : Exceeds fuel) (hn : limits.nesting = some n)
    (h : arrayFrom limits (fuel + 1) t = .error (.tooDeep container)) (level : Nat) :
    level + n < depthFrom false level t := by
  cases t with
  | nil => cases h
  | cons c t =>
    unfold arrayFrom at h
    split_ifs at h
    exact ih.elements hn (map_eq_tooDeep h) level

theorem Exceeds.object_succ (ih : Exceeds fuel) (hn : limits.nesting = some n)
    (h : objectFrom limits (fuel + 1) t = .error (.tooDeep container)) (level : Nat) :
    level + n < depthFrom false level t := by
  cases t with
  | nil => cases h
  | cons c t =>
    unfold objectFrom at h
    split_ifs at h
    exact ih.members hn (map_eq_tooDeep h) level

/-- What stands behind a comma is no deeper than what stands in front of the value that it follows.
-/
theorem depthFrom_behind {core others : Text} {v : Json} (hcore : Spells .reader limits core v)
    (hrest : skipBlanks rest = CodePoint.ofChar ',' :: others) (level : Nat) :
    depthFrom false level (skipBlanks others) ≤ depthFrom false level (core ++ rest) := by
  have hcomma : IsPlain (CodePoint.ofChar ',') := by decide
  calc depthFrom false level (skipBlanks others)
      = depthFrom false level (CodePoint.ofChar ',' :: others) := by
        rw [depthFrom_skipBlanks, depthFrom_cons_of_isPlain hcomma]
    _ = depthFrom false level rest := by rw [← hrest, depthFrom_skipBlanks]
    _ ≤ depthFrom false level (core ++ rest) := hcore.nests.behind level rest

theorem Exceeds.elements_succ (ih : Exceeds fuel) (hn : limits.nesting = some n)
    (h : elementsFrom limits (fuel + 1) t = .error (.tooDeep container)) (level : Nat) :
    level + n < depthFrom false level t := by
  unfold elementsFrom at h
  cases hv : valueFrom limits fuel t with
  | error stop =>
    rw [hv] at h
    cases h
    exact ih.value hn hv level
  | ok p =>
    obtain ⟨v, rest⟩ := p
    rw [hv] at h
    dsimp only at h
    obtain ⟨core, rfl, hcore⟩ := (derives fuel).value hv
    cases hs : skipBlanks rest with
    | nil =>
      rw [hs] at h
      cases h
    | cons c others =>
      rw [hs] at h
      dsimp only at h
      split_ifs at h with hclosing hcomma
      · exact (ih.elements hn (map_eq_tooDeep h) level).trans_le
          (depthFrom_behind hcore (hcomma ▸ hs) level)
      · cases h

theorem Exceeds.members_succ (ih : Exceeds fuel) (hn : limits.nesting = some n)
    (h : membersFrom limits (fuel + 1) t = .error (.tooDeep container)) (level : Nat) :
    level + n < depthFrom false level t := by
  unfold membersFrom at h
  cases hname : memberName t with
  | error stop =>
    rw [hname] at h
    cases h
    exact absurd hname (memberName_ne_tooDeep t)
  | ok p =>
    obtain ⟨name, behind⟩ := p
    rw [hname] at h
    dsimp only at h
    obtain ⟨body, between, skipped, hbetween, hskipped, hbody, rfl⟩ := of_memberName hname
    have hcolon : IsPlain (CodePoint.ofChar ':') := by decide
    -- A name and what is around it open and close nothing, so that it is the value or what is behind it.
    have hdepth : depthFrom false level
        (quoted body ++ (between ++ CodePoint.ofChar ':' :: (skipped ++ behind))) =
          depthFrom false level behind := by
      rw [depthFrom_quoted hbody,
        depthFrom_append_of_isPlain fun c hc => isPlain_of_isBlank (hbetween c hc),
        depthFrom_cons_of_isPlain hcolon,
        depthFrom_append_of_isPlain fun c hc => isPlain_of_isBlank (hskipped c hc)]
    rw [hdepth]
    cases hv : valueFrom limits fuel behind with
    | error stop =>
      rw [hv] at h
      cases h
      exact ih.value hn hv level
    | ok p =>
      obtain ⟨v, rest⟩ := p
      rw [hv] at h
      dsimp only at h
      obtain ⟨core, rfl, hcore⟩ := (derives fuel).value hv
      cases hs : skipBlanks rest with
      | nil =>
        rw [hs] at h
        cases h
      | cons c others =>
        rw [hs] at h
        dsimp only at h
        split_ifs at h with hclosing hcomma
        · exact (ih.members hn (map_eq_tooDeep h) level).trans_le
            (depthFrom_behind hcore (hcomma ▸ hs) level)
        · cases h

theorem exceeds (fuel : Nat) : Exceeds fuel := by
  -- As for soundness, one induction serves the five readers.
  induction fuel with
  | zero => refine ⟨?_, ?_, ?_, ?_, ?_⟩ <;> exact fun _ h => by cases h
  | succ fuel ih =>
    exact ⟨ih.value_succ, ih.array_succ, ih.object_succ, ih.elements_succ, ih.members_succ⟩

/-- Nothing in a document is nested too deeply for a reader that has room for its depth. -/
theorem read_ne_tooDeep (hn : limits.nesting = some n) (hdepth : bracketDepth t ≤ n) :
    read limits t ≠ .error (.tooDeep container) := by
  intro h
  have hdocument : document limits t = .error (.tooDeep container) := by
    unfold read at h
    split at h
    · cases h
    · rename_i stop hstop
      rw [hstop]
      cases stop <;> cases h
      rfl
  unfold document at hdocument
  cases hv : valueFrom limits (3 * t.length + 3) (skipBlanks t) with
  | error stop =>
    rw [hv] at hdocument
    cases hdocument
    have hdeep := (exceeds _).value hn hv 0
    rw [depthFrom_skipBlanks] at hdeep
    unfold bracketDepth at hdepth
    omega
  | ok p =>
    rw [hv] at hdocument
    dsimp only at hdocument
    split at hdocument <;> cases hdocument

end Reading

end Json

end TopicSink
