import Mathlib.Tactic.Common
import TopicSink.Bytes.Base64
import TopicSink.Bytes.Encoding
import TopicSink.Proofs.Outcomes

namespace TopicSink

/-- Every code point is a printable character of ASCII. -/
def Text.IsPlain (t : Text) : Prop := ∀ c ∈ t, 0x20 ≤ c.val ∧ c.val < 0x7F

-- Among all code points, those of the text are few.
instance (t : Text) : Decidable t.IsPlain :=
  List.decidableBAll (fun c : CodePoint => 0x20 ≤ c.val ∧ c.val < 0x7F) t

theorem Text.isPlain_append {t u : Text} : (t ++ u).IsPlain ↔ t.IsPlain ∧ u.IsPlain :=
  List.forall_mem_append

namespace Base64

theorem character_spec {v : Nat} (h : v < 64) :
    sextet? (character v) = some v ∧ character v ≠ CodePoint.ofChar '=' ∧
      (character v).isAscii = true := by
  have hall : ∀ v : Fin 64, sextet? (character v) = some v.val ∧
      character v ≠ CodePoint.ofChar '=' ∧ (character v).isAscii = true := by
    decide +kernel
  exact hall ⟨v, h⟩

variable {v : Nat} (held n : Nat) (rest : Text)

/-- What a reader makes of six bits, wherever in a quad it stands. -/
theorem decodeFrom_character (quad : Nat) (h : v < 64) :
    decodeFrom ⟨quad, held, 0, false, n⟩ (character v :: rest) =
      if quad = 0 then decodeFrom ⟨1, v, 0, false, n + 1⟩ rest
      else if quad = 1 then
        (decodeFrom ⟨2, v % 16, 0, false, n + 1⟩ rest).map (Byte.ofNat (held * 4 + v / 16) :: ·)
      else if quad = 2 then
        (decodeFrom ⟨3, v % 4, 0, false, n + 1⟩ rest).map (Byte.ofNat (held * 16 + v / 4) :: ·)
      else (decodeFrom ⟨0, 0, 0, false, n + 1⟩ rest).map (Byte.ofNat (held * 64 + v) :: ·) := by
  obtain ⟨hsextet, hpadding, -⟩ := character_spec h
  rw [decodeFrom, if_neg hpadding, hsextet]
  rfl

theorem decodeFrom_first (h : v < 64) :
    decodeFrom ⟨0, held, 0, false, n⟩ (character v :: rest) =
      decodeFrom ⟨1, v, 0, false, n + 1⟩ rest :=
  decodeFrom_character held n rest 0 h

theorem decodeFrom_second (h : v < 64) :
    decodeFrom ⟨1, held, 0, false, n⟩ (character v :: rest) =
      (decodeFrom ⟨2, v % 16, 0, false, n + 1⟩ rest).map (Byte.ofNat (held * 4 + v / 16) :: ·) :=
  decodeFrom_character held n rest 1 h

theorem decodeFrom_third (h : v < 64) :
    decodeFrom ⟨2, held, 0, false, n⟩ (character v :: rest) =
      (decodeFrom ⟨3, v % 4, 0, false, n + 1⟩ rest).map (Byte.ofNat (held * 16 + v / 4) :: ·) :=
  decodeFrom_character held n rest 2 h

theorem decodeFrom_fourth (h : v < 64) :
    decodeFrom ⟨3, held, 0, false, n⟩ (character v :: rest) =
      (decodeFrom ⟨0, 0, 0, false, n + 1⟩ rest).map (Byte.ofNat (held * 64 + v) :: ·) :=
  decodeFrom_character held n rest 3 h

theorem ofNat_eq {a : Byte} {m : Nat} (h : m = a.val) : Byte.ofNat m = a := by
  have ha : a.val < 256 := a.isLt
  apply Fin.ext
  rw [h]
  exact Nat.mod_eq_of_lt ha

/-- The bits of three bytes come back from their four characters. -/
theorem decodeFrom_encode (bytes : Bytes) (n : Nat) :
    decodeFrom ⟨0, 0, 0, false, n⟩ (encode bytes) = .ok bytes := by
  induction bytes using encode.induct generalizing n with
  | case1 => rfl
  | case2 a =>
    have ha : a.val < 256 := a.isLt
    have hfirst : Byte.ofNat (a.val / 4 * 4 + a.val % 4 * 16 / 16) = a := ofNat_eq (by omega)
    rw [encode, decodeFrom_first _ _ _ (by omega), decodeFrom_second _ _ _ (by omega), hfirst]
    rfl
  | case3 a b =>
    have ha : a.val < 256 := a.isLt
    have hb : b.val < 256 := b.isLt
    have hfirst : Byte.ofNat (a.val / 4 * 4 + (a.val % 4 * 16 + b.val / 16) / 16) = a :=
      ofNat_eq (by omega)
    have hsecond : Byte.ofNat ((a.val % 4 * 16 + b.val / 16) % 16 * 16 + b.val % 16 * 4 / 4) = b :=
      ofNat_eq (by omega)
    rw [encode, decodeFrom_first _ _ _ (by omega), decodeFrom_second _ _ _ (by omega),
      decodeFrom_third _ _ _ (by omega), hfirst, hsecond]
    rfl
  | case4 a b c rest ih =>
    have ha : a.val < 256 := a.isLt
    have hb : b.val < 256 := b.isLt
    have hc : c.val < 256 := c.isLt
    have hfirst : Byte.ofNat (a.val / 4 * 4 + (a.val % 4 * 16 + b.val / 16) / 16) = a :=
      ofNat_eq (by omega)
    have hsecond : Byte.ofNat ((a.val % 4 * 16 + b.val / 16) % 16 * 16 +
        (b.val % 16 * 4 + c.val / 64) / 4) = b := ofNat_eq (by omega)
    have hthird : Byte.ofNat ((b.val % 16 * 4 + c.val / 64) % 4 * 64 + c.val % 64) = c :=
      ofNat_eq (by omega)
    rw [encode, decodeFrom_first _ _ _ (by omega), decodeFrom_second _ _ _ (by omega),
      decodeFrom_third _ _ _ (by omega), decodeFrom_fourth _ _ _ (by omega), hfirst, hsecond, hthird,
      ih]
    rfl

theorem isAscii_encode (bytes : Bytes) : (encode bytes).isAscii = true := by
  have hcharacter : ∀ {v : Nat}, v < 64 → (character v).isAscii = true :=
    fun h => (character_spec h).2.2
  have hpadding : CodePoint.isAscii (CodePoint.ofChar '=') = true := by decide
  unfold Text.isAscii
  induction bytes using encode.induct with
  | case1 => rfl
  | case2 a =>
    have ha : a.val < 256 := a.isLt
    simp only [encode, List.all_cons, List.all_nil, hpadding, Bool.and_true, Bool.and_eq_true]
    exact ⟨hcharacter (by omega), hcharacter (by omega)⟩
  | case3 a b =>
    have ha : a.val < 256 := a.isLt
    have hb : b.val < 256 := b.isLt
    simp only [encode, List.all_cons, List.all_nil, hpadding, Bool.and_true, Bool.and_eq_true]
    exact ⟨hcharacter (by omega), hcharacter (by omega), hcharacter (by omega)⟩
  | case4 a b c rest ih =>
    have ha : a.val < 256 := a.isLt
    have hb : b.val < 256 := b.isLt
    simp only [encode, List.all_cons, ih, Bool.and_true, Bool.and_eq_true]
    exact ⟨hcharacter (by omega), hcharacter (by omega), hcharacter (by omega),
      hcharacter (by omega)⟩

theorem head?_encode (bytes : Bytes) : (encode bytes).head? ≠ some (CodePoint.ofChar '=') := by
  have hfirst : ∀ {a : Byte} {rest : Text},
      (character (a.val / 4) :: rest).head? ≠ some (CodePoint.ofChar '=') := by
    intro a rest h
    have ha : a.val < 256 := a.isLt
    exact (character_spec (v := a.val / 4) (by omega)).2.1 (Option.some.inj h)
  induction bytes using encode.induct with
  | case1 => exact fun h => by cases h
  | case2 a => exact hfirst
  | case3 a b => exact hfirst
  | case4 a b c rest => exact hfirst

/-- Base64 of any number of bytes is read as these bytes. -/
theorem decode_encode (bytes : Bytes) : decode (encode bytes) = .ok bytes := by
  unfold decode
  rw [isAscii_encode, if_neg (head?_encode bytes)]
  exact decodeFrom_encode bytes 0

end Base64

namespace Encoding

theorem utf8Point_of_ascii {c : CodePoint} (h : c.val < 0x80) : utf8Point c = [Byte.ofNat c.val] :=
  if_pos h

theorem val_ofNat {m : Nat} (h : m < 0x80) : (Byte.ofNat m).val = m :=
  Nat.mod_eq_of_lt (by omega)

theorem encodeUtf8_cons (c : CodePoint) (t : Text) :
    encodeUtf8 (c :: t) = utf8Point c ++ encodeUtf8 t :=
  List.flatMap_cons

theorem utf8From_encodeUtf8 {t : Text} (h : ∀ c ∈ t, c.val < 0x80) (lenient : Bool) (pos : Nat) :
    utf8From lenient pos (encodeUtf8 t) = .ok t := by
  induction t generalizing pos with
  | nil => rfl
  | cons c t ih =>
    have hc : c.val < 0x80 := h c List.mem_cons_self
    have hval : (Byte.ofNat c.val).val = c.val := val_ofNat hc
    have hpoint : CodePoint.ofNat c.val = c := by
      unfold CodePoint.ofNat
      rw [dif_pos c.isLt]
    have hrest := ih (fun d hd => h d (List.mem_cons_of_mem c hd)) (pos + 1)
    rw [encodeUtf8_cons, utf8Point_of_ascii hc, List.singleton_append, utf8From.eq_def]
    dsimp only
    rw [hval, if_pos hc, hrest, hpoint]
    rfl

/-- Bytes of ASCII without zeros have no mark, and are no halves of wider units. -/
theorem detect_of_ascii {bytes : Bytes} (h : ∀ b ∈ bytes, 0 < b.val ∧ b.val < 0x80) :
    detect bytes = (.utf8, 0) := by
  have hunmarked : ∀ (first : Byte) (mark : Bytes), first.val = 0 ∨ 0x80 ≤ first.val →
      (first :: mark).isPrefixOf bytes = false := by
    intro first mark hfirst
    cases bytes with
    | nil => rfl
    | cons b rest =>
      have hb := h b List.mem_cons_self
      have hne : (first == b) = false := by
        rw [beq_eq_false_iff_ne]
        rintro rfl
        omega
      rw [List.isPrefixOf_cons_cons, hne, Bool.false_and]
  have hzeros : ofZeros bytes = .utf8 := by
    have hne : ∀ b ∈ bytes, b.val ≠ 0 := fun b hb => by
      have := h b hb
      omega
    unfold ofZeros
    split
    · rw [if_neg (hne _ (by simp)), if_neg (hne _ (by simp))]
    · rw [if_neg (hne _ (by simp)), if_neg (hne _ (by simp))]
    · rfl
  unfold detect
  rw [hunmarked _ _ (by decide), hunmarked _ _ (by decide), hunmarked _ _ (by decide),
    hunmarked _ _ (by decide), hunmarked _ _ (by decide), hzeros]
  rfl

/-- A document of printable ASCII is read from its UTF-8 form. -/
theorem decodeDocument_encodeUtf8 {t : Text} (h : t.IsPlain) :
    decodeDocument (encodeUtf8 t) = .ok t := by
  have hbytes : ∀ b ∈ encodeUtf8 t, 0 < b.val ∧ b.val < 0x80 := by
    intro b hb
    obtain ⟨c, hc, hbc⟩ := List.mem_flatMap.mp hb
    have hplain := h c hc
    rw [utf8Point_of_ascii (by omega), List.mem_singleton] at hbc
    rw [hbc, val_ofNat (by omega)]
    omega
  have hascii : ∀ c ∈ t, c.val < 0x80 := by
    intro c hc
    have hplain := h c hc
    omega
  unfold decodeDocument
  rw [detect_of_ascii hbytes]
  exact utf8From_encodeUtf8 hascii true 0

def IsForm (n : Nat) (form : Bytes) : Prop :=
  n < 0x110000 ∧ ¬(0xD800 ≤ n ∧ n < 0xE000) ∧ utf8Point (CodePoint.ofNat n) = form

theorem utf8Point_ofNat {n : Nat} (h : n < 0x110000) :
    utf8Point (CodePoint.ofNat n) =
      if n < 0x80 then [Byte.ofNat n]
      else if n < 0x800 then [Byte.ofNat (0xC0 + n / 0x40), Byte.ofNat (0x80 + n % 0x40)]
      else if n < 0x10000 then
        [Byte.ofNat (0xE0 + n / 0x1000), Byte.ofNat (0x80 + n / 0x40 % 0x40),
          Byte.ofNat (0x80 + n % 0x40)]
      else
        [Byte.ofNat (0xF0 + n / 0x40000), Byte.ofNat (0x80 + n / 0x1000 % 0x40),
          Byte.ofNat (0x80 + n / 0x40 % 0x40), Byte.ofNat (0x80 + n % 0x40)] := by
  rw [CodePoint.ofNat, dif_pos h]
  rfl

theorem isForm_one {b : Byte} (h : b.val < 0x80) : IsForm b.val [b] := by
  refine ⟨by omega, by omega, ?_⟩
  rw [utf8Point_ofNat (by omega), if_pos h, Base64.ofNat_eq rfl]

theorem isForm_two {b b₁ : Byte} (hb : 0xC2 ≤ b.val ∧ b.val < 0xE0) (h : isContinuation b₁ = true) :
    IsForm (b.val % 0x20 * 0x40 + b₁.val % 0x40) [b, b₁] := by
  simp only [isContinuation, Bool.and_eq_true, decide_eq_true_eq] at h
  refine ⟨by omega, by omega, ?_⟩
  rw [utf8Point_ofNat (by omega), if_neg (by omega), if_pos (by omega),
    Base64.ofNat_eq (a := b) (by omega), Base64.ofNat_eq (a := b₁) (by omega)]

theorem isForm_three {b b₁ b₂ : Byte} (hb : 0xE0 ≤ b.val ∧ b.val < 0xF0)
    (h : isSecondOfThree false b b₁ = true) (h' : isContinuation b₂ = true) :
    IsForm (b.val % 0x10 * 0x1000 + b₁.val % 0x40 * 0x40 + b₂.val % 0x40) [b, b₁, b₂] := by
  simp only [isSecondOfThree, isContinuation, Bool.and_eq_true, Bool.or_eq_true, bne_iff_ne,
    decide_eq_true_eq, Bool.false_eq_true, false_or] at h h'
  refine ⟨by omega, by omega, ?_⟩
  rw [utf8Point_ofNat (by omega), if_neg (by omega),
    if_neg (by omega), if_pos (by omega),
    Base64.ofNat_eq (a := b) (by omega), Base64.ofNat_eq (a := b₁) (by omega),
    Base64.ofNat_eq (a := b₂) (by omega)]

theorem isForm_four {b b₁ b₂ b₃ : Byte} (hb : 0xF0 ≤ b.val ∧ b.val < 0xF5)
    (h : isSecondOfFour b b₁ = true) (h' : isContinuation b₂ = true)
    (h'' : isContinuation b₃ = true) :
    IsForm (b.val % 0x08 * 0x40000 + b₁.val % 0x40 * 0x1000 + b₂.val % 0x40 * 0x40 + b₃.val % 0x40)
      [b, b₁, b₂, b₃] := by
  simp only [isSecondOfFour, isContinuation, Bool.and_eq_true, Bool.or_eq_true, bne_iff_ne,
    decide_eq_true_eq] at h h' h''
  refine ⟨by omega, by omega, ?_⟩
  rw [utf8Point_ofNat (by omega), if_neg (by omega),
    if_neg (by omega), if_neg (by omega),
    Base64.ofNat_eq (a := b) (by omega), Base64.ofNat_eq (a := b₁) (by omega),
    Base64.ofNat_eq (a := b₂) (by omega), Base64.ofNat_eq (a := b₃) (by omega)]

theorem IsForm.append {n : Nat} {form rest : Bytes} {r : Except Fault Text} {t : Text}
    (hform : IsForm n form) (hrest : ∀ u, r = .ok u → encodeUtf8 u = rest ∧ u.IsScalar)
    (h : r.map (CodePoint.ofNat n :: ·) = .ok t) :
    encodeUtf8 t = form ++ rest ∧ t.IsScalar := by
  obtain ⟨u, hu, rfl⟩ := map_eq_ok_iff.mp h
  obtain ⟨hencode, hscalar⟩ := hrest u hu
  obtain ⟨hn, hsurrogate, hform⟩ := hform
  refine ⟨by rw [encodeUtf8_cons, hform, hencode], List.forall_mem_cons.mpr ⟨?_, hscalar⟩⟩
  have hpoint : CodePoint.ofNat n = ⟨n, hn⟩ := dif_pos hn
  rw [hpoint, CodePoint.isSurrogate, ← Bool.not_eq_true, Bool.and_eq_true, decide_eq_true_eq,
    decide_eq_true_eq]
  exact hsurrogate

/-- Strict UTF-8 is read as the text without surrogates of which it is the UTF-8 form. -/
theorem encodeUtf8_of_utf8From {pos : Nat} {bytes : Bytes} {t : Text}
    (h : utf8From false pos bytes = .ok t) : encodeUtf8 t = bytes ∧ t.IsScalar := by
  fun_induction utf8From false pos bytes generalizing t with
  | case1 pos =>
    obtain rfl := Except.ok.inj h
    exact ⟨rfl, List.forall_mem_nil _⟩
  | case2 pos b rest hb ih => exact (isForm_one hb).append (fun _ => ih) h
  | case5 pos b hone hlow hhigh b₁ rest hfirst ih =>
    exact (isForm_two ⟨by omega, hhigh⟩ hfirst).append (fun _ => ih) h
  | case10 pos b hone hstart hlow hhigh b₁ b₂ rest hboth ih =>
    obtain ⟨hfirst, hsecond⟩ := Bool.and_eq_true_iff.mp hboth
    exact (isForm_three ⟨by omega, hhigh⟩ hfirst hsecond).append (fun _ => ih) h
  | case22 pos b hone hstart htwo hlow hhigh b₁ b₂ b₃ rest hfirst hsecond hthird ih =>
    simp only [Bool.not_eq_true', Bool.not_eq_false] at hfirst hsecond hthird
    exact (isForm_four ⟨by omega, hhigh⟩ hfirst hsecond hthird).append (fun _ => ih) h
  | _ => cases h

theorem encodeUtf8_of_decodeUtf8 {bytes : Bytes} {t : Text} (h : decodeUtf8 bytes = .ok t) :
    encodeUtf8 t = bytes ∧ t.IsScalar := encodeUtf8_of_utf8From h

end Encoding

end TopicSink
