import TopicSink.Proofs.Layouts
import TopicSink.Text.Blank

namespace TopicSink

namespace Json

inductive Place where
  | outside
  | inside
  | escaped
deriving DecidableEq, Repr

def outsideFrom : Place → Text → Text
  | _, [] => []
  | .outside, c :: t =>
    if c = '"' then outsideFrom .inside t else c :: outsideFrom .outside t
  | .inside, c :: t =>
    if c = '"' then outsideFrom .outside t
    else if c = '\\' then outsideFrom .escaped t
    else outsideFrom .inside t
  | .escaped, _ :: t => outsideFrom .inside t

/-- What stands outside of the string literals of a text. -/
def outside (t : Text) : Text := outsideFrom .outside t

def IsBalanced (t : Text) : Prop := ∀ rest, outside (t ++ rest) = outside t ++ outside rest

def IsUnquoted (t : Text) : Prop := ∀ c ∈ t, c ≠ CodePoint.ofChar '"'

/-- A text that shows these letters only: outside of its string literals there are no others. -/
structure Shows (letters t : Text) : Prop where
  balanced : IsBalanced t
  shown : outside t ⊆ letters

-- Among all code points, those of the text are few.
instance (t : Text) : Decidable (IsUnquoted t) :=
  List.decidableBAll (fun c : CodePoint => c ≠ CodePoint.ofChar '"') t

section Places

variable {t u rest : Text} {c : CodePoint}

theorem outside_cons (hc : c ≠ CodePoint.ofChar '"') (t : Text) :
    outside (c :: t) = c :: outside t := if_neg hc

theorem outside_append_of_unquoted (h : IsUnquoted t) (rest : Text) :
    outside (t ++ rest) = t ++ outside rest := by
  induction t with
  | nil => rfl
  | cons c t ih =>
    have hrest := ih fun d hd => h d (List.mem_cons_of_mem c hd)
    rw [List.cons_append, outside_cons (h c List.mem_cons_self), hrest]
    rfl

theorem outside_of_unquoted (h : IsUnquoted t) : outside t = t := by
  have happend := outside_append_of_unquoted h []
  rw [List.append_nil] at happend
  exact happend.trans (List.append_nil t)

theorem IsUnquoted.isBalanced (h : IsUnquoted t) : IsBalanced t := by
  intro rest
  rw [outside_append_of_unquoted h, outside_of_unquoted h]

theorem IsBalanced.append (ht : IsBalanced t) (hu : IsBalanced u) : IsBalanced (t ++ u) := by
  intro rest
  rw [List.append_assoc, ht, hu, ht, List.append_assoc]

theorem inside_cons (hquote : c ≠ CodePoint.ofChar '"') (hbackslash : c ≠ CodePoint.ofChar '\\')
    (t : Text) : outsideFrom .inside (c :: t) = outsideFrom .inside t := by
  rw [outsideFrom, if_neg hquote, if_neg hbackslash]

theorem inside_escaped (c : CodePoint) (t : Text) :
    outsideFrom .inside (CodePoint.ofChar '\\' :: c :: t) = outsideFrom .inside t := rfl

theorem inside_unit {a b c d : CodePoint} {u : Nat} (h : unit? a b c d = some u) (t : Text) :
    outsideFrom .inside (CodePoint.ofChar '\\' :: CodePoint.ofChar 'u' :: a :: b :: c :: d :: t) =
      outsideFrom .inside t := by
  have hskip : ∀ x : CodePoint, x.hexValue? ≠ none → ∀ rest,
      outsideFrom .inside (x :: rest) = outsideFrom .inside rest := by
    intro x hx
    refine inside_cons ?_ ?_ <;>
      · rintro rfl
        exact hx rfl
  have hhex : ∀ x ∈ [a, b, c, d], x.hexValue? ≠ none := by
    intro x hx hnone
    rw [unit?_of_none hx hnone] at h
    cases h
  rw [inside_escaped, hskip a (hhex a (by simp)), hskip b (hhex b (by simp)),
    hskip c (hhex c (by simp)), hskip d (hhex d (by simp))]

/-- A string goes on up to its closing quote. -/
theorem SpellsString.inside {body s : Text} (h : SpellsString body s) (rest : Text) :
    outsideFrom .inside (body ++ CodePoint.ofChar '"' :: rest) = outside rest := by
  induction h with
  | nil => rfl
  | plain hquote hbackslash _ _ ih =>
    rw [List.cons_append, inside_cons hquote hbackslash, ih]
  | letter _ _ ih => exact ih
  | unit hunit _ _ ih =>
    simp only [List.cons_append]
    rw [inside_unit hunit, ih]
  | pair hunit hpair _ ih =>
    obtain ⟨-, rfl, rfl, low, hlow, -⟩ := of_pair? hpair
    simp only [List.cons_append]
    rw [inside_unit hunit, inside_unit hlow, ih]

/-- A string hides all of itself. -/
theorem SpellsString.outside_quoted {body s : Text} (h : SpellsString body s) (rest : Text) :
    outside (quoted body ++ rest) = outside rest := by
  rw [quoted_append]
  exact h.inside rest

variable {letters : Text}

theorem Shows.append (ht : Shows letters t) (hu : Shows letters u) : Shows letters (t ++ u) := by
  refine ⟨ht.balanced.append hu.balanced, ?_⟩
  rw [ht.balanced]
  exact List.append_subset.mpr ⟨ht.shown, hu.shown⟩

theorem shows_quoted {body s : Text} (h : SpellsString body s) : Shows letters (quoted body) := by
  have hnone : outside (quoted body) = [] := by
    have happend := h.outside_quoted []
    rwa [List.append_nil] at happend
  refine ⟨fun rest => ?_, ?_⟩
  · rw [h.outside_quoted, hnone, List.nil_append]
  · rw [hnone]
    exact List.nil_subset letters

theorem shows_string (letters t : Text) : Shows letters (string t) := by
  obtain ⟨s, hs⟩ := exists_spellsString t
  rw [string_eq_quoted]
  exact shows_quoted hs

/-- Words, numbers, brackets and marks show themselves. -/
theorem shows_of_subset (hletters : IsUnquoted letters) (h : t ⊆ letters) : Shows letters t := by
  have hunquoted : IsUnquoted t := fun c hc => hletters c (h hc)
  refine ⟨hunquoted.isBalanced, ?_⟩
  rw [outside_of_unquoted hunquoted]
  exact h

end Places

def numberLetters : Text := "0123456789+-.eE"

section Numbers

theorem mem_numberLetters_of_isDigit {c : CodePoint} (h : c.isDigit = true) :
    c ∈ numberLetters := by
  have hvalue : 0x30 ≤ c.val ∧ c.val ≤ 0x39 := by
    simpa only [CodePoint.isDigit, Bool.and_eq_true, decide_eq_true_eq] using h
  have hall : ∀ d : Fin 10, CodePoint.ofNat (0x30 + d) ∈ numberLetters := by decide +kernel
  have hc : CodePoint.ofNat (0x30 + (c.val - 0x30)) = c := CodePoint.ofNat_of_eq (by omega)
  rw [← hc]
  exact hall ⟨c.val - 0x30, by omega⟩

theorem AreDigits.subset {t : Text} (h : AreDigits t) : t ⊆ numberLetters :=
  fun c hc => mem_numberLetters_of_isDigit (h.2 c hc)

theorem Power.text_subset (p : Power) : p.text ⊆ numberLetters := by
  have hmark : p.mark ∈ numberLetters := by
    rcases p.isMark with h | h <;>
      · rw [h]
        decide +kernel
  have hsign : p.sign.toList ⊆ numberLetters := by
    intro c hc
    rcases p.isSign c (Option.mem_toList.mp hc) with rfl | rfl <;> decide +kernel
  exact List.cons_subset.mpr ⟨hmark, List.append_subset.mpr ⟨hsign, p.areDigits.subset⟩⟩

/-- Numbers are written with digits, signs, points and marks of exponents only. -/
theorem NumberForm.text_subset (n : NumberForm) : n.text ⊆ numberLetters := by
  have hminus : CodePoint.ofChar '-' ∈ numberLetters := by decide +kernel
  have hpoint : CodePoint.ofChar '.' ∈ numberLetters := by decide +kernel
  unfold NumberForm.text NumberForm.unsigned
  refine List.append_subset.mpr ⟨?_, List.append_subset.mpr ⟨n.areDigits.subset,
    List.append_subset.mpr ⟨?_, ?_⟩⟩⟩
  · split_ifs
    · exact List.cons_subset.mpr ⟨hminus, List.nil_subset _⟩
    · exact List.nil_subset _
  · cases hfraction : n.fraction with
    | none => exact List.nil_subset _
    | some digits =>
      exact List.cons_subset.mpr ⟨hpoint, (n.behindPoint digits hfraction).subset⟩
  · cases n.power with
    | none => exact List.nil_subset _
    | some power => exact power.text_subset

end Numbers

def printLetters : Text := numberLetters ++ "[]\x7b\x7d,:nulltruefalseNaNInfinity"

structure Style.IsWrittenWith (style : Style) (letters : Text) : Prop where
  unquoted : IsUnquoted letters
  printed : printLetters ⊆ letters
  item : style.item ⊆ letters
  colon : style.colon ⊆ letters

theorem isWrittenWith_compact : Style.compact.IsWrittenWith printLetters := by
  refine ⟨?_, List.Subset.refl _, ?_, ?_⟩ <;> decide +kernel

theorem isSpace_of_printLetters : ∀ c ∈ printLetters, c.isSpace = false := by
  have hall : (printLetters.all fun c => !c.isSpace) = true := by decide +kernel
  simpa [List.all_eq_true] using hall

section Print

variable {style : Style} {letters : Text}

theorem Style.IsWrittenWith.shows (hstyle : style.IsWrittenWith letters) (t : Text)
    (h : t ⊆ printLetters) : Shows letters t :=
  shows_of_subset hstyle.unquoted fun _ hc => hstyle.printed (h hc)

theorem shows_number (hstyle : style.IsWrittenWith letters) (n : NumberForm) :
    Shows letters n.text :=
  hstyle.shows _ fun _ hc => List.mem_append_left _ (n.text_subset hc)

theorem shows_float (hstyle : style.IsWrittenWith letters) (x : Binary64) :
    Shows letters (number x) := by
  cases x with
  | finite negative mantissa exponent =>
    obtain ⟨n, hn⟩ := exists_number negative mantissa exponent
    exact hn ▸ shows_number hstyle n
  | infinite negative => cases negative <;> exact hstyle.shows _ (by decide +kernel)
  | nan => exact hstyle.shows _ (by decide +kernel)

/-- What stands in front of the value of a member. -/
theorem shows_naming (hstyle : style.IsWrittenWith letters) {t : Text} (h : Shows letters t)
    (name : Text) : Shows letters (t ++ string name ++ style.colon) :=
  (h.append (shows_string _ name)).append (shows_of_subset hstyle.unquoted hstyle.colon)

mutual

/-- A printed text shows its brackets, its marks, its words and its numbers, and all else is in its
string literals. -/
theorem shows_print (hstyle : style.IsWrittenWith letters) : (v : Json) →
    Shows letters (print style v)
  | .null => hstyle.shows "null" (by decide +kernel)
  | .bool true => hstyle.shows "true" (by decide +kernel)
  | .bool false => hstyle.shows "false" (by decide +kernel)
  | .int i => by
    have hnumber := shows_number hstyle (NumberForm.ofInt i)
    rwa [NumberForm.text_ofInt] at hnumber
  | .float x => shows_float hstyle x
  | .str t => shows_string _ t
  | .arr [] => hstyle.shows "[]" (by decide +kernel)
  | .arr (v :: rest) => by
    have hopening := hstyle.shows "[" (by decide +kernel)
    exact (hopening.append (shows_print hstyle v)).append (shows_printRest hstyle rest)
  | .obj [] => hstyle.shows "\x7b\x7d" (by decide +kernel)
  | .obj (m :: rest) => by
    have hopening := hstyle.shows "\x7b" (by decide +kernel)
    exact ((shows_naming hstyle hopening m.1).append (shows_print hstyle m.2)).append
      (shows_printMembers hstyle rest)

theorem shows_printRest (hstyle : style.IsWrittenWith letters) : (vs : List Json) →
    Shows letters (printRest style vs)
  | [] => hstyle.shows "]" (by decide +kernel)
  | v :: rest => by
    have hitem : Shows letters style.item := shows_of_subset hstyle.unquoted hstyle.item
    exact (hitem.append (shows_print hstyle v)).append (shows_printRest hstyle rest)

theorem shows_printMembers (hstyle : style.IsWrittenWith letters) : (ms : Members) →
    Shows letters (printMembers style ms)
  | [] => hstyle.shows "\x7d" (by decide +kernel)
  | m :: rest => by
    have hitem : Shows letters style.item := shows_of_subset hstyle.unquoted hstyle.item
    exact ((shows_naming hstyle hitem m.1).append (shows_print hstyle m.2)).append
      (shows_printMembers hstyle rest)

end

end Print

end Json

end TopicSink
