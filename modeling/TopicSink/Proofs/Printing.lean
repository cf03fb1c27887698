import TopicSink.Proofs.Members
import TopicSink.Proofs.Quotations

namespace TopicSink

namespace Json

/-- A value without infinities, and without what is no number, at any depth. -/
inductive IsFinite : Json → Prop
  | null : IsFinite .null
  | bool (b : Bool) : IsFinite (.bool b)
  | int (i : Int) : IsFinite (.int i)
  | float (negative : Bool) (mantissa : Nat) (exponent : Int) :
    IsFinite (.float (.finite negative mantissa exponent))
  | str (t : Text) : IsFinite (.str t)
  | arr {elements : List Json} : (∀ v ∈ elements, IsFinite v) → IsFinite (.arr elements)
  | obj {members : Members} : (∀ m ∈ members, IsFinite m.2) → IsFinite (.obj members)

def Dialect.finite : Dialect := ⟨Dialect.standard.words, fun n => IsFinite n.value⟩

theorem Dialect.finite_isPartOf_standard : Dialect.finite.IsPartOf .standard :=
  ⟨List.Subset.refl _, fun _ _ => trivial⟩

section Derivations

variable {style : Style} {limits : Limits} {t : Text} {v : Json}

/-- Where all numbers of a text are finite, so is its value. -/
theorem Spells.isFinite (h : Spells .finite limits t v) : IsFinite v := by
  induction h with
  | word hw =>
    simp only [Dialect.finite, Dialect.standard, List.mem_cons, List.not_mem_nil, or_false] at hw
    rcases hw with rfl | rfl | rfl
    · exact .null
    · exact .bool true
    · exact .bool false
  | number hfinite _ => exact hfinite
  | str _ => exact .str _
  | emptyArr _ _ => exact .arr (List.forall_mem_nil _)
  | arr _ _ ih => exact .arr (List.forall_mem_map.mpr ih)
  | emptyObj _ _ => exact .obj (List.forall_mem_nil _)
  | @obj _ _ first others _ _ ih =>
    -- The last member of a name counts, and it is one of those that are written.
    obtain ⟨kept, hkept, hsubset⟩ := ofMembers_subset ((first :: others).map Member.member)
    rw [hkept]
    refine .obj fun m hm => ?_
    obtain ⟨member, hmember, rfl⟩ := List.mem_map.mp (hsubset hm)
    exact ih member hmember

/-- What is printed of a finite value is derived by the standard grammar. -/
theorem IsFinite.spells (hstyle : style.IsBlankStyle) (h : IsFinite v) :
    ∃ v', Spells .standard Limits.none (print style v) v' := by
  have hnumber : ∀ n : NumberForm, n.Keeps Limits.none := fun n _ _ _ hmost => by cases hmost
  induction h with
  | null => exact ⟨_, spells_null⟩
  | bool b => exact ⟨_, spells_bool b⟩
  | int i => exact ⟨_, spells_ofInt trivial (hnumber _)⟩
  | float negative mantissa exponent =>
    obtain ⟨n, hn⟩ := exists_number negative mantissa exponent
    rw [print, ← hn]
    exact ⟨_, .number trivial (hnumber n)⟩
  | str t =>
    obtain ⟨s, hs⟩ := exists_spellsString t
    rw [print, string_eq_quoted]
    exact ⟨_, .str hs⟩
  | @arr elements _ ih =>
    choose! f hf using ih
    exact ⟨_, spells_arr hstyle rfl hf⟩
  | @obj members _ ih =>
    have hvalues : ∀ v ∈ members.map Prod.snd,
        ∃ v', Spells .standard Limits.none (print style v) v' := List.forall_mem_map.mpr ih
    choose g hg using exists_spellsString
    choose! f hf using hvalues
    exact ⟨_, spells_obj hstyle rfl (fun m _ => hg m.1) (List.forall_mem_map.mp hf)⟩

end Derivations

def standardLetters : Text := numberLetters ++ " \t\n\r[]\x7b\x7d,:nulltruefalse"

section Standard

variable {t letters : Text} {v : Json} {limits : Limits} {style : Style}

theorem shows_letters (h : t ⊆ standardLetters) : Shows standardLetters t :=
  shows_of_subset (by decide +kernel) h

theorem shows_letter {c : CodePoint} (h : c ∈ standardLetters) : Shows standardLetters [c] :=
  shows_letters (List.cons_subset.mpr ⟨h, List.nil_subset _⟩)

theorem mem_of_isBlank {c : CodePoint} (h : isBlank c = true) : c ∈ Text.ofString " \t\n\r" := by
  simpa [isBlank, Text.ofString, or_assoc] using h

theorem shows_blanks (h : AreBlanks t) : Shows standardLetters t := by
  have hblanks : Text.ofString " \t\n\r" ⊆ standardLetters := by decide +kernel
  exact shows_letters fun c hc => hblanks (mem_of_isBlank (h c hc))

theorem shows_element {e : Element} (h : Shows standardLetters e.core) :
    Shows standardLetters e.text :=
  (shows_blanks e.blanksBefore).append (h.append (shows_blanks e.blanksAfter))

theorem shows_memberText {m : Member} (h : Shows standardLetters m.element.core) :
    Shows standardLetters m.text := by
  have hcolon : Shows standardLetters [CodePoint.ofChar ':'] := shows_letter (by decide +kernel)
  exact (shows_blanks m.blanksBefore).append ((shows_quoted m.spelled).append
    ((shows_blanks m.blanksAfter).append (hcolon.append (shows_element h))))

theorem shows_closing {mark : CodePoint} (hmark : mark ∈ standardLetters) {ts : List Text}
    (h : ∀ t ∈ ts, Shows standardLetters t) : Shows standardLetters (closing mark ts) := by
  have hcomma : Shows standardLetters [CodePoint.ofChar ','] := shows_letter (by decide +kernel)
  induction ts with
  | nil => exact shows_letter hmark
  | cons t ts ih =>
    have hrest := ih fun u hu => h u (List.mem_cons_of_mem t hu)
    exact hcomma.append ((h t List.mem_cons_self).append hrest)

/-- Texts of the standard show nothing else. -/
theorem Spells.shows (h : Spells .standard limits t v) : Shows standardLetters t := by
  have hbrackets : CodePoint.ofChar '[' ∈ standardLetters ∧
      CodePoint.ofChar ']' ∈ standardLetters := by decide +kernel
  have hbraces : CodePoint.ofChar '\x7b' ∈ standardLetters ∧
      CodePoint.ofChar '\x7d' ∈ standardLetters := by decide +kernel
  induction h with
  | word hw =>
    have hwords : ∀ w ∈ Dialect.standard.words.map Prod.fst, w ⊆ standardLetters := by
      decide +kernel
    exact shows_letters (hwords _ (List.mem_map_of_mem hw))
  | @number _ n _ _ => exact shows_letters fun c hc => List.mem_append_left _ (n.text_subset hc)
  | str hs => exact shows_quoted hs
  | emptyArr _ hblanks =>
    exact (shows_letter hbrackets.1).append
      ((shows_blanks hblanks).append (shows_letter hbrackets.2))
  | arr _ _ ih =>
    obtain ⟨hfirst, hothers⟩ := List.forall_mem_cons.mp ih
    exact (shows_letter hbrackets.1).append ((shows_element hfirst).append
      (shows_closing hbrackets.2 (List.forall_mem_map.mpr fun e he => shows_element (hothers e he))))
  | emptyObj _ hblanks =>
    exact (shows_letter hbraces.1).append
      ((shows_blanks hblanks).append (shows_letter hbraces.2))
  | obj _ _ ih =>
    obtain ⟨hfirst, hothers⟩ := List.forall_mem_cons.mp ih
    exact (shows_letter hbraces.1).append ((shows_memberText hfirst).append
      (shows_closing hbraces.2
        (List.forall_mem_map.mpr fun m hm => shows_memberText (hothers m hm))))

/-- A number that shows letters of the standard only is finite. -/
theorem isFinite_float {x : Binary64} (h : outside (number x) ⊆ standardLetters) :
    IsFinite (.float x) := by
  cases x with
  | finite negative mantissa exponent => exact .float negative mantissa exponent
  | infinite negative =>
    have hletter : CodePoint.ofChar 'I' ∈ outside (number (.infinite negative)) := by
      cases negative <;> decide +kernel
    exact absurd (h hletter) (by decide +kernel)
  | nan =>
    have hletter : CodePoint.ofChar 'N' ∈ outside (number .nan) := by decide +kernel
    exact absurd (h hletter) (by decide +kernel)

theorem IsBalanced.of_append {u : Text} (ht : IsBalanced t)
    (h : outside (t ++ u) ⊆ letters) : outside t ⊆ letters ∧ outside u ⊆ letters := by
  rw [ht] at h
  exact List.append_subset.mp h

mutual

/-- What shows outside of the string literals of a printed text tells whether its value is finite.
-/
theorem isFinite_of_print (hstyle : style.IsWrittenWith letters) : (v : Json) →
    outside (print style v) ⊆ standardLetters → IsFinite v
  | .null, _ => .null
  | .bool b, _ => .bool b
  | .int i, _ => .int i
  | .float _, h => isFinite_float h
  | .str t, _ => .str t
  | .arr [], _ => .arr (List.forall_mem_nil _)
  | .arr (v :: rest), h => by
    have hopening := hstyle.shows "[" (by decide +kernel)
    obtain ⟨hfirst, hrest⟩ := (hopening.append (shows_print hstyle v)).balanced.of_append h
    obtain ⟨-, hv⟩ := hopening.balanced.of_append hfirst
    exact .arr (List.forall_mem_cons.mpr
      ⟨isFinite_of_print hstyle v hv, isFinite_of_printRest hstyle rest hrest⟩)
  | .obj [], _ => .obj (List.forall_mem_nil _)
  | .obj (m :: rest), h => by
    have hopening := hstyle.shows "\x7b" (by decide +kernel)
    have hnaming := shows_naming hstyle hopening m.1
    obtain ⟨hfirst, hrest⟩ := (hnaming.append (shows_print hstyle m.2)).balanced.of_append h
    obtain ⟨-, hv⟩ := hnaming.balanced.of_append hfirst
    exact .obj (List.forall_mem_cons.mpr
      ⟨isFinite_of_print hstyle m.2 hv, isFinite_of_printMembers hstyle rest hrest⟩)

theorem isFinite_of_printRest (hstyle : style.IsWrittenWith letters) : (vs : List Json) →
    outside (printRest style vs) ⊆ standardLetters → ∀ v ∈ vs, IsFinite v
  | [], _ => List.forall_mem_nil _
  | v :: rest, h => by
    have hitem : Shows letters style.item := shows_of_subset hstyle.unquoted hstyle.item
    obtain ⟨hfirst, hrest⟩ := (hitem.append (shows_print hstyle v)).balanced.of_append h
    obtain ⟨-, hv⟩ := hitem.balanced.of_append hfirst
    exact List.forall_mem_cons.mpr
      ⟨isFinite_of_print hstyle v hv, isFinite_of_printRest hstyle rest hrest⟩

theorem isFinite_of_printMembers (hstyle : style.IsWrittenWith letters) : (ms : Members) →
    outside (printMembers style ms) ⊆ standardLetters → ∀ m ∈ ms, IsFinite m.2
  | [], _ => List.forall_mem_nil _
  | m :: rest, h => by
    have hitem : Shows letters style.item := shows_of_subset hstyle.unquoted hstyle.item
    have hnaming := shows_naming hstyle hitem m.1
    obtain ⟨hfirst, hrest⟩ := (hnaming.append (shows_print hstyle m.2)).balanced.of_append h
    obtain ⟨-, hv⟩ := hnaming.balanced.of_append hfirst
    exact List.forall_mem_cons.mpr
      ⟨isFinite_of_print hstyle m.2 hv, isFinite_of_printMembers hstyle rest hrest⟩

end

theorem Style.IsBlankStyle.isWrittenWith (hstyle : style.IsBlankStyle) :
    style.IsWrittenWith (printLetters ++ " \t\n\r") := by
  have hmark : ∀ mark t, IsMark mark t → CodePoint.ofChar mark ∈ printLetters →
      t ⊆ printLetters ++ Text.ofString " \t\n\r" := by
    rintro mark t ⟨blanks, rfl, hblanks⟩ hletter
    refine List.cons_subset.mpr ⟨List.mem_append_left _ hletter, fun c hc => ?_⟩
    exact List.mem_append_right _ (mem_of_isBlank (hblanks c hc))
  exact ⟨by decide +kernel, List.subset_append_left _ _,
    hmark _ _ hstyle.item (by decide +kernel), hmark _ _ hstyle.colon (by decide +kernel)⟩

/-- A printed text is JSON by the standard just when its value is finite throughout, whatever blanks
stand behind its marks. -/
theorem isJson_print_iff (hstyle : style.IsBlankStyle) :
    IsJson (print style v) ↔ IsFinite v := by
  -- What a text shows does not depend on how it is derived, so any derivation will do.
  constructor
  · rintro ⟨-, e, htext, -, hspells⟩
    have hshows : Shows standardLetters e.text := shows_element hspells.shows
    rw [← htext] at hshows
    exact isFinite_of_print hstyle.isWrittenWith v hshows.shown
  · intro h
    obtain ⟨v', hspells⟩ := h.spells hstyle
    exact ⟨v', ⟨[], print style v, [], v', areBlanks_nil, areBlanks_nil⟩, by simp [Element.text],
      rfl, hspells⟩

end Standard

end Json

end TopicSink
