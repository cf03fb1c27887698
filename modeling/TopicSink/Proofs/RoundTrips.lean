import TopicSink.Proofs.Encodings
import TopicSink.Proofs.Parsing

namespace TopicSink

namespace Json

/-- A value without binary64 numbers, of at most `depth` arrays and objects inside each other. Its
integers keep within the limit, its strings hold no surrogates, and no object has a name twice. -/
inductive IsSimple : (depth : Nat) → Json → Prop
  | null {depth : Nat} : IsSimple depth .null
  | bool {depth : Nat} (b : Bool) : IsSimple depth (.bool b)
  | int {depth : Nat} {i : Int} : Numeral.fits i = true → IsSimple depth (.int i)
  | str {depth : Nat} {t : Text} : t.IsScalar → IsSimple depth (.str t)
  | arr {depth : Nat} {elements : List Json} :
    (∀ v ∈ elements, IsSimple depth v) → IsSimple (depth + 1) (.arr elements)
  | obj {depth : Nat} {members : Members} :
    (members.map Prod.fst).Nodup → (∀ m ∈ members, m.1.IsScalar) →
      (∀ m ∈ members, IsSimple depth m.2) → IsSimple (depth + 1) (.obj members)

section Simple

variable {depth : Nat}

@[simp] theorem isSimple_bool_iff {b : Bool} : IsSimple depth (.bool b) ↔ True :=
  ⟨fun _ => trivial, fun _ => .bool b⟩

@[simp] theorem isSimple_int_iff {i : Int} : IsSimple depth (.int i) ↔ Numeral.fits i = true :=
  ⟨fun h => (by cases h; assumption), .int⟩

@[simp] theorem isSimple_str_iff {t : Text} : IsSimple depth (.str t) ↔ t.IsScalar :=
  ⟨fun h => (by cases h; assumption), .str⟩

theorem isSimple_arr_iff {elements : List Json} :
    IsSimple (depth + 1) (.arr elements) ↔ ∀ v ∈ elements, IsSimple depth v :=
  ⟨fun h => (by cases h; assumption), .arr⟩

theorem isSimple_obj_iff {members : Members} :
    IsSimple (depth + 1) (.obj members) ↔
      (members.map Prod.fst).Nodup ∧ ∀ m ∈ members, m.1.IsScalar ∧ IsSimple depth m.2 := by
  constructor
  · intro h
    cases h with
    | obj hdistinct hnames hvalues => exact ⟨hdistinct, fun m hm => ⟨hnames m hm, hvalues m hm⟩⟩
  · rintro ⟨hdistinct, hmembers⟩
    exact .obj hdistinct (fun m hm => (hmembers m hm).1) fun m hm => (hmembers m hm).2

end Simple

def IsMark (mark : Char) (t : Text) : Prop :=
  ∃ blanks : Text, t = CodePoint.ofChar mark :: blanks ∧ ∀ c ∈ blanks, isBlank c = true

structure Style.IsBlankStyle (style : Style) : Prop where
  item : IsMark ',' style.item
  colon : IsMark ':' style.colon

theorem isBlankStyle_compact : Style.compact.IsBlankStyle :=
  ⟨⟨[], rfl, List.forall_mem_nil _⟩, ⟨[], rfl, List.forall_mem_nil _⟩⟩

structure Limits.Allow (limits : Limits) (depth : Nat) : Prop where
  digits : limits.digits = some Numeral.limit
  nesting : ∀ n, limits.nesting = some n → depth ≤ n

/-- There is room inside a container for what is nested one level less. -/
theorem Limits.Allow.enter {limits : Limits} {depth : Nat} (h : limits.Allow (depth + 1)) :
    ∃ inner : Limits, limits.enter = some inner ∧ inner.Allow depth := by
  unfold Limits.enter
  cases hn : limits.nesting with
  | none =>
    refine ⟨limits, rfl, h.digits, ?_⟩
    intro n hsome
    rw [hn] at hsome
    cases hsome
  | some n =>
    have hle : depth + 1 ≤ n := h.nesting n hn
    obtain ⟨m, rfl⟩ : ∃ m, n = m + 1 := ⟨n - 1, by omega⟩
    refine ⟨⟨limits.digits, some m⟩, rfl, h.digits, ?_⟩
    intro k hk
    rw [← Option.some.inj hk]
    omega

/-- A character is spelled as it is written in a string. -/
theorem SpellsString.escape {c : CodePoint} {t s : Text} (hc : c.isSurrogate = false)
    (h : SpellsString t s) : SpellsString (Json.escape c ++ t) (c :: s) := by
  have hscalar : ¬(0xD800 ≤ c.val ∧ c.val < 0xE000) := by
    simpa [CodePoint.isSurrogate] using hc
  have hlt : c.val < 0x110000 := c.isLt
  unfold Json.escape
  split_ifs with hquote hbackslash hnewline hreturn htab hbackspace hfeed hplain hbasic
  · rw [hquote]
    exact .letter (by decide) h
  · rw [hbackslash]
    exact .letter (by decide) h
  · rw [hnewline]
    exact .letter (by decide) h
  · rw [hreturn]
    exact .letter (by decide) h
  · rw [htab]
    exact .letter (by decide) h
  · have heq : c = CodePoint.ofChar '\x08' := Fin.ext hbackspace
    rw [heq]
    exact .letter (by decide) h
  · have heq : c = CodePoint.ofChar '\x0C' := Fin.ext hfeed
    rw [heq]
    exact .letter (by decide) h
  · exact .plain hquote hbackslash hplain.1 h
  · have halone : ∀ x y a b d e, pair? c.val x y a b d e = none :=
      fun _ _ _ _ _ _ => if_neg fun hpair => hscalar ⟨hpair.1, by omega⟩
    have hunit := SpellsString.unit (unit?_hex hbasic) (fun _ _ _ _ _ _ _ _ => halone _ _ _ _ _ _) h
    rwa [CodePoint.ofNat_val] at hunit
  -- Beyond the basic plane: the two units hold the upper and the lower ten bits.
  · have hhigh : 0xD800 ≤ 0xD800 + (c.val - 0x10000) / 0x400 ∧
        0xD800 + (c.val - 0x10000) / 0x400 < 0xDC00 := by omega
    have hlow : 0xDC00 ≤ 0xDC00 + (c.val - 0x10000) % 0x400 ∧
        0xDC00 + (c.val - 0x10000) % 0x400 < 0xE000 := by omega
    have hjoined : CodePoint.ofNat (0x10000 +
        (0xD800 + (c.val - 0x10000) / 0x400 - 0xD800) * 0x400 +
          (0xDC00 + (c.val - 0x10000) % 0x400 - 0xDC00)) = c :=
      CodePoint.ofNat_of_eq (by omega)
    have hpair := pair?_hex hhigh hlow
    rw [hjoined] at hpair
    rw [List.append_assoc]
    exact .pair (unit?_hex (by omega)) hpair h

theorem spellsString_of_isScalar {t : Text} (h : t.IsScalar) :
    SpellsString (t.flatMap Json.escape) t := by
  induction t with
  | nil => exact .nil
  | cons c t ih =>
    rw [List.flatMap_cons]
    exact .escape (h c List.mem_cons_self) (ih fun d hd => h d (List.mem_cons_of_mem c hd))

theorem string_eq_quoted (t : Text) : string t = quoted (t.flatMap escape) := by
  have hquote : Text.ofString "\"" = [CodePoint.ofChar '"'] := rfl
  unfold string quoted
  rw [hquote]
  simp

theorem areDigits_append {t u : Text} (ht : ∀ c ∈ t, c.isDigit = true) (hu : AreDigits u) :
    AreDigits (t ++ u) :=
  ⟨List.append_ne_nil_of_right_ne_nil t hu.1, List.forall_mem_append.mpr ⟨ht, hu.2⟩⟩

theorem areDigits_ofNat (n : Nat) : AreDigits (Text.ofNat n) := by
  obtain ⟨hdigits, -, c, rest, hcons, -⟩ := Text.isNumeralOf_ofNat n
  exact ⟨hcons ▸ List.cons_ne_nil c rest, hdigits⟩

def NumberForm.ofInt (i : Int) : NumberForm where
  negative := i < 0
  whole := Text.ofNat i.natAbs
  fraction := none
  power := none
  areDigits := areDigits_ofNat i.natAbs
  leading := by
    obtain ⟨-, -, c, rest, hcons, hzero⟩ := Text.isNumeralOf_ofNat i.natAbs
    intro behind hbehind
    obtain ⟨rfl, rfl⟩ := List.cons.inj (hcons.symm.trans hbehind)
    exact (hzero rfl).2
  behindPoint := fun _ hdigits => by cases hdigits

theorem NumberForm.text_ofInt (i : Int) : (NumberForm.ofInt i).text = Text.ofInt i := by
  unfold NumberForm.text NumberForm.unsigned Text.ofInt
  by_cases hi : i < 0 <;> simp [NumberForm.ofInt, fractionText, powerText, hi]

theorem NumberForm.value_ofInt (i : Int) : (NumberForm.ofInt i).value = .int i := by
  have hdigits : Text.digits (Text.ofNat i.natAbs) = i.natAbs := (Text.isNumeralOf_ofNat _).value
  unfold NumberForm.value
  simp only [NumberForm.ofInt, hdigits, decide_eq_true_eq, Json.int.injEq]
  split_ifs <;> omega

section Derivations

variable {style : Style} {limits inner : Limits} {depth : Nat} {dialect : Dialect}

theorem spells_null : Spells .standard limits "null" .null := by
  have hword : (Text.ofString "null", Json.null) ∈ Dialect.standard.words := by
    simp [Dialect.standard]
  exact .word hword

theorem spells_bool (b : Bool) :
    Spells .standard limits (if b then "true" else "false") (.bool b) := by
  have htrue : (Text.ofString "true", Json.bool true) ∈ Dialect.standard.words := by
    simp [Dialect.standard]
  have hfalse : (Text.ofString "false", Json.bool false) ∈ Dialect.standard.words := by
    simp [Dialect.standard]
  cases b with
  | false => exact .word hfalse
  | true => exact .word htrue

theorem spells_ofInt {i : Int} (htakes : dialect.takes (.ofInt i))
    (h : (NumberForm.ofInt i).Keeps limits) : Spells dialect limits (Text.ofInt i) (.int i) := by
  rw [← NumberForm.text_ofInt, ← NumberForm.value_ofInt]
  exact .number htakes h

theorem keeps_ofInt (hl : limits.digits = some Numeral.limit) {i : Int}
    (hi : Numeral.fits i = true) : (NumberForm.ofInt i).Keeps limits := by
  intro _ _ most hmost
  rw [hl] at hmost
  rw [← Option.some.inj hmost]
  exact Text.length_ofNat_le (by decide) (Numeral.fits_iff.mp hi)

/-- A printed array is derived from the texts of its elements, and stands for what they stand for.
-/
theorem spells_arr (hstyle : style.IsBlankStyle) (henter : limits.enter = some inner)
    {elements : List Json} {f : Json → Json}
    (h : ∀ v ∈ elements, Spells dialect inner (print style v) (f v)) :
    Spells dialect limits (print style (.arr elements)) (.arr (elements.map f)) := by
  obtain ⟨blanks, hitem, hblanks⟩ := hstyle.item
  cases elements with
  | nil =>
    rw [print]
    exact .emptyArr henter areBlanks_nil
  | cons v vs =>
    let element (before : Text) (hbefore : AreBlanks before) (v : Json) : Element :=
      ⟨before, print style v, [], f v, hbefore, areBlanks_nil⟩
    have hrest : ∀ ws : List Json, printRest style ws =
        closing (CodePoint.ofChar ']') ((ws.map (element blanks hblanks)).map Element.text) := by
      intro ws
      induction ws with
      | nil => rfl
      | cons w ws ih =>
        rw [printRest, ih, hitem]
        simp [element, Element.text, closing]
    let first : Element := element [] areBlanks_nil v
    let others : List Element := vs.map (element blanks hblanks)
    have helements : ∀ e ∈ first :: others, Spells dialect inner e.core e.value :=
      List.forall_mem_cons.mpr ⟨h v List.mem_cons_self,
        List.forall_mem_map.mpr fun w hw => h w (List.mem_cons_of_mem v hw)⟩
    have hspells := Spells.arr henter helements
    have htext : print style (.arr (v :: vs)) =
        CodePoint.ofChar '[' :: (print style v ++ printRest style vs) := by
      rw [print]
      rfl
    rw [htext, hrest]
    simpa [first, others, element, Element.text, Function.comp_def] using hspells

/-- The same for an object, whose names may stand for others. -/
theorem spells_obj (hstyle : style.IsBlankStyle) (henter : limits.enter = some inner)
    {members : Members} {f : Json → Json} {g : Text → Text}
    (hnames : ∀ m ∈ members, SpellsString (m.1.flatMap escape) (g m.1))
    (h : ∀ m ∈ members, Spells dialect inner (print style m.2) (f m.2)) :
    Spells dialect limits (print style (.obj members))
      (ofMembers (members.map fun m => (g m.1, f m.2))) := by
  obtain ⟨blanks, hitem, hblanks⟩ := hstyle.item
  obtain ⟨behind, hcolon, hbehind⟩ := hstyle.colon
  cases members with
  | nil =>
    rw [print]
    exact .emptyObj henter areBlanks_nil
  | cons m ms =>
    let member (before : Text) (hbefore : AreBlanks before) (m : Text × Json)
        (hm : SpellsString (m.1.flatMap escape) (g m.1)) : Member :=
      ⟨before, m.1.flatMap escape, g m.1, [],
        ⟨behind, print style m.2, [], f m.2, hbehind, areBlanks_nil⟩, hbefore, hm, areBlanks_nil⟩
    -- Every member but the first has the blanks of the style in front of it.
    have hrest : ∀ (ks : Members)
        (hks : ∀ k ∈ ks, SpellsString (k.1.flatMap escape) (g k.1)),
        printMembers style ks = closing (CodePoint.ofChar '\x7d')
          ((ks.pmap (member blanks hblanks) hks).map Member.text) := by
      intro ks hks
      induction ks with
      | nil => rfl
      | cons k ks ih =>
        rw [printMembers, ih fun x hx => hks x (List.mem_cons_of_mem k hx), hitem, hcolon,
          string_eq_quoted]
        simp [member, Member.text, Element.text, closing]
    have hlater := fun k hk => hnames k (List.mem_cons_of_mem m hk)
    let first : Member := member [] areBlanks_nil m (hnames m List.mem_cons_self)
    let others : List Member := ms.pmap (member blanks hblanks) hlater
    have hmembers : ∀ x ∈ first :: others,
        Spells dialect inner x.element.core x.element.value := by
      refine List.forall_mem_cons.mpr ⟨h m List.mem_cons_self, fun x hx => ?_⟩
      obtain ⟨k, hk, rfl⟩ := List.mem_pmap.mp hx
      exact h k (List.mem_cons_of_mem m hk)
    have hspells := Spells.obj henter hmembers
    have htext : print style (.obj (m :: ms)) = CodePoint.ofChar '\x7b' ::
        (string m.1 ++ style.colon ++ print style m.2 ++ printMembers style ms) := by
      rw [print]
      simp only [List.append_assoc]
      rfl
    rw [htext, hrest ms hlater, hcolon, string_eq_quoted]
    simpa [first, others, member, Member.text, Element.text, Member.member, List.map_pmap]
      using hspells

end Derivations

theorem insert_of_not_mem {name : Text} (v : Json) {members : Members}
    (h : name ∉ members.map Prod.fst) : insert name v members = members ++ [(name, v)] := by
  induction members with
  | nil => rfl
  | cons m members ih =>
    rw [List.map_cons, List.mem_cons, not_or] at h
    rw [insert, if_neg (Ne.symm h.1), ih h.2]
    rfl

/-- Members of distinct names all stay in their places. -/
theorem ofMembers_of_nodup {members : Members} (h : (members.map Prod.fst).Nodup) :
    ofMembers members = .obj members := by
  have hfold : ∀ acc : Members, ((acc ++ members).map Prod.fst).Nodup →
      members.foldl (fun acc m => insert m.1 m.2 acc) acc = acc ++ members := by
    clear h
    induction members with
    | nil => exact fun acc _ => (List.append_nil acc).symm
    | cons m members ih =>
      intro acc hacc
      have hnew : m.1 ∉ acc.map Prod.fst := by
        intro hmem
        rw [List.map_append, List.map_cons] at hacc
        exact (List.nodup_append.mp hacc).2.2 _ hmem _ List.mem_cons_self rfl
      have happend : acc ++ m :: members = acc ++ [m] ++ members := by simp
      rw [List.foldl_cons, insert_of_not_mem m.2 hnew, happend]
      rw [happend] at hacc
      exact ih (acc ++ [m]) hacc
  unfold ofMembers
  rw [hfold [] h]
  rfl

/-- A simple value is derived from its text, inside limits that it keeps within. -/
theorem IsSimple.spells {style : Style} (hstyle : style.IsBlankStyle) {depth : Nat} {v : Json}
    (h : IsSimple depth v) {limits : Limits} (hlimits : limits.Allow depth) :
    Spells .standard limits (print style v) v := by
  induction h generalizing limits with
  | null => exact spells_null
  | bool b => exact spells_bool b
  | int hi => exact spells_ofInt trivial (keeps_ofInt hlimits.digits hi)
  | str ht =>
    rw [print, string_eq_quoted]
    exact .str (spellsString_of_isScalar ht)
  | arr hsimple ih =>
    obtain ⟨inner, henter, hinner⟩ := hlimits.enter
    have hspells := spells_arr hstyle henter (f := id) fun v hv => ih v hv hinner
    rwa [List.map_id] at hspells
  | obj hdistinct hnames hsimple ih =>
    obtain ⟨inner, henter, hinner⟩ := hlimits.enter
    have hspells := spells_obj hstyle henter (f := id) (g := id)
      (fun m hm => spellsString_of_isScalar (hnames m hm)) fun m hm => ih m hm hinner
    have hmembers : ∀ ms : Members, ms.map (fun m => (id m.1, id m.2)) = ms := fun ms => by simp
    rwa [hmembers, ofMembers_of_nodup hdistinct] at hspells

/-- Reading the text of a simple value gives the value. -/
theorem IsSimple.read_print {style : Style} (hstyle : style.IsBlankStyle) {depth : Nat} {v : Json}
    (h : IsSimple depth v) {limits : Limits} (hlimits : limits.Allow depth) :
    read limits (print style v) = .ok v := by
  have hspells := (h.spells hstyle hlimits).mono Dialect.standard_isPartOf_reader
  exact read_eq_ok_iff.mpr
    ⟨⟨[], print style v, [], v, areBlanks_nil, areBlanks_nil⟩, by simp [Element.text], rfl, hspells⟩

variable {style : Style} {depth : Nat}

theorem isPlain_unitEscape (u : Nat) : (unitEscape u).IsPlain := by
  have hhex : ∀ n, 0x20 ≤ (CodePoint.ofHexValue (n % 16)).val ∧
      (CodePoint.ofHexValue (n % 16)).val < 0x7F := by
    intro n
    have hall : ∀ d : Fin 16, 0x20 ≤ (CodePoint.ofHexValue d).val ∧
        (CodePoint.ofHexValue d).val < 0x7F := by decide
    exact hall ⟨n % 16, Nat.mod_lt n (by omega)⟩
  rw [unitEscape_eq]
  intro c hc
  simp only [List.mem_cons, List.not_mem_nil, or_false] at hc
  rcases hc with rfl | rfl | rfl | rfl | rfl | rfl
  · decide
  · decide
  all_goals exact hhex _

theorem isPlain_escape (c : CodePoint) : (escape c).IsPlain := by
  unfold escape
  split_ifs with _ _ _ _ _ _ _ hplain
  · decide
  · decide
  · decide
  · decide
  · decide
  · decide
  · decide
  · intro d hd
    rw [List.mem_singleton.mp hd]
    exact hplain
  · exact isPlain_unitEscape _
  · exact Text.isPlain_append.mpr ⟨isPlain_unitEscape _, isPlain_unitEscape _⟩

theorem isPlain_string (t : Text) : (string t).IsPlain := by
  have hquote : (Text.ofString "\"").IsPlain := by decide
  have hescaped : Text.IsPlain (t.flatMap escape) := by
    intro c hc
    obtain ⟨d, -, hd⟩ := List.mem_flatMap.mp hc
    exact isPlain_escape d c hd
  exact Text.isPlain_append.mpr ⟨Text.isPlain_append.mpr ⟨hquote, hescaped⟩, hquote⟩

theorem isPlain_ofInt (i : Int) : (Text.ofInt i).IsPlain := by
  have hdigits : (Text.ofNat i.natAbs).IsPlain := by
    intro c hc
    have hdigit := (Text.isNumeralOf_ofNat i.natAbs).isDigit c hc
    simp only [CodePoint.isDigit, Bool.and_eq_true, decide_eq_true_eq] at hdigit
    omega
  have hminus : Text.IsPlain [CodePoint.ofChar '-'] := by decide
  unfold Text.ofInt
  split_ifs
  · exact Text.isPlain_append.mpr ⟨hminus, hdigits⟩
  · exact hdigits

theorem isPlain_printRest (hitem : style.item.IsPlain) {vs : List Json}
    (h : ∀ v ∈ vs, (print style v).IsPlain) : (printRest style vs).IsPlain := by
  induction vs with
  | nil =>
    rw [printRest]
    decide
  | cons v vs ih =>
    have hlater := ih fun w hw => h w (List.mem_cons_of_mem v hw)
    rw [printRest, Text.isPlain_append, Text.isPlain_append]
    exact ⟨⟨hitem, h v List.mem_cons_self⟩, hlater⟩

theorem isPlain_printMembers (hitem : style.item.IsPlain) (hcolon : style.colon.IsPlain)
    {ms : Members} (h : ∀ m ∈ ms, (print style m.2).IsPlain) :
    (printMembers style ms).IsPlain := by
  induction ms with
  | nil =>
    rw [printMembers]
    decide
  | cons m ms ih =>
    have hlater := ih fun k hk => h k (List.mem_cons_of_mem m hk)
    rw [printMembers]
    simp only [Text.isPlain_append]
    exact ⟨⟨⟨⟨hitem, isPlain_string m.1⟩, hcolon⟩, h m List.mem_cons_self⟩, hlater⟩

/-- The text of a simple value is printable ASCII, where what separates its parts is. -/
theorem IsSimple.isPlain_print (hitem : style.item.IsPlain) (hcolon : style.colon.IsPlain)
    {v : Json} (h : IsSimple depth v) : (print style v).IsPlain := by
  induction h with
  | null =>
    rw [print]
    decide
  | bool b =>
    rw [print]
    cases b <;> decide
  | int _ => exact isPlain_ofInt _
  | str _ => exact isPlain_string _
  | @arr _ elements _ ih =>
    cases elements with
    | nil =>
      rw [print]
      decide
    | cons v vs =>
      have hopening : (Text.ofString "[").IsPlain := by decide
      have hrest := isPlain_printRest hitem fun w hw => ih w (List.mem_cons_of_mem v hw)
      rw [print, Text.isPlain_append, Text.isPlain_append]
      exact ⟨⟨hopening, ih v List.mem_cons_self⟩, hrest⟩
  | @obj _ members _ _ _ ih =>
    cases members with
    | nil =>
      rw [print]
      decide
    | cons m ms =>
      have hopening : (Text.ofString "\x7b").IsPlain := by decide
      have hrest := isPlain_printMembers hitem hcolon fun k hk => ih k (List.mem_cons_of_mem m hk)
      rw [print]
      simp only [Text.isPlain_append]
      exact ⟨⟨⟨⟨hopening, isPlain_string m.1⟩, hcolon⟩, ih m List.mem_cons_self⟩, hrest⟩

end Json

end TopicSink
