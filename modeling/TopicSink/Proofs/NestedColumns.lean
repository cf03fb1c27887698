import TopicSink.Proofs.Derivations
import TopicSink.Proofs.Payloads
import TopicSink.Proofs.Quotations

namespace TopicSink

namespace Json

def IsNested : Json → Prop
  | .arr _ | .obj _ => True
  | _ => False

theorem IsSimple.writable {depth : Nat} {v : Json} (h : IsSimple depth v) : v.writable = true := by
  induction h with
  | null => rfl
  | bool b => rfl
  | int hi => exact hi
  | str ht => rfl
  | arr _ ih =>
    rw [Json.writable, writableAll_iff]
    exact ih
  | obj _ _ _ ih =>
    rw [Json.writable, writableMembers_iff]
    exact ih

/-- The compact text of a simple value is ASCII, and it has spaces in its strings only. -/
theorem IsSimple.isAscii_compact {depth : Nat} {v : Json} (h : IsSimple depth v) :
    (compact v).isAscii = true := by
  have hplain : (compact v).IsPlain := h.isPlain_print (by decide) (by decide)
  refine List.all_eq_true.mpr fun c hc => ?_
  have hlt : c.val < 0x7F := (hplain c hc).2
  unfold CodePoint.isAscii
  exact decide_eq_true (by omega)

/-- Values that are read from their texts are equal where these are. -/
theorem IsSimple.compact_inj {depth depth' : Nat} {v v' : Json} (h : IsSimple depth v)
    (h' : IsSimple depth' v') : compact v = compact v' ↔ v = v' := by
  refine ⟨fun htexts => ?_, congrArg compact⟩
  have hallow : ∀ depth, (⟨some Numeral.limit, none⟩ : Limits).Allow depth :=
    fun depth => ⟨rfl, fun n hn => by cases hn⟩
  have hread := h.read_print isBlankStyle_compact (hallow depth)
  have hread' := h'.read_print isBlankStyle_compact (hallow depth')
  have htexts' : print Style.compact v = print Style.compact v' := htexts
  rw [htexts', hread'] at hread
  exact (Except.ok.inj hread).symm

def arrays : Nat → Json
  | 0 => .null
  | n + 1 => .arr [arrays n]

theorem isSimple_arrays : (n : Nat) → IsSimple n (arrays n)
  | 0 => .null
  | n + 1 => isSimple_arr_iff.mpr (List.forall_mem_singleton.mpr (isSimple_arrays n))

theorem nesting_arrays (bare : Nat) : (n : Nat) → (arrays n).nesting bare = n
  | 0 => rfl
  | n + 1 => by simp [arrays, nesting, nestingAll, nesting_arrays bare n]

end Json

/-- A column of a record holds an array or an object, and JSON texts hold that without loss. -/
structure Record.HoldsNested (r : Record) (column : Text) (depth : Nat) (v : Json) : Prop where
  held : Json.lookup column r.fields = some v
  nested : v.IsNested
  simple : Json.IsSimple depth v

namespace Record.HoldsNested

variable [Stack] {r : Record} {column : Text} {depth : Nat} {v : Json}

theorem column_eq_compactText (h : r.HoldsNested column depth v) :
    r.column column = compactText v := by
  obtain ⟨hheld, hnested, -⟩ := h
  unfold Record.column
  rw [hheld]
  cases v with
  | arr elements => rfl
  | obj members => rfl
  | _ => exact hnested.elim

theorem column_eq (h : r.HoldsNested column depth v) (hroom : v.nesting 1 ≤ Stack.writing) :
    r.column column = .ok v.compact := by
  rw [h.column_eq_compactText, compactText_eq_ok h.simple.writable hroom]

theorem column_of_deep (h : r.HoldsNested column depth v) (hdeep : Stack.writing < v.nesting 1) :
    r.column column = .error .tooDeepToWrite := by
  rw [h.column_eq_compactText, compactText_eq_tooDeep h.simple.writable hdeep]

end Record.HoldsNested

namespace Sink

variable [Stack] {r : Record} {column : Text} {depth : Nat} {v : Json}

theorem docId_of_nested {σ : Type} {settings : Settings}
    (hcolumn : Text.nonempty? settings.docIdColumn = some column)
    (h : r.HoldsNested column depth v) (hroom : v.nesting 1 ≤ Stack.writing) (s : σ) :
    (docId settings r s).outcome = .ok v.compact := by
  rw [docId_outcome]
  unfold idOf
  rw [hcolumn]
  exact h.column_eq hroom

/-- A column of an array or an object is told by an ASCII text without spaces outside of strings,
and it is read back from that text with its members in order. So the ids of two documents that are
told by such a column are equal exactly when the values are. All this as long as there is room to
write the value; one that is nested more deeply has no text. -/
theorem nested_columns_lossless (h : r.HoldsNested column depth v) :
    (Stack.writing < v.nesting 1 → r.column column = .error .tooDeepToWrite) ∧
    (v.nesting 1 ≤ Stack.writing →
      (∃ t, r.column column = .ok t ∧ t.isAscii = true ∧
        (∀ c ∈ Json.outside t, c.isSpace = false) ∧
        ∀ limits : Json.Limits, limits.Allow depth → Json.read limits t = .ok v) ∧
      ∀ (settings : Settings) (r' : Record) (depth' : Nat) (v' : Json),
        Text.nonempty? settings.docIdColumn = some column → r'.HoldsNested column depth' v' →
          v'.nesting 1 ≤ Stack.writing → ∀ (σ : Type) (s s' : σ),
            (∃ id, (docId settings r s).outcome = .ok id ∧ r.column column = .ok id) ∧
            ((docId settings r s).outcome = (docId settings r' s').outcome ↔ v = v')) := by
  refine ⟨h.column_of_deep, fun hroom => ⟨?_, ?_⟩⟩
  · have hspaceless : ∀ c ∈ Json.outside v.compact, c.isSpace = false :=
      fun c hc => Json.isSpace_of_printLetters c
        ((Json.shows_print Json.isWrittenWith_compact v).shown hc)
    exact ⟨v.compact, h.column_eq hroom, h.simple.isAscii_compact, hspaceless,
      fun limits hlimits => h.simple.read_print Json.isBlankStyle_compact hlimits⟩
  · intro settings r' depth' v' hcolumn h' hroom' σ s s'
    refine ⟨⟨v.compact, docId_of_nested hcolumn h hroom s, h.column_eq hroom⟩, ?_⟩
    rw [docId_of_nested hcolumn h hroom s, docId_of_nested hcolumn h' hroom' s', Except.ok.injEq]
    exact h.simple.compact_inj h'.simple

omit [Stack] in
/-- The same members in another order make another id. -/
theorem nested_columns_lossless_order :
    letI := Stack.usual
    let settings : Settings := { Settings.default with docIdColumn := some "key" }
    let a : Text × Json := ("a", .int 1)
    let b : Text × Json := ("b c", .arr [.str "é\n"])
    let place : Instant := ⟨⟨2024, 1, 1⟩, 0, 0, 0, 0⟩
    let r : Record := ⟨"orders", .int 0, .int 7, place, [("key", .obj [a, b])]⟩
    let r' : Record := ⟨"orders", .int 0, .int 8, place, [("key", .obj [b, a])]⟩
    r.HoldsNested "key" 2 (.obj [a, b]) ∧ r'.HoldsNested "key" 2 (.obj [b, a]) ∧
      r.column "key" = .ok "\x7b\"a\":1,\"b c\":[\"\\u00e9\\n\"]\x7d" ∧
      (docId settings r Connection.initial).outcome ≠
        (docId settings r' Connection.initial).outcome := by
  let _ : Stack := Stack.usual
  intro settings a b place r r'
  have hmember : ∀ m ∈ [a, b], m.1.IsScalar ∧ Json.IsSimple 1 m.2 := by
    refine List.forall_mem_cons.mpr ⟨⟨by decide, ?_⟩, List.forall_mem_singleton.mpr ⟨by decide, ?_⟩⟩
    · exact .int (Numeral.fits_of_fitsWord (by decide))
    · exact .arr (List.forall_mem_singleton.mpr (.str (by decide)))
  have hsimple : ∀ members : List (Text × Json), members ⊆ [a, b] →
      (members.map Prod.fst).Nodup → Json.IsSimple 2 (.obj members) :=
    fun members hsub hnodup =>
      .obj hnodup (fun m hm => (hmember m (hsub hm)).1) fun m hm => (hmember m (hsub hm)).2
  have h : r.HoldsNested "key" 2 (.obj [a, b]) := ⟨rfl, trivial, hsimple _ (by simp) (by decide)⟩
  have h' : r'.HoldsNested "key" 2 (.obj [b, a]) := ⟨rfl, trivial, hsimple _ (by simp) (by decide)⟩
  have hroom : ∀ members : Members, members = [a, b] ∨ members = [b, a] →
      (Json.obj members).nesting 1 ≤ Stack.writing := by
    rintro members (rfl | rfl) <;> decide
  -- The objects differ in their first member.
  have hother : Json.obj [a, b] ≠ .obj [b, a] := by
    intro heq
    have hfirst : a = b := (List.cons.inj (Json.obj.inj heq)).1
    have hnames : a.1 = b.1 := congrArg Prod.fst hfirst
    exact absurd hnames (by decide)
  obtain ⟨-, hshallow⟩ := nested_columns_lossless h
  obtain ⟨-, hids⟩ := hshallow (hroom _ (.inl rfl))
  obtain ⟨-, hiff⟩ := hids settings r' 2 (.obj [b, a]) rfl h' (hroom _ (.inr rfl)) Connection
    Connection.initial Connection.initial
  exact ⟨h, h', h.column_eq (hroom _ (.inl rfl)), fun heq => hother (hiff.mp heq)⟩

omit [Stack] in
/-- Beyond the room for writing there is no text; and `1` and `true`, which are equal as numbers,
make two ids. -/
theorem nested_columns_without_text :
    letI := Stack.usual
    let place : Instant := ⟨⟨2024, 1, 1⟩, 0, 0, 0, 0⟩
    let r (v : Json) : Record := ⟨"orders", .int 0, .int 7, place, [("key", v)]⟩
    let id (v : Json) : Except Fault Text :=
      (docId { Settings.default with docIdColumn := some "key" } (r v) Connection.initial).outcome
    (¬∀ r column depth v, Record.HoldsNested r column depth v → ∃ t, r.column column = .ok t) ∧
      id (Json.arrays 986) = .error .tooDeepToWrite ∧
        id (.arr [.int 1]) = .ok "[1]" ∧ id (.arr [.bool true]) = .ok "[true]" := by
  let _ : Stack := Stack.usual
  intro place r id
  have hdeep : (r (Json.arrays 986)).HoldsNested "key" 986 (Json.arrays 986) :=
    ⟨rfl, trivial, Json.isSimple_arrays 986⟩
  have hcolumn : (r (Json.arrays 986)).column "key" = .error .tooDeepToWrite := by
    apply hdeep.column_of_deep
    rw [Json.nesting_arrays]
    decide
  refine ⟨fun h => ?_, ?_, ?_, ?_⟩
  · obtain ⟨t, ht⟩ := h _ _ _ _ hdeep
    rw [hcolumn] at ht
    cases ht
  · exact (docId_outcome _ _ _).trans hcolumn
  · have h : (r (.arr [.int 1])).HoldsNested "key" 1 (.arr [.int 1]) :=
      ⟨rfl, trivial, .arr (List.forall_mem_singleton.mpr (.int (Numeral.fits_of_fitsWord (by decide))))⟩
    exact docId_of_nested rfl h (by decide) Connection.initial
  · have h : (r (.arr [.bool true])).HoldsNested "key" 1 (.arr [.bool true]) :=
      ⟨rfl, trivial, .arr (List.forall_mem_singleton.mpr (.bool true))⟩
    exact docId_of_nested rfl h (by decide) Connection.initial

end Sink

end TopicSink
