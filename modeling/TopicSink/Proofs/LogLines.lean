import TopicSink.Log.Registry
import TopicSink.Proofs.Layouts
import TopicSink.Proofs.Segments
import TopicSink.Proofs.Separators

namespace TopicSink

namespace Text

theorem IsPlain.isScalar {t : Text} (h : t.IsPlain) : t.IsScalar := by
  intro c hc
  have hrange := h c hc
  simp only [CodePoint.isSurrogate, Bool.and_eq_false_iff, decide_eq_false_iff_not]
  omega

theorem IsPlain.not_mem {t : Text} (h : t.IsPlain) {c : CodePoint} (hc : c.val < 0x20) : c ∉ t := by
  intro hmem
  have hrange := h c hmem
  omega

theorem isPlain_padded (width n : Nat) : (padded width n).IsPlain := by
  intro c hc
  have hdigit : c.isDigit = true := by
    rcases List.mem_append.mp hc with hzero | hnumber
    · exact Json.zeros_isDigit _ c hzero
    · exact (isNumeralOf_ofNat n).isDigit c hnumber
  simp only [CodePoint.isDigit, Bool.and_eq_true, decide_eq_true_eq] at hdigit
  omega

end Text

theorem Instant.isPlain_render (t : Instant) : t.render.IsPlain := by
  have hmarks : ("-" : Text).IsPlain ∧ ("T" : Text).IsPlain ∧ (":" : Text).IsPlain ∧
      ("+0000" : Text).IsPlain := by decide
  obtain ⟨hhyphen, hletter, hcolon, hoffset⟩ := hmarks
  have hnumber := Text.isPlain_padded 2
  have hyear := Json.isPlain_ofInt t.date.year
  unfold Instant.render Date.render
  simp only [Text.isPlain_append, hhyphen, hletter, hcolon, hoffset, hnumber, hyear, and_self]

namespace Json

theorem isBlankStyle_spaced : Style.spaced.IsBlankStyle := by
  have hspace : (" " : Text) = [CodePoint.ofChar ' '] := rfl
  have hblank : ∀ c ∈ (" " : Text), isBlank c = true := by
    rw [hspace]
    exact List.forall_mem_singleton.mpr rfl
  exact ⟨⟨" ", rfl, hblank⟩, ⟨" ", rfl, hblank⟩⟩

/-- How strings are read back: as they were, where no surrogates are in them. Two of those may have
become one character. -/
theorem exists_reading :
    ∃ g : Text → Text, ∀ t, SpellsString (t.flatMap escape) (g t) ∧ (t.IsScalar → g t = t) := by
  choose read hread using exists_spellsString
  refine ⟨fun t => if t.IsScalar then t else read t, fun t => ?_⟩
  -- What a text of characters is read as is known; of any other text some reading will do.
  by_cases ht : t.IsScalar
  · simp only [ht, if_true]
    exact ⟨spellsString_of_isScalar ht, fun _ => trivial⟩
  · simp only [ht, if_false]
    exact ⟨hread t, fun h => h.elim⟩

theorem Limits.exists_enter {limits : Limits} (h : limits.nesting ≠ some 0) :
    ∃ inner, limits.enter = some inner := by
  unfold Limits.enter
  cases hnesting : limits.nesting with
  | none => exact ⟨_, rfl⟩
  | some n =>
    cases n with
    | zero => exact absurd hnesting h
    | succ n => exact ⟨_, rfl⟩

end Json

namespace LogEntry

variable {e : LogEntry}

def texts (e : LogEntry) : List (Text × Text) :=
  let trace : List (Text × Text) := match e.trace with
    | some t => [("exc_info", t)]
    | none => []
  ("timestamp", e.time.render) :: ("level", e.level) :: ("logger", e.logger)
    :: ("message", e.message) :: trace

theorem members_eq (e : LogEntry) : e.members = e.texts.map fun p => (p.1, .str p.2) := by
  unfold members texts
  cases e.trace <;> rfl

/-- The names of an entry's members are plain and distinct. -/
theorem names_spec (e : LogEntry) :
    (e.texts.map Prod.fst).Nodup ∧ ∀ name ∈ e.texts.map Prod.fst, name.IsPlain := by
  let names : List Text := ["timestamp", "level", "logger", "message", "exc_info"]
  have hnames : e.texts.map Prod.fst <+: names := by
    unfold texts
    cases e.trace with
    | none => exact ⟨["exc_info"], rfl⟩
    | some _ => exact ⟨[], rfl⟩
  have hnodup : names.Nodup := by decide +kernel
  have hplain : ∀ name ∈ names, name.IsPlain := by decide +kernel
  exact ⟨hnodup.sublist hnames.sublist, fun name hname => hplain name (hnames.subset hname)⟩

/-- The JSON form of an entry is printable ASCII. -/
theorem isPlain_json (e : LogEntry) : e.json.IsPlain := by
  have hitem : Json.Style.spaced.item.IsPlain := by decide
  have hcolon : Json.Style.spaced.colon.IsPlain := by decide
  have hopening : ("\x7b" : Text).IsPlain := by decide
  have hvalue : ∀ m ∈ e.members, (Json.print .spaced m.2).IsPlain := by
    rw [members_eq]
    intro m hm
    obtain ⟨p, -, rfl⟩ := List.mem_map.mp hm
    rw [Json.print]
    exact Json.isPlain_string p.2
  unfold json Json.spaced
  -- The first member is printed before the others, and it is always there.
  unfold members at hvalue ⊢
  obtain ⟨hfirst, hrest⟩ := List.forall_mem_cons.mp hvalue
  rw [Json.print]
  simp only [Text.isPlain_append]
  exact ⟨⟨⟨⟨hopening, Json.isPlain_string _⟩, hcolon⟩, hfirst⟩,
    Json.isPlain_printMembers hitem hcolon hrest⟩

/-- What becomes of the members when strings come back as `g` has them: only the trace may change.
-/
theorem map_members {g : Text → Text} (hg : ∀ t, t.IsScalar → g t = t) (hlevel : e.level.IsScalar)
    (hlogger : e.logger.IsScalar) (hmessage : e.message.IsScalar) {f : Json → Json}
    (hf : ∀ t, f (.str t) = .str (g t)) :
    e.members.map (fun m => (g m.1, f m.2)) = { e with trace := e.trace.map g }.members := by
  have hname : ∀ name ∈ e.texts.map Prod.fst, g name = name := fun name hname =>
    hg name ((names_spec e).2 name hname).isScalar
  have htime : g e.time.render = e.time.render := hg _ e.time.isPlain_render.isScalar
  have hnames : e.texts.map (fun p => (g p.1, g p.2)) = e.texts.map fun p => (p.1, g p.2) :=
    List.map_congr_left fun p hp => by rw [hname p.1 (List.mem_map_of_mem hp)]
  have htexts : e.texts.map (fun p => (p.1, g p.2)) = { e with trace := e.trace.map g }.texts := by
    unfold texts
    cases e.trace <;> simp [htime, hg _ hlevel, hg _ hlogger, hg _ hmessage]
  rw [members_eq, members_eq, ← htexts, ← hnames, List.map_map, List.map_map]
  apply List.map_congr_left
  intro p _
  exact congrArg (Prod.mk (g p.1)) (hf p.2)

/-- An entry is read back as it was. Only a trace with surrogates may come back as another text. -/
theorem read_json (hlevel : e.level.IsScalar) (hlogger : e.logger.IsScalar)
    (hmessage : e.message.IsScalar) {limits : Json.Limits} (hlimits : limits.nesting ≠ some 0) :
    ∃ trace : Option Text, trace.isSome = e.trace.isSome ∧
      (∀ t ∈ e.trace, t.IsScalar → trace = some t) ∧
      Json.read limits e.json = .ok (.obj { e with trace }.members) := by
  obtain ⟨g, hg⟩ := Json.exists_reading
  obtain ⟨inner, henter⟩ := Json.Limits.exists_enter hlimits
  refine ⟨e.trace.map g, Option.isSome_map, ?_, ?_⟩
  · intro t ht hscalar
    rw [Option.mem_def.mp ht, Option.map_some, (hg t).2 hscalar]
  · have hinjective : Function.Injective Json.str := fun _ _ h => Json.str.inj h
    -- All members are strings, so what becomes of other documents does not matter.
    obtain ⟨f, hf⟩ : ∃ f : Json → Json, ∀ t, f (.str t) = .str (g t) :=
      ⟨Function.extend Json.str (fun t => .str (g t)) id, hinjective.extend_apply _ _⟩
    have hvalues : ∀ m ∈ e.members,
        Json.Spells .standard inner (Json.print .spaced m.2) (f m.2) := by
      rw [members_eq]
      intro m hm
      obtain ⟨p, -, rfl⟩ := List.mem_map.mp hm
      rw [Json.print, Json.string_eq_quoted, hf]
      exact .str (hg p.2).1
    have hspells := (Json.spells_obj Json.isBlankStyle_spaced henter (fun m _ => (hg m.1).1)
      hvalues).mono Json.Dialect.standard_isPartOf_reader
    have hnodup : ({ e with trace := e.trace.map g }.members.map Prod.fst).Nodup := by
      rw [members_eq, List.map_map]
      exact (names_spec _).1
    rw [map_members (fun t => (hg t).2) hlevel hlogger hmessage hf,
      Json.ofMembers_of_nodup hnodup] at hspells
    exact Json.read_eq_ok_iff.mpr ⟨⟨[], e.json, [], _, Json.areBlanks_nil, Json.areBlanks_nil⟩,
      by simp [Json.Element.text], rfl, hspells⟩

theorem lookup_exc_info (e : LogEntry) :
    Json.lookup "exc_info" e.members = e.trace.map Json.str := by
  unfold members
  cases e.trace <;> rfl

/-- What a handler has written of entries in the JSON form splits at the line breaks into their
lines. -/
theorem splitOn_written (entries : List LogEntry) :
    Text.splitOn '\n' (entries.flatMap fun e => Registry.written (some e) .json) =
      entries.map json ++ [[]] := by
  induction entries with
  | nil => rfl
  | cons e entries ih =>
    have hline : CodePoint.ofChar '\n' ∉ e.json := (isPlain_json e).not_mem (by decide)
    have hwritten : Registry.written (some e) .json = e.json ++ [CodePoint.ofChar '\n'] := rfl
    rw [List.flatMap_cons, hwritten, List.append_assoc, List.singleton_append, Text.splitOn_append,
      Text.splitOn_of_not_mem hline, ih]
    rfl

/-- The JSON form of an entry is one line and loses nothing. It is printable ASCII, whatever texts
the entry holds. Where level, logger and message are texts of characters, it is read as an object
with just these texts, which has a trace when the entry has one. What is written of several entries
splits at the line breaks into their lines and no others. -/
theorem json_lossless :
    (∀ e : LogEntry, e.json.IsPlain ∧
      (e.level.IsScalar → e.logger.IsScalar → e.message.IsScalar →
        ∀ limits : Json.Limits, limits.nesting ≠ some 0 →
          ∃ members, Json.read limits e.json = .ok (.obj members) ∧
            Json.lookup "timestamp" members = some (.str e.time.render) ∧
            Json.lookup "level" members = some (.str e.level) ∧
            Json.lookup "logger" members = some (.str e.logger) ∧
            Json.lookup "message" members = some (.str e.message) ∧
            (Json.lookup "exc_info" members).isSome = e.trace.isSome ∧
            ∀ t ∈ e.trace, t.IsScalar → Json.lookup "exc_info" members = some (.str t))) ∧
    ∀ entries : List LogEntry,
      Text.splitOn '\n' (entries.flatMap fun e => Registry.written (some e) .json) =
        entries.map json ++ [[]] := by
  refine ⟨fun e => ⟨isPlain_json e, ?_⟩, splitOn_written⟩
  intro hlevel hlogger hmessage limits hlimits
  obtain ⟨trace, hsome, hkept, hread⟩ := read_json hlevel hlogger hmessage hlimits
  refine ⟨_, hread, rfl, rfl, rfl, rfl, ?_, ?_⟩
  · rw [lookup_exc_info, Option.isSome_map, hsome]
  · intro t ht hscalar
    rw [lookup_exc_info, hkept t ht hscalar, Option.map_some]

/-- A message that would end its line and begin another entry, in an entry with a trace. -/
theorem json_lossless_line_break :
    let message : Text := "a\n\"\\\t\x00\u2028😀\x7b\"level\": \"INFO\"\x7d"
    let e : LogEntry := ⟨⟨⟨2024, 1, 1⟩, 0, 0, 0, 0⟩, "ERROR", "a\"b", message, some "ValueError: x\ny"⟩
    e.json.IsPlain ∧ ∃ members, Json.read Json.Limits.none e.json = .ok (.obj members) ∧
      Json.lookup "level" members = some (.str e.level) ∧
      Json.lookup "message" members = some (.str message) ∧
      (Json.lookup "exc_info" members).isSome = true := by
  intro message e
  obtain ⟨hplain, hread⟩ := json_lossless.1 e
  obtain ⟨members, hmembers, -, hlevel, -, hmessage, htrace, -⟩ :=
    hread (by decide) (by decide) (by decide) Json.Limits.none (by decide)
  exact ⟨hplain, members, hmembers, hlevel, hmessage, htrace⟩

end LogEntry

end TopicSink
