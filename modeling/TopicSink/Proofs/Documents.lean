import TopicSink.Proofs.Decoding
import TopicSink.Proofs.Printing

/-!
What records hold, and the JSON of the documents that are built from them. A payload is taken when
its text is an object in the dialect that is read, which is wider than the standard: it names what
is no number and the infinities, and numbers beyond binary64 are read as infinities. All of these go
on into the documents, which are JSON by the standard just when none is among the columns that they
show.
-/

namespace TopicSink

namespace Record

variable [Stack]

def withoutPayload (message : Members) : Members := message.filter fun m => m.1 ≠ "value"

/-- A document that is built from a record, anywhere in any batch. -/
def IsBuiltFrom (settings : Settings) (r : Record) (body : Json) : Prop :=
  ∃ (records : List Record) (operations : List Json) (i : Nat),
    (Sink.buildActions settings records Connection.initial).outcome = .ok operations ∧
      records[i]? = some r ∧ operations[2 * i + 1]? = some body

variable {message : Members} {fields : Members} {f : Fault}

theorem payload_of_ofMessage {r : Record} (h : ofMessage message = .ok r) :
    payload message = .ok r.fields := by
  unfold ofMessage at h
  obtain ⟨fields, hfields, h⟩ := bind_eq_ok_iff.mp h
  obtain ⟨time, -, h⟩ := bind_eq_ok_iff.mp h
  obtain ⟨given, -, h⟩ := bind_eq_ok_iff.mp h
  obtain ⟨topic, -, h⟩ := bind_eq_ok_iff.mp h
  obtain ⟨given, -, h⟩ := bind_eq_ok_iff.mp h
  obtain ⟨partition, -, h⟩ := bind_eq_ok_iff.mp h
  obtain ⟨given, -, h⟩ := bind_eq_ok_iff.mp h
  obtain ⟨offset, -, h⟩ := bind_eq_ok_iff.mp h
  cases h
  exact hfields

omit [Stack] in
theorem lookup_withoutPayload {name : Text} (h : name ≠ "value") :
    Json.lookup name (withoutPayload message) = Json.lookup name message :=
  Json.lookup_filter_of_ne h message

theorem source_withoutPayload (message : Members) :
    source (withoutPayload message) = source message := by
  unfold source
  dsimp only
  rw [lookup_withoutPayload (by decide), lookup_withoutPayload (by decide),
    lookup_withoutPayload (by decide)]

theorem instant_withoutPayload (message : Members) :
    instant (withoutPayload message) = instant message := by
  unfold instant blame
  rw [lookup_withoutPayload (by decide), source_withoutPayload]

/-- Once the payload is decoded, all else decides. -/
theorem ofMessage_of_decoded (h : payload message = .ok fields) :
    ofMessage message =
      (ofMessage (withoutPayload message)).map fun r => { r with fields := fields } := by
  have hbare : payload (withoutPayload message) = .ok [] := by
    refine payload_eq_ok_iff.mpr (.inl ⟨.inl ?_, rfl⟩)
    rw [withoutPayload, Json.lookup_filter_self]
    rfl
  unfold ofMessage required
  rw [h, hbare, instant_withoutPayload, lookup_withoutPayload (by decide),
    lookup_withoutPayload (by decide), lookup_withoutPayload (by decide)]
  simp only [map_of_bind]
  rfl

/-- The payload is decoded before all else. -/
theorem ofMessage_of_refused (h : payload message = .error f) : ofMessage message = .error f := by
  unfold ofMessage
  rw [h]
  rfl

omit [Stack] in
theorem HasDocument.unique {document document' : Text} (h : HasDocument message document)
    (h' : HasDocument message document') : document = document' := by
  obtain ⟨t, bytes, hvalue, hdecode, -, hdocument⟩ := h
  obtain ⟨t', bytes', hvalue', hdecode', -, hdocument'⟩ := h'
  obtain rfl : t = t' := Json.str.inj (Option.some.inj (hvalue.symm.trans hvalue'))
  obtain rfl : bytes = bytes' := Except.ok.inj (hdecode.symm.trans hdecode')
  exact Except.ok.inj (hdocument.symm.trans hdocument')

omit [Stack] in
theorem HasDocument.not_isBare {document : Text} (h : HasDocument message document) :
    ¬IsBare message := by
  obtain ⟨t, bytes, hvalue, hdecode, hbytes, -⟩ := h
  have hempty : ∀ t', Json.lookup "value" message = some (.str t') → Base64.decode t' ≠ .ok [] := by
    intro t' hvalue' hnone
    obtain rfl : t = t' := Json.str.inj (Option.some.inj (hvalue.symm.trans hvalue'))
    exact hbytes (Except.ok.inj (hdecode.symm.trans hnone))
  rintro (hnone | ⟨t', hvalue', hnone⟩)
  · have ht : t ≠ [] := by
      rintro rfl
      exact hempty [] hvalue rfl
    rw [nonempty?_str_iff.mpr ⟨hvalue, ht⟩] at hnone
    cases hnone
  · exact hempty t' hvalue' hnone

/-- A payload of the standard whose numbers are finite makes finite fields. -/
theorem isFinite_of_payload {document : Text} {v : Json} (h : payload message = .ok fields)
    (hdocument : HasDocument message document)
    (hspells : Json.SpellsDocument .finite Json.Limits.none document v) :
    ∀ m ∈ fields, m.2.IsFinite := by
  rcases payload_eq_ok_iff.mp h with ⟨-, rfl⟩ | ⟨document', hdocument', hfields⟩
  · exact List.forall_mem_nil _
  · obtain rfl := hdocument.unique hdocument'
    -- Both dialects are parts of what is read, and a text is read as one value only.
    have hstandard := hspells.mono Json.Dialect.finite_isPartOf_standard
    have hv := (hstandard.mono Json.Dialect.standard_isPartOf_reader).unique hfields
    obtain ⟨e, -, rfl, hvalue⟩ := hspells
    cases hv ▸ hvalue.isFinite with
    | obj hmembers => exact hmembers

theorem body_of_isBuiltFrom {settings : Settings} {r : Record} {body : Json}
    (h : IsBuiltFrom settings r body) : body = .obj (r.without settings.hiddenColumns) := by
  obtain ⟨records, operations, i, hbuild, hr, hbody⟩ := h
  rw [Sink.buildActions_outcome] at hbuild
  obtain ⟨index, id, -, -, -, hdocument⟩ := Sink.operationsOf_getElem? hbuild hr
  rw [hdocument] at hbody
  exact (Option.some.inj hbody).symm

/-- A document is built from every record that has its columns. -/
theorem isBuiltFrom_without {settings : Settings} {r : Record} (hr : r.IsRenderable)
    (h : Sink.missing? settings r = none) :
    IsBuiltFrom settings r (.obj (r.without settings.hiddenColumns)) := by
  obtain ⟨operations, hoperations⟩ := Sink.operationsOf_of_present
    (List.forall_mem_singleton.mpr hr) (List.forall_mem_singleton.mpr h)
  obtain ⟨index, id, -, -, -, hdocument⟩ :=
    Sink.operationsOf_getElem? hoperations (i := 0) (r := r) rfl
  exact ⟨[r], operations, 0, (Sink.buildActions_outcome settings [r] _).trans hoperations, rfl,
    hdocument⟩

theorem isJson_body_iff {settings : Settings} {r : Record} {body : Json} {style : Json.Style}
    (h : IsBuiltFrom settings r body) (hstyle : style.IsBlankStyle) :
    Json.IsJson (Json.print style body) ↔
      ∀ m ∈ r.fields, m.1 ∉ settings.hiddenColumns → m.2.IsFinite := by
  have hshown : (∀ m ∈ r.without settings.hiddenColumns, m.2.IsFinite) ↔
      ∀ m ∈ r.fields, m.1 ∉ settings.hiddenColumns → m.2.IsFinite := by
    simp [without, List.mem_filter]
  rw [Json.isJson_print_iff hstyle, body_of_isBuiltFrom h, ← hshown]
  constructor
  · intro hbody
    cases hbody with
    | obj hmembers => exact hmembers
  · exact .obj

omit [Stack] in
/-- A document of one member, without blanks. -/
theorem spellsDocument_of_member {dialect : Json.Dialect} {limits inner : Json.Limits}
    {body name core t : Text} {v : Json} (henter : limits.enter = some inner)
    (hname : Json.SpellsString body name) (h : Json.Spells dialect inner core v)
    (ht : t = CodePoint.ofChar '\x7b' :: (Json.quoted body ++
      CodePoint.ofChar ':' :: (core ++ [CodePoint.ofChar '\x7d']))) :
    Json.SpellsDocument dialect limits t (.obj [(name, v)]) := by
  let member : Json.Member :=
    ⟨[], body, name, [], ⟨[], core, [], v, Json.areBlanks_nil, Json.areBlanks_nil⟩,
      Json.areBlanks_nil, hname, Json.areBlanks_nil⟩
  have hmembers : ∀ m ∈ [member], Json.Spells dialect inner m.element.core m.element.value :=
    List.forall_mem_singleton.mpr h
  have hspells := Json.Spells.obj henter hmembers
  refine ⟨⟨[], _, [], _, Json.areBlanks_nil, Json.areBlanks_nil⟩, ?_, rfl, hspells⟩
  rw [ht]
  simp [Json.Element.text, Json.Member.text, member, Json.closing]

/-- A message becomes a record only of an object that is read, and of one of the standard with
finite numbers all fields are finite. The documents of the record are JSON just when the fields that
they show are finite, at any depth. Where an object is read the rest of the message decides, and
where none is the message is refused. -/
theorem ofMessage_json (message : Members) :
    (∀ r, ofMessage message = .ok r →
      (IsBare message ∧ r.fields = [] ∨
        ∃ document, HasDocument message document ∧
          Json.SpellsDocument .reader payloadLimits document (.obj r.fields)) ∧
      (∀ document v, HasDocument message document →
        Json.SpellsDocument .finite Json.Limits.none document v → ∀ m ∈ r.fields, m.2.IsFinite) ∧
      ∀ (settings : Settings) (body : Json) (style : Json.Style), IsBuiltFrom settings r body →
        style.IsBlankStyle → (Json.IsJson (Json.print style body) ↔
          ∀ m ∈ r.fields, m.1 ∉ settings.hiddenColumns → m.2.IsFinite)) ∧
    (∀ document fields, HasDocument message document →
      Json.SpellsDocument .reader payloadLimits document (.obj fields) →
        ofMessage message =
          (ofMessage (withoutPayload message)).map fun r => { r with fields := fields }) ∧
    (¬IsBare message →
      (∀ document fields, HasDocument message document →
        ¬Json.SpellsDocument .reader payloadLimits document (.obj fields)) →
      ∃ f, ofMessage message = .error f ∧ RefusesWith message f) := by
  refine ⟨fun r hr => ?_, fun document fields hhas hspells => ?_, fun hbare hdocument => ?_⟩
  · have hpayload := payload_of_ofMessage hr
    exact ⟨payload_eq_ok_iff.mp hpayload, fun document v => isFinite_of_payload hpayload,
      fun settings body style => isJson_body_iff⟩
  · exact ofMessage_of_decoded (payload_eq_ok_iff.mpr (.inr ⟨document, hhas, hspells⟩))
  · cases hpayload : payload message with
    | error f =>
      exact ⟨f, ofMessage_of_refused hpayload, refusesWith_of_payload hpayload⟩
    | ok fields =>
      rcases payload_eq_ok_iff.mp hpayload with ⟨hnone, -⟩ | ⟨document, hhas, hspells⟩
      · exact absurd hnone hbare
      · exact absurd hspells (hdocument document fields hhas)

omit [Stack] in
/-- A number in the standard's words is taken, and a payload that is no object is refused. -/
theorem ofMessage_json_number :
    letI := Stack.usual
    let m : Message := ⟨"orders", 0, 7, 0, some "eyJhIjoxLjV9"⟩
    let other : Message := ⟨"orders", 0, 8, 0, some "bnVsbA=="⟩
    let v : Json := .float (.finite false 6755399441055744 (-52))
    let r : Record := ⟨"orders", .int 0, .int 7, ⟨⟨1970, 1, 1⟩, 0, 0, 0, 0⟩, [("a", v)]⟩
    (HasDocument m.members "\x7b\"a\":1.5\x7d" ∧ ofMessage m.members = .ok r ∧
      Json.SpellsDocument .finite Json.Limits.none "\x7b\"a\":1.5\x7d" (.obj r.fields) ∧
        (∀ field ∈ r.fields, field.2.IsFinite) ∧
          ∃ body, IsBuiltFrom Settings.default r body ∧ Json.IsJson body.compact) ∧
      ∃ f, ofMessage other.members = .error f ∧ RefusesWith other.members f := by
  let _ : Stack := Stack.usual
  intro m other v r
  have hdocument : HasDocument m.members "\x7b\"a\":1.5\x7d" := by
    refine ⟨"eyJhIjoxLjV9", Encoding.encodeUtf8 "\x7b\"a\":1.5\x7d", rfl, ?_, ?_, ?_⟩ <;>
      decide +kernel
  have hfits : m.Fits := by
    refine ⟨?_, ?_, ?_⟩ <;> exact Numeral.fits_of_fitsWord (by decide)
  have hname : Json.SpellsString "a" "a" := .plain (by decide) (by decide) (by decide) .nil
  have hnumber : ∀ limits, Json.Spells .finite limits "1.5" v := by
    intro limits
    have hfraction : ∀ digits ∈ some (Text.ofString "5"), Json.AreDigits digits := by
      intro digits h
      rw [← Option.some.inj h]
      exact Json.areDigits_singleton rfl
    let n : Json.NumberForm :=
      ⟨false, "1", some "5", none, Json.areDigits_singleton rfl,
        fun rest h => (List.cons.inj h).2.symm, hfraction⟩
    have hfloat : Binary64.ofDecimal false 15 (-1) = .finite false 6755399441055744 (-52) := by
      decide +kernel
    have hvalue : n.value = v := congrArg Json.float hfloat
    have htakes : Json.Dialect.finite.takes n := by
      change Json.IsFinite n.value
      rw [hvalue]
      exact .float _ _ _
    rw [← hvalue]
    exact .number htakes fun hnone => by cases hnone
  have hspells : ∀ limits inner, limits.enter = some inner →
      Json.SpellsDocument .finite limits "\x7b\"a\":1.5\x7d" (.obj r.fields) :=
    fun limits inner henter => spellsDocument_of_member henter hname (hnumber inner) rfl
  have hread := ((hspells payloadLimits _ rfl).mono Json.Dialect.finite_isPartOf_standard).mono
    Json.Dialect.standard_isPartOf_reader
  have hrecord : ofMessage m.members = .ok r :=
    ofMessage_of_payload rfl (payload_eq_ok_iff.mpr (.inr ⟨_, hdocument, hread⟩))
  have hbuilt : IsBuiltFrom Settings.default r (.obj r.fields) :=
    isBuiltFrom_without (isRenderable_of_fits hfits.partition hfits.offset rfl (Nat.zero_le _)) rfl
  obtain ⟨haccepted, -⟩ := ofMessage_json m.members
  obtain ⟨-, hfinite, hjson⟩ := haccepted r hrecord
  have hfields := hfinite _ _ hdocument (hspells Json.Limits.none _ rfl)
  have hbody := (hjson Settings.default _ _ hbuilt Json.isBlankStyle_compact).mpr
    fun field hfield _ => hfields field hfield
  refine ⟨⟨hdocument, hrecord, hspells _ _ rfl, hfields, _, hbuilt, hbody⟩, ?_⟩
  -- The other payload is `null`, and no object is spelled so.
  have hother : HasDocument other.members "null" := by
    refine ⟨"bnVsbA==", Encoding.encodeUtf8 "null", rfl, ?_, ?_, ?_⟩ <;> decide +kernel
  have hnull : Json.SpellsDocument .standard payloadLimits "null" .null :=
    ⟨⟨[], "null", [], .null, Json.areBlanks_nil, Json.areBlanks_nil⟩, rfl, rfl, Json.spells_null⟩
  obtain ⟨-, -, hrefused⟩ := ofMessage_json other.members
  refine hrefused hother.not_isBare fun document fields hhas hobject => ?_
  obtain rfl := hother.unique hhas
  cases (hnull.mono Json.Dialect.standard_isPartOf_reader).unique hobject

omit [Stack] in
/-- A payload that names what is no number is taken, and so the document is not JSON. -/
theorem ofMessage_nan :
    letI := Stack.usual
    let m : Message := ⟨"orders", 0, 7, 0, some "eyJhIjpOYU59"⟩
    let r : Record := ⟨"orders", .int 0, .int 7, ⟨⟨1970, 1, 1⟩, 0, 0, 0, 0⟩, [("a", .float .nan)]⟩
    HasDocument m.members "\x7b\"a\":NaN\x7d" ∧ ofMessage m.members = .ok r ∧
      ¬(∀ field ∈ r.fields, field.2.IsFinite) ∧
        ∃ body, IsBuiltFrom Settings.default r body ∧ ¬Json.IsJson body.compact := by
  let _ : Stack := Stack.usual
  intro m r
  have hdocument : HasDocument m.members "\x7b\"a\":NaN\x7d" := by
    refine ⟨"eyJhIjpOYU59", Encoding.encodeUtf8 "\x7b\"a\":NaN\x7d", rfl, ?_, ?_, ?_⟩ <;>
      decide +kernel
  have hfits : m.Fits := by
    refine ⟨?_, ?_, ?_⟩ <;> exact Numeral.fits_of_fitsWord (by decide)
  have hname : Json.SpellsString "a" "a" := .plain (by decide) (by decide) (by decide) .nil
  have hword : (Text.ofString "NaN", Json.float .nan) ∈ Json.Dialect.reader.words := by
    simp [Json.Dialect.reader, Json.words]
  have hspells : Json.SpellsDocument .reader payloadLimits "\x7b\"a\":NaN\x7d" (.obj r.fields) :=
    spellsDocument_of_member rfl hname (.word hword) rfl
  have hrecord : ofMessage m.members = .ok r :=
    ofMessage_of_payload rfl (payload_eq_ok_iff.mpr (.inr ⟨_, hdocument, hspells⟩))
  have hinfinite : ¬∀ field ∈ r.fields, field.2.IsFinite := by
    intro hfinite
    cases hfinite ("a", .float .nan) List.mem_cons_self
  have hbuilt : IsBuiltFrom Settings.default r (.obj r.fields) :=
    isBuiltFrom_without (isRenderable_of_fits hfits.partition hfits.offset rfl (Nat.zero_le _)) rfl
  refine ⟨hdocument, hrecord, hinfinite, _, hbuilt, fun hjson => hinfinite fun field hfield => ?_⟩
  exact (isJson_body_iff hbuilt Json.isBlankStyle_compact).mp hjson field hfield List.not_mem_nil

end Record

end TopicSink
