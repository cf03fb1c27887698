import TopicSink.Proofs.Depths
import TopicSink.Proofs.Derivations
import TopicSink.Proofs.Validation
import TopicSink.Record.Message

namespace TopicSink

structure Message.Fits (m : Message) : Prop where
  partition : Numeral.fits m.partition = true
  offset : Numeral.fits m.offset = true
  timestamp : Numeral.fits m.timestamp = true

/-- The text that a message carries as base64. -/
def Record.HasDocument (message : Members) (document : Text) : Prop :=
  ∃ t bytes, Json.lookup "value" message = some (.str t) ∧ Base64.decode t = .ok bytes ∧
    bytes ≠ [] ∧ Encoding.decodeDocument bytes = .ok document

/-- There is room for what a message carries: for the whole where it is read, and for what stands
inside of it where that is written again. -/
def Message.IsShallow [Stack] (m : Message) : Prop :=
  ∀ document, Record.HasDocument m.members document →
    Json.bracketDepth document ≤ Stack.reading ∧ Json.bracketDepth document ≤ Stack.writing + 1

/-- What is expected of a validator: it refuses an event with a fault of validation that can be
told, and the integers of an event that can be written come out as ones that can. -/
structure Validator.IsSound (validate : Validator) : Prop where
  refuses : ∀ event f, validate event = .error f → f.kind = .validation ∧ f.untold = none
  fits : ∀ event checked, Json.writableMembers event = true → validate event = .ok checked →
    ∀ held ∈ checked, ∀ m ∈ held.2, m.Fits

namespace InsertEvent

theorem fits_of_integer {v : Json} {i : Int} (hw : v.writable = true) (h : integer [] v = .ok i) :
    Numeral.fits i = true := by
  cases v with
  | null => cases h
  | bool b =>
    rw [← Except.ok.inj h]
    exact Numeral.fits_bool b
  | int k =>
    rw [← Except.ok.inj h]
    exact hw
  | float x =>
    unfold integer at h
    dsimp only at h
    cases hx : x.truncate with
    | error why =>
      rw [hx] at h
      cases h
    | ok k =>
      simp only [hx] at h
      split_ifs at h with hwhole hword
      · cases h
      · rw [← Except.ok.inj h]
        exact Numeral.fits_of_fitsWord hword
      · cases h
  | str t =>
    unfold integer at h
    dsimp only at h
    split_ifs at h
    · cases h
    · cases hr : EventNumeral.read t with
      | error flaw =>
        rw [hr] at h
        cases h
      | ok k =>
        rw [hr] at h
        rw [← Except.ok.inj h]
        exact EventNumeral.fits_of_read hr
  | arr elements => cases h
  | obj members => cases h

theorem fits_of_required {members : Members} {name : Text} {i : Int}
    (hw : Json.writableMembers members = true)
    (h : required integer [] members name = .ok i) : Numeral.fits i = true := by
  obtain ⟨v, hl, hv⟩ := required_eq_ok_iff.mp h
  exact fits_of_integer (Json.writable_of_lookup hw hl) (ignoresPath_integer _ [] v i hv)

theorem fits_of_optional {members : Members} {name : Text} {absent i : Int}
    (ha : Numeral.fits absent = true) (hw : Json.writableMembers members = true)
    (h : optional integer absent [] members name = .ok i) : Numeral.fits i = true := by
  rcases optional_eq_ok_iff.mp h with ⟨-, rfl⟩ | ⟨v, hl, hv⟩
  · exact ha
  · exact fits_of_integer (Json.writable_of_lookup hw hl) (ignoresPath_integer _ [] v i hv)

theorem Carries.fits {members : Members} {m : Message} (h : Carries members m)
    (hw : Json.writableMembers members = true) : m.Fits := by
  have hzero : Numeral.fits 0 = true := Numeral.fits_of_fitsWord (by decide)
  exact ⟨fits_of_required hw h.partition, fits_of_required hw h.offset,
    fits_of_optional hzero hw h.timestamp⟩

theorem fits_of_message {v : Json} {m : Message} (hw : v.writable = true)
    (h : message [] v = .ok m) : m.Fits := by
  obtain ⟨members, rfl, -, hcarries⟩ := message_eq_ok_iff.mp h
  exact hcarries.fits hw

/-- The integers of a message come from the event, or are read with no more digits than the limit
allows. -/
theorem fits_of_validate {event : Members} {checked : InsertEvent}
    (hw : Json.writableMembers event = true) (h : validate event = .ok checked) :
    ∀ held ∈ checked, ∀ m ∈ held.2, m.Fits := by
  have hkeys : Json.writableMembers (keysOf event) = true := by
    unfold keysOf
    cases hl : Json.lookup "records" event with
    | none => rfl
    | some v =>
      have hv := Json.writable_of_lookup hw hl
      cases v with
      | obj keys => exact hv
      | _ => rfl
  intro held hheld m hm
  obtain ⟨k, hk, hholds⟩ := exists_mem_of_forall₂ (forall₂_holds_of_validate h) hheld
  obtain ⟨vs, hvs, hms⟩ := messages_eq_ok_iff.mp hholds.2
  obtain ⟨v, hv, hmessage⟩ := exists_mem_of_forall₂ hms hm
  have hlist : k.2.writable = true := Json.writableMembers_iff.mp hkeys k hk
  rw [hvs] at hlist
  exact fits_of_message (Json.writableAll_iff.mp hlist v hv) hmessage

theorem isSound_validator : Validator.IsSound validator := by
  refine ⟨fun event f h => ?_, fun event checked hw h => ?_⟩
  · unfold validator at h
    cases hv : validate event with
    | ok checked =>
      rw [hv] at h
      cases h
    | error issues =>
      rw [hv] at h
      cases h
      exact ⟨rfl, rfl⟩
  · exact fits_of_validate hw (validator_eq_ok_iff.mp h)

end InsertEvent

namespace Record

variable [Stack] {m : Message}

theorem ofMessage_members (m : Message) :
    ofMessage m.members =
      (do
        let fields ← payload m.members
        let time ← instant m.members
        pure ⟨m.topic, .int m.partition, .int m.offset, time, fields⟩) := by
  unfold ofMessage
  cases payload m.members with
  | error f => rfl
  | ok fields => cases instant m.members <;> rfl

/-- A message is told where it stands when what stands there can be written. -/
theorem source_of_writable {message : Members} {topic partition offset : Json}
    (htopic : Json.lookup "topic" message = some topic)
    (hpartition : Json.lookup "partition" message = some partition)
    (hoffset : Json.lookup "offset" message = some offset) (htopic' : ∃ t, text topic = .ok t)
    (hpartition' : ∃ t, text partition = .ok t) (hoffset' : ∃ t, text offset = .ok t) :
    ∃ s, source message = .ok s := by
  obtain ⟨t, ht⟩ := htopic'
  obtain ⟨t', ht'⟩ := hpartition'
  obtain ⟨t'', ht''⟩ := hoffset'
  refine ⟨t ++ ":" ++ t' ++ ":" ++ t'', ?_⟩
  unfold source
  dsimp only
  rw [htopic, hpartition, hoffset]
  dsimp only [Option.getD_some]
  rw [ht, ht', ht'']
  rfl

theorem isOfWriting_of_source {message : Members} {f : Fault} (h : source message = .error f) :
    f.IsOfWriting := by
  unfold source at h
  rcases bind_eq_error_iff.mp h with htopic | ⟨topic, -, h⟩
  · exact isOfWriting_of_text htopic
  rcases bind_eq_error_iff.mp h with hpartition | ⟨partition, -, h⟩
  · exact isOfWriting_of_text hpartition
  rcases bind_eq_error_iff.mp h with hoffset | ⟨offset, -, h⟩
  · exact isOfWriting_of_text hoffset
  · cases h

theorem source_members (h : m.Fits) : ∃ s, source m.members = .ok s :=
  source_of_writable rfl rfl rfl ⟨_, text_str m.topic⟩ ⟨_, text_int h.partition⟩
    ⟨_, text_int h.offset⟩

def IsDecodeFault (f : Fault) : Prop := f.kind = .recordDecode ∧ f.untold = none

theorem isDecodeFault_of_blame {α : Type} {message : Members} {fault : Text → Fault} {f : Fault}
    (h : ∃ s, source message = .ok s) (hfault : ∀ s, IsDecodeFault (fault s))
    (hf : (blame message fault : Except Fault α) = .error f) : IsDecodeFault f := by
  obtain ⟨s, hs⟩ := h
  unfold blame at hf
  rw [hs] at hf
  rw [← Except.error.inj hf]
  exact hfault s

section Refusals

variable {message : Members} {t : Text} {f : Fault}

theorem blame_ne_ok {α : Type} {fault : Text → Fault} {a : α} :
    (blame message fault : Except Fault α) ≠ .ok a := by
  unfold blame
  cases source message <;> exact fun h => by cases h

/-- What is told of a message is at fault, unless it cannot be told. -/
theorem of_blame {α : Type} {fault : Text → Fault} (hfault : ∀ s, IsDecodeFault (fault s))
    (h : (blame message fault : Except Fault α) = .error f) :
    IsDecodeFault f ∨ f.IsOfWriting ∧ ∀ s, source message ≠ .ok s := by
  cases hs : source message with
  | ok s => exact .inl (isDecodeFault_of_blame ⟨s, hs⟩ hfault h)
  | error f' =>
    unfold blame at h
    rw [hs] at h
    obtain rfl := Except.error.inj h
    exact .inr ⟨isOfWriting_of_source hs, fun s hok => by cases hok⟩

theorem tooDeep_of_recursion {t : Text} {cause : Fault} (h : parsePayload t = .error cause)
    (hkind : cause.kind = .recursion) : ∃ container, cause = .badJson (.tooDeep container) := by
  -- Texts that are not base64, and bytes that are no text, have faults of other kinds.
  unfold parsePayload parseBytes at h
  split at h
  · rename_i why _
    rw [← Except.error.inj h] at hkind
    cases why <;> cases hkind
  · split_ifs at h
    split at h
    · rw [← Except.error.inj h] at hkind
      cases hkind
    · split at h
      · rename_i why _
        rw [← Except.error.inj h] at hkind ⊢
        cases why with
        | tooDeep container => exact ⟨container, rfl⟩
        | malformed => cases hkind
        | numeralTooLong => cases hkind
      · cases h

/-- Where a payload nests too deeply, everything in front of its nesting was in order. -/
theorem document_of_tooDeep {container : Json.Container}
    (h : parsePayload t = .error (.badJson (.tooDeep container))) :
    ∃ bytes document, Base64.decode t = .ok bytes ∧ bytes ≠ [] ∧
      Encoding.decodeDocument bytes = .ok document ∧
        Json.read payloadLimits document = .error (.tooDeep container) := by
  unfold parsePayload parseBytes at h
  cases hbytes : Base64.decode t with
  | error why =>
    rw [hbytes] at h
    cases h
  | ok bytes =>
    rw [hbytes] at h
    dsimp only at h
    split_ifs at h with hempty
    cases hdocument : Encoding.decodeDocument bytes with
    | error why =>
      rw [hdocument] at h
      cases h
    | ok document =>
      rw [hdocument] at h
      dsimp only at h
      cases hread : Json.read payloadLimits document with
      | ok v =>
        rw [hread] at h
        cases h
      | error why =>
        rw [hread] at h
        cases h
        exact ⟨bytes, document, rfl, fun hnil => hempty (by rw [hnil]; rfl), hdocument, hread⟩

omit [Stack] in
theorem nonempty?_str_iff {v : Option Json} :
    Json.nonempty? v = some (.str t) ↔ v = some (.str t) ∧ t ≠ [] := by
  cases v with
  | none => simp [Json.nonempty?]
  | some v =>
    unfold Json.nonempty?
    dsimp only
    constructor
    · intro h
      split_ifs at h with hempty
      obtain rfl := Option.some.inj h
      refine ⟨rfl, ?_⟩
      rintro rfl
      exact hempty rfl
    · rintro ⟨hv, ht⟩
      obtain rfl := Option.some.inj hv
      rw [if_neg]
      simpa [Json.isEmpty] using ht

/-- How a payload is refused: with a fault of decoding, unless it is no text, nests too deeply, or
the message cannot be told. -/
inductive RefusesWith (message : Members) : Fault → Prop
  | decoding {f : Fault} : IsDecodeFault f → RefusesWith message f
  | notText : (∀ t, Json.lookup "value" message ≠ some (.str t)) → RefusesWith message .wrongType
  | tooDeep {t : Text} {container : Json.Container} : Json.lookup "value" message = some (.str t) →
    parsePayload t = .error (.badJson (.tooDeep container)) →
      RefusesWith message (.badJson (.tooDeep container))
  | untold {f : Fault} : (∀ s, source message ≠ .ok s) → f.IsOfWriting → RefusesWith message f

theorem refusesWith_of_blame {α : Type} {fault : Text → Fault}
    (hfault : ∀ s, IsDecodeFault (fault s))
    (h : (blame message fault : Except Fault α) = .error f) : RefusesWith message f := by
  rcases of_blame hfault h with hf | ⟨hf, hsource⟩
  · exact .decoding hf
  · exact .untold hsource hf

/-- There are no other ways for a payload to be refused. -/
theorem refusesWith_of_payload (h : payload message = .error f) : RefusesWith message f := by
  unfold payload at h
  cases hgiven : Json.nonempty? (Json.lookup "value" message) with
  | none =>
    rw [hgiven] at h
    cases h
  | some v =>
    rw [hgiven] at h
    cases v with
    | str t =>
      obtain ⟨hvalue, -⟩ := nonempty?_str_iff.mp hgiven
      dsimp only at h
      cases hparse : parsePayload t with
      | ok v =>
        rw [hparse] at h
        cases v with
        | obj members => cases h
        | _ => exact refusesWith_of_blame (fun s => ⟨rfl, rfl⟩) h
      | error cause =>
        rw [hparse] at h
        dsimp only at h
        -- Too deep a nesting is not caught where other faults of the document are.
        by_cases hkind : cause.kind = .recursion
        · rw [if_pos hkind] at h
          obtain rfl := Except.error.inj h
          obtain ⟨container, rfl⟩ := tooDeep_of_recursion hparse hkind
          exact .tooDeep hvalue hparse
        · rw [if_neg hkind] at h
          cases hb : (blame message fun s => .unreadablePayload s cause : Except Fault Json) with
          | ok v => exact absurd hb blame_ne_ok
          | error f' =>
            rw [hb] at h
            obtain rfl := Except.error.inj h
            exact refusesWith_of_blame (fun s => ⟨rfl, rfl⟩) hb
    | _ =>
      cases h
      refine .notText fun t ht => ?_
      rw [ht] at hgiven
      unfold Json.nonempty? at hgiven
      dsimp only at hgiven
      split_ifs at hgiven
      cases hgiven

end Refusals

section Payloads

variable {message : Members} {fields : Members} {t : Text}

/-- A message carries nothing: it has no payload, or one without bytes. -/
def IsBare (message : Members) : Prop :=
  Json.nonempty? (Json.lookup "value" message) = none ∨
    ∃ t, Json.lookup "value" message = some (.str t) ∧ Base64.decode t = .ok []

/-- What is read of a payload is what its bytes spell as a document; no bytes spell an empty object.
-/
theorem parsePayload_eq_ok_iff {v : Json} :
    parsePayload t = .ok v ↔
      Base64.decode t = .ok [] ∧ v = .obj [] ∨
        ∃ bytes document, Base64.decode t = .ok bytes ∧ bytes ≠ [] ∧
          Encoding.decodeDocument bytes = .ok document ∧
            Json.SpellsDocument .reader payloadLimits document v := by
  unfold parsePayload parseBytes
  cases hdecode : Base64.decode t with
  | error why => simp
  | ok bytes =>
    cases bytes with
    | nil => simp [eq_comm]
    | cons b bytes =>
      cases hdocument : Encoding.decodeDocument (b :: bytes) with
      | error why => simp [hdocument]
      | ok document =>
        cases hread : Json.read payloadLimits document with
        | error why => simp [hdocument, hread, ← Json.read_eq_ok_iff]
        | ok v' => simp [hdocument, hread, ← Json.read_eq_ok_iff]

/-- A payload is accepted where there is none, or where its text is read as an object. -/
theorem payload_eq_ok_iff_parsePayload :
    payload message = .ok fields ↔
      Json.nonempty? (Json.lookup "value" message) = none ∧ fields = [] ∨
        ∃ t, Json.nonempty? (Json.lookup "value" message) = some (.str t) ∧
          parsePayload t = .ok (.obj fields) := by
  unfold payload
  cases Json.nonempty? (Json.lookup "value" message) with
  | none => simp [eq_comm]
  | some v =>
    cases v with
    | str t =>
      cases hparse : parsePayload t with
      | ok v => cases v <;> simp [hparse, blame_ne_ok]
      | error cause =>
        by_cases hkind : cause.kind = .recursion
        · simp [hparse, hkind]
        · cases hblame : (blame message fun s => .unreadablePayload s cause :
              Except Fault Json) with
          | ok v => exact absurd hblame blame_ne_ok
          | error f => simp [hparse, hkind, hblame]
    | _ => simp

/-- A payload is taken when there is none, or when its text is an object in the dialect that is
read. -/
theorem payload_eq_ok_iff :
    payload message = .ok fields ↔
      IsBare message ∧ fields = [] ∨
        ∃ document, HasDocument message document ∧
          Json.SpellsDocument .reader payloadLimits document (.obj fields) := by
  rw [payload_eq_ok_iff_parsePayload]
  constructor
  · rintro (⟨hnone, rfl⟩ | ⟨t, ht, hparse⟩)
    · exact .inl ⟨.inl hnone, rfl⟩
    obtain ⟨hvalue, -⟩ := nonempty?_str_iff.mp ht
    rcases parsePayload_eq_ok_iff.mp hparse with ⟨hdecode, hfields⟩ | ⟨bytes, document, h⟩
    · exact .inl ⟨.inr ⟨t, hvalue, hdecode⟩, Json.obj.inj hfields⟩
    · obtain ⟨hdecode, hbytes, hdocument, hspells⟩ := h
      exact .inr ⟨document, ⟨t, bytes, hvalue, hdecode, hbytes, hdocument⟩, hspells⟩
  · rintro (⟨hnone | ⟨t, hvalue, hdecode⟩, rfl⟩ | ⟨document, ⟨t, bytes, hvalue, h⟩, hspells⟩)
    · exact .inl ⟨hnone, rfl⟩
    · by_cases ht : t = []
      · left
        rw [hvalue, ht]
        exact ⟨rfl, rfl⟩
      · exact .inr ⟨t, nonempty?_str_iff.mpr ⟨hvalue, ht⟩,
          parsePayload_eq_ok_iff.mpr (.inl ⟨hdecode, rfl⟩)⟩
    · obtain ⟨hdecode, hbytes, hdocument⟩ := h
      have ht : t ≠ [] := by
        rintro rfl
        cases hdecode
        exact hbytes rfl
      exact .inr ⟨t, nonempty?_str_iff.mpr ⟨hvalue, ht⟩, parsePayload_eq_ok_iff.mpr
        (.inr ⟨bytes, document, hdecode, hbytes, hdocument, hspells⟩)⟩

theorem writable_of_payload (h : payload message = .ok fields) :
    Json.writableMembers fields = true := by
  rcases payload_eq_ok_iff.mp h with ⟨-, rfl⟩ | ⟨document, -, hspells⟩
  · rfl
  · exact Json.writable_of_read rfl (Json.read_eq_ok_iff.mpr hspells)

end Payloads

omit [Stack] in
theorem lookup_value (m : Message) :
    Json.lookup "value" m.members = some ((m.value.map Json.str).getD .null) := rfl

omit [Stack] in
theorem lookup_value_iff {t : Text} :
    Json.lookup "value" m.members = some (.str t) ↔ m.value = some t := by
  rw [lookup_value]
  cases m.value <;> simp

/-- Of a checked message the payload is a text or missing, which leaves these cases. -/
theorem payload_members (m : Message) :
    payload m.members = match m.value with
      | none => .ok []
      | some t =>
        if t.isEmpty then .ok []
        else match parsePayload t with
          | .ok (.obj fields) => .ok fields
          | .ok _ => blame m.members .payloadNotAnObject
          | .error cause =>
            if cause.kind = .recursion then .error cause
            else blame m.members fun s => .unreadablePayload s cause := by
  unfold payload
  rw [lookup_value]
  cases m.value with
  | none => rfl
  | some t =>
    by_cases ht : t.isEmpty = true
    · simp [Json.nonempty?, Json.isEmpty, ht]
    · simp only [Json.nonempty?, Json.isEmpty, ht, Option.map_some, Option.getD_some,
        Bool.false_eq_true, if_false]
      cases parsePayload t with
      | ok v => cases v <;> rfl
      | error cause =>
        by_cases hkind : cause.kind = .recursion
        · simp only [hkind, if_true]
        · simp only [hkind, if_false]
          unfold blame
          cases source m.members <;> rfl

/-- The instant of a timestamp that is an integer, zero among them. -/
theorem instant_of_int {message : Members} {millis : Int}
    (h : Json.lookup "timestamp" message = some (.int millis)) :
    instant message = match Instant.ofMillis millis with
      | .ok t => .ok t
      | .error why =>
        if Numeral.fits millis then blame message fun s => .badTimestamp s millis (.badInstant why)
        else .error .numeralTooLong := by
  have hgiven : (Json.nonempty? (Json.lookup "timestamp" message)).getD (.int 0) =
      .int millis := by
    rw [h]
    by_cases hz : millis = 0
    · simp [Json.nonempty?, Json.isEmpty, hz]
    · simp [Json.nonempty?, Json.isEmpty, hz]
  unfold instant
  rw [hgiven]
  rfl

theorem instant_members (m : Message) :
    instant m.members = match Instant.ofMillis m.timestamp with
      | .ok t => .ok t
      | .error why =>
        if Numeral.fits m.timestamp then
          blame m.members fun s => .badTimestamp s m.timestamp (.badInstant why)
        else .error .numeralTooLong :=
  instant_of_int rfl

theorem isDecodeFault_of_instant {message : Members} {millis : Int} {f : Fault}
    (hsource : ∃ s, source message = .ok s)
    (htime : Json.lookup "timestamp" message = some (.int millis))
    (hfits : Numeral.fits millis = true) (h : instant message = .error f) : IsDecodeFault f := by
  rw [instant_of_int htime] at h
  cases ho : Instant.ofMillis millis with
  | ok t =>
    rw [ho] at h
    cases h
  | error why =>
    rw [ho] at h
    dsimp only at h
    rw [if_pos hfits] at h
    exact isDecodeFault_of_blame hsource (fun s => ⟨rfl, rfl⟩) h

/-- How a message fails to become a record: with a fault of decoding, or in one of two other ways.
Where it cannot be written where it stands, or is not shallow, its fault need not tell of it. -/
def FailsWith (m : Message) (f : Fault) : Prop :=
  IsDecodeFault f ∨ (¬m.Fits ∧ f.IsOfWriting) ∨
    ¬m.IsShallow ∧ ∃ container, f = .badJson (.tooDeep container)

theorem failsWith_of_untold {f : Fault} (h : ∀ s, source m.members ≠ .ok s) (hf : f.IsOfWriting) :
    FailsWith m f := by
  refine .inr (.inl ⟨fun hfits => ?_, hf⟩)
  obtain ⟨s, hs⟩ := source_members hfits
  exact h s hs

theorem failsWith_of_blame {α : Type} {fault : Text → Fault} {f : Fault}
    (hfault : ∀ s, IsDecodeFault (fault s))
    (h : (blame m.members fault : Except Fault α) = .error f) : FailsWith m f := by
  rcases of_blame hfault h with hf | ⟨hf, hsource⟩
  · exact .inl hf
  · exact failsWith_of_untold hsource hf

theorem failsWith_of_payload {f : Fault} (h : payload m.members = .error f) : FailsWith m f := by
  cases refusesWith_of_payload h with
  | decoding hf => exact .inl hf
  | notText hvalue =>
    rw [payload_members] at h
    cases hv : m.value with
    | none =>
      rw [hv] at h
      cases h
    | some t => exact absurd (lookup_value_iff.mpr hv) (hvalue t)
  -- Such a fault is passed on as it is, but a shallow payload has none.
  | @tooDeep t container hvalue hparse =>
    obtain ⟨bytes, document, hbytes, hne, hdocument, hread⟩ := document_of_tooDeep hparse
    refine .inr (.inr ⟨fun hshallow => ?_, container, rfl⟩)
    obtain ⟨hdepth, -⟩ := hshallow document ⟨t, bytes, hvalue, hbytes, hne, hdocument⟩
    exact Json.read_ne_tooDeep rfl hdepth hread
  | untold hsource hf => exact failsWith_of_untold hsource hf

theorem failsWith_of_instant {f : Fault} (h : instant m.members = .error f) : FailsWith m f := by
  rw [instant_members] at h
  split at h
  · cases h
  · split_ifs at h with hfits
    · exact failsWith_of_blame (fun s => ⟨rfl, rfl⟩) h
    · cases h
      exact .inr (.inl ⟨fun hm => hfits hm.timestamp, .inl rfl⟩)

theorem failsWith_of_ofMessage {f : Fault} (h : ofMessage m.members = .error f) :
    FailsWith m f := by
  rw [ofMessage_members] at h
  rcases bind_eq_error_iff.mp h with hpayload | ⟨fields, -, h⟩
  · exact failsWith_of_payload hpayload
  rcases bind_eq_error_iff.mp h with hinstant | ⟨time, -, h⟩
  · exact failsWith_of_instant hinstant
  · cases h

/-- A message that does not become a record fails with a fault of decoding. -/
theorem isDecodeFault_of_ofMessage {f : Fault} (hfits : m.Fits) (hshallow : m.IsShallow)
    (h : ofMessage m.members = .error f) : IsDecodeFault f := by
  rcases failsWith_of_ofMessage h with hf | ⟨hunfit, -⟩ | ⟨hdeep, -⟩
  · exact hf
  · exact absurd hfits hunfit
  · exact absurd hshallow hdeep

theorem nesting_of_payload {fields : Members} (hshallow : m.IsShallow)
    (h : payload m.members = .ok fields) : Json.nestingMembers 1 fields ≤ Stack.writing := by
  rcases payload_eq_ok_iff.mp h with ⟨-, rfl⟩ | ⟨document, hdocument, hspells⟩
  · exact Nat.zero_le _
  · have hroom : (Json.obj fields).nesting 1 ≤ Stack.writing + 1 :=
      (Json.nesting_le_depth hspells).trans (hshallow document hdocument).2
    cases fields with
    | nil => exact Nat.zero_le _
    | cons m rest => exact Nat.le_of_succ_le_succ hroom

/-- A message that is not nested too deeply becomes a record that can be written. -/
theorem isRenderable_of_ofMessage {r : Record} (hfits : m.Fits) (hshallow : m.IsShallow)
    (h : ofMessage m.members = .ok r) : r.IsRenderable := by
  rw [ofMessage_members] at h
  obtain ⟨fields, hfields, h⟩ := bind_eq_ok_iff.mp h
  obtain ⟨time, -, h⟩ := bind_eq_ok_iff.mp h
  cases h
  exact isRenderable_of_fits hfits.partition hfits.offset (writable_of_payload hfields)
    (nesting_of_payload hshallow hfields)

omit [Stack] in
theorem ofMillis_zero : Instant.ofMillis 0 = .ok ⟨⟨1970, 1, 1⟩, 0, 0, 0, 0⟩ := by
  decide +kernel

/-- A message without a time is a record from the first of days. -/
theorem ofMessage_of_payload {fields : Members} (htime : m.timestamp = 0)
    (hfields : payload m.members = .ok fields) :
    ofMessage m.members =
      .ok ⟨m.topic, .int m.partition, .int m.offset, ⟨⟨1970, 1, 1⟩, 0, 0, 0, 0⟩, fields⟩ := by
  rw [ofMessage_members, hfields, instant_members, htime, ofMillis_zero]
  rfl

theorem ofMessage_of_bare {m : Message} (hvalue : m.value = none) (htime : m.timestamp = 0) :
    ofMessage m.members =
      .ok ⟨m.topic, .int m.partition, .int m.offset, ⟨⟨1970, 1, 1⟩, 0, 0, 0, 0⟩, []⟩ :=
  ofMessage_of_payload htime (by rw [payload_members, hvalue])

end Record

end TopicSink
