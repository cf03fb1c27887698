import TopicSink.Proofs.Instants
import TopicSink.Proofs.RoundTrips

namespace TopicSink

theorem Base64.encode_ne_nil {bytes : Bytes} (h : bytes ≠ []) : encode bytes ≠ [] := by
  intro hempty
  have hdecode := decode_encode bytes
  rw [hempty] at hdecode
  exact h (Except.ok.inj hdecode).symm

namespace Record

def encodePayload (fields : Members) : Text :=
  Base64.encode (Encoding.encodeUtf8 (Json.compact (.obj fields)))

variable [Stack] {fields : Members} {depth : Nat}

omit [Stack] in
theorem encodeUtf8_compact_ne_nil (fields : Members) :
    Encoding.encodeUtf8 (Json.compact (.obj fields)) ≠ [] := by
  have hopening : ∃ t, Json.compact (.obj fields) = CodePoint.ofChar '\x7b' :: t := by
    cases fields <;> exact ⟨_, rfl⟩
  obtain ⟨t, ht⟩ := hopening
  rw [ht, Encoding.encodeUtf8_cons, Encoding.utf8Point_of_ascii (by decide)]
  exact List.cons_ne_nil _ _

theorem parseBytes_compact (hfields : Json.IsSimple depth (.obj fields))
    (hdepth : payloadLimits.Allow depth) :
    parseBytes (Encoding.encodeUtf8 (Json.compact (.obj fields))) = .ok (.obj fields) := by
  have hplain : (Json.compact (.obj fields)).IsPlain :=
    hfields.isPlain_print (by decide) (by decide)
  have hread : Json.read payloadLimits (Json.compact (.obj fields)) = .ok (.obj fields) :=
    hfields.read_print Json.isBlankStyle_compact hdepth
  have hnonempty : (Encoding.encodeUtf8 (Json.compact (.obj fields))).isEmpty = false :=
    List.isEmpty_eq_false_iff.mpr (encodeUtf8_compact_ne_nil fields)
  unfold parseBytes
  rw [hnonempty, Encoding.decodeDocument_encodeUtf8 hplain]
  dsimp only
  rw [hread]
  rfl

/-- Encoded fields are read as the fields. -/
theorem payload_encoded {message : Members}
    (hvalue : Json.lookup "value" message = some (.str (encodePayload fields)))
    (hfields : Json.IsSimple depth (.obj fields)) (hdepth : payloadLimits.Allow depth) :
    payload message = .ok fields := by
  have hnonempty : (encodePayload fields).isEmpty = false :=
    List.isEmpty_eq_false_iff.mpr (Base64.encode_ne_nil (encodeUtf8_compact_ne_nil fields))
  have hgiven : Json.nonempty? (Json.lookup "value" message) =
      some (.str (encodePayload fields)) := by
    rw [hvalue, Json.nonempty?, Json.isEmpty, hnonempty]
    rfl
  have hparse : parsePayload (encodePayload fields) = .ok (.obj fields) := by
    unfold parsePayload encodePayload
    rw [Base64.decode_encode]
    exact parseBytes_compact hfields hdepth
  unfold payload
  rw [hgiven]
  dsimp only
  rw [hparse]

/-- Fields that JSON holds without loss come back from a message as they were put into it. -/
theorem ofMessage_encoded {message : Members} {topic : Text} {partition offset millis : Int}
    (hvalue : Json.lookup "value" message = some (.str (encodePayload fields)))
    (htopic : Json.lookup "topic" message = some (.str topic))
    (hpartition : Json.lookup "partition" message = some (.int partition))
    (hoffset : Json.lookup "offset" message = some (.int offset))
    (htime : Json.lookup "timestamp" message = some (.int millis))
    (hrange : -62135596800000 ≤ millis ∧ millis ≤ 253402300799999)
    (hfields : Json.IsSimple depth (.obj fields)) (hdepth : payloadLimits.Allow depth) :
    ∃ time, Instant.ofMillis millis = .ok time ∧
      ofMessage message = .ok ⟨topic, .int partition, .int offset, time, fields⟩ := by
  obtain ⟨time, hmillis⟩ := (Instant.ofMillis_spec millis).1.mpr hrange
  have hinstant : instant message = .ok time := by
    rw [instant_of_int htime, hmillis]
  have hpayload := payload_encoded hvalue hfields hdepth
  refine ⟨time, hmillis, ?_⟩
  rw [ofMessage_eq_map hpayload htopic rfl hpartition rfl hoffset rfl, hinstant]
  rfl

omit [Stack] in
/-- Nested values, a negative number, an escape and a code point beyond the basic plane. -/
theorem ofMessage_encoded_nested :
    letI := Stack.usual
    let fields : Members :=
      [("id", .int (-7)),
        ("tags", .arr [.null, .bool true, .obj [("say \"hi\"", .str "\n😀")]])]
    let message : Members :=
      [("topic", .str "orders"), ("partition", .int 0), ("offset", .int 3),
        ("timestamp", .int 253402300799999), ("value", .str (encodePayload fields))]
    Json.IsSimple 3 (.obj fields) ∧
      ∃ time, Instant.ofMillis 253402300799999 = .ok time ∧
        ofMessage message = .ok ⟨"orders", .int 0, .int 3, time, fields⟩ := by
  let _ : Stack := Stack.usual
  intro fields message
  have hid : Numeral.fits (-7) = true := Numeral.fits_of_fitsWord (by decide)
  have hfields : Json.IsSimple 3 (.obj fields) := by
    simp only [fields, Json.isSimple_obj_iff, Json.isSimple_arr_iff, List.forall_mem_cons,
      List.not_mem_nil, false_implies, implies_true, and_true, Json.isSimple_int_iff, Json.isSimple_bool_iff,
      Json.isSimple_str_iff, Json.IsSimple.null, hid]
    decide
  have hdepth : payloadLimits.Allow 3 := ⟨rfl, fun n hn => by
    rw [← Option.some.inj hn]
    decide⟩
  exact ⟨hfields, ofMessage_encoded rfl rfl rfl rfl rfl (by omega) hfields hdepth⟩

end Record

end TopicSink
