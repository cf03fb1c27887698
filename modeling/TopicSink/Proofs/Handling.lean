import TopicSink.Handler
import TopicSink.Proofs.Batches
import TopicSink.Proofs.Deliveries
import TopicSink.Proofs.Payloads
import TopicSink.Proofs.Submissions

namespace TopicSink

namespace Handler

/-- Whether an event asks for an insertion: it names no operation, or that one in any case. -/
def IsInsertion (event : Members) : Prop :=
  ∀ v, Json.nonempty? (Json.lookup "operation" event) = some v →
    ∃ t : Text, v = .str t ∧ t.lower = "insert"

variable [Stack] {validate : Validator} {cluster : Cluster} {settings : Settings} {c : Connection}
  {event : Members}

/-- An operation that is named by a text is looked for in lower case. -/
theorem operationName_of_text {t : Text}
    (h : Json.nonempty? (Json.lookup "operation" event) = some (.str t)) :
    operationName event = .ok t.lower := by
  unfold operationName
  rw [h]
  dsimp only
  rw [Record.text_str, Except.map]

theorem operationName_of_insertion (h : IsInsertion event) :
    operationName event = .ok "insert" := by
  cases hv : Json.nonempty? (Json.lookup "operation" event) with
  | none =>
    unfold operationName
    rw [hv]
  | some v =>
    obtain ⟨t, rfl, ht⟩ := h v hv
    rw [operationName_of_text hv, ht]

theorem handle_of_insertion (h : IsInsertion event) (validate : Validator) (cluster : Cluster)
    (settings : Settings) (c : Connection) :
    handle validate cluster settings (.obj event) c = insert validate cluster settings event c := by
  unfold handle
  dsimp only
  rw [operationName_of_insertion h, Act.bind_of_ok (Act.ofExcept_apply _ c)]
  rfl

theorem insert_of_decoded {checked : InsertEvent} {records : List Record}
    (hvalid : validate event = .ok checked) (hdecode : decode checked = .ok records)
    (cluster : Cluster) (settings : Settings) :
    insert validate cluster settings event = write cluster settings records := by
  unfold insert
  rw [hvalid]
  have hboth : (Except.ok checked >>= decode) = .ok records := hdecode
  rw [hboth]

omit [Stack] in
theorem isQuiet_respond (status : Int) (message : Text) (f : Fault) :
    Act.IsQuiet (respond status message f) := by
  intro c
  unfold respond Response.ofFault
  cases f.told <;> simp [Act.bind_apply]

omit [Stack] in
theorem isQuiet_onInsertFault (f : Fault) : Act.IsQuiet (onInsertFault f) := by
  unfold onInsertFault
  split_ifs
  · exact isQuiet_respond 422 _ f
  · exact isQuiet_respond 503 _ f
  · exact isQuiet_respond 502 _ f
  · exact fun c => ⟨rfl, rfl⟩

/-- Beyond what the insertion of the records asks and changes, nothing is asked or changed. -/
theorem write_asks_insert (cluster : Cluster) (settings : Settings) (records : List Record)
    (c : Connection) :
    (write cluster settings records c).calls = (Sink.insert cluster settings records c).calls ∧
      (write cluster settings records c).state = (Sink.insert cluster settings records c).state := by
  unfold write
  rw [Act.bind_of_ok (Act.attempt_apply (Sink.insert cluster settings records) c)]
  cases (Sink.insert cluster settings records c).outcome with
  | ok _ => exact ⟨List.append_nil _, rfl⟩
  | error f =>
    obtain ⟨hcalls, hstate⟩ := isQuiet_onInsertFault f (Sink.insert cluster settings records c).state
    refine ⟨?_, hstate⟩
    change _ ++ (onInsertFault f _).calls = _
    rw [hcalls, List.append_nil]

/-- Two entries are what a converted value amounts to: the two operations of the record that the
message becomes. -/
def IsWritten (convert : Json → Option Message) (settings : Settings) (v : Json)
    (entries : List Json) : Prop :=
  ∃ m r action document, convert v = some m ∧ Record.ofMessage m.members = .ok r ∧
    Sink.AreOperationsOf settings r action document ∧ entries = [action, document]

theorem operations_of_decoded {convert : Json → Option Message} {checked : InsertEvent}
    {records : List Record} {operations : List Json} {vs : List Json}
    (hvs : List.Forall₂ (fun v m => convert v = some m) vs checked.inOrder)
    (hdecode : decode checked = .ok records)
    (hderive : Sink.operationsOf settings records = .ok operations) :
    ∃ entries, List.Forall₂ (IsWritten convert settings) vs entries ∧
      operations = entries.flatten := by
  have hrecords := mapM_eq_ok_iff.mp hdecode
  obtain ⟨entries, hentries, hoperations⟩ := Sink.operationsOf_eq_ok_iff.mp hderive
  refine ⟨entries, ?_, hoperations⟩
  -- Values, messages, records and entries stand side by side, one of each for every message.
  refine (forall₂_trans (forall₂_trans hvs hrecords) hentries).imp ?_
  rintro v e ⟨r, ⟨m, hm, hr⟩, he⟩
  obtain ⟨index, id, hindex, hid, he⟩ := Sink.entriesOf_eq_ok_iff.mp he
  exact ⟨m, r, _, _, hm, hr, Sink.areOperationsOf hindex hid, he⟩

theorem decode_length {checked : InsertEvent} {records : List Record}
    (hdecode : decode checked = .ok records) : checked.inOrder.length = records.length :=
  (mapM_eq_ok_iff.mp hdecode).length_eq

/-- No message is lost, doubled or put out of order. The operations of an insertion are two for each
message, the index action and the fields that are not hidden of the record that it becomes, the keys
taken in ascending order and the messages under a key as delivered. They go out in one bulk request,
unless there are none or no client. Any other valid event with the same operation, keys and
messages, whatever else it holds and in whatever order its keys stand, is handled the same. -/
theorem insert_in_order (validate : Validator) (convert : Json → Option Message) (cluster : Cluster)
    (settings : Settings) (c : Connection) (event : Members) (checked : InsertEvent)
    (records : List Record) (operations : List Json) (hconverts : validate.Converts convert)
    (hinsertion : IsInsertion event) (hnodup : ((InsertEvent.keysOf event).map Prod.fst).Nodup)
    (hvalid : validate event = .ok checked) (hdecode : decode checked = .ok records)
    (hderive : (Sink.buildActions settings records c).outcome = .ok operations) :
    let report := handle validate cluster settings (.obj event) c
    (∃ arranged entries, InsertEvent.IsArranged event arranged ∧
      List.Forall₂ (IsWritten convert settings) (arranged.flatMap Prod.snd) entries ∧
      operations = entries.flatten ∧
      operations.length = 2 * (arranged.map fun p => p.2.length).sum ∧
      (arranged.flatMap Prod.snd = [] → report.calls = []) ∧
      (arranged.flatMap Prod.snd ≠ [] →
        c.live ≠ none ∨ Connection.refusal cluster settings = none →
          Sink.bulkOperations report.calls = [operations]) ∧
      (c.live = none → Connection.refusal cluster settings ≠ none →
        Sink.bulkOperations report.calls = [])) ∧
    ∀ event' checked', Json.lookup "operation" event' = Json.lookup "operation" event →
      validate event' = .ok checked' →
        InsertEvent.SameDelivery (InsertEvent.keysOf event) (InsertEvent.keysOf event') →
          handle validate cluster settings (.obj event') c = report := by
  intro report
  have hreport : report = write cluster settings records c := by
    have hhandle : report = insert validate cluster settings event c :=
      handle_of_insertion hinsertion validate cluster settings c
    rw [hhandle, insert_of_decoded hvalid hdecode]
  rw [Sink.buildActions_outcome] at hderive
  constructor
  · obtain ⟨arranged, harranged, hmessages⟩ :=
      InsertEvent.exists_arranged hnodup (hconverts.keeps event checked hvalid)
    obtain ⟨entries, hentries, hoperations⟩ := operations_of_decoded hmessages hdecode hderive
    have hlength : (arranged.flatMap Prod.snd).length = records.length :=
      hmessages.length_eq.trans (decode_length hdecode)
    have hempty : arranged.flatMap Prod.snd = [] ↔ records = [] := by
      rw [← List.length_eq_zero_iff, hlength, List.length_eq_zero_iff]
    have hcalls : report.calls = (Sink.insert cluster settings records c).calls := by
      rw [hreport]
      exact (write_asks_insert cluster settings records c).1
    obtain ⟨hnone, hone, hunavailable⟩ := Sink.bulkOperations_insert hderive cluster c
    refine ⟨arranged, entries, harranged, hentries, hoperations, ?_, ?_, ?_, ?_⟩
    · rw [Sink.operationsOf_length hderive, ← hlength, List.length_flatMap]
    · intro h
      rw [hcalls]
      exact hnone (hempty.mp h)
    · intro h havailable
      rw [hcalls]
      exact hone (fun hnil => h (hempty.mpr hnil)) havailable
    · intro hl hf
      rw [hcalls]
      exact hunavailable hl hf
  · intro event' checked' hoperation hvalid' hsame
    have hinsertion' : IsInsertion event' := by
      unfold IsInsertion
      rw [hoperation]
      exact hinsertion
    have hdecode' : decode checked' = .ok records := by
      -- The messages are the same and taken in the same order, and so are their records.
      have horder := InsertEvent.inOrder_eq_of_same hconverts hnodup hvalid hvalid' hsame
      unfold decode at hdecode ⊢
      rw [← horder]
      exact hdecode
    rw [handle_of_insertion hinsertion', insert_of_decoded hvalid' hdecode', hreport]

/-- The fields of an order that a password stands in. -/
def orderFields (n : Int) : Members := [("n", .int n), ("password", .str "x")]

def orderMessage (n : Int) : Message :=
  ⟨"orders", 0, n, 0, some (Record.encodePayload (orderFields n))⟩

def orderRecord (n : Int) : Record :=
  ⟨"orders", .int 0, .int n, ⟨⟨1970, 1, 1⟩, 0, 0, 0, 0⟩, orderFields n⟩

theorem ofMessage_orderMessage {n : Int} (hn : Numeral.fits n = true)
    (hroom : Record.payloadLimits.Allow 1) :
    Record.ofMessage (orderMessage n).members = .ok (orderRecord n) := by
  have hsimple : Json.IsSimple 1 (.obj (orderFields n)) := by
    simp only [orderFields, Json.isSimple_obj_iff, List.forall_mem_cons, List.map_cons,
      List.map_nil, Json.isSimple_int_iff, Json.isSimple_str_iff, hn, List.not_mem_nil,
      false_implies, implies_true, and_true]
    decide
  exact Record.ofMessage_of_payload rfl (Record.payload_encoded rfl hsimple hroom)

theorem isRenderable_orderRecord {n : Int} (hn : Numeral.fits n = true) :
    (orderRecord n).IsRenderable := by
  have hzero : Numeral.fits 0 = true := Numeral.fits_of_fitsWord (by decide)
  have hfields : Json.writableMembers (orderFields n) = true := by
    simp [orderFields, Json.writableMembers, Json.writable, hn]
  exact Record.isRenderable_of_fits hzero hn hfields (Nat.zero_le _)

omit [Stack] in
theorem inOrder_orderMessages :
    InsertEvent.inOrder [("b", [orderMessage 1]), ("a", [orderMessage 2, orderMessage 3])] =
      [orderMessage 2, orderMessage 3, orderMessage 1] := by
  rw [InsertEvent.inOrder_eq, InsertEvent.byKey_eq_of_perm (.swap _ _ _) (by decide),
    InsertEvent.byKey, List.mergeSort_of_pairwise (by decide)]
  rfl

omit [Stack] in
/-- Three messages under two keys with a hidden column each, and the same with the keys the other
way round. -/
theorem insert_in_order_two_keys :
    letI := Stack.usual
    let settings : Settings := { Settings.default with hiddenColumns := ["password"] }
    let message (n : Int) : Json :=
      .obj [("topic", .str "orders"), ("partition", .int 0), ("offset", .int n),
        ("value", .str (Record.encodePayload (orderFields n)))]
    let event : Members :=
      [("records", .obj [("b", .arr [message 1]), ("a", .arr [message 2, message 3])])]
    let event' : Members :=
      [("eventSource", .str "aws:kafka"),
        ("records", .obj [("a", .arr [message 2, message 3]), ("b", .arr [message 1])])]
    let cluster : Cluster :=
      ⟨fun _ _ => none, .ok (.bare (.obj [])), .ok (.bare (.obj [])), none⟩
    let report := handle InsertEvent.validator cluster settings (.obj event) Connection.initial
    (∃ operations, Sink.bulkOperations report.calls = [operations] ∧ operations.length = 6 ∧
      operations[1]? = some (.obj [("n", .int 2)]) ∧ operations[3]? = some (.obj [("n", .int 3)]) ∧
        operations[5]? = some (.obj [("n", .int 1)])) ∧
      handle InsertEvent.validator cluster settings (.obj event') Connection.initial = report := by
  let _ : Stack := Stack.usual
  intro settings message event event' cluster report
  have hfits : ∀ n ∈ ([2, 3, 1] : List Int), Numeral.fits n = true := by
    intro n hn
    apply Numeral.fits_of_fitsWord
    revert n
    decide
  have hinsertion : IsInsertion event := by
    intro v hv
    cases hv
  have hvalid : InsertEvent.validator event =
      .ok [("b", [orderMessage 1]), ("a", [orderMessage 2, orderMessage 3])] := rfl
  have hvalid' : InsertEvent.validator event' =
      .ok [("a", [orderMessage 2, orderMessage 3]), ("b", [orderMessage 1])] := rfl
  -- The key `a` comes first, although it stands behind `b`.
  have hdecode : decode [("b", [orderMessage 1]), ("a", [orderMessage 2, orderMessage 3])] =
      .ok ([2, 3, 1].map orderRecord) := by
    have hroom : Record.payloadLimits.Allow 1 :=
      ⟨rfl, fun n hn => (Option.some.inj hn) ▸ by decide⟩
    have hrecord : ∀ n ∈ ([2, 3, 1] : List Int),
        Record.ofMessage (orderMessage n).members = .ok (orderRecord n) :=
      fun n hn => ofMessage_orderMessage (hfits n hn) hroom
    rw [decode, inOrder_orderMessages, mapM_eq_ok_iff]
    exact .cons (hrecord 2 (by decide)) (.cons (hrecord 3 (by decide))
      (.cons (hrecord 1 (by decide)) .nil))
  have hrenderable : ∀ r ∈ [2, 3, 1].map orderRecord, r.IsRenderable :=
    List.forall_mem_map.mpr fun n hn => isRenderable_orderRecord (hfits n hn)
  have hpresent : ∀ r ∈ [2, 3, 1].map orderRecord, Sink.missing? settings r = none := fun _ _ => rfl
  obtain ⟨operations, hoperations⟩ := Sink.operationsOf_of_present hrenderable hpresent
  have hderive : (Sink.buildActions settings ([2, 3, 1].map orderRecord)
      Connection.initial).outcome = .ok operations := by
    rw [Sink.buildActions_outcome, hoperations]
  have hsame : ∀ n, InsertEvent.SameMessage (message n) (message n) :=
    fun n => ⟨_, _, rfl, rfl, fun _ _ => rfl⟩
  have hkeys : InsertEvent.SameDelivery (InsertEvent.keysOf event) (InsertEvent.keysOf event') :=
    ⟨_, .swap _ _ _, .cons ⟨rfl, _, _, rfl, rfl, .cons (hsame 2) (.cons (hsame 3) .nil)⟩
      (.cons ⟨rfl, _, _, rfl, rfl, .cons (hsame 1) .nil⟩ .nil)⟩
  obtain ⟨⟨arranged, entries, harranged, hentries, -, hlength, -, hone, -⟩, hsecond⟩ :=
    insert_in_order InsertEvent.validator InsertEvent.message? cluster settings Connection.initial
      event _ _ operations InsertEvent.converts_validator hinsertion (by decide) hvalid hdecode
      hderive
  have hsix : operations.length = 6 := Sink.operationsOf_length hoperations
  have hdocument : ∀ i n, ([2, 3, 1].map orderRecord)[i]? = some (orderRecord n) →
      operations[2 * i + 1]? = some (.obj [("n", .int n)]) := by
    intro i n hi
    obtain ⟨index, id, -, -, -, hdocument⟩ := Sink.operationsOf_getElem? hoperations hi
    exact hdocument
  refine ⟨⟨operations, hone ?_ (.inr rfl), hsix, hdocument 0 2 rfl, hdocument 1 3 rfl,
    hdocument 2 1 rfl⟩, hsecond event' _ rfl hvalid' hkeys⟩
  intro hnil
  have hnone : (arranged.map fun p => p.2.length).sum = 0 := by
    rw [← List.length_flatMap, hnil]
    rfl
  rw [hsix, hnone] at hlength
  cases hlength

end Handler

end TopicSink
