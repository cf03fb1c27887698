import TopicSink.Proofs.Answers
import TopicSink.Proofs.Reading
import TopicSink.Proofs.RoundTrips

namespace TopicSink

/-- A body that was read from a JSON text, with no more room than is left behind it for what is
shown of the results in it: four arrays and objects stand around each part of a result. -/
def Json.IsReceived [Stack] (body : Json) : Prop :=
  ∃ document room, room ≤ Stack.telling + 4 ∧
    Json.read ⟨some Numeral.limit, some room⟩ document = .ok body

namespace Sink

def failureText (first : Text × Members) (n : Nat) : Text :=
  "failed to index document " ++ (partOf first "_id").display ++ " into "
    ++ (partOf first "_index").display ++ ": " ++ (partOf first "error").display
    ++ if 1 < n then " (and " ++ Text.ofNat (n - 1) ++ " more failed documents)" else []

section Entries

variable {members : Members} {items : List Json}

/-- The failed entries of an answer that flags errors are among those of its items. -/
theorem failedIn_eq (hflag : flagsErrors members = true)
    (hitems : (Json.lookup "items" members).getD (.arr []) = .arr items) :
    failedIn members = (items.flatMap resultsIn).filter fun entry => TellsFailure entry := by
  have hin : itemsIn members = items := by
    rw [itemsIn, hitems]
    rfl
  rw [failedIn, if_pos hflag, hin]

theorem isBulkAnswer_of_items (hitems : (Json.lookup "items" members).getD (.arr []) = .arr items)
    (hall : ∀ item ∈ items, IsItem item) : IsBulkAnswer members := by
  intro _
  have hin : itemsIn members = items := by
    rw [itemsIn, hitems]
    rfl
  rw [hin]
  exact ⟨⟨items, by rw [hitems]; rfl⟩, hall⟩

theorem rejectedText_described (first : Text × Members) (others : List (Text × Members)) :
    Fault.rejectedText ((first :: others).map described) =
      failureText first (first :: others).length := by
  have hid : Fault.shown "id" ((first :: others).map described) =
      (partOf first "_id").display := rfl
  have hindex : Fault.shown "index" ((first :: others).map described) =
      (partOf first "_index").display := rfl
  have herror : Fault.shown "error" ((first :: others).map described) =
      (partOf first "error").display := rfl
  unfold Fault.rejectedText failureText
  rw [hid, hindex, herror, List.length_map]
  split_ifs
  · simp only [List.append_assoc]
  · rw [List.append_nil]

/-- An entry of an item is a member of it. -/
theorem mem_of_mem_resultsIn {item : Json} {entry : Text × Members} (h : entry ∈ resultsIn item) :
    ∃ results, item = .obj results ∧ (entry.1, Json.obj entry.2) ∈ results := by
  cases item with
  | obj results =>
    obtain ⟨⟨op, v⟩, hm, hsome⟩ := List.mem_filterMap.mp h
    cases v with
    | obj result =>
      cases hsome
      exact ⟨results, rfl, hm⟩
    | _ => cases hsome
  | _ => cases h

variable [Stack]

/-- What is read from a text can be told. -/
theorem canBeTold_of_received (hreceived : Json.IsReceived (.obj members))
    (hitems : (Json.lookup "items" members).getD (.arr []) = .arr items)
    {entry : Text × Members} (hentry : entry ∈ items.flatMap resultsIn) : CanBeTold entry := by
  obtain ⟨document, room, hroom, hread⟩ := hreceived
  obtain ⟨item, hitem, hresult⟩ := List.mem_flatMap.mp hentry
  obtain ⟨results, rfl, hmember⟩ := mem_of_mem_resultsIn hresult
  have hlookup : Json.lookup "items" members = some (.arr items) := by
    cases hl : Json.lookup "items" members with
    | none =>
      rw [hl] at hitems
      cases hitems
      cases hitem
    | some v =>
      rw [hl] at hitems
      exact congrArg some hitems
  -- Down from the answer: its items, an item, and the result of an operation.
  have hwritable := Json.writable_of_lookup (Json.writable_of_read rfl hread) hlookup
  have hwritable' := Json.writableAll_iff.mp hwritable _ hitem
  have hresultWritable := Json.writableMembers_iff.mp hwritable' _ hmember
  have hanswer : (Json.obj members).nesting 1 ≤ room := Json.nesting_of_read rfl hread
  have hdepth : (Json.arr items).nesting 1 + 1 ≤ _ := Json.nesting_member (Json.mem_of_lookup hlookup)
  have hdepth' : Json.nesting 1 _ + 1 ≤ _ := Json.nesting_element hitem
  have hdepth'' : Json.nesting 1 _ + 1 ≤ _ := Json.nesting_member hmember
  intro name _
  unfold partOf
  cases hl : Json.lookup name entry.2 with
  | none => exact ⟨rfl, Nat.zero_le _⟩
  | some v =>
    have hv : v.nesting 1 + 1 ≤ _ := Json.nesting_member (Json.mem_of_lookup hl)
    have hshown := Json.nesting_mono (Nat.zero_le 1) v
    refine ⟨Json.writable_of_lookup hresultWritable hl, ?_⟩
    dsimp only at hdepth hdepth' hdepth'' hv
    rw [Option.getD_some]
    omega

end Entries

variable [Stack]

/-- Every rejected document is reported, once and in order. Where an answer that was read from a
text flags errors and its items hold results, whatever their number and bare or in an envelope, an
insertion that got to its bulk request fails with a report exactly if some of them tell of a
failure, and ends well otherwise. The report has all that do, described in order, and a message
about the first of them that counts the others if there are any. -/
theorem insert_reports_failures (cluster : Cluster) (settings : Settings) (c : Connection)
    (records : List Record) (answer : Answer) (members : Members) (items : List Json)
    (hrequest : bulkOperations (insert cluster settings records c).calls ≠ [])
    (hbulk : cluster.bulk = .ok answer) (hbody : answer.body = .obj members)
    (hreceived : answer.body.IsReceived) (hflag : flagsErrors members = true)
    (hitems : (Json.lookup "items" members).getD (.arr []) = .arr items)
    (hall : ∀ item ∈ items, IsItem item) :
    let outcome := (insert cluster settings records c).outcome
    let entries := items.flatMap resultsIn
    let failed := entries.filter fun entry => TellsFailure entry
    (outcome = .ok () ↔ ∀ entry ∈ entries, ¬TellsFailure entry) ∧
      ((∃ fault, outcome = .error fault ∧ fault.kind = .partialWrite) ↔
        ∃ entry ∈ entries, TellsFailure entry) ∧
      ∀ first others, failed = first :: others →
        ∃ fault, outcome = .error fault ∧ fault.kind = .partialWrite ∧
          fault.failures = some (failed.map described) ∧
          fault.message = failureText first failed.length := by
  intro outcome entries failed
  have houtcome : outcome = bulkOutcome cluster := outcome_of_request hrequest
  have hfailedIn : failedIn members = failed := failedIn_eq hflag hitems
  have hcases := bulkOutcome_of_answer hbulk hbody (isBulkAnswer_of_items hitems hall)
  rw [← houtcome, hfailedIn] at hcases
  rw [hbody] at hreceived
  -- Nothing failed, or the first failed entry can be told since the answer was read.
  rcases hcases with ⟨hnil, hok⟩ | ⟨first, others, hfailed, hends⟩
  · have hnone : ∀ entry ∈ entries, ¬TellsFailure entry := by
      intro entry hentry htells
      exact List.filter_eq_nil_iff.mp hnil entry hentry (decide_eq_true htells)
    refine ⟨⟨fun _ => hnone, fun _ => hok⟩, ⟨?_, ?_⟩, fun first others hfailed => ?_⟩
    · rintro ⟨fault, hfault, -⟩
      rw [hok] at hfault
      cases hfault
    · rintro ⟨entry, hentry, htells⟩
      exact absurd htells (hnone entry hentry)
    · cases hnil.symm.trans hfailed
  · have hfirst : first ∈ failed := by
      rw [hfailed]
      exact List.mem_cons_self
    obtain ⟨hentry, hdecided⟩ := List.mem_filter.mp hfirst
    have htells : TellsFailure first := of_decide_eq_true hdecided
    have htold : CanBeTold first := canBeTold_of_received hreceived hitems hentry
    have hreport : outcome = .error (.rejected (failed.map described)) :=
      hends.elim And.right fun h => absurd htold h.1
    refine ⟨⟨fun hok => ?_, fun hnone => absurd htells (hnone first hentry)⟩,
      ⟨fun _ => ⟨first, hentry, htells⟩, fun _ => ⟨_, hreport, rfl⟩⟩, fun first' others' hother => ?_⟩
    · rw [hok] at hreport
      cases hreport
    · cases hfailed.symm.trans hother
      refine ⟨_, hreport, rfl, rfl, ?_⟩
      rw [hfailed]
      exact rejectedText_described first others

def conflict : Members :=
  [("_index", .str "orders"), ("_id", .str "b"), ("status", .int 409), ("error", .str "conflict")]

omit [Stack] in
/-- One document is accepted, one meets a conflict, and one operation has no status. -/
theorem insert_reports_failures_conflict :
    letI := Stack.usual
    let accepted : Members := [("_index", .str "orders"), ("_id", .str "a"), ("status", .int 201)]
    let items : List Json := [.obj [("index", .obj accepted)],
      .obj [("index", .obj conflict), ("create", .obj [("_id", .str "c")])]]
    let members : Members := [("errors", .bool true), ("items", .arr items)]
    let cluster : Cluster :=
      ⟨fun _ _ => none, .ok (.enveloped (.obj members)), .ok (.bare .null), none⟩
    let r : Record := ⟨"orders", .int 0, .int 7, ⟨⟨2024, 1, 1⟩, 0, 0, 0, 0⟩, []⟩
    ∃ fault, (insert cluster Settings.default [r] Connection.initial).outcome = .error fault ∧
      fault.kind = .partialWrite ∧
      fault.failures =
        some [described ("index", conflict), described ("create", [("_id", .str "c")])] ∧
      fault.message =
        "failed to index document b into orders: conflict (and 1 more failed documents)" := by
  let _ : Stack := Stack.usual
  intro accepted items members cluster r
  have hfits : ∀ i : Int, InsertEvent.fitsWord i = true → Numeral.fits i = true :=
    fun i hi => Numeral.fits_of_fitsWord hi
  have hrenderable : ∀ r' ∈ [r], r'.IsRenderable :=
    List.forall_mem_singleton.mpr (Record.isRenderable_of_fits (hfits 0 (by decide))
      (hfits 7 (by decide)) rfl (Nat.zero_le _))
  have hpresent : ∀ r' ∈ [r], missing? Settings.default r' = none :=
    List.forall_mem_singleton.mpr rfl
  obtain ⟨operations, hoperations⟩ := operationsOf_of_present hrenderable hpresent
  have hrequest :
      bulkOperations (insert cluster Settings.default [r] Connection.initial).calls ≠ [] := by
    rw [(bulkOperations_insert hoperations cluster Connection.initial).2.1 (List.cons_ne_nil r [])
      (.inr rfl)]
    exact List.cons_ne_nil operations []
  have hall : ∀ item ∈ items, IsItem item := by
    intro item hitem
    rcases List.mem_pair.mp hitem with rfl | rfl
    · refine ⟨_, rfl, fun e he => ?_⟩
      rw [List.mem_singleton.mp he]
      exact ⟨accepted, rfl, .inr ⟨201, rfl⟩⟩
    · refine ⟨_, rfl, fun e he => ?_⟩
      rcases List.mem_pair.mp he with rfl | rfl
      · exact ⟨conflict, rfl, .inr ⟨409, rfl⟩⟩
      · exact ⟨_, rfl, .inl rfl⟩
  -- The answer is read back from its own compact text.
  have hreceived : Json.IsReceived (.obj members) := by
    have hsimple : Json.IsSimple 4 (.obj members) := by
      simp only [members, items, accepted, conflict, Json.isSimple_obj_iff, Json.isSimple_arr_iff,
        List.forall_mem_cons, List.not_mem_nil, false_implies, implies_true, Json.isSimple_bool_iff,
        Json.isSimple_int_iff, Json.isSimple_str_iff, hfits 201 (by decide), hfits 409 (by decide)]
      decide
    exact ⟨Json.compact (.obj members), 4, Nat.le_add_left 4 _,
      hsimple.read_print Json.isBlankStyle_compact ⟨rfl, fun n hn => (Option.some.inj hn).le⟩⟩
  have hreports := insert_reports_failures cluster Settings.default Connection.initial [r]
    (.enveloped (.obj members)) members items hrequest rfl rfl hreceived rfl rfl hall
  have hfailed : ((items.flatMap resultsIn).filter fun entry => TellsFailure entry) =
      ([("index", conflict), ("create", [("_id", .str "c")])] : List (Text × Members)) := by
    rfl
  obtain ⟨fault, houtcome, hkind, hfailures, hmessage⟩ := hreports.2.2 _ _ hfailed
  rw [hfailed] at hfailures hmessage
  refine ⟨fault, houtcome, hkind, hfailures, hmessage.trans ?_⟩
  decide +kernel

end Sink

end TopicSink
