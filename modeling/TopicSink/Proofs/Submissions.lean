import TopicSink.Proofs.Connections
import TopicSink.Proofs.Derivations
import TopicSink.Proofs.Numerals
import TopicSink.StandardClient

namespace TopicSink

namespace Sink

variable [Stack]

/-- What comes of a bulk request, by the cluster's answer. -/
def bulkOutcome (cluster : Cluster) : Except Fault Unit :=
  match cluster.bulk with
  | .error fault =>
    if fault.kind.isTransport || fault.kind.isApi then
      .error (fault.untold.getD (.bulkFailed fault))
    else .error fault
  | .ok answer =>
    match reported answer.body with
    | .error fault => .error fault
    | .ok none => .ok ()
    | .ok (some failures) =>
      if failures.isEmpty then .ok ()
      else match partialWrite failures with
        | .ok fault => .error fault
        | .error why => .error why

def bulkLines (cluster : Cluster) (n : Nat) : List LogLine :=
  let indexed := LogLine.info logger ("Indexed " ++ Text.ofNat n ++ " records")
  match cluster.bulk with
  | .error fault =>
    if fault.kind.isTransport || fault.kind.isApi then
      [.ofFault logger "Bulk request to Elasticsearch failed" fault]
    else []
  | .ok answer =>
    match reported answer.body with
    | .error _ => []
    | .ok none => [indexed]
    | .ok (some failures) =>
      if failures.isEmpty then
        [.warning logger "Bulk response flagged errors but no failed items were reported", indexed]
      else match partialWrite failures with
        | .ok fault =>
          [.ofFault logger ("Elasticsearch rejected " ++ Text.ofNat failures.length ++ " of "
            ++ Text.ofNat n ++ " documents") fault]
        | .error _ => []

variable {cluster : Cluster} {settings : Settings} {c : Connection}

theorem checkRejections_of_empty {σ : Type} (n : Nat) (s : σ) :
    checkRejections n [] s =
      ⟨.ok (), s, [],
        [.warning logger "Bulk response flagged errors but no failed items were reported"]⟩ := rfl

theorem checkRejections_of_told {σ : Type} {failures : List Json} {fault : Fault}
    (hfull : failures.isEmpty = false) (h : partialWrite failures = .ok fault) (n : Nat) (s : σ) :
    checkRejections n failures s =
      ⟨.error fault, s, [], [.ofFault logger ("Elasticsearch rejected "
        ++ Text.ofNat failures.length ++ " of " ++ Text.ofNat n ++ " documents") fault]⟩ := by
  simp [checkRejections, hfull, h, Act.bind_apply]

theorem checkRejections_of_untold {σ : Type} {failures : List Json} {why : Fault}
    (hfull : failures.isEmpty = false) (h : partialWrite failures = .error why) (n : Nat) (s : σ) :
    checkRejections n failures s = ⟨.error why, s, [], []⟩ := by
  simp [checkRejections, hfull, h, Act.bind_apply]

/-- With a client, a submission sends one bulk request and goes as the cluster answers it. -/
theorem submit_of_client {client : Nat} {c' : Connection} {asked : List Call} {logs : List LogLine}
    (h : Connection.client cluster settings c = ⟨.ok client, c', asked, logs⟩) (n : Nat)
    (operations : List Json) :
    submit cluster settings n operations c =
      ⟨bulkOutcome cluster, c', asked ++ [.bulk client settings.bulkTimeout operations],
        logs ++ bulkLines cluster n⟩ := by
  unfold submit bulkOutcome bulkLines
  rw [Act.bind_of_ok h]
  cases cluster.bulk with
  | error fault =>
    by_cases hk : (fault.kind.isTransport || fault.kind.isApi) = true <;> simp [hk, Act.bind_apply]
  | ok answer =>
    cases hr : reported answer.body with
    | error fault => simp [hr, Act.bind_apply]
    | ok failures =>
      cases failures with
      | none => simp [hr, Act.bind_apply]
      | some failures =>
        cases hfull : failures.isEmpty with
        | true =>
          rw [List.isEmpty_iff.mp hfull] at hr
          simp [hr, Act.bind_apply, checkRejections_of_empty]
        | false =>
          cases hp : partialWrite failures with
          | ok fault => simp [hr, hfull, hp, Act.bind_apply, checkRejections_of_told hfull hp]
          | error why => simp [hr, hfull, hp, Act.bind_apply, checkRejections_of_untold hfull hp]

theorem submit_of_error {fault : Fault} {c' : Connection} {asked : List Call} {logs : List LogLine}
    (h : Connection.client cluster settings c = ⟨.error fault, c', asked, logs⟩) (n : Nat)
    (operations : List Json) :
    submit cluster settings n operations c = ⟨.error fault, c', asked, logs⟩ :=
  Act.bind_of_error h _

theorem submit_of_refusal {fault : Fault} (hl : c.live = none)
    (hf : Connection.refusal cluster settings = some fault) (n : Nat) (operations : List Json) :
    submit cluster settings n operations c =
      ⟨.error (Connection.unavailable settings fault), c, [Connection.request settings],
        [Connection.refusalLine fault]⟩ := by
  have hclient := (Connection.client_of_none hl cluster settings).trans
    (Connection.connect_of_refusal hf c)
  exact submit_of_error hclient n operations

theorem insert_nil (cluster : Cluster) (settings : Settings) (c : Connection) :
    insert cluster settings [] c = ⟨.ok (), c, [], [.debug logger "No records to insert"]⟩ := by
  simp [insert, buildActions, Act.bind_apply]

/-- A batch without operations fails as their derivation does, and the connection is not looked at.
-/
theorem insert_of_failed {records : List Record} {fault : Fault}
    (h : operationsOf settings records = .error fault) :
    ∃ logs, Tells (.error fault : Except Fault Unit) logs ∧ ∀ cluster c,
      insert cluster settings records c = ⟨.error fault, c, [], logs⟩ := by
  obtain ⟨logs, htells, hbuild⟩ := buildActions_apply settings records
  refine ⟨logs, ?_, fun cluster c => ?_⟩
  · rw [h] at htells
    exact htells
  · have hb := hbuild c
    rw [h] at hb
    exact Act.bind_of_error hb _

/-- Records that are all derived are submitted. -/
theorem insert_of_derived {records : List Record} {operations : List Json} (hne : records ≠ [])
    (h : operationsOf settings records = .ok operations) (cluster : Cluster) (c : Connection) :
    insert cluster settings records c = submit cluster settings records.length operations c := by
  obtain ⟨logs, htells, hbuild⟩ := buildActions_apply settings records
  have hb := hbuild c
  rw [h] at hb htells
  have hlogs : logs = [] := htells
  -- There are two operations for each record, so some for a batch that is not empty.
  have hfull : operations.isEmpty = false := by
    have hpos := List.length_pos_of_ne_nil hne
    have hlength := operationsOf_length h
    rw [List.isEmpty_eq_false_iff_exists_mem]
    exact List.exists_mem_of_length_pos (by omega)
  unfold insert
  rw [Act.bind_of_ok hb, hfull, hlogs]
  rfl

section Renderable

variable {records : List Record}

/-- A batch in which records lack columns is not sent, and the connection is not looked at. -/
theorem insert_of_missing {column : Text} (hr : ∀ r ∈ records, r.IsRenderable)
    (h : records.findSome? (missing? settings) = some column) (cluster : Cluster) (c : Connection) :
    ∃ heading, insert cluster settings records c =
      ⟨.error (.fieldNotFound column), c, [], [.ofFault logger heading (.fieldNotFound column)]⟩ := by
  obtain ⟨logs, htells, hi⟩ := insert_of_failed (operationsOf_of_missing hr h)
  rcases htells with ⟨-, heading, rfl⟩ | ⟨hkind, -⟩
  · exact ⟨heading, hi cluster c⟩
  · exact absurd rfl hkind

theorem insert_of_present (hr : ∀ r ∈ records, r.IsRenderable) (hne : records ≠ [])
    (h : ∀ r ∈ records, missing? settings r = none) (cluster : Cluster) (c : Connection) :
    ∃ operations, operationsOf settings records = .ok operations ∧
      insert cluster settings records c = submit cluster settings records.length operations c := by
  obtain ⟨operations, hok⟩ := operationsOf_of_present hr h
  exact ⟨operations, hok, insert_of_derived hne hok cluster c⟩

theorem insert_of_refusal {fault : Fault} (hr : ∀ r ∈ records, r.IsRenderable)
    (hne : records ≠ []) (h : ∀ r ∈ records, missing? settings r = none) (hl : c.live = none)
    (hf : Connection.refusal cluster settings = some fault) :
    insert cluster settings records c =
      ⟨.error (Connection.unavailable settings fault), c, [Connection.request settings],
        [Connection.refusalLine fault]⟩ := by
  obtain ⟨operations, -, hi⟩ := insert_of_present hr hne h cluster c
  rw [hi]
  exact submit_of_refusal hl hf records.length operations

theorem insert_of_client {client : Nat} {c' : Connection} {asked : List Call} {logs : List LogLine}
    (hr : ∀ r ∈ records, r.IsRenderable) (hne : records ≠ [])
    (h : ∀ r ∈ records, missing? settings r = none)
    (hc : Connection.client cluster settings c = ⟨.ok client, c', asked, logs⟩) :
    ∃ operations, operationsOf settings records = .ok operations ∧
      insert cluster settings records c =
        ⟨bulkOutcome cluster, c', asked ++ [.bulk client settings.bulkTimeout operations],
          logs ++ bulkLines cluster records.length⟩ := by
  obtain ⟨operations, hok, hi⟩ := insert_of_present hr hne h cluster c
  refine ⟨operations, hok, ?_⟩
  rw [hi]
  exact submit_of_client hc records.length operations

end Renderable

def bulkOperations (calls : List Call) : List (List Json) :=
  calls.filterMap fun
    | .bulk _ _ operations => some operations
    | _ => none

omit [Stack] in
theorem bulkOperations_request (settings : Settings) (calls : List Call) :
    bulkOperations (Connection.request settings :: calls) = bulkOperations calls := rfl

/-- The operations of a batch go out in one bulk request, unless there are none or no client. -/
theorem bulkOperations_insert {records : List Record} {operations : List Json}
    (h : operationsOf settings records = .ok operations) (cluster : Cluster) (c : Connection) :
    let calls := (insert cluster settings records c).calls
    (records = [] → calls = []) ∧
      (records ≠ [] → c.live ≠ none ∨ Connection.refusal cluster settings = none →
        bulkOperations calls = [operations]) ∧
      (c.live = none → Connection.refusal cluster settings ≠ none → bulkOperations calls = []) := by
  intro calls
  by_cases hne : records = []
  · subst hne
    have hcalls : calls = [] := congrArg Report.calls (insert_nil cluster settings c)
    rw [hcalls]
    exact ⟨fun _ => rfl, fun hne => absurd rfl hne, fun _ _ => rfl⟩
  · have hcalls : calls = (submit cluster settings records.length operations c).calls :=
      congrArg Report.calls (insert_of_derived hne h cluster c)
    refine ⟨fun hnil => absurd hnil hne, fun _ havailable => ?_, fun hl hf => ?_⟩
    · obtain ⟨client, c', logs, hc, -, -⟩ := Connection.client_of_available havailable
      rw [hcalls, submit_of_client hc]
      cases c.isLive with
      | true => rfl
      | false => exact bulkOperations_request settings _
    · obtain ⟨fault, hfault⟩ := Option.ne_none_iff_exists'.mp hf
      rw [hcalls, submit_of_refusal hl hfault]
      exact bulkOperations_request settings []

theorem outcome_of_available {records : List Record} {operations : List Json} (hne : records ≠ [])
    (h : operationsOf settings records = .ok operations)
    (havailable : c.live ≠ none ∨ Connection.refusal cluster settings = none) :
    (insert cluster settings records c).outcome = bulkOutcome cluster := by
  obtain ⟨client, c', logs, hclient, -, -⟩ := Connection.client_of_available havailable
  rw [insert_of_derived hne h, submit_of_client hclient]

/-- An insertion that sends a bulk request ends as the cluster answers it. -/
theorem outcome_of_request {records : List Record}
    (h : bulkOperations (insert cluster settings records c).calls ≠ []) :
    (insert cluster settings records c).outcome = bulkOutcome cluster := by
  cases hderived : operationsOf settings records with
  | error fault =>
    obtain ⟨logs, -, hi⟩ := insert_of_failed hderived
    rw [hi] at h
    exact absurd rfl h
  | ok operations =>
    obtain ⟨hnil, -, hrefused⟩ := bulkOperations_insert hderived cluster c
    have hne : records ≠ [] := by
      intro hrecords
      rw [hnil hrecords] at h
      exact h rfl
    apply outcome_of_available hne hderived
    by_contra hunavailable
    obtain ⟨hlive, hrefusal⟩ := not_or.mp hunavailable
    exact h (hrefused (not_not.mp hlive) hrefusal)

/-- An insertion is all or nothing. An empty batch asks nothing. A batch that cannot be derived
fails as its derivation does before anything is asked. Where the values of its records can be
written, the first record that lacks a column fails it, wherever that stands; without a client, and
where none can be made, no bulk request is sent. Otherwise exactly one is, on the live client, and
the client stays whatever the cluster answers. -/
theorem insert_all_or_nothing (cluster : Cluster) (settings : Settings) (c : Connection)
    (records : List Record) :
    let report := insert cluster settings records c
    (records = [] → report.outcome = .ok () ∧ report.calls = [] ∧ report.state = c) ∧
    (∀ fault, (buildActions settings records c).outcome = .error fault →
      report.outcome = .error fault ∧ report.calls = [] ∧ report.state = c) ∧
    ((∀ r ∈ records, r.IsRenderable) →
      (∀ before r after column, records = before ++ r :: after →
        (∀ b ∈ before, missing? settings b = none) → missing? settings r = some column →
          report.outcome = .error (.fieldNotFound column) ∧ report.calls = [] ∧
            report.state = c) ∧
      (∀ fault, records ≠ [] → (∀ r ∈ records, missing? settings r = none) → c.live = none →
        Connection.refusal cluster settings = some fault →
          (fault.untold = none → report.outcome = .error (.noClient settings.host fault)) ∧
          (∀ why, fault.untold = some why → report.outcome = .error why) ∧
          report.calls = [Connection.request settings] ∧ report.state = c) ∧
      (records ≠ [] → (∀ r ∈ records, missing? settings r = none) →
        c.live ≠ none ∨ Connection.refusal cluster settings = none →
          ∃ client operations, (buildActions settings records c).outcome = .ok operations ∧
            report.calls = (if c.isLive then [] else [Connection.request settings]) ++
              [.bulk client settings.bulkTimeout operations] ∧
            report.state.live = some client ∧ (c.live ≠ none → report.state = c) ∧
            report.outcome = bulkOutcome cluster)) := by
  intro report
  refine ⟨?_, fun fault hfault => ?_, fun hr => ⟨?_, ?_, ?_⟩⟩
  · rintro rfl
    have hi : report = _ := insert_nil cluster settings c
    rw [hi]
    exact ⟨rfl, rfl, rfl⟩
  · rw [buildActions_outcome] at hfault
    obtain ⟨logs, -, hi⟩ := insert_of_failed hfault
    have hi' : report = _ := hi cluster c
    rw [hi']
    exact ⟨rfl, rfl, rfl⟩
  · intro before r after column hsplit hbefore hmissing
    -- The records in front have all columns, so the search comes to this one.
    have hfirst : records.findSome? (missing? settings) = some column := by
      rw [hsplit, List.findSome?_append, List.findSome?_eq_none_iff.mpr hbefore,
        List.findSome?_cons, hmissing]
      rfl
    obtain ⟨heading, hi⟩ := insert_of_missing hr hfirst cluster c
    have hi' : report = _ := hi
    rw [hi']
    exact ⟨rfl, rfl, rfl⟩
  · intro fault hne hpresent hl hf
    have hi : report = _ := insert_of_refusal hr hne hpresent hl hf
    rw [hi]
    refine ⟨fun ht => ?_, fun why ht => ?_, rfl, rfl⟩
    · simp [Connection.unavailable, ht]
    · simp [Connection.unavailable, ht]
  · intro hne hpresent havailable
    obtain ⟨client, c', logs, hc, hlive, hkept⟩ := Connection.client_of_available havailable
    obtain ⟨operations, hok, hi⟩ := insert_of_client hr hne hpresent hc
    have hi' : report = _ := hi
    refine ⟨client, operations, ?_, ?_⟩
    · rw [buildActions_outcome, hok]
    · rw [hi']
      exact ⟨rfl, hlive, hkept, rfl⟩

omit [Stack] in
/-- The second of two records lacks the id column: nothing of the first one is sent either. -/
theorem insert_all_or_nothing_second_lacks_id :
    letI := Stack.usual
    let settings : Settings := { Settings.default with docIdColumn := some "id" }
    let time : Instant := ⟨⟨2024, 1, 1⟩, 0, 0, 0, 0⟩
    let first : Record := ⟨"orders", .int 0, .int 7, time, [("id", .str "a")]⟩
    let second : Record := ⟨"orders", .int 0, .int 8, time, [("n", .int 5)]⟩
    let cluster : Cluster :=
      ⟨fun _ _ => none, .error (.raised .timeout "Connection timed out"), .ok (.bare .null), none⟩
    let report := insert cluster settings [first, second] Connection.initial
    (∀ r ∈ [first, second], r.IsRenderable) ∧
      report.outcome = .error (.fieldNotFound "id") ∧ report.calls = [] ∧
        report.state = Connection.initial := by
  let _ : Stack := Stack.usual
  intro settings time first second cluster report
  have hfits : ∀ i : Int, InsertEvent.fitsWord i = true → Numeral.fits i = true :=
    fun i hi => Numeral.fits_of_fitsWord hi
  have hwritable : Json.writableMembers second.fields = true := by
    simp [second, Json.writableMembers, Json.writable, hfits 5 (by decide)]
  have hrenderable : ∀ r ∈ [first, second], r.IsRenderable := by
    intro r hr
    rcases List.mem_pair.mp hr with rfl | rfl
    · exact Record.isRenderable_of_fits (hfits 0 (by decide)) (hfits 7 (by decide)) rfl
        (Nat.zero_le _)
    · exact Record.isRenderable_of_fits (hfits 0 (by decide)) (hfits 8 (by decide)) hwritable
        (Nat.zero_le _)
  obtain ⟨-, -, hparts⟩ :=
    insert_all_or_nothing cluster settings Connection.initial [first, second]
  refine ⟨hrenderable, (hparts hrenderable).1 [first] second [] "id" rfl ?_ ?_⟩
  · decide
  · decide

/-- A record of coordinates alone. -/
def order : Record := ⟨"orders", .int 0, .int 1, ⟨⟨2024, 1, 1⟩, 0, 0, 0, 0⟩, []⟩

theorem order_isRenderable : ∀ r ∈ [order], r.IsRenderable :=
  List.forall_mem_singleton.mpr (Record.isRenderable_of_fits (Numeral.fits_of_fitsWord (by decide))
    (Numeral.fits_of_fitsWord (by decide)) rfl (Nat.zero_le _))

omit [Stack] in
theorem order_isPresent : ∀ r ∈ [order], missing? Settings.default r = none :=
  List.forall_mem_singleton.mpr rfl

omit [Stack] in
/-- The fault of a factory of which the reason cannot be told hides that no client was made. -/
theorem insert_unavailable_untold :
    letI := Stack.usual
    ¬ ∀ (cluster : Cluster) (settings : Settings) (c : Connection) (records : List Record),
      (∀ r ∈ records, r.IsRenderable) → records ≠ [] →
        (∀ r ∈ records, missing? settings r = none) → c.live = none →
          Connection.refusal cluster settings ≠ none →
            ∃ fault, (insert cluster settings records c).outcome = .error fault ∧
              fault.kind = .datastoreConnection := by
  let _ : Stack := Stack.usual
  intro h
  let fault : Fault := StandardClient.refusal .api (.int 400) "m"
    (.obj [("error", .obj [("root_cause", .null)])])
  let cluster : Cluster := ⟨fun _ _ => some fault, .ok (.bare .null), .ok (.bare .null), none⟩
  have hrefusal : Connection.refusal cluster Settings.default = some fault := rfl
  obtain ⟨told, hout, hkind⟩ := h cluster Settings.default Connection.initial [order]
    order_isRenderable (List.cons_ne_nil order []) order_isPresent rfl
    (by rw [hrefusal]; exact Option.some_ne_none fault)
  -- The reason is looked for in the first of no causes, which fails.
  have huntold : fault.untold = some (StandardClient.noParts .null) := rfl
  rw [insert_of_refusal order_isRenderable (List.cons_ne_nil order []) order_isPresent rfl
    hrefusal] at hout
  have htold : told = StandardClient.noParts .null := by
    rw [← Except.error.inj hout, Connection.unavailable, huntold]
    rfl
  rw [htold] at hkind
  exact absurd hkind (by decide)

end Sink

end TopicSink
