import TopicSink.Proofs.Statuses

/-!
What escapes the handler of an event that asks for an insertion. The handler has responses to the
faults that the library makes of others; `insert_escapes` tells which faults get to it without being
made into one of those, and that there is a response wherever none does.
-/

namespace TopicSink

theorem Fault.IsOfWriting.isUnexpected {f : Fault} (h : f.IsOfWriting) : f.IsUnexpected := h.kind_ne

theorem Record.isUnexpected_of_integer {v : Json} {f : Fault} (h : integer v = .error f) :
    f.IsUnexpected := by
  unfold integer at h
  split at h
  · cases h
  · cases h
  · split at h
    · cases h
    · rename_i why _
      cases h
      cases why <;> decide
  · split at h <;> cases h <;> exact ⟨Kind.noConfusion, Kind.noConfusion, rfl⟩
  · cases h
    decide

namespace Sink

theorem isUnexpected_of_membersOf {v : Json} {f : Fault} (h : membersOf v = .error f) :
    f.IsUnexpected := by
  unfold membersOf at h
  split at h <;> cases h
  decide

theorem isUnexpected_of_itemsOf {v : Json} {f : Fault} (h : itemsOf v = .error f) :
    f.IsUnexpected := by
  unfold itemsOf at h
  split at h <;> cases h
  decide

theorem isUnexpected_of_rejectionsOf {results : Members} {f : Fault}
    (h : rejectionsOf results = .error f) : f.IsUnexpected := by
  induction results with
  | nil => cases h
  | cons e rest ih =>
    unfold rejectionsOf at h
    -- The result is no object, its status is no integer, or it is one of the others.
    rcases bind_eq_error_iff.mp h with hmembers | ⟨result, -, h⟩
    · exact isUnexpected_of_membersOf hmembers
    rcases bind_eq_error_iff.mp h with hstatus | ⟨status, -, h⟩
    · exact Record.isUnexpected_of_integer hstatus
    rcases bind_eq_error_iff.mp h with hothers | ⟨others, -, h⟩
    · exact ih hothers
    · cases h

theorem isUnexpected_of_rejections {items : List Json} {f : Fault}
    (h : rejections items = .error f) : f.IsUnexpected := by
  induction items with
  | nil => cases h
  | cons item rest ih =>
    unfold rejections at h
    rcases bind_eq_error_iff.mp h with hresults | ⟨results, -, h⟩
    · exact isUnexpected_of_membersOf hresults
    rcases bind_eq_error_iff.mp h with hfirst | ⟨first, -, h⟩
    · exact isUnexpected_of_rejectionsOf hfirst
    rcases bind_eq_error_iff.mp h with hothers | ⟨others, -, h⟩
    · exact ih hothers
    · cases h

/-- An answer that cannot be gone through fails in a way that no response is made for. -/
theorem isUnexpected_of_reported {body : Json} {f : Fault} (h : reported body = .error f) :
    f.IsUnexpected := by
  unfold reported at h
  rcases bind_eq_error_iff.mp h with hmembers | ⟨members, -, h⟩
  · exact isUnexpected_of_membersOf hmembers
  split at h
  · cases h
  · rcases bind_eq_error_iff.mp h with hitems | ⟨items, -, h⟩
    · exact isUnexpected_of_itemsOf hitems
    rcases bind_eq_error_iff.mp h with hfailures | ⟨failures, -, h⟩
    · exact isUnexpected_of_rejections hfailures
    · cases h

/-- So does a first rejected document that is none, or that cannot be told. -/
theorem isUnexpected_of_partialWrite [Stack] {failures : List Json} {f : Fault}
    (h : partialWrite failures = .error f) : f.IsUnexpected := by
  unfold partialWrite at h
  rcases bind_eq_error_iff.mp h with hmembers | ⟨members, -, h⟩
  · unfold firstOf at hmembers
    split at hmembers <;> cases hmembers
    exact ⟨Kind.noConfusion, Kind.noConfusion, rfl⟩
  rcases bind_eq_error_iff.mp h with hid | ⟨id, -, h⟩
  · exact (Record.isOfWriting_of_text hid).isUnexpected
  rcases bind_eq_error_iff.mp h with hindex | ⟨index, -, h⟩
  · exact (Record.isOfWriting_of_text hindex).isUnexpected
  rcases bind_eq_error_iff.mp h with herror | ⟨error, -, h⟩
  · exact (Record.isOfWriting_of_text herror).isUnexpected
  · cases h

theorem rejected_of_partialWrite [Stack] {failures : List Json} {f : Fault}
    (h : partialWrite failures = .ok f) : ∃ fs, f = .rejected fs := by
  unfold partialWrite at h
  obtain ⟨members, -, h⟩ := bind_eq_ok_iff.mp h
  obtain ⟨id, -, h⟩ := bind_eq_ok_iff.mp h
  obtain ⟨index, -, h⟩ := bind_eq_ok_iff.mp h
  obtain ⟨error, -, h⟩ := bind_eq_ok_iff.mp h
  exact ⟨failures, (Except.ok.inj h).symm⟩

end Sink

namespace Handler

/-- What escapes of a fault of an insertion: one without a response does as it is, and of any other
the reason why it cannot be told, if it cannot. -/
def escape? (f : Fault) : Option Fault := if f.IsUnexpected then some f else f.untold

variable [Stack]

/-- An event's records are to be sent, and there is a client to send them with. -/
def Requests (validate : Validator) (cluster : Cluster) (settings : Settings) (c : Connection)
    (event : Members) : Prop :=
  ∃ records operations, Decodes validate event records ∧ records ≠ [] ∧
    Sink.operationsOf settings records = .ok operations ∧
      (c.live ≠ none ∨ Connection.refusal cluster settings = none)

/-- The faults that escape the handler of an event that asks for an insertion. -/
inductive Escapes (validate : Validator) (cluster : Cluster) (settings : Settings) (c : Connection)
    (event : Members) : Fault → Prop where
  -- A payload nests too deeply, or the message that fails cannot be named.
  | decoding {checked : InsertEvent} {f : Fault} (hvalid : validate event = .ok checked)
      (hdecode : decode checked = .error f) (hkind : f.kind ≠ .recordDecode) :
      Escapes validate cluster settings c event f
  -- An index or a document id would have too many digits, or the column is nested too deeply for it.
  | naming {records : List Record} {f : Fault} (hdecodes : Decodes validate event records)
      (hderived : Sink.operationsOf settings records = .error f) (hf : f.IsOfWriting) :
      Escapes validate cluster settings c event f
  -- The factory makes no client, and its fault cannot be told.
  | connecting {records : List Record} {operations : List Json} {fault why f : Fault}
      (hdecodes : Decodes validate event records) (hne : records ≠ [])
      (hderived : Sink.operationsOf settings records = .ok operations) (hlive : c.live = none)
      (hrefusal : Connection.refusal cluster settings = some fault)
      (huntold : fault.untold = some why) (hescape : escape? why = some f) :
      Escapes validate cluster settings c event f
  -- The client raises a fault that is none of the cluster's and none of the way to it.
  | requesting {fault f : Fault} (hrequests : Requests validate cluster settings c event)
      (hbulk : cluster.bulk = .error fault)
      (hkind : (fault.kind.isTransport || fault.kind.isApi) = false)
      (hescape : escape? fault = some f) : Escapes validate cluster settings c event f
  -- It raises one of these, and that cannot be told.
  | refusing {fault why f : Fault} (hrequests : Requests validate cluster settings c event)
      (hbulk : cluster.bulk = .error fault)
      (hkind : (fault.kind.isTransport || fault.kind.isApi) = true)
      (huntold : fault.untold = some why) (hescape : escape? why = some f) :
      Escapes validate cluster settings c event f
  -- The answer is not made of the parts that are looked for in it.
  | reading {answer : Answer} {f : Fault} (hrequests : Requests validate cluster settings c event)
      (hbulk : cluster.bulk = .ok answer) (hreported : Sink.reported answer.body = .error f) :
      Escapes validate cluster settings c event f
  -- The message about the rejected documents cannot be put together.
  | telling {answer : Answer} {failures : List Json} {f : Fault}
      (hrequests : Requests validate cluster settings c event) (hbulk : cluster.bulk = .ok answer)
      (hreported : Sink.reported answer.body = .ok (some failures)) (hne : failures ≠ [])
      (huntold : Sink.partialWrite failures = .error f) :
      Escapes validate cluster settings c event f

/-- A response has one of the statuses of an insertion, and an object as its body. -/
structure IsResponse (response : Response) : Prop where
  status : ∃ status ∈ ([200, 400, 422, 502, 503] : List Int), response.status = .int status
  body : ∃ members, response.body = .obj members

variable {validate : Validator} {cluster : Cluster} {settings : Settings} {c : Connection}
  {event : Members}

omit [Stack] in
theorem escape?_of_unexpected {f : Fault} (h : f.IsUnexpected) : escape? f = some f := if_pos h

section Responses

omit [Stack] in
theorem respond_of_untold {f why : Fault} (hf : f.untold = some why) (status : Int) (message : Text)
    (c : Connection) : (respond status message f c).outcome = .error why := by
  have htold : f.told = .error why := by rw [Fault.told, hf]
  simp [respond, Response.ofFault, htold, Act.bind_apply]

omit [Stack] in
/-- A fault that is responded to gets its response, unless it cannot be told. -/
theorem respond_cases (f : Fault) (status : Int) (message : Text) (c : Connection)
    (hstatus : status ∈ ([200, 400, 422, 502, 503] : List Int)) :
    (∃ why, f.untold = some why ∧ (respond status message f c).outcome = .error why) ∨
      (f.untold = none ∧ ∃ response, (respond status message f c).outcome = .ok response ∧
        IsResponse response) := by
  cases hf : f.untold with
  | some why => exact .inl ⟨why, rfl, respond_of_untold hf status message c⟩
  | none =>
    exact .inr ⟨rfl, _, respond_of_told hf status message c, ⟨status, hstatus, rfl⟩, _, rfl⟩

omit [Stack] in
/-- A fault of an insertion either escapes or is responded to. -/
theorem onInsertFault_cases (f : Fault) (c : Connection) :
    (∃ g, escape? f = some g ∧ (onInsertFault f c).outcome = .error g) ∨
      (escape? f = none ∧ ∃ response, (onInsertFault f c).outcome = .ok response ∧
        IsResponse response) := by
  by_cases hf : f.IsUnexpected
  · left
    refine ⟨f, escape?_of_unexpected hf, ?_⟩
    obtain ⟨hcolumn, hclient, hwrite⟩ := hf
    have hwrite' : ¬f.kind.isWrite = true := by
      rw [hwrite]
      exact Bool.false_ne_true
    rw [onInsertFault, if_neg hcolumn, if_neg hclient, if_neg hwrite']
    rfl
  · have hescape : escape? f = f.untold := if_neg hf
    rw [hescape]
    unfold onInsertFault
    split_ifs with hcolumn hclient hwrite
    · exact respond_cases f 422 _ c (by decide)
    · exact respond_cases f 503 _ c (by decide)
    · exact respond_cases f 502 _ c (by decide)
    · exact absurd ⟨hcolumn, hclient, Bool.eq_false_iff.mpr hwrite⟩ hf

end Responses

theorem write_cases (cluster : Cluster) (settings : Settings) (records : List Record)
    (c : Connection) :
    (∃ f g, (Sink.insert cluster settings records c).outcome = .error f ∧ escape? f = some g ∧
        (write cluster settings records c).outcome = .error g) ∨
      ∃ response, (write cluster settings records c).outcome = .ok response ∧
        IsResponse response := by
  rw [write_outcome]
  cases (Sink.insert cluster settings records c).outcome with
  | ok _ => exact .inr ⟨_, rfl, ⟨200, by decide, rfl⟩, _, rfl⟩
  | error f =>
    rcases onInsertFault_cases f (Sink.insert cluster settings records c).state with
      ⟨g, hescape, hout⟩ | ⟨-, hresponse⟩
    · exact .inl ⟨f, g, rfl, hescape, hout⟩
    · exact .inr hresponse

theorem write_of_escape {records : List Record} {f g : Fault}
    (hinsert : (Sink.insert cluster settings records c).outcome = .error f)
    (hescape : escape? f = some g) : (write cluster settings records c).outcome = .error g := by
  rw [write_outcome, hinsert]
  dsimp only
  rcases onInsertFault_cases f (Sink.insert cluster settings records c).state with
    ⟨g', hescape', hout⟩ | ⟨hnone, -⟩
  · rw [hescape] at hescape'
    rw [hout, Option.some.inj hescape']
  · rw [hescape] at hnone
    cases hnone

theorem error_of_written {records : List Record} {f g : Fault} (hinsertion : IsInsertion event)
    (hdecodes : Decodes validate event records)
    (hinsert : (Sink.insert cluster settings records c).outcome = .error f)
    (hescape : escape? f = some g) :
    (handle validate cluster settings (.obj event) c).outcome = .error g := by
  obtain ⟨checked, hvalid, hdecode⟩ := hdecodes
  rw [handle_of_insertion hinsertion, insert_of_decoded hvalid hdecode]
  exact write_of_escape hinsert hescape

theorem error_of_request {f g : Fault} (hinsertion : IsInsertion event)
    (hrequests : Requests validate cluster settings c event) (hbulk : Sink.bulkOutcome cluster = .error f)
    (hescape : escape? f = some g) :
    (handle validate cluster settings (.obj event) c).outcome = .error g := by
  obtain ⟨records, operations, hdecodes, hne, hderived, havailable⟩ := hrequests
  have hinsert : (Sink.insert cluster settings records c).outcome = .error f := by
    rw [Sink.outcome_of_available hne hderived havailable, hbulk]
  exact error_of_written hinsertion hdecodes hinsert hescape

/-- Each of these faults does escape. -/
theorem error_of_escapes {f : Fault} (hinsertion : IsInsertion event)
    (h : Escapes validate cluster settings c event f) :
    (handle validate cluster settings (.obj event) c).outcome = .error f := by
  -- Each way of escaping fixes what the insertion fails with, and that the handler does not respond to it.
  cases h with
  | decoding hvalid hdecode hkind =>
    rw [handle_of_insertion hinsertion, insert_of_undecodable hvalid hdecode, if_neg hkind]
    rfl
  | naming hdecodes hderived hf =>
    obtain ⟨logs, -, hinsert⟩ := Sink.insert_of_failed hderived
    exact error_of_written hinsertion hdecodes (congrArg Report.outcome (hinsert cluster c))
      (escape?_of_unexpected hf.isUnexpected)
  | @connecting records operations fault why _ hdecodes hne hderived hlive hrefusal huntold hescape =>
    have hinsert : (Sink.insert cluster settings records c).outcome = .error why := by
      rw [Sink.insert_of_derived hne hderived, Sink.submit_of_refusal hlive hrefusal,
        Connection.unavailable, huntold]
      rfl
    exact error_of_written hinsertion hdecodes hinsert hescape
  | @requesting fault _ hrequests hbulk hkind hescape =>
    apply error_of_request hinsertion hrequests _ hescape
    rw [Sink.bulkOutcome, hbulk]
    simp only [hkind, Bool.false_eq_true, if_false]
  | @refusing fault why _ hrequests hbulk hkind huntold hescape =>
    apply error_of_request hinsertion hrequests _ hescape
    rw [Sink.bulkOutcome, hbulk]
    simp only [hkind, if_true, huntold, Option.getD_some]
  | @reading answer _ hrequests hbulk hreported =>
    have hescape := escape?_of_unexpected (Sink.isUnexpected_of_reported hreported)
    apply error_of_request hinsertion hrequests _ hescape
    rw [Sink.bulkOutcome, hbulk]
    dsimp only
    rw [hreported]
  | @telling answer failures _ hrequests hbulk hreported hne huntold =>
    have hescape := escape?_of_unexpected (Sink.isUnexpected_of_partialWrite huntold)
    apply error_of_request hinsertion hrequests _ hescape
    have hfull : failures.isEmpty = false := List.isEmpty_eq_false_iff.mpr hne
    rw [Sink.bulkOutcome, hbulk]
    dsimp only
    rw [hreported]
    simp only [hfull, huntold, Bool.false_eq_true, if_false]

/-- What a bulk request leaves for the handler is one of these faults. -/
theorem escapes_of_request {f g : Fault} (hrequests : Requests validate cluster settings c event)
    (hbulk : Sink.bulkOutcome cluster = .error f) (hescape : escape? f = some g) :
    Escapes validate cluster settings c event g := by
  unfold Sink.bulkOutcome at hbulk
  cases hanswer : cluster.bulk with
  | error fault =>
    rw [hanswer] at hbulk
    dsimp only at hbulk
    split_ifs at hbulk with hkind
    · cases huntold : fault.untold with
      | none =>
        -- The library's own fault takes its place, which has a response and can be told.
        rw [huntold] at hbulk
        cases hbulk
        cases hescape
      | some why =>
        rw [huntold] at hbulk
        cases hbulk
        exact .refusing hrequests hanswer hkind huntold hescape
    · cases hbulk
      exact .requesting hrequests hanswer (Bool.eq_false_iff.mpr hkind) hescape
  | ok answer =>
    rw [hanswer] at hbulk
    dsimp only at hbulk
    cases hreported : Sink.reported answer.body with
    | error fault =>
      rw [hreported] at hbulk
      cases hbulk
      rw [escape?_of_unexpected (Sink.isUnexpected_of_reported hreported)] at hescape
      cases hescape
      exact .reading hrequests hanswer hreported
    | ok failures =>
      rw [hreported] at hbulk
      cases failures with
      | none => cases hbulk
      | some failures =>
        dsimp only at hbulk
        split_ifs at hbulk with hempty
        have hne : failures ≠ [] := fun hnil => hempty (by rw [hnil]; rfl)
        cases htold : Sink.partialWrite failures with
        | ok fault =>
          rw [htold] at hbulk
          cases hbulk
          obtain ⟨fs, rfl⟩ := Sink.rejected_of_partialWrite htold
          cases hescape
        | error why =>
          rw [htold] at hbulk
          cases hbulk
          rw [escape?_of_unexpected (Sink.isUnexpected_of_partialWrite htold)] at hescape
          cases hescape
          exact .telling hrequests hanswer hreported hne htold

/-- What an insertion leaves for the handler is one of these faults. -/
theorem escapes_of_insert {records : List Record} {f g : Fault} (hdecodes : Decodes validate event records)
    (hinsert : (Sink.insert cluster settings records c).outcome = .error f)
    (hescape : escape? f = some g) : Escapes validate cluster settings c event g := by
  cases hderived : Sink.operationsOf settings records with
  | error fault =>
    obtain ⟨logs, -, hi⟩ := Sink.insert_of_failed hderived
    rw [hi] at hinsert
    cases hinsert
    rcases Sink.operationsOf_eq_error hderived with ⟨name, rfl⟩ | hf
    · cases hescape
    · rw [escape?_of_unexpected hf.isUnexpected] at hescape
      cases hescape
      exact .naming hdecodes hderived hf
  | ok operations =>
    have hne : records ≠ [] := by
      rintro rfl
      rw [Sink.insert_nil] at hinsert
      cases hinsert
    -- Without a client it is the fault of the factory, and with one that of the bulk request.
    by_cases havailable : c.live ≠ none ∨ Connection.refusal cluster settings = none
    · rw [Sink.outcome_of_available hne hderived havailable] at hinsert
      exact escapes_of_request ⟨records, operations, hdecodes, hne, hderived, havailable⟩ hinsert
        hescape
    · obtain ⟨hlive, hrefusal⟩ := not_or.mp havailable
      obtain ⟨fault, hfault⟩ := Option.ne_none_iff_exists'.mp hrefusal
      rw [Sink.insert_of_derived hne hderived, Sink.submit_of_refusal (not_not.mp hlive) hfault,
        Connection.unavailable] at hinsert
      cases huntold : fault.untold with
      | none =>
        rw [huntold] at hinsert
        cases hinsert
        cases hescape
      | some why =>
        rw [huntold] at hinsert
        cases hinsert
        exact .connecting hdecodes hne hderived (not_not.mp hlive) hfault huntold hescape

/-- An event that asks for an insertion is responded to, or one of these faults escapes. -/
theorem handle_cases (hsound : validate.IsSound) (hinsertion : IsInsertion event)
    (cluster : Cluster) (settings : Settings) (c : Connection) :
    (∃ f, (handle validate cluster settings (.obj event) c).outcome = .error f ∧
        Escapes validate cluster settings c event f) ∨
      ∃ response, (handle validate cluster settings (.obj event) c).outcome = .ok response ∧
        IsResponse response := by
  rw [handle_of_insertion hinsertion]
  -- A response or a fault that escapes, stage by stage.
  cases hvalid : validate event with
  | error f =>
    right
    obtain ⟨hkind, htold⟩ := hsound.refuses event f hvalid
    unfold insert
    rw [hvalid]
    have hfault : onEventFault f = respond 400 "Invalid event" f := if_pos hkind
    exact ⟨_, (congrArg (fun act => (act c).outcome) hfault).trans (respond_of_told htold _ _ c),
      ⟨400, by decide, rfl⟩, _, rfl⟩
  | ok checked =>
    cases hdecode : decode checked with
    | error f =>
      by_cases hkind : f.kind = .recordDecode
      · right
        obtain ⟨m, -, hm⟩ := mapM_eq_error hdecode
        have htold : f.untold = none := by
          rcases Record.failsWith_of_ofMessage hm with hf | ⟨-, rfl | rfl | rfl⟩ | ⟨-, container, rfl⟩
          · exact hf.2
          all_goals rfl
        rw [insert_of_undecodable hvalid hdecode, if_pos hkind]
        exact ⟨_, respond_of_told htold _ _ c, ⟨400, by decide, rfl⟩, _, rfl⟩
      · left
        have hescapes : Escapes validate cluster settings c event f := .decoding hvalid hdecode hkind
        have hout := error_of_escapes hinsertion hescapes
        rw [handle_of_insertion hinsertion] at hout
        exact ⟨f, hout, hescapes⟩
    | ok records =>
      have hdecodes : Decodes validate event records := ⟨checked, hvalid, hdecode⟩
      rw [insert_of_decoded hvalid hdecode]
      rcases write_cases cluster settings records c with ⟨f, g, hinsert, hescape, hout⟩ | hresponse
      · exact .inl ⟨g, hout, escapes_of_insert hdecodes hinsert hescape⟩
      · exact .inr hresponse

/-- What escapes the handler of an event that asks for an insertion: whatever the client, the
connection and the event are, exactly these faults do, and wherever none does there is a response.
-/
theorem insert_escapes (validate : Validator) (cluster : Cluster) (settings : Settings)
    (c : Connection) (event : Members) (hsound : validate.IsSound)
    (hinsertion : IsInsertion event) :
    (∀ f, (handle validate cluster settings (.obj event) c).outcome = .error f ↔
        Escapes validate cluster settings c event f) ∧
      ((∀ f, ¬Escapes validate cluster settings c event f) →
        ∃ response, (handle validate cluster settings (.obj event) c).outcome = .ok response ∧
          IsResponse response) := by
  rcases handle_cases hsound hinsertion cluster settings c with
    ⟨f, hout, hescapes⟩ | ⟨response, hout, hresponse⟩
  · refine ⟨fun g => ⟨fun hg => ?_, error_of_escapes hinsertion⟩, fun hnone => ?_⟩
    · rw [hout] at hg
      cases hg
      exact hescapes
    · exact absurd hescapes (hnone f)
  · refine ⟨fun g => ⟨fun hg => ?_, error_of_escapes hinsertion⟩,
      fun _ => ⟨response, hout, hresponse⟩⟩
    rw [hout] at hg
    cases hg

theorem requests_singleEvent (h : Connection.refusal cluster Settings.default = none)
    (c : Connection) :
    Requests InsertEvent.validator cluster Settings.default c (singleEvent 7) := by
  obtain ⟨records, hdecodes, hne, -⟩ := isSubmittable_singleEvent 7
  have hrenderable := hdecodes.isRenderable InsertEvent.isSound_validator
    (writable_singleEvent 7 (by decide)) fun checked h => isShallow_singleEvent h
  have hpresent : ∀ r ∈ records, Sink.missing? Settings.default r = none := fun _ _ => rfl
  obtain ⟨operations, hderived⟩ := Sink.operationsOf_of_present hrenderable hpresent
  exact ⟨records, operations, hdecodes, hne, hderived, .inr h⟩

omit [Stack] in
/-- An answer that is no object. -/
theorem insert_escapes_null :
    letI := Stack.usual
    let cluster : Cluster := ⟨fun _ _ => none, .ok (.bare .null), .ok (.bare .null), none⟩
    (handle InsertEvent.validator cluster Settings.default (.obj (singleEvent 7))
      Connection.initial).outcome = .error .notAnObject := by
  let _ : Stack := Stack.usual
  intro cluster
  have hescapes : Escapes InsertEvent.validator cluster Settings.default Connection.initial
      (singleEvent 7) .notAnObject :=
    .reading (requests_singleEvent rfl Connection.initial) rfl rfl
  exact ((insert_escapes InsertEvent.validator cluster Settings.default Connection.initial
    (singleEvent 7) InsertEvent.isSound_validator (isInsertion_singleEvent 7)).1 _).mpr hescapes

omit [Stack] in
/-- A client that raises a fault that is neither a refusal nor a failure on the way. -/
theorem insert_without_response_raised :
    letI := Stack.usual
    ¬ ∀ (cluster : Cluster) (settings : Settings) (c : Connection) (event : Members),
      IsInsertion event → ∃ response,
        (handle InsertEvent.validator cluster settings (.obj event) c).outcome = .ok response := by
  let _ : Stack := Stack.usual
  intro h
  let cluster : Cluster :=
    ⟨fun _ _ => none, .error (.raised .value "boom"), .ok (.bare .null), none⟩
  have hescapes : Escapes InsertEvent.validator cluster Settings.default Connection.initial
      (singleEvent 7) (.raised .value "boom") :=
    .requesting (requests_singleEvent rfl Connection.initial) rfl rfl rfl
  have hout := error_of_escapes (isInsertion_singleEvent 7) hescapes
  obtain ⟨response, hresponse⟩ := h cluster Settings.default Connection.initial (singleEvent 7)
    (isInsertion_singleEvent 7)
  rw [hout] at hresponse
  cases hresponse

end Handler

end TopicSink
