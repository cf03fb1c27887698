import TopicSink.Proofs.Answers
import TopicSink.Proofs.Decoding
import TopicSink.Proofs.Handling

/-!
The status of the response to an event that asks for an insertion. Every stage of an insertion has
one of its own: `insert_status` says which event, connection and cluster lead to which.
-/

namespace TopicSink

def Fault.IsUnexpected (f : Fault) : Prop :=
  f.kind ≠ .fieldNotFound ∧ f.kind ≠ .datastoreConnection ∧ f.kind.isWrite = false

instance (f : Fault) : Decidable f.IsUnexpected := instDecidableAnd

namespace Handler

def LacksColumn (settings : Settings) (r : Record) : Prop :=
  ∃ column ∈ Sink.columns settings, column ∉ r.fields.map Prod.fst

/-- There is no client, and none can be made. -/
def LacksClient (cluster : Cluster) (settings : Settings) (c : Connection) : Prop :=
  c.live = none ∧ Connection.refusal cluster settings ≠ none

variable [Stack]

/-- An event of which the messages become the given records, in the order in which they are taken.
-/
def Decodes (validate : Validator) (event : Members) (records : List Record) : Prop :=
  ∃ checked, validate event = .ok checked ∧ decode checked = .ok records

/-- An event that is not valid, or in which some message becomes no record. -/
def IsUndecodable (validate : Validator) (event : Members) : Prop :=
  (∃ fault, validate event = .error fault) ∨
    ∃ checked, validate event = .ok checked ∧
      ∃ held ∈ checked, ∃ m ∈ held.2, ∃ fault, Record.ofMessage m.members = .error fault

/-- An event with records of which some lack a column. -/
def IsUnderivable (validate : Validator) (settings : Settings) (event : Members) : Prop :=
  ∃ records, Decodes validate event records ∧ ∃ r ∈ records, LacksColumn settings r

/-- An event with records, of which none lacks a column. -/
def IsSubmittable (validate : Validator) (settings : Settings) (event : Members) : Prop :=
  ∃ records, Decodes validate event records ∧ records ≠ [] ∧
    ∀ r ∈ records, ¬LacksColumn settings r

/-- Status and body of a response tell exactly what became of an event. -/
structure IsExact (validate : Validator) (cluster : Cluster) (settings : Settings) (c : Connection)
    (event : Members) (status : Int) (body : Json) : Prop where
  undecodable : status = 400 ↔ IsUndecodable validate event
  underivable : status = 422 ↔ IsUnderivable validate settings event
  noClient : status = 503 ↔ IsSubmittable validate settings event ∧ LacksClient cluster settings c
  failed : status = 502 ↔
    IsSubmittable validate settings event ∧ ¬LacksClient cluster settings c ∧ cluster.FailsBulk
  remaining : status = 200 ↔
    ¬IsUndecodable validate event ∧ ¬IsUnderivable validate settings event ∧
      ¬(IsSubmittable validate settings event ∧ LacksClient cluster settings c) ∧
        ¬(IsSubmittable validate settings event ∧ ¬LacksClient cluster settings c ∧
          cluster.FailsBulk)
  inserted : status = 200 →
    ∃ records, Decodes validate event records ∧ body = .obj [("inserted", .int records.length)]

/-- A failure to send records cannot be told: there is no client, and what the factory fails with
cannot be told, or what the bulk answer says of the first rejected document cannot be. -/
def HidesSending (cluster : Cluster) (settings : Settings) (c : Connection) : Prop :=
  (LacksClient cluster settings c ∧ ∃ fault why,
      Connection.refusal cluster settings = some fault ∧ fault.untold = some why) ∨
    (¬LacksClient cluster settings c ∧ cluster.HidesFailure)

omit [Stack] in
theorem missing?_ne_none_iff {settings : Settings} {r : Record} :
    Sink.missing? settings r ≠ none ↔ LacksColumn settings r := by
  unfold Sink.missing? LacksColumn
  simp

omit [Stack] in
theorem missing?_eq_none_iff_not {settings : Settings} {r : Record} :
    Sink.missing? settings r = none ↔ ¬LacksColumn settings r := by
  rw [← missing?_ne_none_iff, not_not]

variable {validate : Validator} {cluster : Cluster} {settings : Settings} {c : Connection}
  {event : Members}

omit [Stack] in
theorem mem_inOrder {checked : InsertEvent} {m : Message} :
    m ∈ checked.inOrder ↔ ∃ held ∈ checked, m ∈ held.2 := by
  rw [InsertEvent.inOrder_eq, List.mem_flatMap]
  constructor
  · rintro ⟨held, hheld, hm⟩
    exact ⟨held, (InsertEvent.byKey_perm checked).mem_iff.mp hheld, hm⟩
  · rintro ⟨held, hheld, hm⟩
    exact ⟨held, (InsertEvent.byKey_perm checked).mem_iff.mpr hheld, hm⟩

theorem Decodes.unique {records records' : List Record} (h : Decodes validate event records)
    (h' : Decodes validate event records') : records = records' := by
  obtain ⟨checked, hvalid, hdecode⟩ := h
  obtain ⟨checked', hvalid', hdecode'⟩ := h'
  rw [hvalid] at hvalid'
  cases hvalid'
  rw [hdecode] at hdecode'
  exact Except.ok.inj hdecode'

theorem Decodes.not_isUndecodable {records : List Record} (h : Decodes validate event records) :
    ¬IsUndecodable validate event := by
  obtain ⟨checked, hvalid, hdecode⟩ := h
  rintro (⟨fault, hrefused⟩ | ⟨checked', hvalid', held, hheld, m, hm, fault, hfault⟩)
  · rw [hvalid] at hrefused
    cases hrefused
  · rw [hvalid] at hvalid'
    cases hvalid'
    have hflip := (mapM_eq_ok_iff.mp hdecode).flip
    obtain ⟨r, -, hr⟩ := exists_mem_of_forall₂ hflip (mem_inOrder.mpr ⟨held, hheld, hm⟩)
    have hok : Record.ofMessage m.members = .ok r := hr
    rw [hfault] at hok
    cases hok

omit [Stack] in
theorem respond_of_told {f : Fault} (hf : f.untold = none) (status : Int) (message : Text)
    (c : Connection) :
    (respond status message f c).outcome =
      .ok ⟨.int status, Response.failureBody message (some ⟨f.message, f.failures⟩)⟩ := by
  have htold : f.told = .ok f.message := by rw [Fault.told, hf]
  simp [respond, Response.ofFault, htold, Act.bind_apply]

theorem write_outcome (cluster : Cluster) (settings : Settings) (records : List Record)
    (c : Connection) :
    (write cluster settings records c).outcome =
      match (Sink.insert cluster settings records c).outcome with
      | .ok () => .ok ⟨.int 200, .obj [("inserted", .int records.length)]⟩
      | .error f => (onInsertFault f (Sink.insert cluster settings records c).state).outcome := by
  unfold write
  rw [Act.bind_of_ok (Act.attempt_apply (Sink.insert cluster settings records) c)]
  cases (Sink.insert cluster settings records c).outcome <;> rfl

theorem write_of_unexpected {records : List Record} {f : Fault}
    (h : (Sink.insert cluster settings records c).outcome = .error f) (hf : f.IsUnexpected) :
    (write cluster settings records c).outcome = .error f := by
  obtain ⟨hcolumn, hclient, hwrite⟩ := hf
  rw [write_outcome, h]
  dsimp only
  rw [onInsertFault, if_neg hcolumn, if_neg hclient, if_neg (Bool.eq_false_iff.mp hwrite)]
  rfl

/-- A fault of an insertion that can be told is responded to with the status of its kind. -/
theorem write_of_error {records : List Record} {f : Fault} {status : Int}
    (h : (Sink.insert cluster settings records c).outcome = .error f) (hf : f.untold = none)
    (hstatus : (f.kind = .fieldNotFound ∧ status = 422) ∨
      (f.kind = .datastoreConnection ∧ status = 503) ∨ (f.kind.isWrite = true ∧ status = 502)) :
    ∃ response, (write cluster settings records c).outcome = .ok response ∧
      response.status = .int status := by
  rw [write_outcome, h]
  dsimp only
  -- No fault is of two of these kinds, so the order in which they are told apart does not matter.
  rcases hstatus with ⟨hkind, rfl⟩ | ⟨hkind, rfl⟩ | ⟨hkind, rfl⟩
  · rw [onInsertFault, if_pos hkind]
    exact ⟨_, respond_of_told hf _ _ _, rfl⟩
  · have hother : f.kind ≠ .fieldNotFound := by
      rw [hkind]
      decide
    rw [onInsertFault, if_neg hother, if_pos hkind]
    exact ⟨_, respond_of_told hf _ _ _, rfl⟩
  · have hother : f.kind ≠ .fieldNotFound := by
      intro hk
      rw [hk] at hkind
      cases hkind
    have hother' : f.kind ≠ .datastoreConnection := by
      intro hk
      rw [hk] at hkind
      cases hkind
    rw [onInsertFault, if_neg hother, if_neg hother', if_pos hkind]
    exact ⟨_, respond_of_told hf _ _ _, rfl⟩

theorem insert_of_invalid {f : Fault} (h : validate event = .error f) (hkind : f.kind = .validation)
    (hf : f.untold = none) (cluster : Cluster) (settings : Settings) (c : Connection) :
    ∃ response, (insert validate cluster settings event c).outcome = .ok response ∧
      response.status = .int 400 := by
  have hinsert : insert validate cluster settings event = respond 400 "Invalid event" f := by
    unfold insert
    rw [h]
    exact if_pos hkind
  rw [hinsert]
  exact ⟨_, respond_of_told hf _ _ _, rfl⟩

/-- What fails to decode fails with a fault of decoding, since the event can be written and no
payload in it nests too deeply. -/
theorem isDecodeFault_of_decode {checked : InsertEvent} {f : Fault} (hsound : validate.IsSound)
    (hw : Json.writableMembers event = true) (hvalid : validate event = .ok checked)
    (hshallow : ∀ held ∈ checked, ∀ m ∈ held.2, m.IsShallow) (h : decode checked = .error f) :
    Record.IsDecodeFault f := by
  obtain ⟨m, hm, hf⟩ := mapM_eq_error h
  obtain ⟨held, hheld, hm⟩ := mem_inOrder.mp hm
  have hfits : m.Fits := hsound.fits event checked hw hvalid held hheld m hm
  exact Record.isDecodeFault_of_ofMessage hfits (hshallow held hheld m hm) hf

/-- An event with a message that becomes no record is responded to as its fault asks. -/
theorem insert_of_undecodable {checked : InsertEvent} {f : Fault}
    (hvalid : validate event = .ok checked) (hdecode : decode checked = .error f)
    (cluster : Cluster) (settings : Settings) :
    insert validate cluster settings event =
      if f.kind = .recordDecode then respond 400 "Could not decode Kafka message" f
      else Act.fail f := by
  have hboth : (Except.ok checked >>= decode) = .error f := hdecode
  have hother : f.kind ≠ .validation := by
    obtain ⟨m, -, hm⟩ := mapM_eq_error hdecode
    rcases Record.failsWith_of_ofMessage hm with hf | ⟨-, rfl | rfl | rfl⟩ | ⟨-, container, rfl⟩
    · rw [hf.1]
      decide
    all_goals exact Kind.noConfusion
  unfold insert
  rw [hvalid, hboth]
  exact if_neg hother

theorem insert_of_undecoded {checked : InsertEvent} {f : Fault}
    (hvalid : validate event = .ok checked) (h : decode checked = .error f)
    (hf : Record.IsDecodeFault f) (cluster : Cluster) (settings : Settings) (c : Connection) :
    ∃ response, (insert validate cluster settings event c).outcome = .ok response ∧
      response.status = .int 400 := by
  rw [insert_of_undecodable hvalid h, if_pos hf.1]
  exact ⟨_, respond_of_told hf.2 _ _ _, rfl⟩

theorem isUndecodable_of_decode {checked : InsertEvent} {f : Fault}
    (hvalid : validate event = .ok checked) (h : decode checked = .error f) :
    IsUndecodable validate event := by
  obtain ⟨m, hm, hf⟩ := mapM_eq_error h
  obtain ⟨held, hheld, hm⟩ := mem_inOrder.mp hm
  exact .inr ⟨checked, hvalid, held, hheld, m, hm, f, hf⟩

theorem Decodes.isRenderable {records : List Record} (h : Decodes validate event records)
    (hsound : validate.IsSound) (hw : Json.writableMembers event = true)
    (hshallow : ∀ checked, validate event = .ok checked →
      ∀ held ∈ checked, ∀ m ∈ held.2, m.IsShallow) : ∀ r ∈ records, r.IsRenderable := by
  obtain ⟨checked, hvalid, hdecode⟩ := h
  intro r hr
  obtain ⟨m, hm, hok⟩ := exists_mem_of_forall₂ (mapM_eq_ok_iff.mp hdecode) hr
  obtain ⟨held, hheld, hm⟩ := mem_inOrder.mp hm
  exact Record.isRenderable_of_ofMessage (hsound.fits event checked hw hvalid held hheld m hm)
    (hshallow checked hvalid held hheld m hm) hok

theorem IsUndecodable.not_isUnderivable (h : IsUndecodable validate event) (settings : Settings) :
    ¬IsUnderivable validate settings event := by
  rintro ⟨records, hdecodes, -⟩
  exact hdecodes.not_isUndecodable h

theorem IsUndecodable.not_isSubmittable (h : IsUndecodable validate event) (settings : Settings) :
    ¬IsSubmittable validate settings event := by
  rintro ⟨records, hdecodes, -⟩
  exact hdecodes.not_isUndecodable h

section Expected

variable {records : List Record}

theorem Decodes.isUnderivable_iff (h : Decodes validate event records) :
    IsUnderivable validate settings event ↔ ∃ r ∈ records, LacksColumn settings r := by
  constructor
  · rintro ⟨records', h', hr⟩
    rw [h.unique h']
    exact hr
  · intro hr
    exact ⟨records, h, hr⟩

theorem Decodes.isSubmittable_iff (h : Decodes validate event records) :
    IsSubmittable validate settings event ↔ records ≠ [] ∧ ∀ r ∈ records, ¬LacksColumn settings r := by
  constructor
  · rintro ⟨records', h', hr⟩
    rw [h.unique h']
    exact hr
  · intro hr
    exact ⟨records, h, hr⟩

/-- An event with records that lack a column is answered with status 422. -/
theorem write_of_underivable (hr : ∀ r ∈ records, r.IsRenderable)
    (h : ∃ r ∈ records, LacksColumn settings r) (cluster : Cluster) (c : Connection) :
    ∃ response, (write cluster settings records c).outcome = .ok response ∧
      response.status = .int 422 := by
  obtain ⟨column, hcolumn⟩ : ∃ column, records.findSome? (Sink.missing? settings) = some column := by
    apply Option.ne_none_iff_exists'.mp
    intro hnone
    obtain ⟨r, hmem, hlacks⟩ := h
    exact missing?_ne_none_iff.mpr hlacks (List.findSome?_eq_none_iff.mp hnone r hmem)
  obtain ⟨heading, hi⟩ := Sink.insert_of_missing hr hcolumn cluster c
  exact write_of_error (congrArg Report.outcome hi) rfl (.inl ⟨rfl, rfl⟩)

/-- An event with records of which none lacks a column is answered with status 503 where there is no
client and the factory's fault can be told; it is not answered where that cannot be. -/
theorem write_of_lacksClient {fault : Fault} (hr : ∀ r ∈ records, r.IsRenderable)
    (hne : records ≠ []) (h : ∀ r ∈ records, ¬LacksColumn settings r) (hl : c.live = none)
    (hfault : Connection.refusal cluster settings = some fault) :
    (∀ why, fault.untold = some why → why.IsUnexpected →
      (write cluster settings records c).outcome = .error why) ∧
    (fault.untold = none → ∃ response, (write cluster settings records c).outcome = .ok response ∧
      response.status = .int 503) := by
  have hpresent : ∀ r ∈ records, Sink.missing? settings r = none :=
    fun r hmem => missing?_eq_none_iff_not.mpr (h r hmem)
  have hi := congrArg Report.outcome (Sink.insert_of_refusal hr hne hpresent hl hfault)
  dsimp only at hi
  constructor
  · intro why huntold hwhy
    rw [Connection.unavailable, huntold] at hi
    exact write_of_unexpected hi hwhy
  · intro htold
    rw [Connection.unavailable, htold] at hi
    exact write_of_error hi rfl (.inr (.inl ⟨rfl, rfl⟩))

/-- With a client, such an event is answered as the bulk request of its records goes, unless the
failure of this cannot be told. -/
theorem write_of_client (hr : ∀ r ∈ records, r.IsRenderable) (hne : records ≠ [])
    (h : ∀ r ∈ records, ¬LacksColumn settings r) (hclient : ¬LacksClient cluster settings c)
    (hbulk : cluster.IsExpected) :
    (cluster.HidesFailure ∧ ∃ why, why.IsOfWriting ∧
        (write cluster settings records c).outcome = .error why) ∨
      (¬cluster.HidesFailure ∧ ∃ response, (write cluster settings records c).outcome = .ok response ∧
        ((cluster.FailsBulk ∧ response.status = .int 502) ∨
          (¬cluster.FailsBulk ∧
            response = ⟨.int 200, .obj [("inserted", .int records.length)]⟩))) := by
  have havailable : c.live ≠ none ∨ Connection.refusal cluster settings = none := by
    by_contra hnot
    rw [not_or, not_not] at hnot
    exact hclient hnot
  have hpresent : ∀ r ∈ records, Sink.missing? settings r = none :=
    fun r hmem => missing?_eq_none_iff_not.mpr (h r hmem)
  obtain ⟨client, c', logs, hc, -, -⟩ := Connection.client_of_available havailable
  obtain ⟨operations, -, hi⟩ := Sink.insert_of_client hr hne hpresent hc
  have hout : (Sink.insert cluster settings records c).outcome = Sink.bulkOutcome cluster :=
    congrArg Report.outcome hi
  rcases Sink.bulkOutcome_of_expected hbulk with
    ⟨hfails, htells, fault, hf, hkind, htold⟩ | ⟨-, hhides, why, hf, hwhy⟩ | ⟨hfails, htells, hok⟩
  · rw [hf] at hout
    obtain ⟨response, hresponse, hstatus⟩ :=
      write_of_error hout htold (.inr (.inr ⟨hkind, rfl⟩))
    exact .inr ⟨htells, response, hresponse, .inl ⟨hfails, hstatus⟩⟩
  · rw [hf] at hout
    exact .inl ⟨hhides, why, hwhy, write_of_unexpected hout hwhy.kind_ne⟩
  · refine .inr ⟨htells, _, ?_, .inr ⟨hfails, rfl⟩⟩
    rw [write_outcome, hout, hok]

theorem write_nil (cluster : Cluster) (settings : Settings) (c : Connection) :
    (write cluster settings [] c).outcome =
      .ok ⟨.int 200, .obj [("inserted", .int ([] : List Record).length)]⟩ := by
  rw [write_outcome, Sink.insert_nil]

end Expected

section Exact

variable {body : Json} {records : List Record}

theorem isExact_of_undecodable (h : IsUndecodable validate event) :
    IsExact validate cluster settings c event 400 body := by
  have hunderivable := h.not_isUnderivable settings
  have hsubmittable := h.not_isSubmittable settings
  constructor <;> simp [h, hunderivable, hsubmittable]

theorem isExact_of_underivable (hdecodes : Decodes validate event records)
    (h : ∃ r ∈ records, LacksColumn settings r) :
    IsExact validate cluster settings c event 422 body := by
  have hundecodable := hdecodes.not_isUndecodable
  have hunderivable := hdecodes.isUnderivable_iff.mpr h
  have hsubmittable : ¬IsSubmittable validate settings event := by
    rw [hdecodes.isSubmittable_iff]
    rintro ⟨-, hnone⟩
    obtain ⟨r, hmem, hlacks⟩ := h
    exact hnone r hmem hlacks
  constructor <;> simp [hundecodable, hunderivable, hsubmittable]

theorem isExact_of_nil (hdecodes : Decodes validate event []) :
    IsExact validate cluster settings c event 200 (.obj [("inserted", .int ([] : List Record).length)]) := by
  have hundecodable := hdecodes.not_isUndecodable
  have hunderivable : ¬IsUnderivable validate settings event := by
    rw [hdecodes.isUnderivable_iff]
    rintro ⟨r, hmem, -⟩
    cases hmem
  have hsubmittable : ¬IsSubmittable validate settings event := by
    rw [hdecodes.isSubmittable_iff]
    exact fun h => h.1 rfl
  refine ⟨?_, ?_, ?_, ?_, ?_, fun _ => ⟨[], hdecodes, rfl⟩⟩ <;>
    simp [hundecodable, hunderivable, hsubmittable]

/-- The response to records that are to be sent is exact, given which of the three ways sending them
went. -/
theorem isExact_of_submittable {status : Int} (hdecodes : Decodes validate event records)
    (hne : records ≠ []) (h : ∀ r ∈ records, ¬LacksColumn settings r)
    (hstatus : (LacksClient cluster settings c ∧ status = 503) ∨
      (¬LacksClient cluster settings c ∧ cluster.FailsBulk ∧ status = 502) ∨
      (¬LacksClient cluster settings c ∧ ¬cluster.FailsBulk ∧ status = 200 ∧
        body = .obj [("inserted", .int records.length)])) :
    IsExact validate cluster settings c event status body := by
  have hundecodable := hdecodes.not_isUndecodable
  have hunderivable : ¬IsUnderivable validate settings event := by
    rw [hdecodes.isUnderivable_iff]
    rintro ⟨r, hmem, hlacks⟩
    exact h r hmem hlacks
  have hsubmittable : IsSubmittable validate settings event := hdecodes.isSubmittable_iff.mpr ⟨hne, h⟩
  rcases hstatus with ⟨hclient, rfl⟩ | ⟨hclient, hfails, rfl⟩ | ⟨hclient, hfails, rfl, rfl⟩
  · constructor <;> simp [hundecodable, hunderivable, hsubmittable, hclient]
  · constructor <;> simp [hundecodable, hunderivable, hsubmittable, hclient, hfails]
  · refine ⟨?_, ?_, ?_, ?_, ?_, fun _ => ⟨records, hdecodes, rfl⟩⟩ <;>
      simp [hundecodable, hunderivable, hsubmittable, hclient, hfails]

end Exact

/-- The records of an event that are to be sent lead to the exact response, unless their failure
cannot be told. -/
theorem write_of_submittable {records : List Record} (hdecodes : Decodes validate event records)
    (hr : ∀ r ∈ records, r.IsRenderable) (hne : records ≠ [])
    (h : ∀ r ∈ records, ¬LacksColumn settings r) (hbulk : cluster.IsExpected) :
    (¬HidesSending cluster settings c →
      ∃ status body, (write cluster settings records c).outcome = .ok ⟨.int status, body⟩ ∧
        IsExact validate cluster settings c event status body) ∧
    (HidesSending cluster settings c →
      ∃ why, ((∃ fault, Connection.refusal cluster settings = some fault ∧
          fault.untold = some why) ∨ why.IsOfWriting) ∧
        (why.IsUnexpected → (write cluster settings records c).outcome = .error why)) := by
  -- With a client it is for the bulk request to fail, without one the insertion ends before it.
  by_cases hclient : LacksClient cluster settings c
  · obtain ⟨fault, hfault⟩ := Option.ne_none_iff_exists'.mp hclient.2
    obtain ⟨huntold, htold⟩ := write_of_lacksClient hr hne h hclient.1 hfault
    constructor
    · intro htells
      have hnone : fault.untold = none := by
        cases hf : fault.untold with
        | none => rfl
        | some why => exact absurd (.inl ⟨hclient, fault, why, hfault, hf⟩) htells
      obtain ⟨⟨_, body⟩, hout, rfl⟩ := htold hnone
      exact ⟨503, body, hout, isExact_of_submittable hdecodes hne h (.inl ⟨hclient, rfl⟩)⟩
    · rintro (⟨-, fault', why, hfault', hwhy⟩ | ⟨hnot, -⟩)
      · rw [hfault] at hfault'
        cases hfault'
        exact ⟨why, .inl ⟨fault, hfault, hwhy⟩, huntold why hwhy⟩
      · exact absurd hclient hnot
  · rcases write_of_client hr hne h hclient hbulk with
      ⟨hhides, why, hwhy, hout⟩ | ⟨htells, ⟨_, body⟩, hout, hends⟩
    · exact ⟨fun hnot => absurd (.inr ⟨hclient, hhides⟩) hnot,
        fun _ => ⟨why, .inr hwhy, fun _ => hout⟩⟩
    · constructor
      · intro _
        rcases hends with ⟨hfails, rfl⟩ | ⟨hfails, hresponse⟩
        · exact ⟨502, body, hout,
            isExact_of_submittable hdecodes hne h (.inr (.inl ⟨hclient, hfails, rfl⟩))⟩
        · rw [hresponse] at hout
          exact ⟨200, _, hout, isExact_of_submittable hdecodes hne h
            (.inr (.inr ⟨hclient, hfails, rfl, rfl⟩))⟩
      · rintro (⟨hnot, -⟩ | ⟨-, hhides⟩)
        · exact absurd hnot hclient
        · exact absurd hhides htells

/-- An event that asks for an insertion is responded to, whatever the connection, and the response
tells exactly what became of it: its status is 400 for an event that is not valid or has a message
that is no record, 422 for records that lack a column, 503 where records are to be sent and there is
no client, 502 where the bulk request fails or a document is rejected, and 200 for any other, with
the number of records. Where the failure to get a client or to write cannot be told, what comes of
telling it takes the place of the response. -/
theorem insert_status (validate : Validator) (cluster : Cluster) (settings : Settings)
    (c : Connection) (event : Members) (hsound : validate.IsSound) (hinsertion : IsInsertion event)
    (hw : Json.writableMembers event = true)
    (hshallow : ∀ checked, validate event = .ok checked →
      ∀ held ∈ checked, ∀ m ∈ held.2, m.IsShallow)
    (hbulk : cluster.IsExpected) :
    let outcome := (handle validate cluster settings (.obj event) c).outcome
    let hides := IsSubmittable validate settings event ∧ HidesSending cluster settings c
    (¬hides → ∃ status body, outcome = .ok ⟨.int status, body⟩ ∧
      IsExact validate cluster settings c event status body) ∧
    (hides → ∃ why, ((∃ fault, Connection.refusal cluster settings = some fault ∧
        fault.untold = some why) ∨ why.IsOfWriting) ∧
      (why.IsUnexpected → outcome = .error why)) := by
  intro outcome hides
  have houtcome : outcome = (insert validate cluster settings event c).outcome :=
    congrArg Report.outcome (handle_of_insertion hinsertion validate cluster settings c)
  rw [houtcome]
  -- The stages of an insertion in their order: validation, decoding, derivation, submission.
  cases hvalid : validate event with
  | error fault =>
    obtain ⟨hkind, htold⟩ := hsound.refuses event fault hvalid
    obtain ⟨⟨_, body⟩, hout, rfl⟩ := insert_of_invalid hvalid hkind htold cluster settings c
    have hundecodable : IsUndecodable validate event := .inl ⟨fault, hvalid⟩
    exact ⟨fun _ => ⟨400, body, hout, isExact_of_undecodable hundecodable⟩,
      fun hhides => absurd hhides.1 (hundecodable.not_isSubmittable settings)⟩
  | ok checked =>
    cases hdecode : decode checked with
    | error fault =>
      have hfault := isDecodeFault_of_decode hsound hw hvalid (hshallow checked hvalid) hdecode
      obtain ⟨⟨_, body⟩, hout, rfl⟩ :=
        insert_of_undecoded hvalid hdecode hfault cluster settings c
      have hundecodable := isUndecodable_of_decode hvalid hdecode
      exact ⟨fun _ => ⟨400, body, hout, isExact_of_undecodable hundecodable⟩,
        fun hhides => absurd hhides.1 (hundecodable.not_isSubmittable settings)⟩
    | ok records =>
      have hdecodes : Decodes validate event records := ⟨checked, hvalid, hdecode⟩
      have hrenderable := hdecodes.isRenderable hsound hw hshallow
      have hsubmittable : IsSubmittable validate settings event ↔ _ := hdecodes.isSubmittable_iff
      rw [insert_of_decoded hvalid hdecode]
      by_cases hlacks : ∃ r ∈ records, LacksColumn settings r
      · obtain ⟨⟨_, body⟩, hout, rfl⟩ := write_of_underivable hrenderable hlacks cluster c
        refine ⟨fun _ => ⟨422, body, hout, isExact_of_underivable hdecodes hlacks⟩, fun hhides => ?_⟩
        obtain ⟨r, hmem, hr⟩ := hlacks
        exact absurd hr ((hsubmittable.mp hhides.1).2 r hmem)
      have hnone : ∀ r ∈ records, ¬LacksColumn settings r :=
        fun r hmem hr => hlacks ⟨r, hmem, hr⟩
      by_cases hne : records = []
      · subst hne
        exact ⟨fun _ => ⟨200, _, write_nil cluster settings c, isExact_of_nil hdecodes⟩,
          fun hhides => absurd rfl (hsubmittable.mp hhides.1).1⟩
      · obtain ⟨htells, hhides⟩ := write_of_submittable hdecodes hrenderable hne hnone hbulk
        exact ⟨fun h => htells fun hsending => h ⟨hsubmittable.mpr ⟨hne, hnone⟩, hsending⟩,
          fun h => hhides h.2⟩

def singleEvent (offset : Int) : Members :=
  [("records", .obj [("k", .arr
    [.obj [("topic", .str "orders"), ("partition", .int 0), ("offset", .int offset)]])])]

omit [Stack] in
theorem isInsertion_singleEvent (offset : Int) : IsInsertion (singleEvent offset) := by
  intro v hv
  cases hv

omit [Stack] in
theorem validator_singleEvent (offset : Int) :
    InsertEvent.validator (singleEvent offset) =
      .ok [("k", [⟨"orders", 0, offset, 0, none⟩])] := rfl

theorem decodes_singleEvent (offset : Int) :
    Decodes InsertEvent.validator (singleEvent offset)
      [⟨"orders", .int 0, .int offset, ⟨⟨1970, 1, 1⟩, 0, 0, 0, 0⟩, []⟩] := by
  let m : Message := ⟨"orders", 0, offset, 0, none⟩
  refine ⟨[("k", [m])], validator_singleEvent offset, ?_⟩
  have horder : InsertEvent.inOrder [("k", [m])] = [m] := by
    rw [InsertEvent.inOrder_eq, InsertEvent.byKey, List.mergeSort_singleton]
    rfl
  rw [decode, horder, mapM_eq_ok_iff]
  exact .cons (Record.ofMessage_of_bare rfl rfl) .nil

theorem isShallow_singleEvent {offset : Int} {checked : InsertEvent}
    (h : InsertEvent.validator (singleEvent offset) = .ok checked) :
    ∀ held ∈ checked, ∀ m ∈ held.2, m.IsShallow := by
  rw [validator_singleEvent] at h
  rintro held hheld m hm document ⟨t, bytes, hvalue, -⟩
  rw [← Except.ok.inj h, List.mem_singleton] at hheld
  rw [hheld, List.mem_singleton] at hm
  rw [hm] at hvalue
  cases hvalue

omit [Stack] in
theorem writable_singleEvent (offset : Int) (h : InsertEvent.fitsWord offset = true) :
    Json.writableMembers (singleEvent offset) = true := by
  have hzero : Numeral.fits 0 = true := Numeral.fits_of_fitsWord (by decide)
  have hoffset : Numeral.fits offset = true := Numeral.fits_of_fitsWord h
  simp [singleEvent, Json.writableMembers, Json.writable, Json.writableAll, hzero, hoffset]

theorem isSubmittable_singleEvent (offset : Int) :
    IsSubmittable InsertEvent.validator Settings.default (singleEvent offset) := by
  refine ⟨_, decodes_singleEvent offset, List.cons_ne_nil _ _, ?_⟩
  rintro r - ⟨column, hcolumn, -⟩
  cases hcolumn

omit [Stack] in
/-- A bulk request that times out. -/
theorem insert_status_timeout :
    letI := Stack.usual
    let cluster : Cluster :=
      ⟨fun _ _ => none, .error (.raised .timeout "Connection timed out"), .ok (.bare .null), none⟩
    ∃ body, (handle InsertEvent.validator cluster Settings.default (.obj (singleEvent 7))
      Connection.initial).outcome = .ok ⟨.int 502, body⟩ := by
  let _ : Stack := Stack.usual
  intro cluster
  obtain ⟨htells, -⟩ := insert_status InsertEvent.validator cluster Settings.default
    Connection.initial (singleEvent 7) InsertEvent.isSound_validator (isInsertion_singleEvent 7)
    (writable_singleEvent 7 (by decide)) (fun checked h => isShallow_singleEvent h)
    (.inl ⟨_, rfl, rfl, rfl⟩)
  have hclient : ¬LacksClient cluster Settings.default Connection.initial := fun h => h.2 rfl
  have hsends : ¬HidesSending cluster Settings.default Connection.initial := by
    rintro (⟨h, -⟩ | ⟨-, answer, members, first, others, hanswer, -⟩)
    · exact hclient h
    · cases hanswer
  obtain ⟨status, body, hout, hexact⟩ := htells fun h => hsends h.2
  have hstatus : status = 502 :=
    hexact.failed.mpr ⟨isSubmittable_singleEvent 7, hclient, .inl ⟨_, rfl⟩⟩
  rw [hstatus] at hout
  exact ⟨body, hout⟩

omit [Stack] in
/-- A fault of a factory that cannot be told leaves the event without a response. -/
theorem insert_without_response :
    letI := Stack.usual
    ¬ ∀ (cluster : Cluster) (settings : Settings) (c : Connection) (event : Members),
      IsInsertion event → Json.writableMembers event = true →
        (∀ checked, InsertEvent.validator event = .ok checked →
          ∀ held ∈ checked, ∀ m ∈ held.2, m.IsShallow) → cluster.IsExpected →
            ∃ response, (handle InsertEvent.validator cluster settings (.obj event) c).outcome =
              .ok response := by
  let _ : Stack := Stack.usual
  intro h
  let fault : Fault := StandardClient.refusal .api (.int 400) "m"
    (.obj [("error", .obj [("root_cause", .null)])])
  let cluster : Cluster := ⟨fun _ _ => some fault,
    .error (.raised .timeout "Connection timed out"), .ok (.bare .null), none⟩
  have hwritable := writable_singleEvent 7 (by decide)
  have hshallow : ∀ checked, InsertEvent.validator (singleEvent 7) = .ok checked →
      ∀ held ∈ checked, ∀ m ∈ held.2, m.IsShallow := fun checked h => isShallow_singleEvent h
  obtain ⟨response, hresponse⟩ := h cluster Settings.default Connection.initial (singleEvent 7)
    (isInsertion_singleEvent 7) hwritable hshallow (.inl ⟨_, rfl, rfl, rfl⟩)
  obtain ⟨records, hdecodes, hne, hnone⟩ := isSubmittable_singleEvent 7
  have hrenderable := hdecodes.isRenderable InsertEvent.isSound_validator hwritable hshallow
  have hrefusal : Connection.refusal cluster Settings.default = some fault := rfl
  have hlive : Connection.initial.live = none := rfl
  -- The event is valid and its record is to be sent, so that the factory is asked.
  obtain ⟨huntold, -⟩ := write_of_lacksClient hrenderable hne hnone hlive hrefusal
  obtain ⟨checked, hvalid, hdecode⟩ := hdecodes
  rw [handle_of_insertion (isInsertion_singleEvent 7), insert_of_decoded hvalid hdecode,
    huntold (StandardClient.noParts .null) rfl (by decide)] at hresponse
  cases hresponse

end Handler

end TopicSink
