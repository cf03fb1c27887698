import TopicSink.Proofs.Submissions

namespace TopicSink

namespace Sink

def HasStatus (result : Members) : Prop :=
  Json.lookup "status" result = none ∨ ∃ i, Json.lookup "status" result = some (.int i)

def statusIn (result : Members) : Int :=
  match Json.lookup "status" result with
  | some (.int i) => i
  | _ => 0

/-- An entry of an answer tells of a failed operation: there is an error in its result, or the
status is none of success. A missing status counts as zero. -/
def TellsFailure (entry : Text × Members) : Prop :=
  (∃ v, Json.lookup "error" entry.2 = some v) ∨ ¬(200 ≤ statusIn entry.2 ∧ statusIn entry.2 ≤ 299)

theorem isRejected_iff {entry : Text × Members} :
    isRejected entry.2 (statusIn entry.2) = true ↔ TellsFailure entry := by
  unfold isRejected TellsFailure
  rw [Bool.or_eq_true, Option.isSome_iff_exists, Bool.not_eq_true', Bool.and_eq_false_iff,
    decide_eq_false_iff_not, decide_eq_false_iff_not, not_and_or]

instance : DecidablePred TellsFailure := fun _ => decidable_of_iff _ isRejected_iff

def partOf (entry : Text × Members) (name : Text) : Json := (Json.lookup name entry.2).getD .null

def described (entry : Text × Members) : Json :=
  .obj [("op", .str entry.1), ("index", partOf entry "_index"), ("id", partOf entry "_id"),
    ("status", .int (statusIn entry.2)), ("error", partOf entry "error")]

/-- An item holds results, each with an integer status or without one, under their operations. -/
def IsItem (item : Json) : Prop :=
  ∃ results, item = .obj results ∧ ∀ e ∈ results, ∃ result, e.2 = .obj result ∧ HasStatus result

def resultsIn (item : Json) : List (Text × Members) :=
  match item with
  | .obj results =>
    results.filterMap fun
      | (op, .obj result) => some (op, result)
      | _ => none
  | _ => []

def flagsErrors (answer : Members) : Bool := (Json.nonempty? (Json.lookup "errors" answer)).isSome

def itemsIn (answer : Members) : List Json :=
  (itemsOf ((Json.lookup "items" answer).getD (.arr []))).toOption.getD []

def failedIn (answer : Members) : List (Text × Members) :=
  if flagsErrors answer then
    ((itemsIn answer).flatMap resultsIn).filter fun entry => TellsFailure entry
  else []

/-- An answer to a bulk request is an object. Where it flags errors, its items can be gone through,
and hold results. -/
def IsBulkAnswer (answer : Members) : Prop :=
  flagsErrors answer = true →
    (∃ items, itemsOf ((Json.lookup "items" answer).getD (.arr [])) = .ok items) ∧
      ∀ item ∈ itemsIn answer, IsItem item

theorem statusOf_of_hasStatus {result : Members} (h : HasStatus result) :
    statusOf result = .ok (statusIn result) := by
  unfold statusOf statusIn
  rcases h with hnone | ⟨i, hi⟩
  · rw [hnone]
    rfl
  · rw [hi]
    rfl

/-- Results that have integer statuses or none are all gone through, and what is reported are those
that tell of a failure. -/
theorem rejectionsOf_of_results {results : Members}
    (h : ∀ e ∈ results, ∃ result, e.2 = .obj result ∧ HasStatus result) :
    rejectionsOf results =
      .ok (((resultsIn (.obj results)).filter fun entry => TellsFailure entry).map described) := by
  induction results with
  | nil => rfl
  | cons e rest ih =>
    obtain ⟨op, v⟩ := e
    obtain ⟨result, hv, hstatus⟩ := h _ List.mem_cons_self
    dsimp only at hv
    subst hv
    have hrest := ih fun e he => h e (List.mem_cons_of_mem _ he)
    have hresults : resultsIn (.obj ((op, .obj result) :: rest)) =
        (op, result) :: resultsIn (.obj rest) := rfl
    have hmembers : membersOf (.obj result) = .ok result := rfl
    have hrejected : isRejected result (statusIn result) = true ↔ TellsFailure (op, result) :=
      @isRejected_iff (op, result)
    rw [hresults, List.filter_cons, rejectionsOf, hmembers]
    simp only [bind, Except.bind, statusOf_of_hasStatus hstatus, hrest, pure, Except.pure, hrejected]
    by_cases htells : TellsFailure (op, result)
    · simp only [htells, if_true, decide_true, List.map_cons]
      rfl
    · simp only [htells, if_false, decide_false, Bool.false_eq_true]

/-- The rejections among items are their failed results, in order. -/
theorem rejections_of_items {items : List Json} (h : ∀ item ∈ items, IsItem item) :
    rejections items =
      .ok (((items.flatMap resultsIn).filter fun entry => TellsFailure entry).map described) := by
  induction items with
  | nil => rfl
  | cons item rest ih =>
    obtain ⟨results, rfl, hresults⟩ := h item List.mem_cons_self
    have hrest := ih fun item' hitem' => h item' (List.mem_cons_of_mem _ hitem')
    have hmembers : membersOf (.obj results) = .ok results := rfl
    rw [rejections, hmembers]
    simp only [bind, Except.bind, rejectionsOf_of_results hresults, hrest, pure, Except.pure]
    rw [List.flatMap_cons, List.filter_append, List.map_append]

/-- What is reported of an answer: nothing where it flags no errors, else the failed results. -/
theorem reported_of_bulkAnswer {answer : Members} (h : IsBulkAnswer answer) :
    reported (.obj answer) =
      .ok (if flagsErrors answer then some ((failedIn answer).map described) else none) := by
  have hmembers : membersOf (.obj answer) = .ok answer := rfl
  unfold reported
  rw [hmembers]
  cases he : Json.nonempty? (Json.lookup "errors" answer) with
  | none =>
    have hflag : flagsErrors answer = false := by rw [flagsErrors, he]; rfl
    rw [hflag]
    simp only [bind, Except.bind, he]
    rfl
  | some v =>
    have hflag : flagsErrors answer = true := by rw [flagsErrors, he]; rfl
    obtain ⟨⟨items, hitems⟩, hall⟩ := h hflag
    have hin : itemsIn answer = items := by rw [itemsIn, hitems]; rfl
    rw [hin] at hall
    rw [failedIn, hflag, hin]
    simp only [bind, Except.bind, he, hitems, rejections_of_items hall, pure, Except.pure, if_true]

/-- An answer fails a batch where it flags errors and one of its results tells of a failure. -/
theorem failedIn_ne_nil_iff {answer : Members} :
    failedIn answer ≠ [] ↔
      flagsErrors answer = true ∧ ∃ entry ∈ (itemsIn answer).flatMap resultsIn, TellsFailure entry := by
  unfold failedIn
  cases flagsErrors answer with
  | false => simp
  | true =>
    rw [if_pos rfl, Ne, List.filter_eq_nil_iff]
    simp only [decide_eq_true_eq, true_and, not_forall, not_not, exists_prop]

variable [Stack]

/-- What the message shows of an entry can be written: its integers are within the limit, and there
is room for what stands inside of it. -/
def CanBeTold (entry : Text × Members) : Prop :=
  ∀ name ∈ ([("_id" : Text), "_index", "error"]),
    (partOf entry name).writable = true ∧ (partOf entry name).nesting 0 ≤ Stack.telling

theorem canBeTold_iff {entry : Text × Members} :
    CanBeTold entry ↔ ∀ name ∈ ([("_id" : Text), "_index", "error"]),
      ∃ t, Record.text (partOf entry name) = .ok t := by
  have htext : ∀ v : Json, (∃ t, Record.text v = .ok t) ↔
      v.writable = true ∧ v.nesting 0 ≤ Stack.telling := by
    intro v
    rw [← Json.hindrance_eq_none_iff, Record.text]
    split <;> simp_all
  unfold CanBeTold
  simp only [htext]

/-- The fault of the failed entries is about all of them, unless the first cannot be told. -/
theorem partialWrite_described (first : Text × Members) (others : List (Text × Members)) :
    (CanBeTold first ∧ partialWrite ((first :: others).map described) =
        .ok (.rejected ((first :: others).map described))) ∨
      (¬CanBeTold first ∧ ∃ why, partialWrite ((first :: others).map described) = .error why ∧
        why.IsOfWriting) := by
  have hparts : partialWrite ((first :: others).map described) = (do
      let _ ← Record.text (partOf first "_id")
      let _ ← Record.text (partOf first "_index")
      let _ ← Record.text (partOf first "error")
      pure (.rejected ((first :: others).map described))) := rfl
  rw [hparts, canBeTold_iff]
  simp only [List.forall_mem_cons, List.not_mem_nil, false_implies, implies_true, and_true]
  cases hid : Record.text (partOf first "_id") with
  | error why => exact .inr ⟨by simp, why, rfl, Record.isOfWriting_of_text hid⟩
  | ok id =>
    cases hindex : Record.text (partOf first "_index") with
    | error why => exact .inr ⟨by simp, why, rfl, Record.isOfWriting_of_text hindex⟩
    | ok index =>
      cases herror : Record.text (partOf first "error") with
      | error why => exact .inr ⟨by simp, why, rfl, Record.isOfWriting_of_text herror⟩
      | ok error => exact .inl ⟨⟨⟨id, rfl⟩, ⟨index, rfl⟩, ⟨error, rfl⟩⟩, rfl⟩

end Sink

/-- How a cluster goes about a bulk request as its documentation has it: it fails on the way or
refuses, in a way that can be told, or it gives a well-formed answer. -/
def Cluster.IsExpected (cluster : Cluster) : Prop :=
  (∃ fault, cluster.bulk = .error fault ∧ fault.untold = none ∧
      (fault.kind.isTransport || fault.kind.isApi) = true) ∨
    ∃ answer members, cluster.bulk = .ok answer ∧ answer.body = .obj members ∧
      Sink.IsBulkAnswer members

/-- A cluster fails a bulk request, or flags errors in its answer of which a result tells. -/
def Cluster.FailsBulk (cluster : Cluster) : Prop :=
  (∃ fault, cluster.bulk = .error fault) ∨
    ∃ answer members, cluster.bulk = .ok answer ∧ answer.body = .obj members ∧
      Sink.flagsErrors members = true ∧
        ∃ entry ∈ (Sink.itemsIn members).flatMap Sink.resultsIn, Sink.TellsFailure entry

/-- What the first of the failed results in an answer is about cannot be told. -/
def Cluster.HidesFailure [Stack] (cluster : Cluster) : Prop :=
  ∃ answer members first others, cluster.bulk = .ok answer ∧ answer.body = .obj members ∧
    Sink.failedIn members = first :: others ∧ ¬Sink.CanBeTold first

namespace Sink

variable [Stack]

/-- What comes of an answer: nothing without a failed entry, else the fault of all of them, or of
telling the first of them. -/
theorem bulkOutcome_of_answer {cluster : Cluster} {answer : Answer} {members : Members}
    (hbulk : cluster.bulk = .ok answer) (hbody : answer.body = .obj members)
    (hanswer : IsBulkAnswer members) :
    (failedIn members = [] ∧ bulkOutcome cluster = .ok ()) ∨
      ∃ first others, failedIn members = first :: others ∧
        ((CanBeTold first ∧
            bulkOutcome cluster = .error (.rejected ((failedIn members).map described))) ∨
          (¬CanBeTold first ∧ ∃ why, bulkOutcome cluster = .error why ∧ why.IsOfWriting)) := by
  rw [bulkOutcome, hbulk]
  dsimp only
  rw [hbody, reported_of_bulkAnswer hanswer]
  cases hfailed : failedIn members with
  | nil =>
    left
    cases flagsErrors members <;> exact ⟨rfl, rfl⟩
  | cons first others =>
    obtain ⟨hflag, -⟩ := failedIn_ne_nil_iff.mp (hfailed ▸ List.cons_ne_nil first others)
    have hfull : ((first :: others).map described).isEmpty = false := rfl
    right
    refine ⟨first, others, rfl, ?_⟩
    rw [hflag, if_pos rfl]
    dsimp only
    rw [hfull, if_neg Bool.false_ne_true]
    rcases partialWrite_described first others with ⟨htold, hfault⟩ | ⟨huntold, why, hwhy, hkind⟩
    · rw [hfault]
      exact .inl ⟨htold, rfl⟩
    · rw [hwhy]
      exact .inr ⟨huntold, why, rfl, hkind⟩

section Answered

variable {cluster : Cluster} {answer : Answer} {members : Members}

omit [Stack] in
theorem failsBulk_iff (hbulk : cluster.bulk = .ok answer) (hbody : answer.body = .obj members) :
    cluster.FailsBulk ↔ failedIn members ≠ [] := by
  rw [failedIn_ne_nil_iff]
  constructor
  · rintro (⟨fault, hfault⟩ | ⟨answer', members', hbulk', hbody', hfailed⟩)
    · rw [hbulk] at hfault
      cases hfault
    · rw [hbulk] at hbulk'
      cases hbulk'
      rw [hbody] at hbody'
      cases hbody'
      exact hfailed
  · intro hfailed
    exact .inr ⟨answer, members, hbulk, hbody, hfailed⟩

theorem hidesFailure_iff (hbulk : cluster.bulk = .ok answer) (hbody : answer.body = .obj members) :
    cluster.HidesFailure ↔
      ∃ first others, failedIn members = first :: others ∧ ¬CanBeTold first := by
  constructor
  · rintro ⟨answer', members', first, others, hbulk', hbody', hfirst⟩
    rw [hbulk] at hbulk'
    cases hbulk'
    rw [hbody] at hbody'
    cases hbody'
    exact ⟨first, others, hfirst⟩
  · rintro ⟨first, others, hfirst⟩
    exact ⟨answer, members, first, others, hbulk, hbody, hfirst⟩

end Answered

/-- What comes of a bulk request: a failure to write where the cluster fails it, else none. Where
the failure cannot be told, what comes of it is of another kind. -/
theorem bulkOutcome_of_expected {cluster : Cluster} (h : cluster.IsExpected) :
    (cluster.FailsBulk ∧ ¬cluster.HidesFailure ∧
        ∃ fault, bulkOutcome cluster = .error fault ∧ fault.kind.isWrite = true ∧
          fault.untold = none) ∨
      (cluster.FailsBulk ∧ cluster.HidesFailure ∧
        ∃ why, bulkOutcome cluster = .error why ∧ why.IsOfWriting) ∨
      (¬cluster.FailsBulk ∧ ¬cluster.HidesFailure ∧ bulkOutcome cluster = .ok ()) := by
  rcases h with ⟨fault, hbulk, huntold, hkind⟩ | ⟨answer, members, hbulk, hbody, hanswer⟩
  · refine .inl ⟨.inl ⟨fault, hbulk⟩, ?_, .bulkFailed fault, ?_, rfl, rfl⟩
    · rintro ⟨answer, members, first, others, hanswer, -⟩
      rw [hbulk] at hanswer
      cases hanswer
    · rw [bulkOutcome, hbulk]
      simp only [hkind, huntold, if_true, Option.getD_none]
  · -- The request was answered, so it is for the answer to say whether it failed.
    rw [failsBulk_iff hbulk hbody, hidesFailure_iff hbulk hbody]
    rcases bulkOutcome_of_answer hbulk hbody hanswer with
      ⟨hnone, hok⟩ | ⟨first, others, hfailed, hends⟩
    · rw [hnone]
      exact .inr (.inr ⟨fun h => h rfl, fun ⟨_, _, h, _⟩ => (by cases h), hok⟩)
    · rw [hfailed] at hends ⊢
      rcases hends with ⟨htold, hout⟩ | ⟨huntold, why, hout, hwhy⟩
      · refine .inl ⟨List.cons_ne_nil _ _, ?_, _, hout, rfl, rfl⟩
        rintro ⟨first', others', hfirst, huntold⟩
        cases hfirst
        exact huntold htold
      · exact .inr (.inl ⟨List.cons_ne_nil _ _, ⟨first, others, rfl, huntold⟩, why, hout, hwhy⟩)

end Sink

end TopicSink
