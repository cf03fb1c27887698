import TopicSink.Proofs.Answers

namespace TopicSink

def errorLines (logs : List LogLine) : List LogLine := logs.filter fun l => l.severity = .error

theorem errorLines_append (logs logs' : List LogLine) :
    errorLines (logs ++ logs') = errorLines logs ++ errorLines logs' := List.filter_append logs logs'

/-- A line says of a fault what the fault says of itself. -/
def LogLine.Tells (line : LogLine) (fault : Fault) : Prop :=
  ∃ text, line.message = .ok text ∧ fault.message <:+: text

theorem LogLine.tells_ofFault {fault : Fault} (h : fault.untold = none) (logger heading : Text) :
    (LogLine.ofFault logger heading fault).Tells fault := by
  refine ⟨heading ++ ": " ++ fault.message, ?_, (List.suffix_append _ _).isInfix⟩
  rw [LogLine.ofFault, Fault.told, h]
  rfl

theorem LogLine.message_ofFault {fault why : Fault} (h : fault.untold = some why)
    (logger heading : Text) : (LogLine.ofFault logger heading fault).message = .error why := by
  rw [LogLine.ofFault, Fault.told, h]
  rfl

/-- How a cluster goes about a bulk request: it fails on the way or refuses, or it gives an answer
that is an object with well-formed items. -/
def Cluster.IsDocumented (cluster : Cluster) : Prop :=
  (∃ fault, cluster.bulk = .error fault ∧ (fault.kind.isTransport || fault.kind.isApi) = true) ∨
    ∃ answer members, cluster.bulk = .ok answer ∧ answer.body = .obj members ∧
      Sink.IsBulkAnswer members

namespace Sink

def insertKinds : List Kind := [.fieldNotFound, .datastoreConnection, .write, .partialWrite]

variable [Stack]

/-- How an insertion may end, and the error lines that it leaves then. -/
inductive LeavesErrors (cluster : Cluster) (settings : Settings) :
    Except Fault Unit → List LogLine → Prop where
  | done : LeavesErrors cluster settings (.ok ()) []
  -- The line tells the fault, or the one that it was raised from.
  | told {fault told : Fault} {line : LogLine} (hkind : fault.kind ∈ insertKinds)
      (htold : told = fault ∨ fault.cause = some told) (hline : line.Tells told) :
      LeavesErrors cluster settings (.error fault) [line]
  -- What the factory or the bulk request fails with cannot be told, neither in the line nor behind it.
  | untold {source why : Fault} {line : LogLine}
      (hsource : Connection.refusal cluster settings = some source ∨ cluster.bulk = .error source)
      (huntold : source.untold = some why) (hline : line.message = .error why) :
      LeavesErrors cluster settings (.error why) [line]
  -- The fault of the rejected documents cannot be put together.
  | hidden {why : Fault} (hhides : cluster.HidesFailure) (hwhy : why.IsOfWriting) :
      LeavesErrors cluster settings (.error why) []

variable {cluster : Cluster} {settings : Settings} {c : Connection}

omit [Stack] in
theorem errorLines_ofFault (logger heading : Text) (fault : Fault) :
    errorLines [.ofFault logger heading fault] = [.ofFault logger heading fault] := rfl

theorem leavesErrors_of_refusal {fault : Fault}
    (h : Connection.refusal cluster settings = some fault) :
    LeavesErrors cluster settings (.error (Connection.unavailable settings fault))
      (errorLines [Connection.refusalLine fault]) := by
  unfold Connection.unavailable Connection.refusalLine
  rw [errorLines_ofFault]
  cases huntold : fault.untold with
  | some why => exact .untold (.inl h) huntold (LogLine.message_ofFault huntold _ _)
  | none =>
    have hkind : Kind.datastoreConnection ∈ insertKinds := by decide
    exact .told hkind (.inr rfl) (LogLine.tells_ofFault huntold _ _)

theorem leavesErrors_of_bulkFailure {fault : Fault} (hbulk : cluster.bulk = .error fault)
    (hkind : (fault.kind.isTransport || fault.kind.isApi) = true) (settings : Settings) (n : Nat) :
    LeavesErrors cluster settings (bulkOutcome cluster) (errorLines (bulkLines cluster n)) := by
  unfold bulkOutcome bulkLines
  rw [hbulk]
  simp only [hkind, if_true, errorLines_ofFault]
  cases huntold : fault.untold with
  | some why => exact .untold (.inr hbulk) huntold (LogLine.message_ofFault huntold _ _)
  | none =>
    have hwrite : Kind.write ∈ insertKinds := by decide
    exact .told hwrite (.inr rfl) (LogLine.tells_ofFault huntold _ _)

/-- An answer leaves one error line where it tells of a rejected document that can be told, and else
none. -/
theorem leavesErrors_of_bulkAnswer {answer : Answer} {members : Members}
    (hbulk : cluster.bulk = .ok answer) (hbody : answer.body = .obj members)
    (hanswer : IsBulkAnswer members) (settings : Settings) (n : Nat) :
    LeavesErrors cluster settings (bulkOutcome cluster) (errorLines (bulkLines cluster n)) := by
  unfold bulkOutcome bulkLines
  rw [hbulk]
  dsimp only
  rw [hbody, reported_of_bulkAnswer hanswer]
  cases hflag : flagsErrors members with
  | false => exact .done
  | true =>
    simp only [if_true]
    -- Errors may be flagged of an answer that rejects nothing; that is a warning.
    cases hfailed : failedIn members with
    | nil => exact .done
    | cons first others =>
      have hfull : ((first :: others).map described).isEmpty = false := rfl
      have hkind : Kind.partialWrite ∈ insertKinds := by decide
      simp only [hfull, Bool.false_eq_true, if_false]
      rcases partialWrite_described first others with ⟨-, hfault⟩ | ⟨huntold, why, hwhy, hkind⟩
      · rw [hfault]
        exact .told hkind (.inl rfl) (LogLine.tells_ofFault rfl _ _)
      · rw [hwhy]
        exact .hidden ⟨answer, members, first, others, hbulk, hbody, hfailed, huntold⟩ hkind

/-- A bulk request leaves one error line where the cluster fails it or rejects documents. -/
theorem leavesErrors_of_bulk (h : cluster.IsDocumented) (settings : Settings) (n : Nat) :
    LeavesErrors cluster settings (bulkOutcome cluster) (errorLines (bulkLines cluster n)) := by
  rcases h with ⟨fault, hbulk, hkind⟩ | ⟨answer, members, hbulk, hbody, hanswer⟩
  · exact leavesErrors_of_bulkFailure hbulk hkind settings n
  · exact leavesErrors_of_bulkAnswer hbulk hbody hanswer settings n

omit [Stack] in
theorem errorLines_of_client {client : Nat} {c' : Connection} {asked : List Call}
    {logs : List LogLine}
    (h : Connection.client cluster settings c = ⟨.ok client, c', asked, logs⟩) :
    errorLines logs = [] := by
  rcases Connection.client_cases cluster settings c with ⟨fault, -, -, hc⟩ | ⟨n, -, hc⟩ | ⟨-, -, hc⟩
  · rw [hc] at h
    cases congrArg Report.outcome h
  · rw [hc] at h
    cases congrArg Report.logs h
    rfl
  · rw [hc] at h
    cases congrArg Report.logs h
    rfl

/-- Every way that an insertion can end leaves its error lines. -/
theorem leavesErrors_of_insert (hbulk : cluster.IsDocumented) (settings : Settings)
    (c : Connection) {records : List Record} (hr : ∀ r ∈ records, r.IsRenderable) :
    LeavesErrors cluster settings (insert cluster settings records c).outcome
      (errorLines (insert cluster settings records c).logs) := by
  by_cases hne : records = []
  · rw [hne, insert_nil]
    exact .done
  cases hmissing : records.findSome? (missing? settings) with
  | some column =>
    obtain ⟨heading, hi⟩ := insert_of_missing hr hmissing cluster c
    have hkind : (Fault.fieldNotFound column).kind ∈ insertKinds := List.mem_cons_self
    rw [hi, errorLines_ofFault]
    exact .told hkind (.inl rfl) (LogLine.tells_ofFault rfl _ _)
  | none =>
    have hpresent := List.findSome?_eq_none_iff.mp hmissing
    by_cases havailable : c.live ≠ none ∨ Connection.refusal cluster settings = none
    · obtain ⟨client, c', logs, hclient, -, -⟩ := Connection.client_of_available havailable
      obtain ⟨operations, -, hi⟩ := insert_of_client hr hne hpresent hclient
      rw [hi, errorLines_append, errorLines_of_client hclient, List.nil_append]
      exact leavesErrors_of_bulk hbulk settings _
    · obtain ⟨hlive, hrefusal⟩ := not_or.mp havailable
      obtain ⟨fault, hfault⟩ := Option.ne_none_iff_exists'.mp hrefusal
      rw [insert_of_refusal hr hne hpresent (not_not.mp hlive) hfault]
      exact leavesErrors_of_refusal hfault

/-- No insertion is logged twice. One that succeeds leaves no error line. One that fails leaves
exactly one, which says what its fault says or the one that this was raised from. Where what the
factory or the bulk request fails with cannot be told, that line cannot be told either, and the
fault is the one of telling it; and where the rejected documents cannot be told, there is no line.
-/
theorem insert_error_lines (cluster : Cluster) (settings : Settings) (c : Connection)
    (records : List Record) (hr : ∀ r ∈ records, r.IsRenderable) (hbulk : cluster.IsDocumented) :
    let report := insert cluster settings records c
    (report.outcome = .ok () → errorLines report.logs = []) ∧
    (∀ fault, report.outcome = .error fault →
      (fault.kind ∈ insertKinds ∧
        ∃ line told, errorLines report.logs = [line] ∧
          (told = fault ∨ fault.cause = some told) ∧ line.Tells told) ∨
      (∃ line source, errorLines report.logs = [line] ∧ line.message = .error fault ∧
        source.untold = some fault ∧
          (Connection.refusal cluster settings = some source ∨ cluster.bulk = .error source)) ∨
      (errorLines report.logs = [] ∧ fault.IsOfWriting ∧ cluster.HidesFailure)) := by
  intro report
  have hleaves : LeavesErrors cluster settings report.outcome (errorLines report.logs) :=
    leavesErrors_of_insert hbulk settings c hr
  generalize report.outcome = outcome at hleaves ⊢
  generalize errorLines report.logs = errors at hleaves ⊢
  cases hleaves with
  | done => exact ⟨fun _ => rfl, fun fault h => by cases h⟩
  | told hkind htold hline =>
    refine ⟨fun h => (by cases h), fun fault h => ?_⟩
    cases h
    exact .inl ⟨hkind, _, _, rfl, htold, hline⟩
  | untold hsource huntold hline =>
    refine ⟨fun h => (by cases h), fun fault h => ?_⟩
    cases h
    exact .inr (.inl ⟨_, _, rfl, hline, huntold, hsource⟩)
  | hidden hhides hwhy =>
    refine ⟨fun h => (by cases h), fun fault h => ?_⟩
    cases h
    exact .inr (.inr ⟨rfl, hwhy, hhides⟩)

/-- The record is submitted where there is a client. -/
theorem insert_order {client : Nat} {c' : Connection} {asked : List Call} {logs : List LogLine}
    (h : Connection.client cluster Settings.default c = ⟨.ok client, c', asked, logs⟩) :
    (insert cluster Settings.default [order] c).outcome = bulkOutcome cluster ∧
      (insert cluster Settings.default [order] c).logs = logs ++ bulkLines cluster 1 := by
  obtain ⟨operations, -, hi⟩ :=
    insert_of_client order_isRenderable (List.cons_ne_nil order []) order_isPresent h
  exact ⟨congrArg Report.outcome hi, congrArg Report.logs hi⟩

omit [Stack] in
/-- A bulk request that takes too long fails the insertion, and one line tells of it. -/
theorem insert_error_lines_timeout :
    letI := Stack.usual
    let fault : Fault := .raised .timeout "Connection timed out"
    let cluster : Cluster := ⟨fun _ _ => none, .error fault, .ok (.bare .null), none⟩
    let report := insert cluster Settings.default [order] Connection.initial
    report.outcome = .error (.bulkFailed fault) ∧
      ∃ (line : LogLine) (told : Fault), errorLines report.logs = [line] ∧
        (told = .bulkFailed fault ∨ told = fault) ∧ line.Tells told := by
  let _ : Stack := Stack.usual
  intro fault cluster report
  have hdocumented : cluster.IsDocumented := .inl ⟨fault, rfl, rfl⟩
  have houtcome : report.outcome = .error (.bulkFailed fault) := by
    have havailable : Connection.initial.live ≠ none ∨
        Connection.refusal cluster Settings.default = none := .inr rfl
    obtain ⟨client, c', logs, hclient, -, -⟩ := Connection.client_of_available havailable
    exact (insert_order hclient).1
  refine ⟨houtcome, ?_⟩
  have hlines := (insert_error_lines cluster Settings.default Connection.initial [order]
    order_isRenderable hdocumented).2 _ houtcome
  rcases hlines with ⟨-, line, told, hline, htold, htells⟩ | ⟨line, source, -, -, huntold, h⟩ | ⟨-, h, -⟩
  · exact ⟨line, told, hline, htold.imp_right fun hcause => (Option.some.inj hcause).symm, htells⟩
  · rcases h with hrefusal | hbulk
    · cases hrefusal
    · cases hbulk
      cases huntold
  · rcases h with h | h | h <;> cases h

omit [Stack] in
/-- A refusal of which the reason cannot be told fails the insertion with that, and not as a failure
to write. -/
theorem insert_error_lines_untold :
    letI := Stack.usual
    ¬ ∀ (cluster : Cluster) (settings : Settings) (c : Connection) (records : List Record),
      (∀ r ∈ records, r.IsRenderable) → cluster.IsDocumented →
        ∀ fault, (insert cluster settings records c).outcome = .error fault →
          ∃ line told, errorLines (insert cluster settings records c).logs = [line] ∧
            (told = fault ∨ fault.cause = some told) ∧ line.Tells told := by
  let _ : Stack := Stack.usual
  intro h
  let fault : Fault := StandardClient.refusal .api (.int 400) "m"
    (.obj [("error", .obj [("root_cause", .null)])])
  let cluster : Cluster := ⟨fun _ _ => none, .error fault, .ok (.bare .null), none⟩
  have hclient : Connection.client cluster Settings.default ⟨some 0, 1⟩ =
      ⟨.ok 0, ⟨some 0, 1⟩, [], []⟩ := Connection.client_of_live rfl cluster Settings.default
  obtain ⟨houtcome, hlogs⟩ := insert_order hclient
  obtain ⟨line, told, hline, -, text, htext, -⟩ := h cluster Settings.default ⟨some 0, 1⟩ [order]
    order_isRenderable (.inl ⟨fault, rfl, rfl⟩) (StandardClient.noParts .null) houtcome
  -- The one line is that of the refusal, and has no text.
  rw [hlogs] at hline
  have huntold : fault.untold = some (StandardClient.noParts .null) := rfl
  rw [← (List.cons.inj hline).1, LogLine.message_ofFault huntold] at htext
  cases htext

end Sink

end TopicSink
