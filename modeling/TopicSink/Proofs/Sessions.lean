import TopicSink.Proofs.Histories
import TopicSink.Proofs.Readiness
import TopicSink.Proofs.Submissions

/-!
Sessions: any operations one after another on the connection of a sink, while the cluster and its
clients change their behaviour from each to the next. `single_client` tells what the history of
every session is like.
-/

namespace TopicSink

namespace Session

inductive Operation where
  | getClient
  | closeClient
  | insert (records : List Record)
  | readiness

variable [Stack]

/-- An operation on a connection. It returns the client that it hands out, if it hands out one. -/
def Operation.act (cluster : Cluster) (settings : Settings) :
    Operation → Act Connection (Option Nat)
  | .getClient => do
    let n ← Connection.client cluster settings
    pure (some n)
  | .closeClient => do
    Connection.close cluster settings
    pure none
  | .insert records => do
    Sink.insert cluster settings records
    pure none
  | .readiness => do
    let _ ← Sink.readiness cluster settings
    pure none

structure Step where
  cluster : Cluster
  operation : Operation

end Session

/-- A connection, and what has happened to clients so far. -/
structure Session where
  connection : Connection
  history : List Session.Event

namespace Session

variable [Stack]

def report (settings : Settings) (s : Session) (step : Step) : Report Connection (Option Nat) :=
  step.operation.act step.cluster settings s.connection

def next (settings : Settings) (s : Session) (step : Step) : Session :=
  let r := s.report settings step
  ⟨r.state, r.calls.foldl (record (Connection.refusal step.cluster settings).isSome) s.history⟩

def after (settings : Settings) (steps : List Step) : Session :=
  steps.foldl (next settings) ⟨Connection.initial, []⟩

section Operations

variable {cluster : Cluster} {settings : Settings} {c : Connection} {history : List Event}

omit [Stack] in
/-- Getting a client keeps a history orderly, and the client that it hands out is the open one. -/
theorem Orderly.client (h : Orderly history c.made c.live) (cluster : Cluster)
    (settings : Settings) :
    let got := Connection.client cluster settings c
    Orderly (got.calls.foldl (record (Connection.refusal cluster settings).isSome) history)
        got.state.made got.state.live ∧
      ∀ n, got.outcome = .ok n → got.state.live = some n := by
  intro got
  rcases Connection.client_cases cluster settings c with
    ⟨fault, hl, hf, hc⟩ | ⟨n, hl, hc⟩ | ⟨hl, hf, hc⟩
  · have hgot : got = _ := hc
    rw [hgot, hf]
    exact ⟨h, fun n hn => by cases hn⟩
  · have hgot : got = _ := hc
    rw [hgot]
    refine ⟨h, fun k hk => ?_⟩
    rw [← Except.ok.inj hk]
    exact hl
  · rw [hl] at h
    have hgot : got = _ := hc
    rw [hgot, hf]
    refine ⟨?_, fun k hk => ?_⟩
    · have hm := h.madeCount_eq
      have hmade := h.made
      rw [← hm] at hmade ⊢
      exact hmade
    · rw [← Except.ok.inj hk]

/-- Whether a report goes on from the report of getting a client: in its state, and with calls of
that client only. -/
def GoesOn {α : Type} (got : Report Connection Nat) (report : Report Connection α) : Prop :=
  report.state = got.state ∧
    ∃ uses, report.calls = got.calls ++ uses ∧
      ∀ call ∈ uses, ∃ n, got.outcome = .ok n ∧ IsUseOf n call

theorem submit_goesOn (cluster : Cluster) (settings : Settings) (c : Connection) (n : Nat)
    (operations : List Json) :
    GoesOn (Connection.client cluster settings c)
      (Sink.submit cluster settings n operations c) := by
  rcases hgot : Connection.client cluster settings c with ⟨outcome, c', asked, logs⟩
  cases outcome with
  | error fault =>
    rw [Sink.submit_of_error hgot]
    exact ⟨rfl, [], (List.append_nil asked).symm, fun call hcall => by cases hcall⟩
  | ok client =>
    rw [Sink.submit_of_client hgot]
    refine ⟨rfl, _, rfl, fun call hcall => ?_⟩
    rw [List.mem_singleton.mp hcall]
    exact ⟨client, rfl, rfl⟩

omit [Stack] in
theorem ping_goesOn (cluster : Cluster) (settings : Settings) (c : Connection) :
    GoesOn (Connection.client cluster settings c) (Sink.ping cluster settings c) := by
  rcases hgot : Connection.client cluster settings c with ⟨outcome, c', asked, logs⟩
  cases outcome with
  | error fault =>
    rw [Sink.ping_of_error hgot]
    exact ⟨rfl, [], (List.append_nil asked).symm, fun call hcall => by cases hcall⟩
  | ok client =>
    rw [Sink.ping_of_client hgot]
    refine ⟨rfl, _, rfl, fun call hcall => ?_⟩
    rw [List.mem_singleton.mp hcall]
    exact ⟨client, rfl, rfl⟩

/-- An insertion leaves the connection alone, or goes on from getting a client. A batch that has
operations and is not empty does the latter. -/
theorem insert_goesOn (cluster : Cluster) (settings : Settings) (c : Connection)
    (records : List Record) :
    let report := Sink.insert cluster settings records c
    (report.calls = [] ∧ report.state = c ∧
        ¬(records ≠ [] ∧ ∃ operations, Sink.operationsOf settings records = .ok operations)) ∨
      GoesOn (Connection.client cluster settings c) report := by
  intro report
  cases hoperations : Sink.operationsOf settings records with
  | error fault =>
    obtain ⟨logs, -, hi⟩ := Sink.insert_of_failed hoperations
    have hreport : report = _ := hi cluster c
    rw [hreport]
    refine .inl ⟨rfl, rfl, ?_⟩
    rintro ⟨-, operations, hok⟩
    cases hok
  | ok operations =>
    by_cases hne : records = []
    · subst hne
      have hreport : report = _ := Sink.insert_nil cluster settings c
      rw [hreport]
      exact .inl ⟨rfl, rfl, fun h => h.1 rfl⟩
    · have hreport : report = _ := Sink.insert_of_derived hne hoperations cluster c
      rw [hreport]
      exact .inr (submit_goesOn cluster settings c records.length operations)

theorem act_getClient (cluster : Cluster) (settings : Settings) (c : Connection) :
    let got := Connection.client cluster settings c
    Operation.getClient.act cluster settings c =
      ⟨got.outcome.map some, got.state, got.calls, got.logs⟩ :=
  Act.bind_pure_apply (Connection.client cluster settings) some c

theorem act_closeClient (cluster : Cluster) (settings : Settings) (c : Connection) :
    let closed := Connection.close cluster settings c
    Operation.closeClient.act cluster settings c =
      ⟨closed.outcome.map fun _ => none, closed.state, closed.calls, closed.logs⟩ :=
  Act.bind_pure_apply (Connection.close cluster settings) (fun _ => none) c

theorem act_insert (cluster : Cluster) (settings : Settings) (records : List Record)
    (c : Connection) :
    let inserted := Sink.insert cluster settings records c
    Operation.act cluster settings (.insert records) c =
      ⟨inserted.outcome.map fun _ => none, inserted.state, inserted.calls, inserted.logs⟩ :=
  Act.bind_pure_apply (Sink.insert cluster settings records) (fun _ => none) c

theorem act_readiness (cluster : Cluster) (settings : Settings) (c : Connection) :
    let p := Sink.ping cluster settings c
    Operation.readiness.act cluster settings c =
      ⟨(Sink.readinessOutcome p.outcome).map fun _ => none, p.state, p.calls,
        p.logs ++ Sink.readinessLines p.outcome⟩ := by
  intro p
  have hbind : Operation.readiness.act cluster settings c = _ :=
    Act.bind_pure_apply (Sink.readiness cluster settings) (fun _ => none) c
  rw [hbind, Sink.readiness_apply]

def Operation.needsClient (settings : Settings) : Operation → Prop
  | .getClient | .readiness => True
  | .closeClient => False
  | .insert records =>
    records ≠ [] ∧ ∃ operations, Sink.operationsOf settings records = .ok operations

/-- An operation that does not close leaves the connection alone, or goes on from getting a client;
the client that it hands out is the one that it got. -/
theorem act_goesOn {operation : Operation} (hop : operation ≠ .closeClient) (cluster : Cluster)
    (settings : Settings) (c : Connection) :
    let report := operation.act cluster settings c
    let got := Connection.client cluster settings c
    (∀ n, report.outcome = .ok (some n) → got.outcome = .ok n ∧ report.state = got.state) ∧
      ((report.calls = [] ∧ report.state = c ∧ ¬operation.needsClient settings) ∨
        GoesOn got report) := by
  intro report got
  -- Only getting a client hands one out, so of the others just the calls and the state matter.
  cases operation with
  | closeClient => exact absurd rfl hop
  | getClient =>
    have hreport : report = _ := act_getClient cluster settings c
    rw [hreport]
    have hgoes : GoesOn got ⟨got.outcome.map some, got.state, got.calls, got.logs⟩ :=
      ⟨rfl, [], (List.append_nil got.calls).symm, fun call hcall => by cases hcall⟩
    refine ⟨fun n hn => ?_, .inr hgoes⟩
    cases hout : (Connection.client cluster settings c).outcome with
    | error fault => simp [hout, Except.map] at hn
    | ok k =>
      refine ⟨?_, rfl⟩
      have hk : k = n := by simpa [hout, Except.map] using hn
      rw [hk]
  | insert records =>
    have hreport : report = _ := act_insert cluster settings records c
    rw [hreport]
    refine ⟨fun n hn => ?_, ?_⟩
    · cases hout : (Sink.insert cluster settings records c).outcome <;> simp [hout, Except.map] at hn
    · exact insert_goesOn cluster settings c records
  | readiness =>
    have hreport : report = _ := act_readiness cluster settings c
    rw [hreport]
    refine ⟨fun n hn => ?_, .inr (ping_goesOn cluster settings c)⟩
    cases hout : Sink.readinessOutcome (Sink.ping cluster settings c).outcome <;>
      simp [hout, Except.map] at hn

omit [Stack] in
/-- A report that goes on from getting a client keeps the history orderly. -/
theorem Orderly.goesOn {α : Type} {report : Report Connection α}
    (h : Orderly history c.made c.live)
    (hreport : GoesOn (Connection.client cluster settings c) report) :
    Orderly (report.calls.foldl (record (Connection.refusal cluster settings).isSome) history)
      report.state.made report.state.live := by
  obtain ⟨hgot, hlive⟩ := Orderly.client h cluster settings
  obtain ⟨hstate, uses, hcalls, huses⟩ := hreport
  rw [hcalls, hstate, List.foldl_append]
  cases hout : (Connection.client cluster settings c).outcome with
  | error fault =>
    -- Every call behind uses the client that was got, and here none was.
    have hnone : uses = [] := by
      apply List.eq_nil_iff_forall_not_mem.mpr
      intro call hcall
      obtain ⟨n, hn, -⟩ := huses call hcall
      rw [hout] at hn
      cases hn
    rw [hnone]
    exact hgot
  | ok n =>
    have hl := hlive n hout
    rw [hl] at hgot ⊢
    apply hgot.uses
    intro call hcall
    obtain ⟨k, hk, huse⟩ := huses call hcall
    rw [hout] at hk
    cases hk
    exact huse

omit [Stack] in
theorem Orderly.close (h : Orderly history c.made c.live) (cluster : Cluster)
    (settings : Settings) (refused : Bool) :
    let report := Connection.close cluster settings c
    Orderly (report.calls.foldl (record refused) history) report.state.made report.state.live := by
  intro report
  cases hl : c.live with
  | none =>
    have hreport : report = _ := Connection.close_of_none hl _ _
    rw [hreport]
    exact h
  | some n =>
    have hreport : report = _ := Connection.close_of_live hl _ _
    rw [hreport]
    rw [hl] at h
    exact h.closed

/-- Every operation keeps a history orderly. -/
theorem Orderly.act (h : Orderly history c.made c.live) (operation : Operation) (cluster : Cluster)
    (settings : Settings) :
    let report := operation.act cluster settings c
    Orderly (report.calls.foldl (record (Connection.refusal cluster settings).isSome) history)
      report.state.made report.state.live := by
  intro report
  by_cases hop : operation = .closeClient
  · subst hop
    have hreport : report = _ := act_closeClient cluster settings c
    rw [hreport]
    exact h.close cluster settings _
  · obtain ⟨-, hreport⟩ := act_goesOn hop cluster settings c
    rcases hreport with ⟨hcalls, hstate, -⟩ | hgoes
    · have hcalls' : report.calls = [] := hcalls
      have hstate' : report.state = c := hstate
      rw [hcalls', hstate']
      exact h
    · exact h.goesOn hgoes

theorem closeClient_hands_none (n : Nat) :
    (Operation.closeClient.act cluster settings c).outcome ≠ .ok (some n) := by
  rw [act_closeClient]
  cases (Connection.close cluster settings c).outcome <;> simp [Except.map]

theorem createClient_not_mem_close (host : Text) (options : ClientOptions) :
    .createClient host options ∉ (Operation.closeClient.act cluster settings c).calls := by
  rw [act_closeClient]
  cases hl : c.live with
  | none => simp [Connection.close_of_none hl]
  | some n => simp [Connection.close_of_live hl]

theorem next_connection (settings : Settings) (s : Session) (step : Step) :
    (s.next settings step).connection = (s.report settings step).state := rfl

end Operations

section Runs

variable {settings : Settings} {s : Session}

/-- The history is orderly, and the connection is the one that it leaves behind. -/
def IsKept (s : Session) : Prop := Orderly s.history s.connection.made s.connection.live

/-- Every step keeps the history of a session orderly. -/
theorem IsKept.next (h : s.IsKept) (settings : Settings) (step : Step) :
    (s.next settings step).IsKept := by
  unfold IsKept
  rw [next_connection]
  exact Orderly.act h step.operation step.cluster settings

theorem IsKept.foldl (h : s.IsKept) (settings : Settings) (steps : List Step) :
    (steps.foldl (Session.next settings) s).IsKept := by
  induction steps generalizing s with
  | nil => exact h
  | cons step steps ih => exact ih (h.next settings step)

theorem isKept_after (settings : Settings) (steps : List Step) : (after settings steps).IsKept := by
  have hfresh : IsKept ⟨Connection.initial, []⟩ := Orderly.fresh
  exact hfresh.foldl settings steps

omit [Stack] in
theorem IsKept.openClients_eq (h : s.IsKept) :
    openClients s.history = s.connection.live.toList := Orderly.openClients_eq h

theorem IsKept.openClients_of_handed (h : s.IsKept) {step : Step} {n : Nat}
    (hn : (s.report settings step).outcome = .ok (some n)) :
    openClients (s.next settings step).history = [n] := by
  have hop : step.operation ≠ .closeClient := by
    intro hop
    rw [report, hop] at hn
    exact closeClient_hands_none n hn
  obtain ⟨hhanded, -⟩ :=
    act_goesOn hop step.cluster settings s.connection
  obtain ⟨hgot, hstate⟩ := hhanded n hn
  have hlive := (Orderly.client h step.cluster settings).2 n hgot
  rw [(h.next settings step).openClients_eq, next_connection, report, hstate, hlive]
  rfl

theorem IsKept.outcome_of_open (h : s.IsKept) {step : Step} {n : Nat}
    (hop : step.operation = .getClient) (hopen : openClients s.history = [n]) :
    (s.report settings step).outcome = .ok (some n) := by
  have hlive : s.connection.live = some n := by
    rw [h.openClients_eq] at hopen
    cases hl : s.connection.live with
    | none => simp [hl] at hopen
    | some k => simpa [hl] using hopen
  have hclient := Connection.client_of_live hlive step.cluster settings
  rw [report, hop, act_getClient, hclient]
  rfl

theorem closeClient_not_mem {step : Step} (hop : step.operation ≠ .closeClient) (n : Nat) :
    .closeClient n ∉ (s.report settings step).calls := by
  obtain ⟨-, hreport⟩ :=
    act_goesOn hop step.cluster settings s.connection
  rcases hreport with ⟨hcalls, -, -⟩ | ⟨-, uses, hcalls, huses⟩
  · rw [report, hcalls]
    exact List.not_mem_nil
  -- Getting a client makes one at most, and what comes behind that only uses it.
  · rw [report, hcalls]
    intro hmem
    rcases List.mem_append.mp hmem with hmem | hmem
    · rcases Connection.client_cases step.cluster settings s.connection with
        ⟨fault, -, -, hc⟩ | ⟨k, -, hc⟩ | ⟨-, -, hc⟩
      · simp [hc, Connection.request] at hmem
      · simp [hc] at hmem
      · simp [hc, Connection.request] at hmem
    · obtain ⟨k, -, huse⟩ := huses _ hmem
      exact huse

theorem live_eq_none_of_refusal {step : Step} {host : Text} {options : ClientOptions}
    (hcall : .createClient host options ∈ (s.report settings step).calls)
    (hf : Connection.refusal step.cluster settings ≠ none) :
    (s.next settings step).connection.live = none := by
  have hop : step.operation ≠ .closeClient := by
    intro hop
    rw [report, hop] at hcall
    exact createClient_not_mem_close host options hcall
  obtain ⟨-, hreport⟩ :=
    act_goesOn hop step.cluster settings s.connection
  rw [next_connection]
  rcases hreport with ⟨hcalls, -, -⟩ | ⟨hstate, uses, hcalls, huses⟩
  · rw [report, hcalls] at hcall
    cases hcall
  · rw [report, hstate]
    rcases Connection.client_cases step.cluster settings s.connection with
      ⟨fault, hl, -, hc⟩ | ⟨n, -, hc⟩ | ⟨-, hmade, -⟩
    · rw [hc]
      exact hl
    · rw [report, hcalls, hc, List.nil_append] at hcall
      obtain ⟨k, -, huse⟩ := huses _ hcall
      exact absurd huse id
    · exact absurd hmade hf

/-- What needs a client asks for one first where there is none. -/
theorem calls_of_needsClient {step : Step} (hl : s.connection.live = none)
    (hneeds : step.operation.needsClient settings) :
    ∃ rest, (s.report settings step).calls =
      .createClient settings.host (Connection.optionsFor settings) :: rest := by
  have hop : step.operation ≠ .closeClient := by
    intro hop
    rw [hop] at hneeds
    exact hneeds
  obtain ⟨-, hreport⟩ :=
    act_goesOn hop step.cluster settings s.connection
  rcases hreport with ⟨-, -, hnot⟩ | ⟨-, uses, hcalls, -⟩
  · exact absurd hneeds hnot
  · refine ⟨uses, ?_⟩
    rw [report, hcalls]
    rcases Connection.client_cases step.cluster settings s.connection with
      ⟨fault, -, -, hc⟩ | ⟨k, hk, -⟩ | ⟨-, -, hc⟩
    · rw [hc]
      rfl
    · rw [hl] at hk
      contradiction
    · rw [hc]
      rfl

/-- At most one client is open at any point of a session. The connection is live exactly while one
is, every request and every close goes to it, and it is the one that is handed out. Only closing
closes. Where a factory refuses, no client is left, and without one whatever needs it asks a factory
first. -/
theorem single_client (settings : Settings) (steps : List Step) :
    let s := after settings steps
    (∀ before rest, s.history = before ++ rest → (openClients before).length ≤ 1) ∧
    (s.connection.isLive = true ↔ ∃ n, openClients s.history = [n]) ∧
    (∀ before rest event n, s.history = before ++ event :: rest →
      event = .used n ∨ event = .closed n → openClients before = [n]) ∧
    (∀ step : Step,
      let report := s.report settings step
      let s' := s.next settings step
      (∀ n, report.outcome = .ok (some n) → openClients s'.history = [n]) ∧
      (step.operation = .getClient → ∀ n, openClients s.history = [n] →
        report.outcome = .ok (some n)) ∧
      (step.operation ≠ .closeClient → ∀ n, .closeClient n ∉ report.calls) ∧
      (∀ host options, .createClient host options ∈ report.calls →
        Connection.refusal step.cluster settings ≠ none → s'.connection.isLive = false) ∧
      (s.connection.isLive = false → step.operation.needsClient settings →
        ∃ rest, report.calls =
          .createClient settings.host (Connection.optionsFor settings) :: rest)) := by
  intro s
  have hs : s.IsKept := isKept_after settings steps
  refine ⟨?_, ?_, ?_, ?_⟩
  -- What is orderly now was orderly at every point before.
  · intro before rest hsplit
    have horderly := hs
    unfold IsKept at horderly
    rw [hsplit] at horderly
    obtain ⟨m, live, hbefore⟩ := horderly.beginning
    rw [hbefore.openClients_eq]
    cases live <;> simp
  · rw [hs.openClients_eq, Connection.isLive]
    cases s.connection.live <;> simp
  · intro before rest event n hsplit hevent
    have horderly := hs
    unfold IsKept at horderly
    rw [hsplit] at horderly
    exact horderly.openClients_of_touched hevent
  · intro step report s'
    refine ⟨?_, ?_, ?_, ?_, ?_⟩
    · intro n hn
      exact hs.openClients_of_handed hn
    · intro hop n hopen
      exact hs.outcome_of_open hop hopen
    · intro hop n
      exact closeClient_not_mem hop n
    · intro host options hcall hf
      have hlive : s'.connection.live = none := live_eq_none_of_refusal hcall hf
      rw [Connection.isLive, hlive]
      rfl
    · intro hlive hneeds
      have hnone : s.connection.live = none := by
        rw [Connection.isLive] at hlive
        exact Option.isNone_iff_eq_none.mp (Option.isSome_eq_false_iff.mp hlive)
      exact calls_of_needsClient hnone hneeds

end Runs

end Session

end TopicSink
