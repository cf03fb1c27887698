import TopicSink.Connection
import TopicSink.Proofs.Acts

namespace TopicSink

namespace Connection

def refusal (cluster : Cluster) (settings : Settings) : Option Fault :=
  cluster.factory settings.host (optionsFor settings)

def request (settings : Settings) : Call := .createClient settings.host (optionsFor settings)

/-- The fault of a connection that gets no client. It tells the factory's fault, unless that one
cannot be told; then it is the fault of telling it. -/
def unavailable (settings : Settings) (fault : Fault) : Fault :=
  fault.untold.getD (.noClient settings.host fault)

def refusalLine (fault : Fault) : LogLine :=
  .ofFault logger "could not init elasticsearch client" fault

variable {cluster : Cluster} {settings : Settings} {c : Connection}

theorem connect_of_refusal {fault : Fault} (h : refusal cluster settings = some fault)
    (c : Connection) :
    connect cluster settings c =
      ⟨.error (unavailable settings fault), c, [request settings], [refusalLine fault]⟩ := by
  have hfactory : cluster.factory settings.host (optionsFor settings) = some fault := h
  unfold connect
  simp only [hfactory, Act.bind_apply, Act.ask_apply, Act.log_apply, Act.failAfter_apply,
    Report.behind_mk]
  rfl

theorem connect_of_made (h : refusal cluster settings = none) (c : Connection) :
    connect cluster settings c =
      ⟨.ok c.made, ⟨some c.made, c.made + 1⟩, [request settings],
        [.info logger ("Created Elasticsearch client for " ++ settings.host)]⟩ := by
  have hfactory : cluster.factory settings.host (optionsFor settings) = none := h
  unfold connect request
  simp [hfactory, Act.bind_apply]

theorem client_of_live {n : Nat} (h : c.live = some n) (cluster : Cluster) (settings : Settings) :
    client cluster settings c = ⟨.ok n, c, [], []⟩ := by
  simp [client, Act.bind_apply, h]

theorem client_of_none (h : c.live = none) (cluster : Cluster) (settings : Settings) :
    client cluster settings c = connect cluster settings c := by
  simp [client, Act.bind_apply, h, Report.behind]

/-- Getting a client either fails, which only happens where there is none and the factory refuses to
make one, or it leaves a live client, asking the factory only where there was none. -/
theorem client_cases (cluster : Cluster) (settings : Settings) (c : Connection) :
    (∃ fault, c.live = none ∧ refusal cluster settings = some fault ∧
      client cluster settings c =
        ⟨.error (unavailable settings fault), c, [request settings], [refusalLine fault]⟩) ∨
    (∃ n, c.live = some n ∧ client cluster settings c = ⟨.ok n, c, [], []⟩) ∨
    (c.live = none ∧ refusal cluster settings = none ∧
      client cluster settings c =
        ⟨.ok c.made, ⟨some c.made, c.made + 1⟩, [request settings],
          [.info logger ("Created Elasticsearch client for " ++ settings.host)]⟩) := by
  cases hl : c.live with
  | some n => exact .inr (.inl ⟨n, rfl, client_of_live hl cluster settings⟩)
  | none =>
    rw [client_of_none hl]
    cases hr : refusal cluster settings with
    | some fault => exact .inl ⟨fault, rfl, rfl, connect_of_refusal hr c⟩
    | none => exact .inr (.inr ⟨rfl, rfl, connect_of_made hr c⟩)

/-- Where there is a client, or one can be made, getting it leaves it live, and asks the factory
only where there was none. -/
theorem client_of_available (h : c.live ≠ none ∨ refusal cluster settings = none) :
    ∃ n c' logs, client cluster settings c =
        ⟨.ok n, c', if c.isLive then [] else [request settings], logs⟩ ∧
      c'.live = some n ∧ (c.live ≠ none → c' = c) := by
  rcases client_cases cluster settings c with ⟨fault, hl, hf, -⟩ | ⟨n, hl, hc⟩ | ⟨hl, -, hc⟩
  · rcases h with hlive | hmade
    · exact absurd hl hlive
    · rw [hf] at hmade
      contradiction
  · refine ⟨n, c, [], ?_, hl, fun _ => rfl⟩
    rw [hc, isLive, hl]
    rfl
  · refine ⟨c.made, ⟨some c.made, c.made + 1⟩,
      [.info logger ("Created Elasticsearch client for " ++ settings.host)], ?_, rfl,
      fun hlive => absurd hl hlive⟩
    rw [hc, isLive, hl]
    rfl

def closingOutcome (cluster : Cluster) : Except Fault Unit :=
  match cluster.closing with
  | some fault => .error fault
  | none => .ok ()

theorem close_of_none (h : c.live = none) (cluster : Cluster) (settings : Settings) :
    close cluster settings c = ⟨.ok (), c, [], []⟩ := by
  simp [close, Act.bind_apply, h]

/-- Closing drops the live client, also where the client fails to close. -/
theorem close_of_live {n : Nat} (h : c.live = some n) (cluster : Cluster) (settings : Settings) :
    close cluster settings c =
      ⟨closingOutcome cluster, { c with live := none }, [.closeClient n],
        match closingOutcome cluster with
        | .error _ => []
        | .ok () => [.info logger ("Closed Elasticsearch client for " ++ settings.host)]⟩ := by
  unfold close closingOutcome
  rw [Act.bind_of_ok (Act.state_apply c), h]
  cases cluster.closing <;> simp [Act.bind_apply]

end Connection

end TopicSink
