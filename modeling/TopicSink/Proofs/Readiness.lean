import TopicSink.Proofs.Connections
import TopicSink.Sink

namespace TopicSink

namespace Sink

variable {cluster : Cluster} {settings : Settings} {c : Connection}

theorem ping_of_error {fault : Fault} {c' : Connection} {asked : List Call} {logs : List LogLine}
    (h : Connection.client cluster settings c = ⟨.error fault, c', asked, logs⟩) :
    ping cluster settings c = ⟨.error fault, c', asked, logs⟩ :=
  Act.bind_of_error h _

theorem ping_of_client {client : Nat} {c' : Connection} {asked : List Call} {logs : List LogLine}
    (h : Connection.client cluster settings c = ⟨.ok client, c', asked, logs⟩) :
    ping cluster settings c = ⟨cluster.info, c', asked ++ [.info client], logs⟩ := by
  unfold ping
  rw [Act.bind_of_ok h]
  simp [Act.bind_apply]

variable [Stack]

def readinessOutcome : Except Fault Answer → Except Fault Bool
  | .error _ => .ok false
  | .ok answer =>
    match versionOf answer.body with
    | .error fault => .error fault
    | .ok version => (informed version).map fun _ => true

def readinessLines : Except Fault Answer → List LogLine
  | .error fault => [⟨.error, logger, .ok "error pinging elasticsearch", some fault⟩]
  | .ok answer =>
    match versionOf answer.body with
    | .error _ => []
    | .ok version =>
      [⟨.info, logger, (Record.text version).map fun t => "connected to es version " ++ t, none⟩]

/-- Readiness is one ping and a look at its outcome. -/
theorem readiness_apply (cluster : Cluster) (settings : Settings) (c : Connection) :
    let p := ping cluster settings c
    readiness cluster settings c =
      ⟨readinessOutcome p.outcome, p.state, p.calls, p.logs ++ readinessLines p.outcome⟩ := by
  intro p
  unfold readiness readinessOutcome readinessLines
  rw [Act.bind_of_ok (Act.attempt_apply (ping cluster settings) c)]
  cases p.outcome with
  | error fault => simp [Act.bind_apply, p]
  | ok answer =>
    cases hv : versionOf answer.body with
    | error fault => simp [Act.bind_apply, hv, p]
    | ok version => cases hi : informed version <;> simp [Act.bind_apply, hv, hi, Except.map, p]

end Sink

end TopicSink
