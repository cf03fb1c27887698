import TopicSink.Act
import TopicSink.Settings.Basic

namespace TopicSink

/-- An answer of the cluster, bare or inside an envelope that has it as its body. -/
inductive Answer where
  | bare (body : Json)
  | enveloped (body : Json)

def Answer.body : Answer → Json
  | bare v => v
  | enveloped v => v

/-- How the cluster and its clients behave. The factory is asked for a client of a host and may
fail. -/
structure Cluster where
  factory : Text → ClientOptions → Option Fault
  bulk : Except Fault Answer
  info : Except Fault Answer
  closing : Option Fault

/-- The live client by number, if there is one, and how many clients were made so far. -/
structure Connection where
  live : Option Nat
  made : Nat
deriving DecidableEq, Repr

namespace Connection

def initial : Connection := ⟨none, 0⟩

def isLive (c : Connection) : Bool := c.live.isSome

def logger : Text := "record_sink.elasticsearch_client"

/-- What a new client is made with: no retries, and the user's name and password if there is one. -/
def optionsFor (settings : Settings) : ClientOptions :=
  ⟨0, false, (Text.nonempty? settings.username).map fun user => (user, settings.password.getD [])⟩

/-- Makes a client and keeps it. That it cannot be made is logged before the fault is put together
that names the factory's. -/
def connect (cluster : Cluster) (settings : Settings) : Act Connection Nat := do
  Act.ask (.createClient settings.host (optionsFor settings))
  match cluster.factory settings.host (optionsFor settings) with
  | some fault => do
    Act.log (.ofFault logger "could not init elasticsearch client" fault)
    Act.failAfter fault (.noClient settings.host fault)
  | none => do
    let c ← Act.state
    Act.update fun c => ⟨some c.made, c.made + 1⟩
    Act.log (.info logger ("Created Elasticsearch client for " ++ settings.host))
    pure c.made

def client (cluster : Cluster) (settings : Settings) : Act Connection Nat := do
  let c ← Act.state
  match c.live with
  | some n => pure n
  | none => connect cluster settings

def close (cluster : Cluster) (settings : Settings) : Act Connection Unit := do
  let c ← Act.state
  match c.live with
  | none => pure ()
  | some n => do
    Act.update fun c => { c with live := none }
    Act.ask (.closeClient n)
    match cluster.closing with
    | some fault => Act.fail fault
    | none => pure ()
    Act.log (.info logger ("Closed Elasticsearch client for " ++ settings.host))

end Connection

end TopicSink
