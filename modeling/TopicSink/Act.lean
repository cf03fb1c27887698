import TopicSink.Log.Line

/-!
Acts: operations that may fail, change a state, ask something of the world and write log lines. Run
on a state, an act leaves a report of all of it. What was asked and logged before a fault stays in
the report, and so does the state that the fault left behind.
-/

namespace TopicSink

structure ClientOptions where
  maxRetries : Nat
  retryOnTimeout : Bool
  basicAuth : Option (Text × Text)

inductive Call where
  | openParameterStore
  | readParameter (name : Text) (decrypt : Bool)
  | openSecretStore
  | readSecret (id : Text)
  | createClient (host : Text) (options : ClientOptions)
  | bulk (client : Nat) (timeout : Json) (operations : List Json)
  | info (client : Nat)
  | closeClient (client : Nat)

structure Report (σ α : Type) where
  outcome : Except Fault α
  state : σ
  calls : List Call
  logs : List LogLine

/-- An operation on states of type `σ` that returns an `α`. -/
def Act (σ α : Type) : Type := σ → Report σ α

namespace Act

variable {σ α β : Type}

def done (a : α) : Act σ α := fun s => ⟨.ok a, s, [], []⟩

def andThen (x : Act σ α) (f : α → Act σ β) : Act σ β := fun s =>
  let first := x s
  match first.outcome with
  | .error e => ⟨.error e, first.state, first.calls, first.logs⟩
  | .ok a =>
    let second := f a first.state
    ⟨second.outcome, second.state, first.calls ++ second.calls, first.logs ++ second.logs⟩

instance : Monad (Act σ) where
  pure := done
  bind := andThen

def fail (e : Fault) : Act σ α := fun s => ⟨.error e, s, [], []⟩

def ofExcept (r : Except Fault α) : Act σ α := fun s => ⟨r, s, [], []⟩

def state : Act σ σ := fun s => ⟨.ok s, s, [], []⟩

def update (f : σ → σ) : Act σ Unit := fun s => ⟨.ok (), f s, [], []⟩

def ask (c : Call) : Act σ Unit := fun s => ⟨.ok (), s, [c], []⟩

def log (line : LogLine) : Act σ Unit := fun s => ⟨.ok (), s, [], [line]⟩

/-- Fails with a fault of which the message names an earlier one, unless that cannot be told. -/
def failAfter (earlier e : Fault) : Act σ α := fail (earlier.untold.getD e)

def attempt (x : Act σ α) : Act σ (Except Fault α) := fun s =>
  let r := x s
  ⟨.ok r.outcome, r.state, r.calls, r.logs⟩

def within {τ : Type} (part : τ → σ) (replace : σ → τ → τ) (x : Act σ α) : Act τ α := fun s =>
  let r := x (part s)
  ⟨r.outcome, replace r.state s, r.calls, r.logs⟩

end Act

end TopicSink
