import TopicSink.Act

/-!
Looking up settings. A setting comes from the environment, or else from the parameter store under
the configured path; a secret comes from the secret store. Answers of the stores are remembered for
good, the absence of a parameter among them; faults are not.
-/

namespace TopicSink

inductive Secret where
  | held (text : Option Text) (binary : Option Bytes)
  | refused (code : Text)
  | storeFailed
  | raised (message : Text)

structure Surroundings where
  environment : List (Text × Text)
  parameters : List (Text × Text)
  failing : List (Text × Text)
  secrets : List (Text × Secret)

/-- What earlier look-ups leave: the stores' answers, and which of the two clients exist. -/
structure Memory where
  parameters : List (Text × Option Text)
  parameterClient : Bool
  secrets : List (Text × Text)
  secretClient : Bool

namespace Memory

def empty : Memory := ⟨[], false, [], false⟩

end Memory

abbrev LookUp (α : Type) := Act Memory α

namespace LookUp

def parameterLogger : Text := "record_sink.get_ssm"

def secretLogger : Text := "record_sink.get_secret"

/-- Makes the parameter store's client unless there is one. That making it can fail, before anything
is read and with nothing remembered, is left out. -/
def openParameters : LookUp Unit := do
  let memory ← Act.state
  if memory.parameterClient then pure ()
  else do
    Act.ask .openParameterStore
    Act.update fun m => { m with parameterClient := true }

/-- Makes the secret store's client unless there is one, under the same reservation. -/
def openSecrets : LookUp Unit := do
  let memory ← Act.state
  if memory.secretClient then pure ()
  else do
    Act.ask .openSecretStore
    Act.update fun m => { m with secretClient := true }

def rememberParameter (name : Text) (value : Option Text) : LookUp Unit :=
  Act.update fun m => { m with parameters := (name, value) :: m.parameters }

def rememberSecret (id value : Text) : LookUp Unit :=
  Act.update fun m => { m with secrets := (id, value) :: m.secrets }

def readParameter (w : Surroundings) (name : Text) (decrypt : Bool) : LookUp (Option Text) := do
  openParameters
  Act.ask (.readParameter name decrypt)
  match w.failing.lookup name with
  | some message => do
    let fault := Fault.raised .runtime message
    Act.log (.ofFault parameterLogger ("Error retrieving parameter " ++ name) fault)
    Act.fail fault
  | none =>
    match w.parameters.lookup name with
    | none => do
      Act.log (.debug parameterLogger ("Parameter " ++ name ++ " not found"))
      rememberParameter name none
      pure none
    | some value => do
      rememberParameter name (some value)
      Act.log (.info parameterLogger ("Loaded parameter " ++ name))
      pure (some value)

/-- A parameter by its full name: the remembered answer if there is one, whatever the reading of it
asked for, otherwise the store's. -/
def parameter (w : Surroundings) (name : Text) (decrypt : Bool) : LookUp (Option Text) := do
  let memory ← Act.state
  match memory.parameters.lookup name with
  | some value => pure value
  | none => readParameter w name decrypt

def path? (w : Surroundings) : Option Text :=
  (Text.nonempty? (w.environment.lookup ("SSM_PARAMETER_PREFIX" : Text))).map
    (Text.trimEnd fun c => c = '/')

/-- A setting: the environment's, even an empty one, or else the parameter under the path. -/
def setting (w : Surroundings) (name : Text) (decrypt : Bool) : LookUp (Option Text) :=
  match w.environment.lookup name with
  | some value => pure (some value)
  | none =>
    match path? w with
    | none => pure none
    | some path => parameter w (path ++ "/" ++ name) decrypt

def setting? (w : Surroundings) (name : Text) : LookUp (Option Text) := do
  let value ← setting w name false
  pure (Text.nonempty? value)

def secretHeld (w : Surroundings) (id : Text) : Secret :=
  (w.secrets.lookup id).getD (.refused "ResourceNotFoundException")

/-- The text of a secret: the one it holds, or else its bytes read as UTF-8. -/
def secretText : Secret → Except Fault Text
  | .held (some t) _ => .ok t
  | .held none binary =>
    match Encoding.decodeUtf8 (binary.getD []) with
    | .ok t => .ok t
    | .error why => .error (.badEncoding why)
  | .refused code => .error (.secretRefused code)
  | .storeFailed => .error .secretStoreFailed
  | .raised message => .error (.raised .runtime message)

def isStoreFault (f : Fault) : Bool := f.kind = .storeClient || f.kind = .storeCore

/-- Reads a secret from the store. Only the store's own faults are logged. -/
def readSecret (w : Surroundings) (id : Text) : LookUp Text := do
  openSecrets
  Act.ask (.readSecret id)
  match secretText (secretHeld w id) with
  | .ok value => do
    rememberSecret id value
    Act.log (.info secretLogger ("Loaded secret " ++ id))
    pure value
  | .error fault => do
    if isStoreFault fault then
      Act.log (.ofFault secretLogger ("Error retrieving secret " ++ id) fault)
    Act.fail fault

/-- The id of a secret: the setting that names it, or else its own name. -/
def secretId (w : Surroundings) (name : Text) : LookUp Text := do
  let id ← setting? w (name ++ "_SECRET_NAME")
  pure (id.getD name)

def secret (w : Surroundings) (name : Text) : LookUp Text := do
  let id ← secretId w name
  let memory ← Act.state
  match memory.secrets.lookup id with
  | some value => pure value
  | none => readSecret w id

end LookUp

end TopicSink
