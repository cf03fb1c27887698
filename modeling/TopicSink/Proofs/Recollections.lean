import TopicSink.Proofs.Acts
import TopicSink.Settings.Basic

/-!
What look-ups remember. A journal holds all that the stores were asked, each request with the
surroundings that it was answered from. Memory holds exactly the answers that were given, and every
look-up keeps it so; `remembers_first_answers` says what that means for runs of look-ups while the
surroundings change from each to the next.
-/

namespace TopicSink

namespace LookUp

/-- A request to a store, and the surroundings that it was answered from. -/
structure Exchange where
  surroundings : Surroundings
  call : Call

/-- What the parameter store says of a name, unless the reading fails: its value, or that it has
none. -/
def parameterAnswer (w : Surroundings) (name : Text) : Option (Option Text) :=
  match w.failing.lookup name with
  | some _ => none
  | none => some (w.parameters.lookup name)

def secretAnswer (w : Surroundings) (id : Text) : Option Text := (secretText (secretHeld w id)).toOption

def parameterAnswers (name : Text) (exchanges : List Exchange) : List (Option Text) :=
  exchanges.filterMap fun e =>
    match e.call with
    | .readParameter n _ => if n = name then parameterAnswer e.surroundings name else none
    | _ => none

def secretAnswers (id : Text) (exchanges : List Exchange) : List Text :=
  exchanges.filterMap fun e =>
    match e.call with
    | .readSecret i => if i = id then secretAnswer e.surroundings id else none
    | _ => none

def opensParameters : Call → Bool
  | .openParameterStore => true
  | _ => false

def opensSecrets : Call → Bool
  | .openSecretStore => true
  | _ => false

def isOfSecrets : Call → Bool
  | .openSecretStore | .readSecret _ => true
  | _ => false

def openings (opens : Call → Bool) (exchanges : List Exchange) : Nat :=
  exchanges.countP fun e => opens e.call

/-- Memory holds what the stores have answered, each answer once, and knows of the clients made. -/
structure Coherent (memory : Memory) (exchanges : List Exchange) : Prop where
  parameters : ∀ name,
    parameterAnswers name exchanges = (memory.parameters.lookup name).toList
  secrets : ∀ id, secretAnswers id exchanges = (memory.secrets.lookup id).toList
  parameterClient : openings opensParameters exchanges = memory.parameterClient.toNat
  secretClient : openings opensSecrets exchanges = memory.secretClient.toNat

def during (w : Surroundings) (calls : List Call) : List Exchange := calls.map fun call => ⟨w, call⟩

def Keeps {α : Type} (w : Surroundings) (x : LookUp α) : Prop :=
  ∀ memory exchanges, Coherent memory exchanges →
    Coherent (x memory).state (exchanges ++ during w (x memory).calls)

section Steps

variable {α β : Type} {w : Surroundings} {memory : Memory} {exchanges : List Exchange}

theorem coherent_empty : Coherent Memory.empty [] :=
  ⟨fun _ => rfl, fun _ => rfl, rfl, rfl⟩

/-- What asks nothing and leaves memory alone keeps it coherent. -/
theorem Keeps.of_isQuiet {x : LookUp α} (h : Act.IsQuiet x) : Keeps w x := by
  intro memory exchanges hc
  obtain ⟨hcalls, hstate⟩ := h memory
  rw [hcalls, hstate, during, List.map_nil, List.append_nil]
  exact hc

theorem Keeps.ofExcept (r : Except Fault α) : Keeps w (Act.ofExcept r : LookUp α) :=
  Keeps.of_isQuiet fun _ => ⟨rfl, rfl⟩

/-- Look-ups that keep memory coherent do so one after another. -/
theorem Keeps.bind {x : LookUp α} {f : α → LookUp β} (hx : Keeps w x) (hf : ∀ a, Keeps w (f a)) :
    Keeps w (x >>= f) := by
  intro memory exchanges hc
  have hfirst := hx memory exchanges hc
  rw [Act.bind_apply]
  rcases hr : x memory with ⟨outcome, memory', calls, logs⟩
  rw [hr] at hfirst
  cases outcome with
  | error e => exact hfirst
  | ok a =>
    have hsecond := hf a memory' _ hfirst
    have happend : exchanges ++ during w ((f a memory').behind calls logs).calls =
        (exchanges ++ during w calls) ++ during w (f a memory').calls := by
      simp only [during, Report.behind, List.map_append, List.append_assoc]
    dsimp only
    rw [happend]
    exact hsecond

theorem parameterAnswers_append (name : Text) (before behind : List Exchange) :
    parameterAnswers name (before ++ behind) =
      parameterAnswers name before ++ parameterAnswers name behind :=
  List.filterMap_append

theorem secretAnswers_append (id : Text) (before behind : List Exchange) :
    secretAnswers id (before ++ behind) = secretAnswers id before ++ secretAnswers id behind :=
  List.filterMap_append

theorem openings_append (opens : Call → Bool) (before behind : List Exchange) :
    openings opens (before ++ behind) = openings opens before + openings opens behind :=
  List.countP_append

def parameterOpening (memory : Memory) : List Call :=
  if memory.parameterClient then [] else [.openParameterStore]

def secretOpening (memory : Memory) : List Call :=
  if memory.secretClient then [] else [.openSecretStore]

theorem openParameters_apply (memory : Memory) :
    openParameters memory =
      ⟨.ok (), { memory with parameterClient := true }, parameterOpening memory, []⟩ := by
  unfold openParameters parameterOpening
  rcases memory with ⟨parameters, opened, secrets, secretClient⟩
  cases opened <;> simp [Act.bind_apply]

theorem openSecrets_apply (memory : Memory) :
    openSecrets memory =
      ⟨.ok (), { memory with secretClient := true }, secretOpening memory, []⟩ := by
  unfold openSecrets secretOpening
  rcases memory with ⟨parameters, parameterClient, secrets, opened⟩
  cases opened <;> simp [Act.bind_apply]

/-- A reading that fails leaves nothing in memory but that there is a client. -/
theorem readParameter_of_failing {name message : Text} (h : w.failing.lookup name = some message)
    (decrypt : Bool) (memory : Memory) :
    ∃ logs, readParameter w name decrypt memory =
      ⟨.error (.raised .runtime message), { memory with parameterClient := true },
        parameterOpening memory ++ [.readParameter name decrypt], logs⟩ := by
  refine ⟨[.ofFault parameterLogger ("Error retrieving parameter " ++ name)
    (.raised .runtime message)], ?_⟩
  unfold readParameter
  rw [Act.bind_of_ok (openParameters_apply memory)]
  simp [Act.bind_apply, h]

/-- A reading that is answered leaves the answer in memory, also that there is no such parameter. -/
theorem readParameter_of_answered {name : Text} (h : w.failing.lookup name = none)
    (decrypt : Bool) (memory : Memory) :
    ∃ logs, readParameter w name decrypt memory =
      ⟨.ok (w.parameters.lookup name),
        { memory with
          parameterClient := true
          parameters := (name, w.parameters.lookup name) :: memory.parameters },
        parameterOpening memory ++ [.readParameter name decrypt], logs⟩ := by
  unfold readParameter
  rw [Act.bind_of_ok (openParameters_apply memory)]
  cases hv : w.parameters.lookup name with
  | none =>
    refine ⟨[.debug parameterLogger ("Parameter " ++ name ++ " not found")], ?_⟩
    simp [Act.bind_apply, h, rememberParameter]
  | some value =>
    refine ⟨[.info parameterLogger ("Loaded parameter " ++ name)], ?_⟩
    simp [Act.bind_apply, h, rememberParameter]

theorem readParameter_calls (w : Surroundings) (name : Text) (decrypt : Bool) (memory : Memory) :
    (readParameter w name decrypt memory).calls =
      parameterOpening memory ++ [.readParameter name decrypt] := by
  cases h : w.failing.lookup name with
  | some message =>
    obtain ⟨logs, hr⟩ := readParameter_of_failing h decrypt memory
    rw [hr]
  | none =>
    obtain ⟨logs, hr⟩ := readParameter_of_answered h decrypt memory
    rw [hr]

theorem parameter_of_remembered {name : Text} {answer : Option Text}
    (h : memory.parameters.lookup name = some answer) (w : Surroundings) (decrypt : Bool) :
    parameter w name decrypt memory = ⟨.ok answer, memory, [], []⟩ := by
  simp [parameter, Act.bind_apply, h]

theorem parameter_of_forgotten {name : Text} (h : memory.parameters.lookup name = none)
    (w : Surroundings) (decrypt : Bool) :
    parameter w name decrypt memory = readParameter w name decrypt memory := by
  simp [parameter, Act.bind_apply, h, Report.behind]

theorem lookup_cons_eq {β : Type} (key name : Text) (value : β) (held : List (Text × β)) :
    List.lookup name ((key, value) :: held) =
      if key = name then some value else held.lookup name := by
  rw [List.lookup_cons]
  by_cases h : key = name
  · simp [h]
  · have hne : (name == key) = false := by simpa using Ne.symm h
    simp [h, hne]

section Readings

variable (w : Surroundings) (memory : Memory) (name id : Text) (decrypt : Bool)

theorem parameterAnswers_reading (n : Text) :
    parameterAnswers n (during w (parameterOpening memory ++ [.readParameter name decrypt])) =
      if name = n then (parameterAnswer w n).toList else [] := by
  unfold parameterAnswers during parameterOpening
  by_cases h : name = n
  · cases memory.parameterClient <;> cases hanswer : parameterAnswer w n <;> simp [h, hanswer]
  · cases memory.parameterClient <;> simp [h]

theorem secretAnswers_parameterReading (i : Text) :
    secretAnswers i (during w (parameterOpening memory ++ [.readParameter name decrypt])) = [] := by
  unfold secretAnswers during parameterOpening
  cases memory.parameterClient <;> rfl

theorem openings_parameterReading :
    openings opensParameters
          (during w (parameterOpening memory ++ [.readParameter name decrypt])) =
        (!memory.parameterClient).toNat ∧
      openings opensSecrets
          (during w (parameterOpening memory ++ [.readParameter name decrypt])) = 0 := by
  unfold openings during parameterOpening
  cases memory.parameterClient <;> exact ⟨rfl, rfl⟩

theorem parameterAnswers_secretReading (n : Text) :
    parameterAnswers n (during w (secretOpening memory ++ [.readSecret id])) = [] := by
  unfold parameterAnswers during secretOpening
  cases memory.secretClient <;> rfl

theorem secretAnswers_reading (i : Text) :
    secretAnswers i (during w (secretOpening memory ++ [.readSecret id])) =
      if id = i then (secretAnswer w i).toList else [] := by
  unfold secretAnswers during secretOpening
  by_cases h : id = i
  · cases memory.secretClient <;> cases hanswer : secretAnswer w i <;> simp [h, hanswer]
  · cases memory.secretClient <;> simp [h]

theorem openings_secretReading :
    openings opensParameters (during w (secretOpening memory ++ [.readSecret id])) = 0 ∧
      openings opensSecrets (during w (secretOpening memory ++ [.readSecret id])) =
        (!memory.secretClient).toNat := by
  unfold openings during secretOpening
  cases memory.secretClient <;> exact ⟨rfl, rfl⟩

end Readings

/-- A parameter that is read where none of its answers is remembered adds its answer to memory, if
it gets one, and the client if there was none. -/
theorem Coherent.readParameter (hc : Coherent memory exchanges) {name : Text}
    (hname : memory.parameters.lookup name = none) (w : Surroundings) (decrypt : Bool) :
    let r := LookUp.readParameter w name decrypt memory
    Coherent r.state (exchanges ++ during w r.calls) := by
  intro r
  have hopened : memory.parameterClient.toNat + (!memory.parameterClient).toNat = 1 := by
    cases memory.parameterClient <;> rfl
  obtain ⟨hparameterOpenings, hsecretOpenings⟩ := openings_parameterReading w memory name decrypt
  -- Only this parameter changes, and only where the store answers about it.
  have hstate : r.state.secrets = memory.secrets ∧
      r.state.secretClient = memory.secretClient ∧ r.state.parameterClient = true ∧
      ∀ n, (r.state.parameters.lookup n).toList = (memory.parameters.lookup n).toList ++
        if name = n then (parameterAnswer w n).toList else [] := by
    cases hfailing : w.failing.lookup name with
    | some message =>
      obtain ⟨logs, hr⟩ := readParameter_of_failing hfailing decrypt memory
      have hr' : r = _ := hr
      rw [hr']
      refine ⟨rfl, rfl, rfl, fun n => ?_⟩
      by_cases hn : name = n
      · subst hn
        simp [parameterAnswer, hfailing]
      · simp [hn]
    | none =>
      obtain ⟨logs, hr⟩ := readParameter_of_answered hfailing decrypt memory
      have hr' : r = _ := hr
      rw [hr']
      refine ⟨rfl, rfl, rfl, fun n => ?_⟩
      rw [lookup_cons_eq]
      by_cases hn : name = n
      · subst hn
        simp [parameterAnswer, hfailing, hname]
      · simp [hn]
  obtain ⟨hsecrets, hsecretClient, hclient, hparameters⟩ := hstate
  have hcalls : r.calls = _ := readParameter_calls w name decrypt memory
  rw [hcalls]
  refine ⟨fun n => ?_, fun i => ?_, ?_, ?_⟩
  · rw [parameterAnswers_append, hc.parameters, parameterAnswers_reading, hparameters]
  · rw [secretAnswers_append, hc.secrets, secretAnswers_parameterReading, hsecrets,
      List.append_nil]
  · rw [openings_append, hc.parameterClient, hparameterOpenings, hclient]
    exact hopened
  · rw [openings_append, hc.secretClient, hsecretOpenings, hsecretClient, Nat.add_zero]

theorem keeps_parameter (w : Surroundings) (name : Text) (decrypt : Bool) :
    Keeps w (parameter w name decrypt) := by
  intro memory exchanges hc
  -- A remembered answer is all that there is to it; otherwise the store is asked.
  cases hl : memory.parameters.lookup name with
  | some answer =>
    rw [parameter_of_remembered hl]
    simpa [during] using hc
  | none =>
    rw [parameter_of_forgotten hl]
    exact hc.readParameter hl w decrypt

def secretOf (w : Surroundings) (id : Text) : LookUp Text := do
  let memory ← Act.state
  match memory.secrets.lookup id with
  | some value => pure value
  | none => readSecret w id

theorem secret_eq (w : Surroundings) (name : Text) :
    secret w name = secretId w name >>= secretOf w := rfl

def SameEnvironment (w w' : Surroundings) : Prop :=
  ∀ name, w'.environment.lookup name = w.environment.lookup name

theorem SameEnvironment.refl (w : Surroundings) : SameEnvironment w w := fun _ => rfl

/-- A relation between look-ups in two surroundings that holds of reading a parameter or a secret in
both, and that doing one look-up after another keeps. -/
structure Composes (P : {α : Type} → LookUp α → LookUp α → Prop) (w w' : Surroundings) : Prop where
  ofExcept : ∀ {α : Type} (r : Except Fault α), P (Act.ofExcept r) (Act.ofExcept r)
  bind : ∀ {α β : Type} {x x' : LookUp α} {f f' : α → LookUp β},
    P x x' → (∀ a, P (f a) (f' a)) → P (x >>= f) (x' >>= f')
  parameter : ∀ name decrypt, P (parameter w name decrypt) (parameter w' name decrypt)
  secretOf : ∀ id, P (secretOf w id) (secretOf w' id)

namespace Composes

variable {P : {α : Type} → LookUp α → LookUp α → Prop} {w w' : Surroundings}

theorem pure (h : Composes P w w') {α : Type} (a : α) :
    P (Pure.pure a : LookUp α) (Pure.pure a) :=
  h.ofExcept (.ok a)

/-- The environment decides where a setting is looked up, so that is the same place in both. -/
theorem setting (h : Composes P w w') (hsame : SameEnvironment w w') (name : Text)
    (decrypt : Bool) : P (LookUp.setting w name decrypt) (LookUp.setting w' name decrypt) := by
  have hpath : path? w' = path? w := by
    unfold path?
    rw [hsame]
  unfold LookUp.setting
  rw [hsame, hpath]
  cases w.environment.lookup name with
  | some value => exact h.pure (some value)
  | none =>
    cases path? w with
    | none => exact h.pure none
    | some path => exact h.parameter _ decrypt

theorem setting? (h : Composes P w w') (hsame : SameEnvironment w w') (name : Text) :
    P (LookUp.setting? w name) (LookUp.setting? w' name) :=
  h.bind (h.setting hsame name false) fun _ => h.pure _

theorem secretId (h : Composes P w w') (hsame : SameEnvironment w w') (name : Text) :
    P (LookUp.secretId w name) (LookUp.secretId w' name) :=
  h.bind (h.setting? hsame _) fun _ => h.pure _

theorem secret (h : Composes P w w') (hsame : SameEnvironment w w') (name : Text) :
    P (LookUp.secret w name) (LookUp.secret w' name) := by
  rw [secret_eq, secret_eq]
  exact h.bind (h.secretId hsame name) fun id => h.secretOf id

theorem loadPassword (h : Composes P w w') (hsame : SameEnvironment w w') :
    P (Settings.loadPassword w) (Settings.loadPassword w') := by
  unfold Settings.loadPassword
  apply h.bind (h.setting hsame _ true)
  intro own
  cases own with
  | some password => exact h.pure _
  | none =>
    apply h.bind (h.setting? hsame _)
    intro named
    cases named with
    | none => exact h.pure _
    | some _ => exact h.bind (h.secret hsame _) fun _ => h.pure _

theorem load (h : Composes P w w') (hsame : SameEnvironment w w') :
    P (Settings.load w) (Settings.load w') :=
  h.bind (h.loadPassword hsame) fun _ => h.bind (h.setting? hsame _) fun _ =>
    h.bind (h.setting? hsame _) fun _ => h.bind (h.ofExcept _) fun _ =>
      h.bind (h.setting? hsame _) fun _ => h.bind (h.setting? hsame _) fun _ =>
        h.bind (h.setting? hsame _) fun _ => h.bind (h.setting? hsame _) fun _ =>
          h.bind (h.setting? hsame _) fun _ => h.bind (h.setting? hsame _) fun _ => h.pure _

end Composes

theorem secretOf_of_remembered {id value : Text} (h : memory.secrets.lookup id = some value)
    (w : Surroundings) : secretOf w id memory = ⟨.ok value, memory, [], []⟩ := by
  simp [secretOf, Act.bind_apply, h]

theorem secretOf_of_forgotten {id : Text} (h : memory.secrets.lookup id = none)
    (w : Surroundings) : secretOf w id memory = readSecret w id memory := by
  simp [secretOf, Act.bind_apply, h, Report.behind]

theorem readSecret_of_failing {id : Text} {fault : Fault}
    (h : secretText (secretHeld w id) = .error fault) (memory : Memory) :
    ∃ logs, readSecret w id memory =
      ⟨.error fault, { memory with secretClient := true },
        secretOpening memory ++ [.readSecret id], logs⟩ := by
  unfold readSecret
  rw [Act.bind_of_ok (openSecrets_apply memory)]
  by_cases hstore : isStoreFault fault = true
  · refine ⟨[.ofFault secretLogger ("Error retrieving secret " ++ id) fault], ?_⟩
    simp [Act.bind_apply, h, hstore]
  · refine ⟨[], ?_⟩
    simp [Act.bind_apply, h, hstore]

theorem readSecret_of_answered {id value : Text}
    (h : secretText (secretHeld w id) = .ok value) (memory : Memory) :
    ∃ logs, readSecret w id memory =
      ⟨.ok value, { memory with secretClient := true, secrets := (id, value) :: memory.secrets },
        secretOpening memory ++ [.readSecret id], logs⟩ := by
  refine ⟨[.info secretLogger ("Loaded secret " ++ id)], ?_⟩
  unfold readSecret
  rw [Act.bind_of_ok (openSecrets_apply memory)]
  simp [Act.bind_apply, h, rememberSecret]

theorem readSecret_calls (w : Surroundings) (id : Text) (memory : Memory) :
    (readSecret w id memory).calls = secretOpening memory ++ [.readSecret id] := by
  cases h : secretText (secretHeld w id) with
  | error fault =>
    obtain ⟨logs, hr⟩ := readSecret_of_failing h memory
    rw [hr]
  | ok value =>
    obtain ⟨logs, hr⟩ := readSecret_of_answered h memory
    rw [hr]

/-- A secret that is read where its value is not remembered adds it to memory, if it has one, and
the client if there was none. -/
theorem Coherent.readSecret (hc : Coherent memory exchanges) {id : Text}
    (hid : memory.secrets.lookup id = none) (w : Surroundings) :
    let r := LookUp.readSecret w id memory
    Coherent r.state (exchanges ++ during w r.calls) := by
  intro r
  have hopened : memory.secretClient.toNat + (!memory.secretClient).toNat = 1 := by
    cases memory.secretClient <;> rfl
  obtain ⟨hparameterOpenings, hsecretOpenings⟩ := openings_secretReading w memory id
  -- Only this secret changes, and only where the store gives a value of it.
  have hstate : r.state.parameters = memory.parameters ∧
      r.state.parameterClient = memory.parameterClient ∧ r.state.secretClient = true ∧
      ∀ i, (r.state.secrets.lookup i).toList = (memory.secrets.lookup i).toList ++
        if id = i then (secretAnswer w i).toList else [] := by
    cases htext : secretText (secretHeld w id) with
    | error fault =>
      obtain ⟨logs, hr⟩ := readSecret_of_failing htext memory
      have hr' : r = _ := hr
      rw [hr']
      refine ⟨rfl, rfl, rfl, fun i => ?_⟩
      by_cases hi : id = i
      · subst hi
        simp [secretAnswer, htext, Except.toOption]
      · simp [hi]
    | ok value =>
      obtain ⟨logs, hr⟩ := readSecret_of_answered htext memory
      have hr' : r = _ := hr
      rw [hr']
      refine ⟨rfl, rfl, rfl, fun i => ?_⟩
      rw [lookup_cons_eq]
      by_cases hi : id = i
      · subst hi
        simp [secretAnswer, htext, Except.toOption, hid]
      · simp [hi]
  obtain ⟨hparameters, hparameterClient, hclient, hsecrets⟩ := hstate
  have hcalls : r.calls = _ := readSecret_calls w id memory
  rw [hcalls]
  refine ⟨fun n => ?_, fun i => ?_, ?_, ?_⟩
  · rw [parameterAnswers_append, hc.parameters, parameterAnswers_secretReading, hparameters,
      List.append_nil]
  · rw [secretAnswers_append, hc.secrets, secretAnswers_reading, hsecrets]
  · rw [openings_append, hc.parameterClient, hparameterOpenings, hparameterClient, Nat.add_zero]
  · rw [openings_append, hc.secretClient, hsecretOpenings, hclient]
    exact hopened

theorem keeps_secretOf (w : Surroundings) (id : Text) : Keeps w (secretOf w id) := by
  intro memory exchanges hc
  cases hl : memory.secrets.lookup id with
  | some value =>
    rw [secretOf_of_remembered hl]
    simpa [during] using hc
  | none =>
    rw [secretOf_of_forgotten hl]
    exact hc.readSecret hl w

/-- Loading settings keeps memory coherent, also where it stops at a fault, and so does every
look-up that it is made of. -/
theorem composes_keeps (w : Surroundings) : Composes (fun x _ => Keeps w x) w w where
  ofExcept := Keeps.ofExcept
  bind hx hf := hx.bind hf
  parameter := keeps_parameter w
  secretOf := keeps_secretOf w

end Steps

inductive Operation where
  | parameter (name : Text) (decrypt : Bool)
  | setting (name : Text) (decrypt : Bool)
  | secret (name : Text)
  | settings

def Operation.act (w : Surroundings) : Operation → LookUp Unit
  | .parameter name decrypt => do
    let _ ← LookUp.parameter w name decrypt
    pure ()
  | .setting name decrypt => do
    let _ ← LookUp.setting w name decrypt
    pure ()
  | .secret name => do
    let _ ← LookUp.secret w name
    pure ()
  | .settings => do
    let _ ← Settings.load w
    pure ()

theorem Composes.act {P : {α : Type} → LookUp α → LookUp α → Prop} {w w' : Surroundings}
    (h : Composes P w w') (hsame : SameEnvironment w w') (operation : Operation) :
    P (operation.act w) (operation.act w') := by
  cases operation with
  | parameter name decrypt => exact h.bind (h.parameter name decrypt) fun _ => h.pure ()
  | setting name decrypt => exact h.bind (h.setting hsame name decrypt) fun _ => h.pure ()
  | secret name => exact h.bind (h.secret hsame name) fun _ => h.pure ()
  | settings => exact h.bind (h.load hsame) fun _ => h.pure ()

structure Step where
  surroundings : Surroundings
  operation : Operation

/-- What a run of look-ups leaves: its memory, and all that the stores were asked. -/
structure Journal where
  memory : Memory
  exchanges : List Exchange

namespace Journal

def next (s : Journal) (step : Step) : Journal :=
  let r := step.operation.act step.surroundings s.memory
  ⟨r.state, s.exchanges ++ during step.surroundings r.calls⟩

def after (steps : List Step) : Journal := steps.foldl next ⟨Memory.empty, []⟩

end Journal

section Runs

variable {w : Surroundings} {memory : Memory} {s : Journal}

theorem Coherent.next (h : Coherent s.memory s.exchanges) (step : Step) :
    Coherent (s.next step).memory (s.next step).exchanges :=
  (composes_keeps step.surroundings).act (.refl _) step.operation s.memory s.exchanges h

theorem Coherent.foldl (h : Coherent s.memory s.exchanges) (steps : List Step) :
    Coherent (steps.foldl Journal.next s).memory (steps.foldl Journal.next s).exchanges := by
  induction steps generalizing s with
  | nil => exact h
  | cons step steps ih => exact ih (h.next step)

theorem coherent_after (steps : List Step) :
    Coherent (Journal.after steps).memory (Journal.after steps).exchanges :=
  coherent_empty.foldl steps

/-- A report that tells of the parameter store only: no secret is asked for, and none is forgotten.
-/
def SparesSecrets {α : Type} (memory : Memory) (r : Report Memory α) : Prop :=
  r.state.secrets = memory.secrets ∧ ∀ call ∈ r.calls, isOfSecrets call = false

theorem readParameter_sparesSecrets (w : Surroundings) (name : Text) (decrypt : Bool)
    (memory : Memory) : SparesSecrets memory (readParameter w name decrypt memory) := by
  constructor
  · cases h : w.failing.lookup name with
    | some message =>
      obtain ⟨logs, hr⟩ := readParameter_of_failing h decrypt memory
      rw [hr]
    | none =>
      obtain ⟨logs, hr⟩ := readParameter_of_answered h decrypt memory
      rw [hr]
  · intro call hcall
    have hopening : ∀ c ∈ parameterOpening memory, isOfSecrets c = false := by
      unfold parameterOpening
      cases memory.parameterClient <;> simp [isOfSecrets]
    rw [readParameter_calls] at hcall
    rcases List.mem_append.mp hcall with hcall | hcall
    · exact hopening call hcall
    · rw [List.mem_singleton.mp hcall]
      rfl

theorem setting_sparesSecrets (w : Surroundings) (name : Text) (decrypt : Bool)
    (memory : Memory) : SparesSecrets memory (setting w name decrypt memory) := by
  have hquiet : ∀ value : Option Text, SparesSecrets memory ((pure value : LookUp _) memory) :=
    fun value => ⟨rfl, fun call hcall => by cases hcall⟩
  unfold setting
  cases w.environment.lookup name with
  | some value => exact hquiet (some value)
  | none =>
    cases path? w with
    | none => exact hquiet none
    | some path =>
      cases hl : memory.parameters.lookup (path ++ "/" ++ name) with
      | some answer =>
        have hr := parameter_of_remembered hl w decrypt
        dsimp only
        rw [hr]
        exact hquiet answer
      | none =>
        have hr := parameter_of_forgotten hl w decrypt
        dsimp only
        rw [hr]
        exact readParameter_sparesSecrets w _ decrypt memory

/-- Finding the id of a secret asks the secret store nothing. -/
theorem secretId_sparesSecrets (w : Surroundings) (name : Text) (memory : Memory) :
    SparesSecrets memory (secretId w name memory) := by
  have hsetting := setting_sparesSecrets w (name ++ "_SECRET_NAME") false memory
  unfold secretId setting?
  simp only [Act.bind_pure_apply]
  exact hsetting

end Runs

end LookUp

end TopicSink
