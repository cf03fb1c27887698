import TopicSink.Proofs.Recollections

/-!
With which flag a parameter was read. Answers are remembered by name alone, so a look-up may get a
value that was read with the other flag than its own. `value_read_with` says for every look-up, be
it one of many inside an operation, with which flag its value was read, and that this differs from
its own just when an earlier look-up with the other flag has got the answer. Loading settings and
finding secrets never differ about the flag of a name.
-/

namespace TopicSink

namespace LookUp

/-- The answered readings of a parameter, the first one first: whether it was decrypted, and the
answer. -/
def readings (name : Text) (exchanges : List Exchange) : List (Bool × Option Text) :=
  exchanges.filterMap fun e =>
    match e.call with
    | .readParameter n decrypt =>
      if n = name then (parameterAnswer e.surroundings name).map fun answer => (decrypt, answer)
      else none
    | _ => none

def Journal.over {α : Type} (w : Surroundings) (x : LookUp α) (s : Journal) : Journal :=
  ⟨(x s.memory).state, s.exchanges ++ during w (x s.memory).calls⟩

/-- A look-up comes to look up a parameter, with a flag: it is that look-up itself, or does one
thing after another of which one comes to it. The last journal is the one that the parameter is
looked up with. -/
inductive Makes (w : Surroundings) (name : Text) (decrypt : Bool) :
    {α : Type} → LookUp α → Journal → Journal → Prop where
  | here (s : Journal) : Makes w name decrypt (parameter w name decrypt) s s
  | first {α β : Type} {x : LookUp α} {f : α → LookUp β} {s s' : Journal} :
    Makes w name decrypt x s s' → Makes w name decrypt (x >>= f) s s'
  | later {α β : Type} {x : LookUp α} {f : α → LookUp β} {s s' : Journal} {a : α} :
    Keeps w x → (x s.memory).outcome = .ok a → Makes w name decrypt (f a) (s.over w x) s' →
      Makes w name decrypt (x >>= f) s s'

section Readings

variable {w : Surroundings} {memory : Memory} {exchanges : List Exchange} {name : Text}

theorem readings_append (name : Text) (before behind : List Exchange) :
    readings name (before ++ behind) = readings name before ++ readings name behind :=
  List.filterMap_append

theorem map_snd_readings (name : Text) (exchanges : List Exchange) :
    (readings name exchanges).map Prod.snd = parameterAnswers name exchanges := by
  unfold readings parameterAnswers
  rw [List.map_filterMap]
  congr 1
  funext e
  cases e.call with
  | readParameter n decrypt =>
    by_cases hn : n = name
    · cases parameterAnswer e.surroundings name <;> simp [hn]
    · simp [hn]
  | _ => rfl

/-- What memory holds of a parameter was read once, with one of the flags. -/
theorem Coherent.readings_of_remembered (h : Coherent memory exchanges) {answer : Option Text}
    (hname : memory.parameters.lookup name = some answer) :
    ∃ flag, readings name exchanges = [(flag, answer)] := by
  have hanswers := (map_snd_readings name exchanges).trans (h.parameters name)
  rw [hname, Option.toList_some, List.map_eq_singleton_iff] at hanswers
  obtain ⟨⟨flag, answer'⟩, hreadings, rfl⟩ := hanswers
  exact ⟨flag, hreadings⟩

theorem Coherent.readings_of_forgotten (h : Coherent memory exchanges)
    (hname : memory.parameters.lookup name = none) : readings name exchanges = [] := by
  have hanswers := (map_snd_readings name exchanges).trans (h.parameters name)
  rw [hname, Option.toList_none] at hanswers
  exact List.map_eq_nil_iff.mp hanswers

theorem readings_readParameter (w : Surroundings) (memory : Memory) (name : Text)
    (decrypt : Bool) {answer : Option Text} (hanswer : parameterAnswer w name = some answer) :
    readings name (during w (readParameter w name decrypt memory).calls) = [(decrypt, answer)] := by
  rw [readParameter_calls]
  unfold readings during parameterOpening
  cases memory.parameterClient <;> simp [hanswer]

/-- An answer that is given was read just once, with the flag of the look-up unless it was read
before with the other one. -/
theorem Coherent.reading_of_answer (h : Coherent memory exchanges) {decrypt : Bool}
    {answer : Option Text} (hanswer : (parameter w name decrypt memory).outcome = .ok answer) :
    ∃ flag,
      readings name (exchanges ++ during w (parameter w name decrypt memory).calls) =
        [(flag, answer)] ∧
      (flag ≠ decrypt ↔ (!decrypt, answer) ∈ readings name exchanges) := by
  cases hname : memory.parameters.lookup name with
  | some held =>
    -- What is remembered is not read again, so the only flag is that of the earlier reading.
    rw [parameter_of_remembered hname] at hanswer ⊢
    obtain rfl : held = answer := Except.ok.inj hanswer
    obtain ⟨flag, hreadings⟩ := h.readings_of_remembered hname
    refine ⟨flag, ?_, ?_⟩
    · rw [during, List.map_nil, List.append_nil, hreadings]
    · rw [hreadings]
      cases flag <;> cases decrypt <;> simp
  | none =>
    have hnone := h.readings_of_forgotten hname
    rw [parameter_of_forgotten hname] at hanswer ⊢
    have hread : parameterAnswer w name = some answer := by
      unfold parameterAnswer
      cases hfailing : w.failing.lookup name with
      | some message =>
        obtain ⟨logs, hr⟩ := readParameter_of_failing hfailing decrypt memory
        rw [hr] at hanswer
        cases hanswer
      | none =>
        obtain ⟨logs, hr⟩ := readParameter_of_answered hfailing decrypt memory
        rw [hr] at hanswer
        exact congrArg some (Except.ok.inj hanswer)
    refine ⟨decrypt, ?_, ?_⟩
    · rw [readings_append, hnone, readings_readParameter w memory name decrypt hread,
        List.nil_append]
    · rw [hnone]
      simp

end Readings

section Nested

variable {α β : Type} {w : Surroundings} {name : Text} {decrypt : Bool} {s s' : Journal}

theorem Journal.over_bind_of_ok {x : LookUp α} {f : α → LookUp β} {a : α}
    (h : (x s.memory).outcome = .ok a) : s.over w (x >>= f) = (s.over w x).over w (f a) := by
  unfold Journal.over
  rw [Act.bind_of_outcome h]
  simp [Report.behind, during]

theorem Journal.over_bind_of_error {x : LookUp α} {f : α → LookUp β} {e : Fault}
    (h : (x s.memory).outcome = .error e) : s.over w (x >>= f) = s.over w x := by
  rcases Act.bind_cases x f s.memory with ⟨e', -, hbind⟩ | ⟨a, ha, -⟩
  · unfold Journal.over
    rw [hbind]
  · rw [h] at ha
    cases ha

/-- What a look-up asked for stays asked for, whatever follows it. -/
theorem Journal.over_prefix_over_bind (s : Journal) (x : LookUp α) (f : α → LookUp β) :
    (s.over w x).exchanges <+: (s.over w (x >>= f)).exchanges := by
  cases hx : (x s.memory).outcome with
  | error e => simp only [Journal.over_bind_of_error hx, List.prefix_rfl]
  | ok a =>
    rw [Journal.over_bind_of_ok hx]
    exact List.prefix_append _ _

/-- What happens before a parameter is looked up keeps memory coherent. -/
theorem Makes.coherent {x : LookUp α} (h : Makes w name decrypt x s s')
    (hs : Coherent s.memory s.exchanges) : Coherent s'.memory s'.exchanges := by
  induction h with
  | here => exact hs
  | first _ ih => exact ih hs
  | later hkeeps _ _ ih => exact ih (hkeeps _ _ hs)

/-- The parameter is looked up after all that was asked before, and before all that is asked later.
-/
theorem Makes.between {x : LookUp α} (h : Makes w name decrypt x s s') :
    s.exchanges <+: s'.exchanges ∧
      s'.exchanges ++ during w (parameter w name decrypt s'.memory).calls <+:
        (s.over w x).exchanges := by
  induction h with
  | here s => exact ⟨List.prefix_rfl, List.prefix_rfl⟩
  | @first _ _ x f s s' _ ih => exact ⟨ih.1, ih.2.trans (s.over_prefix_over_bind x f)⟩
  | later _ hx _ ih =>
    rw [Journal.over_bind_of_ok hx]
    exact ⟨(List.prefix_append _ _).trans ih.1, ih.2⟩

def ComesToReadings {α : Type} (w : Surroundings) (x : LookUp α) : Prop :=
  ∀ s name decrypt, .readParameter name decrypt ∈ (x s.memory).calls →
    ∃ s', Makes w name decrypt x s s'

theorem ComesToReadings.bind {x : LookUp α} {f : α → LookUp β} (hkeeps : Keeps w x)
    (hx : ComesToReadings w x) (hf : ∀ a, ComesToReadings w (f a)) :
    ComesToReadings w (x >>= f) := by
  intro s name decrypt hcall
  rcases Act.bind_cases x f s.memory with ⟨e, -, h⟩ | ⟨a, ha, h⟩
  · rw [h] at hcall
    obtain ⟨s', hmakes⟩ := hx s name decrypt hcall
    exact ⟨s', .first hmakes⟩
  · rw [h] at hcall
    rcases List.mem_append.mp hcall with hcall | hcall
    · obtain ⟨s', hmakes⟩ := hx s name decrypt hcall
      exact ⟨s', .first hmakes⟩
    · obtain ⟨s', hmakes⟩ := hf a (s.over w x) name decrypt hcall
      exact ⟨s', .later hkeeps ha hmakes⟩

theorem eq_of_mem_parameterOpening {memory : Memory} {call : Call}
    (h : call ∈ parameterOpening memory) : call = .openParameterStore := by
  unfold parameterOpening at h
  cases hclient : memory.parameterClient <;> simp_all

theorem eq_of_mem_secretOpening {memory : Memory} {call : Call}
    (h : call ∈ secretOpening memory) : call = .openSecretStore := by
  unfold secretOpening at h
  cases hclient : memory.secretClient <;> simp_all

/-- A parameter asks the store for itself, and a secret does not ask that store. -/
theorem eq_of_mem_parameter {memory : Memory} {call : Call}
    (h : call ∈ (parameter w name decrypt memory).calls) :
    call = .openParameterStore ∨ call = .readParameter name decrypt := by
  cases hname : memory.parameters.lookup name with
  | some answer =>
    rw [parameter_of_remembered hname] at h
    cases h
  | none =>
    rw [parameter_of_forgotten hname, readParameter_calls] at h
    exact (List.mem_append.mp h).imp eq_of_mem_parameterOpening List.mem_singleton.mp

theorem eq_of_mem_secretOf {id : Text} {memory : Memory} {call : Call}
    (h : call ∈ (secretOf w id memory).calls) :
    call = .openSecretStore ∨ call = .readSecret id := by
  cases hid : memory.secrets.lookup id with
  | some value =>
    rw [secretOf_of_remembered hid] at h
    cases h
  | none =>
    rw [secretOf_of_forgotten hid, readSecret_calls] at h
    exact (List.mem_append.mp h).imp eq_of_mem_secretOpening List.mem_singleton.mp

theorem composes_comesToReadings (w : Surroundings) :
    Composes (fun x _ => Keeps w x ∧ ComesToReadings w x) w w where
  ofExcept r := ⟨.ofExcept r, fun _ _ _ hcall => by cases hcall⟩
  bind hx hf := ⟨hx.1.bind fun a => (hf a).1, .bind hx.1 hx.2 fun a => (hf a).2⟩
  parameter name decrypt := by
    refine ⟨keeps_parameter w name decrypt, fun s name' decrypt' hcall => ?_⟩
    rcases eq_of_mem_parameter hcall with hopening | hread
    · cases hopening
    · cases hread
      exact ⟨s, .here s⟩
  secretOf id := by
    refine ⟨keeps_secretOf w id, fun s name decrypt hcall => ?_⟩
    rcases eq_of_mem_secretOf hcall with hopening | hread
    · cases hopening
    · cases hread

/-- No operation reads a parameter that it does not come to look up, with that flag. -/
theorem exists_makes_of_read (operation : Operation)
    (h : .readParameter name decrypt ∈ (operation.act w s.memory).calls) :
    ∃ s', Makes w name decrypt (operation.act w) s s' :=
  ((composes_comesToReadings w).act (.refl w) operation).2 s name decrypt h

end Nested

def IsPassword (name : Text) : Prop := ("ELASTICSEARCH_PASSWORD" : Text) <:+ name

/-- A call that, if it reads a parameter, decrypts it just when it holds a password. -/
def IsFitting : Call → Prop
  | .readParameter name decrypt => decrypt = true ↔ IsPassword name
  | _ => True

def Fits {α : Type} (x : LookUp α) : Prop := ∀ memory, ∀ call ∈ (x memory).calls, IsFitting call

/-- A look-up whose flags are its own and not its caller's. -/
def Operation.IsFixed : Operation → Prop
  | .secret _ | .settings => True
  | .parameter .. | .setting .. => False

section Fitting

variable {α β : Type} {w : Surroundings} {name : Text} {decrypt : Bool} {exchanges : List Exchange}

theorem Fits.ofExcept (r : Except Fault α) : Fits (Act.ofExcept r : LookUp α) :=
  fun _ _ hcall => by cases hcall

theorem Fits.pure (a : α) : Fits (Pure.pure a : LookUp α) := .ofExcept (.ok a)

theorem Fits.bind {x : LookUp α} {f : α → LookUp β} (hx : Fits x) (hf : ∀ a, Fits (f a)) :
    Fits (x >>= f) := by
  intro memory call hcall
  rcases Act.bind_cases x f memory with ⟨e, -, h⟩ | ⟨a, -, h⟩
  · rw [h] at hcall
    exact hx memory call hcall
  · rw [h] at hcall
    rcases List.mem_append.mp hcall with hcall | hcall
    · exact hx memory call hcall
    · exact hf a _ call hcall

theorem fits_parameter (h : decrypt = true ↔ IsPassword name) : Fits (parameter w name decrypt) := by
  intro memory call hcall
  rcases eq_of_mem_parameter hcall with rfl | rfl
  · trivial
  · exact h

theorem fits_secretOf (w : Surroundings) (id : Text) : Fits (secretOf w id) := by
  intro memory call hcall
  rcases eq_of_mem_secretOf hcall with rfl | rfl <;> trivial

/-- A setting is read with a fitting flag where the path in front of its name does not matter. -/
theorem fits_setting (w : Surroundings)
    (h : ∀ path : Text, decrypt = true ↔ IsPassword (path ++ "/" ++ name)) :
    Fits (setting w name decrypt) := by
  unfold setting
  cases w.environment.lookup name with
  | some value => exact .pure _
  | none =>
    cases path? w with
    | none => exact .pure _
    | some path => exact fits_parameter (h path)

theorem not_isPassword {last : CodePoint} (hlast : name.getLast? = some last)
    (hne : last ≠ CodePoint.ofChar 'D') (front : Text) : ¬IsPassword (front ++ name) := by
  rintro ⟨before, heq⟩
  have hend : (before ++ ("ELASTICSEARCH_PASSWORD" : Text)).getLast? =
      some (CodePoint.ofChar 'D') := by
    rw [List.getLast?_append]
    rfl
  rw [heq, List.getLast?_append, hlast] at hend
  exact hne (Option.some.inj hend)

theorem fits_setting? (w : Surroundings) {last : CodePoint} (hlast : name.getLast? = some last)
    (hne : last ≠ CodePoint.ofChar 'D') : Fits (setting? w name) :=
  (fits_setting w fun path => iff_of_false Bool.false_ne_true
    (not_isPassword hlast hne (path ++ "/"))).bind fun _ => .pure _

theorem fits_secret (w : Surroundings) (name : Text) : Fits (secret w name) := by
  have hlast : (name ++ "_SECRET_NAME" : Text).getLast? = some (CodePoint.ofChar 'E') := by
    rw [List.getLast?_append]
    rfl
  have hid : Fits (secretId w name) :=
    (fits_setting? w hlast (by decide)).bind fun _ => .pure _
  rw [secret_eq]
  exact hid.bind fun id => fits_secretOf w id

theorem fits_loadPassword (w : Surroundings) : Fits (Settings.loadPassword w) := by
  -- The password is the one setting that is decrypted, and no other name ends in its name.
  have hown : Fits (setting w "ELASTICSEARCH_PASSWORD" true) :=
    fits_setting w fun path => iff_of_true rfl (List.suffix_append _ _)
  unfold Settings.loadPassword
  refine hown.bind fun own => ?_
  cases own with
  | some password => exact .pure _
  | none =>
    refine (fits_setting? w rfl (by decide)).bind fun named => ?_
    cases named with
    | none => exact .pure _
    | some _ => exact (fits_secret w _).bind fun _ => .pure _

theorem fits_load (w : Surroundings) : Fits (Settings.load w) :=
  (fits_loadPassword w).bind fun _ => (fits_setting? w rfl (by decide)).bind fun _ =>
    (fits_setting? w rfl (by decide)).bind fun _ => (Fits.ofExcept _).bind fun _ =>
      (fits_setting? w rfl (by decide)).bind fun _ => (fits_setting? w rfl (by decide)).bind fun _ =>
        (fits_setting? w rfl (by decide)).bind fun _ =>
          (fits_setting? w rfl (by decide)).bind fun _ =>
            (fits_setting? w rfl (by decide)).bind fun _ =>
              (fits_setting? w rfl (by decide)).bind fun _ => .pure _

theorem fits_act {operation : Operation} (h : operation.IsFixed) (w : Surroundings) :
    Fits (operation.act w) := by
  cases operation with
  | parameter name decrypt => exact h.elim
  | setting name decrypt => exact h.elim
  | secret name => exact (fits_secret w name).bind fun _ => .pure ()
  | settings => exact (fits_load w).bind fun _ => .pure ()

/-- Runs of such look-ups make fitting calls only. -/
theorem isFitting_after {steps : List Step} (h : ∀ step ∈ steps, step.operation.IsFixed) :
    ∀ e ∈ (Journal.after steps).exchanges, IsFitting e.call := by
  -- By induction on the steps, whatever was done before them.
  have hfold : ∀ s : Journal, (∀ e ∈ s.exchanges, IsFitting e.call) →
      ∀ e ∈ (steps.foldl Journal.next s).exchanges, IsFitting e.call := by
    induction steps with
    | nil => exact fun s hs => hs
    | cons step steps ih =>
      intro s hs
      apply ih (fun t ht => h t (List.mem_cons_of_mem step ht))
      intro e he
      rcases List.mem_append.mp he with hbefore | hnew
      · exact hs e hbefore
      · obtain ⟨call, hcall, rfl⟩ := List.mem_map.mp hnew
        exact fits_act (h step List.mem_cons_self) step.surroundings s.memory call hcall
  exact hfold _ fun e he => by cases he

theorem flag_of_isFitting (h : ∀ e ∈ exchanges, IsFitting e.call) {reading : Bool × Option Text}
    (hreading : reading ∈ readings name exchanges) : reading.1 = true ↔ IsPassword name := by
  obtain ⟨⟨w, call⟩, he, hread⟩ := List.mem_filterMap.mp hreading
  have hfits : IsFitting call := h _ he
  cases call with
  | readParameter n decrypt =>
    dsimp only at hread
    by_cases hname : n = name
    · rw [if_pos hname] at hread
      obtain ⟨answer, -, rfl⟩ := Option.map_eq_some_iff.mp hread
      rw [← hname]
      exact hfits
    · rw [if_neg hname] at hread
      cases hread
  | _ => cases hread

end Fitting

/-- A setting that is not in the environment is looked up under the path. -/
theorem makes_setting {w : Surroundings} {name path : Text}
    (hname : w.environment.lookup name = none) (hpath : path? w = some path) (decrypt : Bool)
    (s : Journal) : Makes w (path ++ "/" ++ name) decrypt (setting w name decrypt) s s := by
  have hsetting : setting w name decrypt = parameter w (path ++ "/" ++ name) decrypt := by
    rw [setting, hname, hpath]
  rw [hsetting]
  exact .here s

/-- Loading settings begins with the password, decrypted. -/
theorem makes_password {w : Surroundings} {path : Text}
    (hown : w.environment.lookup ("ELASTICSEARCH_PASSWORD" : Text) = none)
    (hpath : path? w = some path) (s : Journal) :
    Makes w (path ++ "/" ++ "ELASTICSEARCH_PASSWORD") true (Operation.settings.act w) s s :=
  .first (.first (.first (makes_setting hown hpath true s)))

/-- The flag that a value was read with is that of the look-up which first got an answer. In every
run of look-ups, and wherever a further operation comes to look up a parameter, what it gets was
read just once, and it was read with the flag of the look-up unless an earlier one with the other
flag had got it; the reading stands among those of the whole operation. Where settings are loaded
and secrets found and nothing else, passwords were read decrypted and nothing else was. -/
theorem value_read_with (steps : List Step) (step : Step) (name : Text) (decrypt : Bool)
    (s' : Journal) (answer : Option Text)
    (hmakes : Makes step.surroundings name decrypt (step.operation.act step.surroundings)
      (Journal.after steps) s')
    (hanswer : (parameter step.surroundings name decrypt s'.memory).outcome = .ok answer) :
    let r := parameter step.surroundings name decrypt s'.memory
    let through := s'.exchanges ++ during step.surroundings r.calls
    (Journal.after steps).exchanges <+: s'.exchanges ∧
      through <+: (Journal.after (steps ++ [step])).exchanges ∧
      ∃ flag, readings name through = [(flag, answer)] ∧
        (flag ≠ decrypt ↔ (!decrypt, answer) ∈ readings name s'.exchanges) ∧
        ((∀ t ∈ steps ++ [step], t.operation.IsFixed) → (flag = true ↔ IsPassword name)) := by
  intro r through
  obtain ⟨hbefore, hwithin⟩ := hmakes.between
  have hcoherent := hmakes.coherent (coherent_after steps)
  have hafter : (Journal.after (steps ++ [step])).exchanges =
      ((Journal.after steps).over step.surroundings
        (step.operation.act step.surroundings)).exchanges := by
    unfold Journal.after
    rw [List.foldl_append]
    rfl
  have hthrough : through <+: (Journal.after (steps ++ [step])).exchanges := hafter ▸ hwithin
  obtain ⟨flag, hreadings, hflag⟩ := hcoherent.reading_of_answer hanswer
  refine ⟨hbefore, hthrough, flag, hreadings, hflag, fun hfixed => ?_⟩
  have hfits : ∀ e ∈ through, IsFitting e.call := fun e he =>
    isFitting_after hfixed e (hthrough.subset he)
  have hreading : (flag, answer) ∈ readings name through := by
    rw [hreadings]
    exact List.mem_singleton_self _
  exact flag_of_isFitting hfits hreading

def passwordStore : Surroundings :=
  ⟨[("SSM_PARAMETER_PREFIX", "/app")], [("/app/ELASTICSEARCH_PASSWORD", "AQICAHi")], [], []⟩

theorem makes_password_passwordStore (s : Journal) :
    Makes passwordStore "/app/ELASTICSEARCH_PASSWORD" true (Operation.settings.act passwordStore)
      s s := by
  have hown : passwordStore.environment.lookup ("ELASTICSEARCH_PASSWORD" : Text) = none := by
    decide +kernel
  have hpath : path? passwordStore = some "/app" := by decide +kernel
  exact makes_password hown hpath s

/-- Settings that are loaded twice: the password is decrypted, though the second time it is
remembered. -/
theorem value_read_with_loaded_twice :
    let name : Text := "/app/ELASTICSEARCH_PASSWORD"
    let password : Text := "AQICAHi"
    let loading : Step := ⟨passwordStore, .settings⟩
    let s := Journal.after [loading]
    (parameter passwordStore name true s.memory).outcome = .ok (some password) ∧
      (parameter passwordStore name true s.memory).calls = [] ∧
      readings name s.exchanges = [(true, some password)] := by
  intro name password loading s
  have hremembered : s.memory.parameters.lookup name = some (some password) := by decide +kernel
  have hr := parameter_of_remembered hremembered passwordStore true
  have houtcome : (parameter passwordStore name true s.memory).outcome = .ok (some password) := by
    rw [hr]
  obtain ⟨-, -, flag, hreadings, -, hfixed⟩ := value_read_with [loading] loading name true s _
    (makes_password_passwordStore s) houtcome
  have hflag : flag = true := by
    refine (hfixed fun t ht => ?_).mpr ⟨"/app/", rfl⟩
    have hloading : t = loading := by simpa using ht
    rw [hloading]
    trivial
  rw [hr, hflag] at hreadings
  rw [hr]
  refine ⟨rfl, rfl, ?_⟩
  simpa [during] using hreadings

/-- A setting that was asked for without decryption is what the password is taken to be later. -/
theorem value_read_with_other_flag :
    ¬∀ (steps : List Step) (step : Step) (name : Text) (decrypt : Bool) (s' : Journal) (value : Text),
      Makes step.surroundings name decrypt (step.operation.act step.surroundings)
        (Journal.after steps) s' →
      (parameter step.surroundings name decrypt s'.memory).outcome = .ok (some value) →
        (decrypt, some value) ∈ readings name (s'.exchanges ++
          during step.surroundings (parameter step.surroundings name decrypt s'.memory).calls) := by
  intro h
  let name : Text := "/app/ELASTICSEARCH_PASSWORD"
  let s := Journal.after [⟨passwordStore, .setting "ELASTICSEARCH_PASSWORD" false⟩]
  let password : Text := "AQICAHi"
  have hremembered : s.memory.parameters.lookup name = some (some password) := by decide +kernel
  have hr := parameter_of_remembered hremembered passwordStore true
  have hread := h _ ⟨passwordStore, .settings⟩ name true s password
    (makes_password_passwordStore s) (by rw [hr])
  have hreadings : readings name s.exchanges = [(false, some password)] := by decide +kernel
  rw [hr, during, List.map_nil, List.append_nil, hreadings] at hread
  exact absurd hread (by decide)

end LookUp

end TopicSink
