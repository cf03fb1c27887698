import TopicSink.Proofs.Encodings
import TopicSink.Proofs.Loading
import TopicSink.Proofs.Resumption

/-!
Where the password comes from. The name of its secret is looked up twice, first to see whether there
is one and then to find the secret; no look-up changes what there is to be found, so both find the
same name. `load_password` says what password comes of that, which secret is read, and how loading
fails.
-/

namespace TopicSink

/-- What a secret gives as its text: the one that it holds, and of one that holds none the text
without surrogates of which its bytes are the UTF-8 form. -/
inductive Secret.Gives : Secret → Text → Prop
  | text {t : Text} {binary : Option Bytes} : Gives (.held (some t) binary) t
  | bytes {t : Text} {binary : Option Bytes} : Encoding.encodeUtf8 t = binary.getD [] → t.IsScalar →
    Gives (.held none binary) t

namespace LookUp

theorem gives_of_secretText {held : Secret} {value : Text} (h : secretText held = .ok value) :
    held.Gives value := by
  unfold secretText at h
  split at h
  · obtain rfl := Except.ok.inj h
    exact .text
  · split at h
    · rename_i binary t hdecode
      obtain rfl := Except.ok.inj h
      obtain ⟨hencode, hscalar⟩ := Encoding.encodeUtf8_of_decodeUtf8 hdecode
      exact .bytes hencode hscalar
    · cases h
  all_goals cases h

/-- A secret that gives a text is in the store. -/
theorem lookup_of_gives {w : Surroundings} {id value : Text} (h : (secretHeld w id).Gives value) :
    w.secrets.lookup id = some (secretHeld w id) := by
  cases hl : w.secrets.lookup id with
  | some held => rw [secretHeld, hl, Option.getD_some]
  | none =>
    rw [secretHeld, hl, Option.getD_none] at h
    cases h

def secretsRead (calls : List Call) : List Text :=
  calls.filterMap fun call =>
    match call with
    | .readSecret id => some id
    | _ => none

/-- A look-up that tells of the parameter store only. -/
def Spares {α : Type} (x : LookUp α) : Prop := ∀ memory, SparesSecrets memory (x memory)

/-- A look-up fails where a reading does, and with faults of its own. -/
def FailsBy {α : Type} (w : Surroundings) (own : Fault → Prop) (r : Report Memory α) : Prop :=
  ∀ fault, r.outcome = .error fault → own fault ∨ ∃ read ∈ r.calls, isUnanswered w read = true

section Passwords

variable {α β : Type} {w : Surroundings} {memory : Memory}

theorem given?_setting (w : Surroundings) (memory : Memory) (name : Text) (decrypt : Bool)
    (name' : Text) :
    given? w (setting w name decrypt memory).state name' = given? w memory name' := by
  unfold given?
  rw [((composes_steady w).setting (.refl w) name decrypt).given_eq]

theorem Spares.pure (a : α) : Spares (Pure.pure a : LookUp α) :=
  fun _ => ⟨rfl, fun _ hcall => by cases hcall⟩

theorem Spares.ofExcept (r : Except Fault α) : Spares (Act.ofExcept r : LookUp α) :=
  fun _ => ⟨rfl, fun _ hcall => by cases hcall⟩

theorem Spares.bind {x : LookUp α} {f : α → LookUp β} (hx : Spares x) (hf : ∀ a, Spares (f a)) :
    Spares (x >>= f) := by
  intro memory
  obtain ⟨hsecrets, hcalls⟩ := hx memory
  rcases Act.bind_cases x f memory with ⟨e, -, h⟩ | ⟨a, -, h⟩
  · rw [h]
    exact ⟨hsecrets, hcalls⟩
  · obtain ⟨hsecrets', hcalls'⟩ := hf a (x memory).state
    rw [h]
    refine ⟨hsecrets'.trans hsecrets, fun call hcall => ?_⟩
    rcases List.mem_append.mp hcall with hcall | hcall
    · exact hcalls call hcall
    · exact hcalls' call hcall

theorem spares_setting (w : Surroundings) (name : Text) (decrypt : Bool) :
    Spares (setting w name decrypt) :=
  setting_sparesSecrets w name decrypt

theorem spares_setting? (w : Surroundings) (name : Text) : Spares (setting? w name) :=
  (spares_setting w name false).bind fun _ => .pure _

theorem secretsRead_append (calls calls' : List Call) :
    secretsRead (calls ++ calls') = secretsRead calls ++ secretsRead calls' :=
  List.filterMap_append

theorem secretsRead_of_spared {calls : List Call} (h : ∀ call ∈ calls, isOfSecrets call = false) :
    secretsRead calls = [] := by
  refine List.filterMap_eq_nil_iff.mpr fun call hcall => ?_
  have hspared := h call hcall
  cases call with
  | readSecret id => cases hspared
  | _ => rfl

theorem FailsBy.bind {own : Fault → Prop} {x : LookUp α} {f : α → LookUp β}
    (hx : FailsBy w own (x memory))
    (hf : ∀ a, (x memory).outcome = .ok a → FailsBy w own (f a (x memory).state)) :
    FailsBy w own ((x >>= f) memory) := by
  intro fault hfault
  rcases Act.bind_cases x f memory with ⟨e, he, h⟩ | ⟨a, ha, h⟩
  · rw [h] at hfault ⊢
    have he' : e = fault := Except.error.inj hfault
    exact hx fault (he' ▸ he)
  · rw [h] at hfault ⊢
    obtain hown | ⟨read, hread, hunanswered⟩ := hf a ha fault hfault
    · exact .inl hown
    · exact .inr ⟨read, List.mem_append_right _ hread, hunanswered⟩

/-- A look-up of what one reading brings has no faults of its own. -/
theorem Caches.failsBy {x : LookUp α} {held : Memory → Option α} {opening read : Call}
    (h : Caches w x held opening read)
    (hanswered : isUnanswered w read = false → ∀ memory, ∃ a, (x memory).outcome = .ok a)
    (own : Fault → Prop) (memory : Memory) : FailsBy w own (x memory) := by
  intro fault hfault
  cases hheld : held memory with
  | some a =>
    rw [h.remembered memory a hheld] at hfault
    cases hfault
  | none =>
    right
    refine ⟨read, ?_, ?_⟩
    · rw [(h.forgotten memory hheld).calls]
      exact List.mem_append_right _ List.mem_cons_self
    · cases hread : isUnanswered w read with
      | true => rfl
      | false =>
        obtain ⟨a, ha⟩ := hanswered hread memory
        rw [hfault] at ha
        cases ha

theorem failsBy_parameter (name : Text) (decrypt : Bool) (own : Fault → Prop) (memory : Memory) :
    FailsBy w own (parameter w name decrypt memory) := by
  refine (caches_parameter w name decrypt).failsBy (fun hanswered memory => ?_) own memory
  have hanswer : (parameterAnswer w name).isNone = false := hanswered
  obtain ⟨answer, hanswer⟩ := Option.isSome_iff_exists.mp (by simpa using hanswer)
  have hfound : ∃ value, found w memory name = some value := by
    unfold found
    rw [hanswer]
    cases memory.parameters.lookup name <;> simp
  obtain ⟨value, hvalue⟩ := hfound
  exact ⟨value, parameter_outcome_eq_ok_iff.mpr hvalue⟩

theorem failsBy_secretOf (id : Text) (own : Fault → Prop) (memory : Memory) :
    FailsBy w own (secretOf w id memory) := by
  refine (caches_secretOf w id).failsBy (fun hanswered memory => ?_) own memory
  have hanswer : (secretAnswer w id).isNone = false := hanswered
  cases hl : memory.secrets.lookup id with
  | some value => exact ⟨value, by rw [secretOf_of_remembered hl]⟩
  | none =>
    cases htext : secretText (secretHeld w id) with
    | error fault => simp [secretAnswer, htext, Except.toOption] at hanswer
    | ok value =>
      obtain ⟨logs, hr⟩ := readSecret_of_answered htext memory
      exact ⟨value, by rw [secretOf_of_forgotten hl, hr]⟩

theorem FailsBy.ofExcept {own : Fault → Prop} {r : Except Fault α}
    (h : ∀ fault, r = .error fault → own fault) :
    FailsBy w own ((Act.ofExcept r : LookUp α) memory) :=
  fun fault hfault => .inl (h fault hfault)

theorem FailsBy.pure (a : α) (own : Fault → Prop) :
    FailsBy w own ((Pure.pure a : LookUp α) memory) := by
  intro fault hfault
  cases hfault

theorem failsBy_setting (name : Text) (decrypt : Bool) (own : Fault → Prop) (memory : Memory) :
    FailsBy w own (setting w name decrypt memory) := by
  unfold setting
  cases w.environment.lookup name with
  | some value => exact .pure _ own
  | none =>
    cases path? w with
    | none => exact .pure _ own
    | some path => exact failsBy_parameter _ decrypt own memory

theorem failsBy_setting? (name : Text) (own : Fault → Prop) (memory : Memory) :
    FailsBy w own (setting? w name memory) :=
  (failsBy_setting name false own memory).bind fun _ _ => .pure _ own

theorem failsBy_secret (name : Text) (own : Fault → Prop) (memory : Memory) :
    FailsBy w own (secret w name memory) := by
  have hid : FailsBy w own (secretId w name memory) :=
    (failsBy_setting? _ own memory).bind fun _ _ => .pure _ own
  rw [secret_eq]
  exact hid.bind fun id _ => failsBy_secretOf id own _

theorem failsBy_loadPassword (own : Fault → Prop) (memory : Memory) :
    FailsBy w own (Settings.loadPassword w memory) := by
  unfold Settings.loadPassword
  apply (failsBy_setting _ true own memory).bind
  intro password _
  cases password with
  | some password => exact .pure _ own
  | none =>
    apply (failsBy_setting? _ own _).bind
    intro named _
    cases named with
    | none => exact .pure _ own
    | some _ => exact (failsBy_secret _ own _).bind fun _ _ => .pure _ own

/-- A password of its own, even an empty one, is all that is looked for. -/
theorem loadPassword_of_own {password : Text}
    (hown : (setting w "ELASTICSEARCH_PASSWORD" true memory).outcome = .ok (some password)) :
    (Settings.loadPassword w memory).outcome = .ok (some password) ∧
      SparesSecrets memory (Settings.loadPassword w memory) := by
  obtain ⟨hsecrets, hcalls⟩ := spares_setting w "ELASTICSEARCH_PASSWORD" true memory
  unfold Settings.loadPassword
  rw [Act.bind_of_outcome hown]
  refine ⟨rfl, hsecrets, ?_⟩
  simpa [Report.behind] using hcalls

theorem secretId_of_given {name id : Text}
    (h : given? w memory (name ++ "_SECRET_NAME") = some (some id)) :
    (secretId w name memory).outcome = .ok id := by
  unfold secretId
  rw [Act.bind_of_outcome (setting?_outcome_eq_ok_iff.mpr h)]
  rfl

section Named

variable (hown : (setting w "ELASTICSEARCH_PASSWORD" true memory).outcome = .ok none)

include hown

/-- Where no secret is named there is no password, and no secret is asked for. -/
theorem loadPassword_of_unnamed
    (hnamed : given? w memory "ELASTICSEARCH_PASSWORD_SECRET_NAME" = some none) :
    (Settings.loadPassword w memory).outcome = .ok none ∧
      SparesSecrets memory (Settings.loadPassword w memory) := by
  have hspares := (spares_setting w "ELASTICSEARCH_PASSWORD" true).bind
    fun _ => spares_setting? w "ELASTICSEARCH_PASSWORD_SECRET_NAME"
  obtain ⟨hsecrets, hcalls⟩ := hspares memory
  have hname := setting?_outcome_eq_ok_iff.mpr
    ((given?_setting w memory "ELASTICSEARCH_PASSWORD" true _).trans hnamed)
  rw [Act.bind_of_outcome hown] at hsecrets hcalls
  unfold Settings.loadPassword
  rw [Act.bind_of_outcome hown]
  dsimp only
  rw [Act.bind_of_outcome hname]
  refine ⟨rfl, hsecrets, ?_⟩
  simpa [Report.behind] using hcalls

/-- The secret that is named is the one that is read, since its name is found again. -/
theorem loadPassword_of_named {id : Text}
    (hnamed : given? w memory "ELASTICSEARCH_PASSWORD_SECRET_NAME" = some (some id)) :
    ∃ (between : Memory) (calls : List Call) (logs : List LogLine),
      between.secrets = memory.secrets ∧ (∀ call ∈ calls, isOfSecrets call = false) ∧
      Settings.loadPassword w memory =
        ((secretOf w id >>= fun value => pure (some value)) between).behind calls logs := by
  let first := setting w "ELASTICSEARCH_PASSWORD" true memory
  let second := setting? w "ELASTICSEARCH_PASSWORD_SECRET_NAME" first.state
  let third := secretId w "ELASTICSEARCH_PASSWORD" second.state
  have hname := given?_setting w memory "ELASTICSEARCH_PASSWORD" true
    "ELASTICSEARCH_PASSWORD_SECRET_NAME"
  -- What was looked up before takes nothing from what is given, so that both find the same name.
  have hsecond : second.outcome = .ok (some id) :=
    setting?_outcome_eq_ok_iff.mpr (hname.trans hnamed)
  have hthird : third.outcome = .ok id := by
    apply secretId_of_given
    exact (given?_setting? w first.state _ _).trans (hname.trans hnamed)
  obtain ⟨hsecrets, hcalls⟩ := spares_setting w "ELASTICSEARCH_PASSWORD" true memory
  obtain ⟨hsecrets', hcalls'⟩ := spares_setting? w "ELASTICSEARCH_PASSWORD_SECRET_NAME" first.state
  obtain ⟨hsecrets'', hcalls''⟩ := secretId_sparesSecrets w "ELASTICSEARCH_PASSWORD" second.state
  refine ⟨third.state, first.calls ++ second.calls ++ third.calls,
    first.logs ++ second.logs ++ third.logs, ?_, ?_, ?_⟩
  · exact hsecrets''.trans (hsecrets'.trans hsecrets)
  · exact List.forall_mem_append.mpr ⟨List.forall_mem_append.mpr ⟨hcalls, hcalls'⟩, hcalls''⟩
  · unfold Settings.loadPassword
    rw [Act.bind_of_outcome hown]
    dsimp only
    rw [Act.bind_of_outcome hsecond]
    dsimp only
    rw [secret_eq, Act.bind_assoc, Act.bind_of_outcome hthird, Report.behind_behind,
      Report.behind_behind]

end Named

/-- What is looked up behind the password needs no secret, and it adds a bad timeout to what can
fail. -/
theorem load_eq_bind (w : Surroundings) :
    ∃ rest : Option Text → LookUp Settings,
      Settings.load w = Settings.loadPassword w >>= rest ∧
      ∀ password, Spares (rest password) ∧
        ∀ memory settings, (rest password memory).outcome = .ok settings →
          settings.password = Text.nonempty? password := by
  refine ⟨_, rfl, fun password => ⟨?_, ?_⟩⟩
  · exact (spares_setting? w _).bind fun _ => (spares_setting? w _).bind fun _ =>
      (Spares.ofExcept _).bind fun _ => (spares_setting? w _).bind fun _ =>
        (spares_setting? w _).bind fun _ => (spares_setting? w _).bind fun _ =>
          (spares_setting? w _).bind fun _ => (spares_setting? w _).bind fun _ =>
            (spares_setting? w _).bind fun _ => .pure _
  · intro memory settings h
    iterate 9 obtain ⟨_, -, h⟩ := Act.outcome_bind_eq_ok_iff.mp h
    cases h
    rfl

def IsTimeoutFault (w : Surroundings) (memory : Memory) (fault : Fault) : Prop :=
  ∃ timeout, given? w memory "ES_BULK_TIMEOUT" = some timeout ∧
    Duration.parse ((timeout.map Json.str).getD .null) Settings.default.bulkTimeout = .error fault

theorem failsBy_load (w : Surroundings) (memory : Memory) :
    FailsBy w (IsTimeoutFault w memory) (Settings.load w memory) := by
  unfold Settings.load
  refine (failsBy_loadPassword _ memory).bind fun _ _ => (failsBy_setting? _ _ _).bind fun _ _ =>
    (failsBy_setting? _ _ _).bind fun timeout htimeout => FailsBy.bind (.ofExcept fun fault hfault => ?_)
      fun _ _ => (failsBy_setting? _ _ _).bind fun _ _ => (failsBy_setting? _ _ _).bind fun _ _ =>
        (failsBy_setting? _ _ _).bind fun _ _ => (failsBy_setting? _ _ _).bind fun _ _ =>
          (failsBy_setting? _ _ _).bind fun _ _ => (failsBy_setting? _ _ _).bind fun _ _ => .pure _ _
  rw [setting?_outcome_eq_ok_iff, given?_setting?, given?_loadPassword] at htimeout
  exact ⟨timeout, htimeout, hfault⟩

/-- Loading goes on behind the password without secrets, and it gives that password or none if it is
empty. -/
theorem load_of_loadPassword (w : Surroundings) (memory : Memory) :
    let first := Settings.loadPassword w memory
    let r := Settings.load w memory
    (∃ behind, r.calls = first.calls ++ behind ∧ ∀ call ∈ behind, isOfSecrets call = false) ∧
    ∀ settings, r.outcome = .ok settings →
      ∃ password, first.outcome = .ok password ∧ settings.password = Text.nonempty? password := by
  intro first r
  obtain ⟨rest, hload, hrest⟩ := load_eq_bind w
  have hr : r = (Settings.loadPassword w >>= rest) memory := congrFun hload memory
  rw [hr]
  constructor
  · rcases Act.bind_cases (Settings.loadPassword w) rest memory with ⟨e, -, h⟩ | ⟨password, -, h⟩
    · exact ⟨[], by rw [h, List.append_nil], fun _ hcall => by cases hcall⟩
    · exact ⟨_, by rw [h]; rfl, ((hrest password).1 first.state).2⟩
  · intro settings hsettings
    obtain ⟨password, hpassword, hsettings⟩ := Act.outcome_bind_eq_ok_iff.mp hsettings
    exact ⟨password, hpassword, (hrest password).2 _ settings hsettings⟩

/-- Where the password is found without a secret, loading asks the secret store nothing. -/
theorem load_of_spared {password : Option Text}
    (h : (Settings.loadPassword w memory).outcome = .ok password ∧
      ∀ call ∈ (Settings.loadPassword w memory).calls, isOfSecrets call = false) :
    (∀ call ∈ (Settings.load w memory).calls, isOfSecrets call = false) ∧
      ∀ settings, (Settings.load w memory).outcome = .ok settings →
        settings.password = Text.nonempty? password := by
  obtain ⟨hpassword, hspared⟩ := h
  obtain ⟨⟨behind, hcalls, hbehind⟩, hgives⟩ := load_of_loadPassword w memory
  constructor
  · rw [hcalls]
    exact List.forall_mem_append.mpr ⟨hspared, hbehind⟩
  · intro settings hsettings
    obtain ⟨password', hpassword', hgiven⟩ := hgives settings hsettings
    rw [hpassword] at hpassword'
    rw [hgiven, Except.ok.inj hpassword']

theorem load_of_secret_remembered {id value : Text}
    (hown : (setting w "ELASTICSEARCH_PASSWORD" true memory).outcome = .ok none)
    (hnamed : given? w memory "ELASTICSEARCH_PASSWORD_SECRET_NAME" = some (some id))
    (hvalue : memory.secrets.lookup id = some value) :
    (∀ call ∈ (Settings.load w memory).calls, isOfSecrets call = false) ∧
      ∀ settings, (Settings.load w memory).outcome = .ok settings →
        settings.password = Text.nonempty? (some value) := by
  obtain ⟨between, calls, logs, hsecrets, hcalls, hload⟩ := loadPassword_of_named hown hnamed
  have hsecret := secretOf_of_remembered (hsecrets ▸ hvalue) w
  apply load_of_spared
  rw [hload, Act.bind_of_ok hsecret]
  exact ⟨rfl, by simpa [Report.behind] using hcalls⟩

/-- A named secret that is not remembered is read once, and it alone. -/
theorem load_of_secret_forgotten {id : Text}
    (hown : (setting w "ELASTICSEARCH_PASSWORD" true memory).outcome = .ok none)
    (hnamed : given? w memory "ELASTICSEARCH_PASSWORD_SECRET_NAME" = some (some id))
    (hid : memory.secrets.lookup id = none) :
    secretsRead (Settings.load w memory).calls = [id] ∧
      ∀ settings, (Settings.load w memory).outcome = .ok settings →
        ∃ value, secretText (secretHeld w id) = .ok value ∧
          settings.password = Text.nonempty? (some value) := by
  obtain ⟨between, calls, logs, hsecrets, hcalls, hload⟩ := loadPassword_of_named hown hnamed
  obtain ⟨⟨behind, hallCalls, hbehind⟩, hgives⟩ := load_of_loadPassword w memory
  have hsecret : secretOf w id between = readSecret w id between :=
    secretOf_of_forgotten (hsecrets ▸ hid) w
  have hread := readSecret_calls w id between
  have hopening : secretsRead (secretOpening between) = [] := by
    unfold secretOpening
    cases between.secretClient <;> rfl
  rw [Act.bind_pure_apply, hsecret] at hload
  constructor
  · have hfirst : (Settings.loadPassword w memory).calls =
        calls ++ (secretOpening between ++ [.readSecret id]) := by
      rw [hload, ← hread]
      rfl
    rw [hallCalls, hfirst, secretsRead_append, secretsRead_append, secretsRead_append,
      secretsRead_of_spared hcalls, secretsRead_of_spared hbehind, hopening]
    rfl
  · intro settings hsettings
    obtain ⟨password, hpassword, hgiven⟩ := hgives settings hsettings
    cases htext : secretText (secretHeld w id) with
    | error fault =>
      obtain ⟨logs', hr⟩ := readSecret_of_failing htext between
      rw [hload, hr] at hpassword
      cases hpassword
    | ok value =>
      obtain ⟨logs', hr⟩ := readSecret_of_answered htext between
      rw [hload, hr] at hpassword
      cases hpassword
      exact ⟨value, rfl, hgiven⟩

/-- Loading fails just where a reading fails or the timeout that is given is none. -/
theorem load_outcome_error_iff (w : Surroundings) (memory : Memory) :
    (∃ fault, (Settings.load w memory).outcome = .error fault) ↔
      (∃ read ∈ (Settings.load w memory).calls, isUnanswered w read = true) ∨
        ∃ fault, IsTimeoutFault w memory fault := by
  -- One way each look-up has its faults; the other way a reading that fails stops all behind it.
  constructor
  · rintro ⟨fault, hfault⟩
    rcases failsBy_load w memory fault hfault with htimeout | hread
    · exact .inr ⟨fault, htimeout⟩
    · exact .inl hread
  · rintro (⟨read, hread, hunanswered⟩ | ⟨fault, timeout, hgiven, hparse⟩)
    · exact (((composes_resumes w w).load (.refl w)).stops memory read hread hunanswered).1
    · refine exists_error_of_not_ok fun settings hsettings => ?_
      obtain ⟨timeout', hgiven', hparse'⟩ := (areGiven_of_load hsettings).bulkTimeout
      have hsame : timeout = timeout' := Option.some.inj (hgiven.symm.trans hgiven')
      rw [← hsame, hparse] at hparse'
      cases hparse'

theorem exists_ok_of_toOption {r : Except Fault α} (h : r.toOption.isSome = true) :
    ∃ a, r = .ok a := by
  cases r with
  | error fault => cases h
  | ok a => exact ⟨a, rfl⟩

end Passwords

/-- The password is the setting of its own, even an empty one, without a secret being asked for.
Where there is none, it is the secret under just the id that is named: the first value ever given of
it, without asking again, and otherwise the text that the store holds, or else its bytes as UTF-8,
asked once. An empty password is none. Whatever was looked up before, loading fails exactly where a
reading fails or the given timeout is none. -/
theorem load_password (steps : List Step) (w : Surroundings) :
    let s := Journal.after steps
    let own := (setting w "ELASTICSEARCH_PASSWORD" true s.memory).outcome
    let named := (setting w "ELASTICSEARCH_PASSWORD_SECRET_NAME" false s.memory).outcome
    let timeout := (setting w "ES_BULK_TIMEOUT" false s.memory).outcome
    let r := Settings.load w s.memory
    (∀ password, own = .ok (some password) →
      (∀ call ∈ r.calls, isOfSecrets call = false) ∧
      ∀ settings, r.outcome = .ok settings →
        settings.password = Text.nonempty? (some password)) ∧
    (∀ name, own = .ok none → named = .ok name → Text.nonempty? name = none →
      (∀ call ∈ r.calls, isOfSecrets call = false) ∧
      ∀ settings, r.outcome = .ok settings → settings.password = none) ∧
    (∀ name id, own = .ok none → named = .ok name → Text.nonempty? name = some id →
      (∀ value ∈ secretAnswers id s.exchanges,
        (∀ call ∈ r.calls, isOfSecrets call = false) ∧
        ∀ settings, r.outcome = .ok settings →
          settings.password = Text.nonempty? (some value)) ∧
      (secretAnswers id s.exchanges = [] →
        secretsRead r.calls = [id] ∧
        ∀ settings, r.outcome = .ok settings →
          ∃ held value, w.secrets.lookup id = some held ∧ held.Gives value ∧
            settings.password = Text.nonempty? (some value))) ∧
    ((∃ fault, r.outcome = .error fault) ↔
      (∃ read ∈ r.calls, isUnanswered w read = true) ∨
      ∃ value fault, timeout = .ok value ∧
        Duration.parse (((Text.nonempty? value).map Json.str).getD .null)
          Settings.default.bulkTimeout = .error fault) := by
  intro s own named timeout r
  have hs : Coherent s.memory s.exchanges := coherent_after steps
  have hgiven : ∀ {name : Text} {decrypt : Bool} {value : Option Text},
      (setting w name decrypt s.memory).outcome = .ok value →
        given? w s.memory name = some (Text.nonempty? value) := by
    intro name decrypt value h
    rw [given?, setting_outcome_eq_ok_iff.mp h]
    rfl
  refine ⟨fun password hown => ?_, fun name hown hnamed hname => ?_,
    fun name id hown hnamed hname => ⟨fun value hvalue => ?_, fun hnone => ?_⟩, ?_⟩
  · obtain ⟨hpassword, -, hspared⟩ := loadPassword_of_own hown
    exact load_of_spared ⟨hpassword, hspared⟩
  · obtain ⟨hpassword, -, hspared⟩ := loadPassword_of_unnamed hown (hname ▸ hgiven hnamed)
    exact load_of_spared ⟨hpassword, hspared⟩
  · rw [hs.secrets id] at hvalue
    exact load_of_secret_remembered hown (hname ▸ hgiven hnamed) (Option.mem_toList.mp hvalue)
  · rw [hs.secrets id] at hnone
    obtain ⟨hread, hgives⟩ := load_of_secret_forgotten hown (hname ▸ hgiven hnamed)
      (Option.toList_eq_nil_iff.mp hnone)
    refine ⟨hread, fun settings hsettings => ?_⟩
    obtain ⟨value, hvalue, hpassword⟩ := hgives settings hsettings
    have hgiven := gives_of_secretText hvalue
    exact ⟨_, value, lookup_of_gives hgiven, hgiven, hpassword⟩
  · refine (load_outcome_error_iff w s.memory).trans (or_congr_right ?_)
    constructor
    · rintro ⟨fault, value, hvalue, hparse⟩
      obtain ⟨value', hvalue', rfl⟩ := Option.map_eq_some_iff.mp hvalue
      exact ⟨value', fault, setting_outcome_eq_ok_iff.mpr hvalue', hparse⟩
    · rintro ⟨value, fault, hvalue, hparse⟩
      exact ⟨fault, _, hgiven hvalue, hparse⟩

/-- A secret of a text and other bytes, named by a parameter. Its first text stays, whatever the
store holds later. -/
theorem load_password_changed :
    let id : Text := "es/password"
    let held (password : Text) : Surroundings :=
      ⟨[("SSM_PARAMETER_PREFIX", "/app/")],
        [("/app/ELASTICSEARCH_PASSWORD_SECRET_NAME", id)], [],
        [(id, .held (some password) (some (Encoding.encodeUtf8 "bytes")))]⟩
    let password : Text := "s3cret"
    let first := Settings.load (held password) Memory.empty
    let s := Journal.after [⟨held password, .settings⟩]
    let again := Settings.load (held "changed") s.memory
    secretsRead first.calls = [id] ∧
      (∃ settings, first.outcome = .ok settings ∧ settings.password = some password) ∧
      (∀ call ∈ again.calls, isOfSecrets call = false) ∧
      ∃ settings, again.outcome = .ok settings ∧ settings.password = some password := by
  intro id held password first s again
  obtain ⟨settings, hfirst⟩ : ∃ settings, first.outcome = .ok settings :=
    exists_ok_of_toOption (by decide +kernel)
  obtain ⟨settings', hagain⟩ : ∃ settings, again.outcome = .ok settings :=
    exists_ok_of_toOption (by decide +kernel)
  have hanswers : secretAnswers id s.exchanges = [password] := by decide +kernel
  obtain ⟨-, -, hasks, -⟩ := load_password [] (held password)
  obtain ⟨-, hgives⟩ := hasks (some id) id (setting_outcome_eq_ok_iff.mpr (by decide +kernel))
    (setting_outcome_eq_ok_iff.mpr (by decide +kernel)) rfl
  obtain ⟨hread, hgives⟩ := hgives rfl
  obtain ⟨_, value, hstored, hvalue, hpassword⟩ := hgives settings hfirst
  cases hstored
  -- The bytes do not matter where there is a text.
  cases hvalue
  obtain ⟨-, -, hrecalls, -⟩ := load_password [⟨held password, .settings⟩] (held "changed")
  obtain ⟨hspared, -⟩ := hrecalls (some id) id (setting_outcome_eq_ok_iff.mpr (by decide +kernel))
    (setting_outcome_eq_ok_iff.mpr (by decide +kernel)) rfl
  obtain ⟨hspared, hgives'⟩ := hspared password (hanswers ▸ List.mem_singleton_self _)
  exact ⟨hread, ⟨settings, hfirst, hpassword⟩, hspared, settings', hagain, hgives' settings' hagain⟩

end LookUp

end TopicSink
