import TopicSink.Proofs.Recollections

namespace TopicSink

namespace LookUp

/-- What there is to be found of a parameter: the remembered answer, or else the store's; nothing
where the store fails to answer. -/
def found (w : Surroundings) (memory : Memory) (name : Text) : Option (Option Text) :=
  (memory.parameters.lookup name).or (parameterAnswer w name)

/-- How a setting is given: by the environment, even as an empty text, or else by the parameter
under the path, if there is a path. -/
def given (w : Surroundings) (memory : Memory) (name : Text) : Option (Option Text) :=
  match w.environment.lookup name with
  | some value => some (some value)
  | none =>
    match path? w with
    | none => some none
    | some path => found w memory (path ++ "/" ++ name)

def given? (w : Surroundings) (memory : Memory) (name : Text) : Option (Option Text) :=
  (given w memory name).map Text.nonempty?

def Steady {α : Type} (w : Surroundings) (x : LookUp α) : Prop :=
  ∀ memory name, found w (x memory).state name = found w memory name

section Steady

variable {α β : Type} {w : Surroundings} {memory : Memory}

/-- A parameter is answered with what there is to be found of it. -/
theorem parameter_outcome_eq_ok_iff {name : Text} {decrypt : Bool} {value : Option Text} :
    (parameter w name decrypt memory).outcome = .ok value ↔ found w memory name = some value := by
  unfold found
  cases hl : memory.parameters.lookup name with
  | some answer =>
    rw [parameter_of_remembered hl]
    simp
  | none =>
    rw [parameter_of_forgotten hl, Option.none_or]
    unfold parameterAnswer
    cases hfailing : w.failing.lookup name with
    | some message =>
      obtain ⟨logs, hr⟩ := readParameter_of_failing hfailing decrypt memory
      rw [hr]
      simp
    | none =>
      obtain ⟨logs, hr⟩ := readParameter_of_answered hfailing decrypt memory
      rw [hr]
      simp

theorem setting_outcome_eq_ok_iff {name : Text} {decrypt : Bool} {value : Option Text} :
    (setting w name decrypt memory).outcome = .ok value ↔ given w memory name = some value := by
  unfold setting given
  cases w.environment.lookup name with
  | some text => simp
  | none =>
    cases path? w with
    | none => simp
    | some path => exact parameter_outcome_eq_ok_iff

theorem setting?_outcome_eq_ok_iff {name : Text} {value : Option Text} :
    (setting? w name memory).outcome = .ok value ↔ given? w memory name = some value := by
  unfold setting? given?
  rw [Act.outcome_bind_eq_ok_iff, Option.map_eq_some_iff]
  simp [setting_outcome_eq_ok_iff]

theorem steady_parameter (w : Surroundings) (name : Text) (decrypt : Bool) :
    Steady w (parameter w name decrypt) := by
  intro memory n
  cases hl : memory.parameters.lookup name with
  | some answer => rw [parameter_of_remembered hl]
  | none =>
    rw [parameter_of_forgotten hl]
    cases hfailing : w.failing.lookup name with
    | some message =>
      obtain ⟨logs, hr⟩ := readParameter_of_failing hfailing decrypt memory
      rw [hr]
      rfl
    | none =>
      obtain ⟨logs, hr⟩ := readParameter_of_answered hfailing decrypt memory
      rw [hr]
      unfold found
      rw [lookup_cons_eq]
      -- What is remembered now is what the store would have answered.
      by_cases hn : name = n
      · subst hn
        simp [hl, parameterAnswer, hfailing]
      · simp [hn]

theorem steady_secretOf (w : Surroundings) (id : Text) : Steady w (secretOf w id) := by
  intro memory n
  cases hl : memory.secrets.lookup id with
  | some value => rw [secretOf_of_remembered hl]
  | none =>
    rw [secretOf_of_forgotten hl]
    cases htext : secretText (secretHeld w id) with
    | error fault =>
      obtain ⟨logs, hr⟩ := readSecret_of_failing htext memory
      rw [hr]
      rfl
    | ok value =>
      obtain ⟨logs, hr⟩ := readSecret_of_answered htext memory
      rw [hr]
      rfl

theorem Steady.bind {x : LookUp α} {f : α → LookUp β} (hx : Steady w x)
    (hf : ∀ a, Steady w (f a)) : Steady w (x >>= f) := by
  intro memory name
  rcases Act.bind_cases x f memory with ⟨e, -, h⟩ | ⟨a, -, h⟩
  · rw [h]
    exact hx memory name
  · rw [h]
    exact (hf a _ name).trans (hx memory name)

theorem composes_steady (w : Surroundings) : Composes (fun x _ => Steady w x) w w where
  ofExcept _ := fun _ _ => rfl
  bind hx hf := hx.bind hf
  parameter := steady_parameter w
  secretOf := steady_secretOf w

theorem Steady.given_eq {x : LookUp α} (h : Steady w x) (memory : Memory) (name : Text) :
    given w (x memory).state name = given w memory name := by
  unfold given
  cases w.environment.lookup name with
  | some value => rfl
  | none =>
    cases path? w with
    | none => rfl
    | some path => exact h memory _

theorem given?_setting? (w : Surroundings) (memory : Memory) (name name' : Text) :
    given? w (setting? w name memory).state name' = given? w memory name' := by
  unfold given?
  rw [((composes_steady w).setting? (.refl w) name).given_eq]

theorem given?_loadPassword (w : Surroundings) (memory : Memory) (name : Text) :
    given? w (Settings.loadPassword w memory).state name = given? w memory name := by
  unfold given?
  rw [((composes_steady w).loadPassword (.refl w)).given_eq]

end Steady

/-- Settings are as they are given. The password is not among them: it may come from a secret. -/
structure AreGiven (w : Surroundings) (memory : Memory) (settings : Settings) : Prop where
  host : ∃ host, given? w memory "ELASTICSEARCH_HOST" = some host ∧
    settings.host = host.getD Settings.default.host
  bulkTimeout : ∃ timeout, given? w memory "ES_BULK_TIMEOUT" = some timeout ∧
    Duration.parse ((timeout.map Json.str).getD .null) Settings.default.bulkTimeout =
      .ok settings.bulkTimeout
  index : given? w memory "ES_INDEX" = some settings.index
  indexColumn : given? w memory "ES_INDEX_COLUMN" = some settings.indexColumn
  docIdColumn : given? w memory "ES_DOC_ID_COLUMN" = some settings.docIdColumn
  hiddenColumns : ∃ hidden, given? w memory "ES_BLACKLISTED_COLUMNS" = some hidden ∧
    settings.hiddenColumns = Settings.splitColumns (hidden.getD [])
  username : given? w memory "ELASTICSEARCH_USER" = some settings.username
  includeDocType : ∃ docType, given? w memory "ES_INCLUDE_DOC_TYPE" = some docType ∧
    settings.includeDocType = (docType.map Settings.isTrue).getD false

/-- Settings that were loaded are as they were given at the beginning. -/
theorem areGiven_of_load {w : Surroundings} {memory : Memory} {settings : Settings}
    (h : (Settings.load w memory).outcome = .ok settings) : AreGiven w memory settings := by
  unfold Settings.load at h
  -- The look-ups one by one, each with what it returned.
  obtain ⟨password, -, h⟩ := Act.outcome_bind_eq_ok_iff.mp h
  obtain ⟨host, hhost, h⟩ := Act.outcome_bind_eq_ok_iff.mp h
  obtain ⟨timeout, htimeout, h⟩ := Act.outcome_bind_eq_ok_iff.mp h
  obtain ⟨bulkTimeout, hbulk, h⟩ := Act.outcome_bind_eq_ok_iff.mp h
  obtain ⟨index, hindex, h⟩ := Act.outcome_bind_eq_ok_iff.mp h
  obtain ⟨indexColumn, hindexColumn, h⟩ := Act.outcome_bind_eq_ok_iff.mp h
  obtain ⟨docIdColumn, hdocIdColumn, h⟩ := Act.outcome_bind_eq_ok_iff.mp h
  obtain ⟨hidden, hhidden, h⟩ := Act.outcome_bind_eq_ok_iff.mp h
  obtain ⟨username, husername, h⟩ := Act.outcome_bind_eq_ok_iff.mp h
  obtain ⟨docType, hdocType, h⟩ := Act.outcome_bind_eq_ok_iff.mp h
  -- None of them changes what the others find.
  simp only [Act.ofExcept_apply, setting?_outcome_eq_ok_iff, given?_setting?, given?_loadPassword]
    at hhost htimeout hbulk hindex hindexColumn hdocIdColumn hhidden husername hdocType
  cases h
  exact ⟨⟨host, hhost, rfl⟩, ⟨timeout, htimeout, hbulk⟩, hindex, hindexColumn, hdocIdColumn,
    ⟨hidden, hhidden, rfl⟩, husername, ⟨docType, hdocType, rfl⟩⟩

end LookUp

end TopicSink
