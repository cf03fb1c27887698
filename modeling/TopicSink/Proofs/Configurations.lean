import Mathlib.Data.List.Induction
import TopicSink.Handler
import TopicSink.Proofs.Loading
import TopicSink.Proofs.Loggers
import TopicSink.Proofs.Resumption

/-!
Loggers that are configured over and over, while the settings change. A configuration either is
refused, because of what the setting of the level says, and then changes nothing about any logger;
or it gives the level that the setting asks for, and a handler unless there is one.
`configure_keeps_handler` says what that means for runs of configurations: the handler of a logger
is the one of its first configuration.
-/

namespace TopicSink

namespace LookUp

variable {w : Surroundings} {memory : Memory} {name parameterName : Text}

def parameterName? (w : Surroundings) (name : Text) : Option Text :=
  match w.environment.lookup name with
  | some _ => none
  | none => (path? w).map fun path => path ++ "/" ++ name

theorem parameterName?_eq_some_iff :
    parameterName? w name = some parameterName ↔
      w.environment.lookup name = none ∧
        ∃ path, path? w = some path ∧ path ++ "/" ++ name = parameterName := by
  unfold parameterName?
  cases w.environment.lookup name with
  | some value => simp
  | none => simp [Option.map_eq_some_iff]

theorem setting_of_parameterName (h : parameterName? w name = some parameterName) (decrypt : Bool) :
    setting w name decrypt = parameter w parameterName decrypt := by
  obtain ⟨hname, path, hpath, rfl⟩ := parameterName?_eq_some_iff.mp h
  unfold setting
  rw [hname, hpath]

theorem given_of_parameterName (h : parameterName? w name = some parameterName) (memory : Memory) :
    given w memory name = found w memory parameterName := by
  obtain ⟨hname, path, hpath, rfl⟩ := parameterName?_eq_some_iff.mp h
  unfold given
  rw [hname, hpath]

/-- A setting is given unless it is looked up as a parameter that the store fails to answer about.
-/
theorem exists_given? (h : ∀ parameterName, parameterName? w name = some parameterName →
    w.failing.lookup parameterName = none) (memory : Memory) :
    ∃ setting, given? w memory name = some setting := by
  suffices hgiven : ∃ value, given w memory name = some value by
    obtain ⟨value, hvalue⟩ := hgiven
    exact ⟨Text.nonempty? value, congrArg (Option.map Text.nonempty?) hvalue⟩
  unfold given
  cases hname : w.environment.lookup name with
  | some value => exact ⟨some value, rfl⟩
  | none =>
    cases hpath : path? w with
    | none => exact ⟨none, rfl⟩
    | some path =>
      have hanswered := h _ (parameterName?_eq_some_iff.mpr ⟨hname, path, hpath, rfl⟩)
      dsimp only
      unfold found parameterAnswer
      rw [hanswered]
      cases memory.parameters.lookup (path ++ "/" ++ name) <;> simp

theorem recalls_setting? (w : Surroundings) (name : Text) : Recalls w (setting? w name) :=
  (composes_recalls w).setting? (.refl w) name

/-- What a setting is given as by a parameter is remembered from then on. -/
theorem held_of_setting? {answer : Option Text} (h : parameterName? w name = some parameterName)
    (hfound : found w memory parameterName = some answer) :
    (setting? w name memory).state.parameters.lookup parameterName = some answer := by
  have hstate : (setting? w name memory).state = (parameter w parameterName false memory).state := by
    unfold setting?
    rw [Act.bind_pure_apply, setting_of_parameterName h]
  have houtcome : (parameter w parameterName false memory).outcome = .ok answer :=
    parameter_outcome_eq_ok_iff.mpr hfound
  rw [hstate]
  cases hl : memory.parameters.lookup parameterName with
  | some held =>
    rw [parameter_of_remembered hl] at houtcome ⊢
    exact hl.trans (congrArg some (Except.ok.inj houtcome))
  | none =>
    rw [parameter_of_forgotten hl] at houtcome ⊢
    exact (readParameter_outcome houtcome).2

end LookUp

namespace Logging

/-- The configuration of a logger by its name alone, and the surroundings that it finds. -/
structure Step where
  surroundings : Surroundings
  name : Text

namespace Step

def logger (step : Step) : Text := Registry.nameOf step.name

def report (step : Step) (s : Logging) : Report Logging Logger :=
  configure step.surroundings step.name "INFO" s

def setting? (step : Step) (s : Logging) (name : Text) : Option (Option Text) :=
  LookUp.given? step.surroundings s.memory name

/-- The store answers about the parameters that a configuration may look up. -/
def IsAnswered (step : Step) : Prop :=
  ∀ name ∈ (["LOG_LEVEL", "LOG_JSON"] : List Text), ∀ parameterName,
    LookUp.parameterName? step.surroundings name = some parameterName →
      step.surroundings.failing.lookup parameterName = none

end Step

def after (start : Logging) (steps : List Step) : Logging :=
  steps.foldl (fun s step => (step.report s).state) start

def Returns (start : Logging) (before : List Step) (step : Step) : Prop :=
  ∃ logger, (step.report (after start before)).outcome = .ok logger

def IsUnset (start : Logging) (steps : List Step) (n : Text) : Prop :=
  ∀ before step, before ++ [step] <+: steps → step.logger = n → ¬Returns start before step

/-- The first configuration of a logger in a run, those apart that do not return. -/
structure IsFirst (start : Logging) (steps : List Step) (n : Text) (before : List Step)
    (first : Step) : Prop where
  within : before ++ [first] <+: steps
  logger : first.logger = n
  returns : Returns start before first
  unset : IsUnset start before n

/-- The first configuration of a logger in a run asks for a handler in a form. -/
def FirstAsks (start : Logging) (steps : List Step) (n : Text) (form : LogForm) : Prop :=
  ∃ before first setting, IsFirst start steps n before first ∧
    first.setting? (after start before) "LOG_JSON" = some setting ∧ formOf setting = form

def IsUnchanged (s s' : Logging) (name : Text) : Prop :=
  (s'.registry.get name).level = (s.registry.get name).level ∧
    (s'.registry.get name).handlers = (s.registry.get name).handlers

section Configuration

variable {w : Surroundings} {s : Logging} {setting form : Option Text}

theorem lookUp_setting? {name : Text} {memory : Memory}
    (h : LookUp.given? w memory name = some setting) (r : Registry) :
    ∃ calls logs, lookUp (LookUp.setting? w name) ⟨memory, r⟩ =
      ⟨.ok setting, ⟨(LookUp.setting? w name memory).state, r⟩, calls, logs⟩ := by
  refine ⟨(LookUp.setting? w name memory).calls, (LookUp.setting? w name memory).logs, ?_⟩
  rw [← LookUp.setting?_outcome_eq_ok_iff.mpr h]
  rfl

theorem configure_of_refused (name : Text) {level : Text} {fault : Fault}
    (hgiven : LookUp.given? w s.memory "LOG_LEVEL" = some setting)
    (hrefused : Level.ofSetting (setting.getD level) = .error fault) :
    ∃ calls logs, configure w name level s =
      ⟨.error fault, ⟨(LookUp.setting? w "LOG_LEVEL" s.memory).state,
        Registry.touch (Registry.nameOf name) s.registry⟩, calls, logs⟩ := by
  obtain ⟨calls, logs, hlook⟩ :=
    lookUp_setting? hgiven (Registry.touch (Registry.nameOf name) s.registry)
  refine ⟨calls, logs, ?_⟩
  unfold configure change
  rw [Act.bind_of_ok (Act.update_apply _ s), Act.bind_of_ok hlook, hrefused]
  simp [Act.bind_apply]

/-- The handler does not load where the setting of the level is refused. -/
theorem load_of_refused {t : Text} {fault : Fault}
    (hgiven : LookUp.given? w s.memory "LOG_LEVEL" = some (some t))
    (hrefused : Level.IsRefused t fault) : (Handler.load w s).outcome = .error fault := by
  obtain ⟨calls, logs, hconfigure⟩ := configure_of_refused Handler.logger hgiven
    (Level.ofSetting_eq_error_iff.mpr hrefused)
  unfold Handler.load
  rw [Act.bind_of_error hconfigure]

/-- A configuration that asks for a level leaves the logger with it, and touches nothing else of the
registry. -/
theorem configure_of_asked (name : Text) {level : Text} {i : Int}
    (hgiven : LookUp.given? w s.memory "LOG_LEVEL" = some setting)
    (hasked : Level.ofSetting (setting.getD level) = .ok i)
    (hform : LookUp.given? w s.memory "LOG_JSON" = some form) :
    let registry := Registry.settle (Registry.nameOf name) i (formOf form) s.registry
    let memory := (LookUp.setting? w "LOG_LEVEL" s.memory).state
    ∃ calls logs, configure w name level s =
      ⟨.ok (registry.get (Registry.nameOf name)),
        ⟨(LookUp.setting? w "LOG_JSON" memory).state, registry⟩, calls, logs⟩ := by
  intro registry memory
  obtain ⟨calls, logs, hlook⟩ :=
    lookUp_setting? hgiven (Registry.touch (Registry.nameOf name) s.registry)
  have hform' : LookUp.given? w memory "LOG_JSON" = some form := by
    rw [LookUp.given?_setting?]
    exact hform
  -- The registry between the two look-ups has the logger and its level, but not yet the handler.
  obtain ⟨calls', logs', hlook'⟩ := lookUp_setting? hform'
    (Registry.setLevel (Registry.nameOf name) i (Registry.touch (Registry.nameOf name) s.registry))
  refine ⟨calls ++ calls', logs ++ logs', ?_⟩
  unfold configure change
  rw [Act.bind_of_ok (Act.update_apply _ s), Act.bind_of_ok hlook, hasked]
  rw [Act.bind_of_ok (Act.ofExcept_apply _ _), Act.bind_of_ok (Act.update_apply _ _),
    Act.bind_of_ok hlook']
  simp [Act.bind_apply, registry, memory, Registry.settle]

end Configuration

section Steps

variable {s : Logging} {step : Step} {setting form : Option Text}

theorem Step.IsAnswered.exists_settings (h : step.IsAnswered) (s : Logging) :
    ∃ setting form,
      step.setting? s "LOG_LEVEL" = some setting ∧ step.setting? s "LOG_JSON" = some form := by
  have hgiven : ∀ name ∈ (["LOG_LEVEL", "LOG_JSON"] : List Text),
      ∃ value, step.setting? s name = some value :=
    fun name hname => LookUp.exists_given? (h name hname) s.memory
  obtain ⟨setting, hsetting⟩ := hgiven _ List.mem_cons_self
  obtain ⟨form, hform⟩ := hgiven _ (List.mem_cons_of_mem _ List.mem_cons_self)
  exact ⟨setting, form, hsetting, hform⟩

/-- What one configuration does where both of its settings are given: it is refused and changes no
logger, or it returns the logger with the level that is asked for. The look-up of that is
remembered. -/
theorem report_cases (hsetting : step.setting? s "LOG_LEVEL" = some setting)
    (hform : step.setting? s "LOG_JSON" = some form) :
    let r := step.report s
    (LookUp.setting? step.surroundings "LOG_LEVEL" s.memory).state.Within r.state.memory ∧
      ((∃ t fault, setting = some t ∧ Level.IsRefused t fault ∧
          r.outcome = .error fault ∧ ∀ n, IsUnchanged s r.state n) ∨
        (∀ t fault, setting = some t → ¬Level.IsRefused t fault) ∧
          ∃ level, Level.Asks setting level ∧
            r.outcome = .ok (r.state.registry.get step.logger) ∧
            r.state.registry = Registry.settle step.logger level (formOf form) s.registry) := by
  intro r
  rcases Level.ofSetting_getD setting with
    ⟨t, fault, ht, hrefused, hlevel⟩ | ⟨hnone, level, hasks, hlevel⟩
  · obtain ⟨calls, logs, hr⟩ := configure_of_refused step.name hsetting hlevel
    have hr' : r = _ := hr
    rw [hr']
    exact ⟨.refl _, .inl ⟨t, fault, ht, hrefused, rfl, Registry.get_touch _ s.registry⟩⟩
  · obtain ⟨calls, logs, hr⟩ := configure_of_asked step.name hsetting hlevel hform
    have hr' : r = _ := hr
    rw [hr']
    exact ⟨(LookUp.recalls_setting? step.surroundings "LOG_JSON" _).within,
      .inr ⟨hnone, level, hasks, rfl, rfl⟩⟩

/-- A configuration fails just on the words that are refused, and as they are refused. -/
theorem outcome_report_eq_error_iff (hsetting : step.setting? s "LOG_LEVEL" = some setting)
    (hanswered : step.IsAnswered) (fault : Fault) :
    (step.report s).outcome = .error fault ↔ ∃ t, setting = some t ∧ Level.IsRefused t fault := by
  obtain ⟨-, form, -, hform⟩ := hanswered.exists_settings s
  obtain ⟨-, ⟨t, actual, rfl, hrefused, houtcome, -⟩ | ⟨hnever, level, -, houtcome, -⟩⟩ :=
    report_cases hsetting hform
  · rw [houtcome]
    constructor
    · rintro ⟨⟩
      exact ⟨t, rfl, hrefused⟩
    · rintro ⟨t', ht', hrefused'⟩
      cases ht'
      rw [hrefused.unique hrefused']
  · rw [houtcome]
    constructor
    · rintro ⟨⟩
    · rintro ⟨t, ht, hrefused⟩
      exact absurd hrefused (hnever t fault ht)

theorem report_of_refused (s : Logging) {t : Text} {fault : Fault}
    (hsetting : step.setting? s "LOG_LEVEL" = some (some t)) (hanswered : step.IsAnswered)
    (hrefused : Level.IsRefused t fault) : (step.report s).outcome = .error fault :=
  (outcome_report_eq_error_iff hsetting hanswered fault).mpr ⟨t, rfl, hrefused⟩

theorem asks_of_report {logger : Logger} (hsetting : step.setting? s "LOG_LEVEL" = some setting)
    (hanswered : step.IsAnswered) (h : (step.report s).outcome = .ok logger) :
    logger = (step.report s).state.registry.get step.logger ∧ Level.Asks setting logger.level := by
  obtain ⟨-, form, -, hform⟩ := hanswered.exists_settings s
  obtain ⟨-, ⟨t, fault, -, -, houtcome, -⟩ | ⟨-, level, hasks, houtcome, hregistry⟩⟩ :=
    report_cases hsetting hform
  · rw [houtcome] at h
    cases h
  · have hlogger : logger = (step.report s).state.registry.get step.logger :=
      Except.ok.inj (h.symm.trans houtcome)
    have hlevel := (Registry.get_settle step.logger level (formOf form) s.registry step.logger).1
    refine ⟨hlogger, ?_⟩
    rw [hlogger, hregistry, hlevel, if_pos rfl]
    exact hasks

/-- A configuration changes no logger but its own, and where it is refused not even that. -/
theorem isUnchanged_report {n : Text} (hanswered : step.IsAnswered)
    (h : n ≠ step.logger ∨ ∃ fault, (step.report s).outcome = .error fault) :
    IsUnchanged s (step.report s).state n := by
  obtain ⟨setting, form, hsetting, hform⟩ := hanswered.exists_settings s
  obtain ⟨-, ⟨t, fault, -, -, -, hsame⟩ | ⟨-, level, -, houtcome, hregistry⟩⟩ :=
    report_cases hsetting hform
  · exact hsame n
  · have hn : step.logger ≠ n := by
      rcases h with hn | ⟨fault, hfault⟩
      · exact hn.symm
      · rw [houtcome] at hfault
        cases hfault
    have hget := Registry.get_settle step.logger level (formOf form) s.registry n
    rw [if_neg hn, if_neg fun hfirst => hn hfirst.1] at hget
    unfold IsUnchanged
    rw [hregistry]
    exact hget

/-- Handlers that are there stay, whatever is asked for. -/
theorem handlers_of_held {n : Text} (hanswered : step.IsAnswered)
    (hheld : (s.registry.get n).handlers ≠ []) :
    ((step.report s).state.registry.get n).handlers = (s.registry.get n).handlers := by
  obtain ⟨setting, form, hsetting, hform⟩ := hanswered.exists_settings s
  obtain ⟨-, ⟨t, fault, -, -, -, hsame⟩ | ⟨-, level, -, -, hregistry⟩⟩ :=
    report_cases hsetting hform
  · exact (hsame n).2
  · have hhandlers := (Registry.get_settle step.logger level (formOf form) s.registry n).2
    rw [hregistry, hhandlers, if_neg]
    exact fun hfirst => hheld hfirst.2

/-- A configuration that returns gives its logger a handler if there was none. -/
theorem handlers_of_bare {logger : Logger} (hanswered : step.IsAnswered)
    (h : (step.report s).outcome = .ok logger)
    (hbare : (s.registry.get step.logger).handlers = []) :
    ∃ form, step.setting? s "LOG_JSON" = some form ∧
      ((step.report s).state.registry.get step.logger).handlers = [formOf form] := by
  obtain ⟨setting, form, hsetting, hform⟩ := hanswered.exists_settings s
  obtain ⟨-, ⟨t, fault, -, -, houtcome, -⟩ | ⟨-, level, -, houtcome, hregistry⟩⟩ :=
    report_cases hsetting hform
  · rw [houtcome] at h
    cases h
  · have hhandlers :=
      (Registry.get_settle step.logger level (formOf form) s.registry step.logger).2
    refine ⟨form, hform, ?_⟩
    rw [hregistry, hhandlers]
    exact if_pos ⟨rfl, hbare⟩

end Steps

section Runs

variable {start : Logging} {steps : List Step} {n : Text}

theorem after_append (start : Logging) (steps steps' : List Step) :
    after start (steps ++ steps') = after (after start steps) steps' :=
  List.foldl_append

theorem after_concat (start : Logging) (steps : List Step) (step : Step) :
    after start (steps ++ [step]) = (step.report (after start steps)).state :=
  after_append start steps [step]

theorem within_after (start : Logging) (hanswered : ∀ step ∈ steps, step.IsAnswered) :
    start.memory.Within (after start steps).memory := by
  induction steps generalizing start with
  | nil => exact .refl _
  | cons step steps ih =>
    have hstep := hanswered step List.mem_cons_self
    obtain ⟨setting, form, hsetting, hform⟩ := hstep.exists_settings start
    have hreport := (report_cases hsetting hform).1
    have hlevel := (LookUp.recalls_setting? step.surroundings "LOG_LEVEL" start.memory).within
    have hrest := ih (step.report start).state fun t ht => hanswered t (List.mem_cons_of_mem _ ht)
    exact (hlevel.trans hreport).trans hrest

theorem IsUnset.concat {step : Step} (h : IsUnset start steps n)
    (hstep : step.logger = n → ¬Returns start steps step) : IsUnset start (steps ++ [step]) n := by
  intro before t hprefix ht
  rcases List.prefix_concat_iff.mp hprefix with heq | hprefix
  · obtain ⟨rfl, rfl⟩ : before = steps ∧ t = step := by simpa using heq
    exact hstep ht
  · exact h before t hprefix ht

theorem IsFirst.length_le {before before' : List Step} {first first' : Step}
    (h : IsFirst start steps n before first) (h' : IsFirst start steps n before' first') :
    before.length ≤ before'.length := by
  by_contra hlonger
  have hbefore : before <+: steps := (List.prefix_append before [first]).trans h.within
  have hprefix : before' ++ [first'] <+: before := by
    apply List.prefix_of_prefix_length_le h'.within hbefore
    rw [List.length_append, List.length_singleton]
    omega
  exact h.unset before' first' hprefix h'.logger h'.returns

theorem IsFirst.unique {before before' : List Step} {first first' : Step}
    (h : IsFirst start steps n before first) (h' : IsFirst start steps n before' first') :
    before = before' ∧ first = first' := by
  have hlength : before.length = before'.length :=
    Nat.le_antisymm (h.length_le h') (h'.length_le h)
  have hlength' : (before ++ [first]).length = (before' ++ [first']).length := by
    rw [List.length_append, List.length_append, hlength, List.length_singleton,
      List.length_singleton]
  have heq : before ++ [first] = before' ++ [first'] :=
    (List.prefix_of_prefix_length_le h.within h'.within (Nat.le_of_eq hlength')).eq_of_length
      hlength'
  obtain ⟨hbefore, hfirst⟩ := List.append_inj heq hlength
  exact ⟨hbefore, List.singleton_inj.mp hfirst⟩

/-- There is one such form at most. -/
theorem FirstAsks.unique {form form' : LogForm} (h : FirstAsks start steps n form)
    (h' : FirstAsks start steps n form') : form = form' := by
  obtain ⟨before, first, setting, hfirst, hsetting, rfl⟩ := h
  obtain ⟨before', first', setting', hfirst', hsetting', rfl⟩ := h'
  obtain ⟨rfl, rfl⟩ := hfirst.unique hfirst'
  rw [Option.some.inj (hsetting.symm.trans hsetting')]

theorem FirstAsks.append {form : LogForm} (h : FirstAsks start steps n form) (rest : List Step) :
    FirstAsks start (steps ++ rest) n form := by
  obtain ⟨before, first, setting, hfirst, hsetting, hform⟩ := h
  have hwithin : before ++ [first] <+: steps ++ rest :=
    hfirst.within.trans (List.prefix_append steps rest)
  exact ⟨before, first, setting, ⟨hwithin, hfirst.logger, hfirst.returns, hfirst.unset⟩, hsetting,
    hform⟩

/-- Behind every run, a logger without handlers at the start has none while no configuration of it
has returned, and then the one that the first of these asked for. -/
theorem handlers_after (hanswered : ∀ step ∈ steps, step.IsAnswered)
    (hnone : (start.registry.get n).handlers = []) :
    IsUnset start steps n ∧ ((after start steps).registry.get n).handlers = [] ∨
      ∃ form, FirstAsks start steps n form ∧
        ((after start steps).registry.get n).handlers = [form] := by
  -- By induction on the last configuration, which finds the handlers that those before it left.
  induction steps using List.reverseRecOn with
  | nil =>
    refine .inl ⟨fun before step hprefix => ?_, hnone⟩
    simp at hprefix
  | append_singleton steps step ih =>
    have hstep : step.IsAnswered := hanswered step (by simp)
    rw [after_concat]
    rcases ih fun t ht => hanswered t (List.mem_append_left _ ht) with
      ⟨hunset, hbare⟩ | ⟨form, hfirst, hheld⟩
    · by_cases hown : step.logger = n ∧ Returns start steps step
      · obtain ⟨rfl, logger, hlogger⟩ := hown
        obtain ⟨setting, hsetting, hhandlers⟩ := handlers_of_bare hstep hlogger hbare
        have hfirst : IsFirst start (steps ++ [step]) step.logger steps step :=
          ⟨List.prefix_rfl, rfl, ⟨logger, hlogger⟩, hunset⟩
        exact .inr ⟨formOf setting, ⟨steps, step, setting, hfirst, hsetting, rfl⟩, hhandlers⟩
      · -- It is the configuration of another logger, or one that does not return.
        have hsame : IsUnchanged (after start steps) (step.report (after start steps)).state n := by
          apply isUnchanged_report hstep
          cases houtcome : (step.report (after start steps)).outcome with
          | error fault => exact .inr ⟨fault, rfl⟩
          | ok logger => exact .inl fun hn => hown ⟨hn.symm, logger, houtcome⟩
        exact .inl ⟨hunset.concat fun hn hreturns => hown ⟨hn, hreturns⟩, hsame.2.trans hbare⟩
    · have hsame := handlers_of_held hstep (hheld.trans_ne (List.cons_ne_nil form []))
      exact .inr ⟨form, hfirst.append [step], hsame.trans hheld⟩

theorem returns_iff {step : Step} {setting : Option Text}
    (hsetting : step.setting? (after start steps) "LOG_LEVEL" = some setting)
    (hanswered : step.IsAnswered) :
    Returns start steps step ↔ ∀ t fault, setting = some t → ¬Level.IsRefused t fault := by
  have herror := outcome_report_eq_error_iff hsetting hanswered
  unfold Returns
  cases houtcome : (step.report (after start steps)).outcome with
  | error fault =>
    obtain ⟨t, ht, hrefused⟩ := (herror fault).mp houtcome
    exact iff_of_false (by simp) fun hnever => hnever t fault ht hrefused
  | ok logger =>
    refine iff_of_true ⟨logger, rfl⟩ fun t fault ht hrefused => ?_
    have hfault := (herror fault).mpr ⟨t, ht, hrefused⟩
    rw [houtcome] at hfault
    cases hfault

/-- The level that was looked up as a parameter stays as it was found, whatever the store holds
later. -/
theorem setting?_after {earlier before : List Step} {step t : Step} {parameterName : Text}
    (hanswered : ∀ t ∈ earlier, t.IsAnswered) (hbefore : before ++ [t] <+: earlier)
    (ht : LookUp.parameterName? t.surroundings "LOG_LEVEL" = some parameterName)
    (hstep : LookUp.parameterName? step.surroundings "LOG_LEVEL" = some parameterName) :
    step.setting? (after start earlier) "LOG_LEVEL" = t.setting? (after start before) "LOG_LEVEL" := by
  obtain ⟨rest, rfl⟩ := hbefore
  have hasked : t.IsAnswered := hanswered t (by simp)
  obtain ⟨setting, form, hsetting, hform⟩ := hasked.exists_settings (after start before)
  have hreport := (report_cases hsetting hform).1
  have hlater : (t.report (after start before)).state.memory.Within
      (after start (before ++ [t] ++ rest)).memory := by
    rw [after_append, after_concat]
    exact within_after _ fun u hu => hanswered u (List.mem_append_right _ hu)
  -- What was found is held by the memory that the later configuration begins with.
  unfold Step.setting? LookUp.given? at hsetting ⊢
  rw [LookUp.given_of_parameterName ht] at hsetting ⊢
  rw [LookUp.given_of_parameterName hstep]
  obtain ⟨answer, hanswer, -⟩ := Option.map_eq_some_iff.mp hsetting
  have hheld := (hreport.trans hlater).parameters _ _ (LookUp.held_of_setting? ht hanswer)
  rw [hanswer, LookUp.found, hheld, Option.some_or]

/-- Configuring loggers over and over, whatever the settings are and become. A configuration is
refused just where the setting of the level is one of two words, in either case of its letters, and
then no logger changes. Otherwise it returns its logger with the level that the setting asks for and
a single handler, in the form that the first of its configurations asked for; other loggers do not
change, and no handler that is there is lost, replaced or joined by another one. A level that is
looked up as a parameter is the one that was found first. -/
theorem configure_keeps_handler (start : Logging) (earlier : List Step) (step : Step)
    (hanswered : ∀ t ∈ earlier ++ [step], t.IsAnswered)
    (hnone : (start.registry.get step.logger).handlers = []) :
    let s := after start earlier
    let r := step.report s
    ∃ setting, step.setting? s "LOG_LEVEL" = some setting ∧
      (Returns start earlier step ↔ ∀ t fault, setting = some t → ¬Level.IsRefused t fault) ∧
      (∀ fault, r.outcome = .error fault ↔ ∃ t, setting = some t ∧ Level.IsRefused t fault) ∧
      (∀ logger, r.outcome = .ok logger →
        logger = r.state.registry.get step.logger ∧ Level.Asks setting logger.level ∧
          ∃ form, FirstAsks start (earlier ++ [step]) step.logger form ∧ logger.handlers = [form]) ∧
      (∀ n, n ≠ step.logger ∨ (∃ fault, r.outcome = .error fault) → IsUnchanged s r.state n) ∧
      (∀ n, (s.registry.get n).handlers ≠ [] →
        (r.state.registry.get n).handlers = (s.registry.get n).handlers) ∧
      ∀ before t parameterName, before ++ [t] <+: earlier →
        LookUp.parameterName? t.surroundings "LOG_LEVEL" = some parameterName →
        LookUp.parameterName? step.surroundings "LOG_LEVEL" = some parameterName →
          t.setting? (after start before) "LOG_LEVEL" = some setting := by
  intro s r
  have hstep : step.IsAnswered := hanswered step (by simp)
  have hearlier : ∀ t ∈ earlier, t.IsAnswered := fun t ht => hanswered t (List.mem_append_left _ ht)
  obtain ⟨setting, form, hsetting, -⟩ := hstep.exists_settings s
  refine ⟨setting, hsetting, returns_iff hsetting hstep,
    outcome_report_eq_error_iff hsetting hstep, fun logger hlogger => ?_,
    fun n => isUnchanged_report hstep, fun n => handlers_of_held hstep, ?_⟩
  · obtain ⟨hget, hasks⟩ := asks_of_report hsetting hstep hlogger
    refine ⟨hget, hasks, ?_⟩
    rcases handlers_after hanswered hnone with ⟨hunset, -⟩ | ⟨form, hfirst, hheld⟩
    · exact absurd ⟨logger, hlogger⟩ (hunset earlier step List.prefix_rfl rfl)
    · rw [after_concat] at hheld
      exact ⟨form, hfirst, by rw [hget, hheld]⟩
  · intro before t parameterName hbefore ht hname
    exact (setting?_after hearlier hbefore ht hname).symm.trans hsetting

def Step.inEnvironment (environment : List (Text × Text)) : Step :=
  ⟨⟨environment, [], [], []⟩, "app.sink"⟩

theorem Step.isAnswered_inEnvironment (environment : List (Text × Text)) :
    (inEnvironment environment).IsAnswered := fun _ _ _ _ => rfl

/-- A logger that was first configured for JSON, and is configured otherwise later, with a refusal
in between. -/
theorem configure_keeps_handler_switched :
    let earlier : List Step :=
      [.inEnvironment [("LOG_LEVEL", "Debug"), ("LOG_JSON", "TRUE")],
        .inEnvironment [("LOG_LEVEL", "_styles")]]
    let step := Step.inEnvironment [("LOG_LEVEL", "warn"), ("LOG_JSON", "no")]
    ∃ logger, (step.report (after Logging.initial earlier)).outcome = .ok logger ∧
      logger.level = 30 ∧ logger.handlers = [.json] := by
  intro earlier step
  have hanswered : ∀ t ∈ earlier ++ [step], t.IsAnswered := by
    simp [earlier, step, Step.isAnswered_inEnvironment]
  have hjson : FirstAsks Logging.initial (earlier ++ [step]) step.logger .json := by
    refine ⟨[], _, some (Text.ofString "TRUE"), ⟨⟨_, rfl⟩, rfl, ⟨_, rfl⟩, ?_⟩, rfl, rfl⟩
    intro before t hprefix
    simp at hprefix
  obtain ⟨setting, hsetting, hreturns, -, hlogger, -⟩ :=
    configure_keeps_handler Logging.initial earlier step hanswered rfl
  have hwarn : setting = some (Text.ofString "warn") := (Option.some.inj hsetting).symm
  have hnever : ∀ t fault, setting = some t → ¬Level.IsRefused t fault := by
    rintro t fault ht hrefused
    rw [hwarn] at ht
    cases ht
    rw [← Level.ofSetting_eq_error_iff] at hrefused
    cases hrefused
  obtain ⟨logger, houtcome⟩ := hreturns.mpr hnever
  obtain ⟨-, hasks, form, hform, hhandlers⟩ := hlogger logger houtcome
  refine ⟨logger, houtcome, ?_, ?_⟩
  · rw [hwarn, Level.asks_iff] at hasks
    exact hasks.symm
  · rw [hhandlers, hform.unique hjson]

/-- Two words that name no level do not fall back on the usual one either. -/
theorem configure_without_logger :
    (¬∀ (start : Logging) (earlier : List Step) (step : Step),
      (∀ t ∈ earlier ++ [step], t.IsAnswered) →
      (start.registry.get step.logger).handlers = [] →
        ∃ logger, (step.report (after start earlier)).outcome = .ok logger) ∧
    ((Step.inEnvironment [("LOG_LEVEL", "basic_format")]).report Logging.initial).outcome =
      .error (.unknownLevel "%(levelname)s:%(name)s:%(message)s") ∧
    ((Step.inEnvironment [("LOG_LEVEL", "_styles")]).report Logging.initial).outcome =
      .error .wrongType ∧
    (Handler.load ⟨[("LOG_LEVEL", "_styles")], [], [], []⟩ Logging.initial).outcome =
      .error .wrongType := by
  have hpattern : Level.IsRefused "basic_format" _ := .pattern (by decide)
  have hstyles : Level.IsRefused "_styles" _ := .styles (by decide)
  have hanswered := fun word : Text => Step.isAnswered_inEnvironment [("LOG_LEVEL", word)]
  have hraised := report_of_refused initial rfl (hanswered "basic_format") hpattern
  refine ⟨fun h => ?_, hraised, report_of_refused initial rfl (hanswered "_styles") hstyles,
    load_of_refused rfl hstyles⟩
  obtain ⟨logger, hlogger⟩ := h Logging.initial [] (.inEnvironment [("LOG_LEVEL", "basic_format")])
    (List.forall_mem_singleton.mpr (hanswered "basic_format")) rfl
  rw [after, List.foldl_nil, hraised] at hlogger
  cases hlogger

end Runs

end Logging

end TopicSink
