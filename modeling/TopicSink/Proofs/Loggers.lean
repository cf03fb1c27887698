import Mathlib.Tactic.SplitIfs
import TopicSink.Log.Registry
import TopicSink.Proofs.Recollections

namespace TopicSink

def Text.IsAlike (t u : Text) : Prop := t.upper = u.upper

instance (t u : Text) : Decidable (t.IsAlike u) := inferInstanceAs (Decidable (t.upper = u.upper))

namespace Level

/-- A text names a level in upper case, in lower case or in both. -/
def IsNamed (t : Text) (level : Int) : Prop :=
  ∃ e ∈ standard, t.IsAlike (Text.ofString e.1) ∧ e.2 = level

/-- The level that a setting asks for: the one that it names, and where it names none or is absent
the one of `INFO`. -/
inductive Asks : Option Text → Int → Prop where
  | named {t : Text} {level : Int} : IsNamed t level → Asks (some t) level
  | unnamed {t : Text} {level : Int} :
    (∀ other, ¬IsNamed t other) → IsNamed "INFO" level → Asks (some t) level
  | absent {level : Int} : IsNamed "INFO" level → Asks none level

/-- The words that are refused, and how. -/
inductive IsRefused (t : Text) : Fault → Prop where
  | pattern : t.IsAlike "BASIC_FORMAT" →
    IsRefused t (.unknownLevel "%(levelname)s:%(name)s:%(message)s")
  | styles : t.IsAlike "_STYLES" → IsRefused t .wrongType

section Settings

variable {t : Text} {level : Int} {fault : Fault}

theorem upper_standard : ∀ e ∈ standard, (Text.ofString e.1).upper = Text.ofString e.1 := by
  decide

theorem standard?_of_mem : ∀ e ∈ standard, standard? (Text.ofString e.1) = some e.2 := by
  decide

theorem isNamed_iff : IsNamed t level ↔ standard? t.upper = some level := by
  constructor
  · rintro ⟨e, he, halike, rfl⟩
    have hupper : t.upper = Text.ofString e.1 := halike.trans (upper_standard e he)
    rw [hupper, standard?_of_mem e he]
  · intro h
    obtain ⟨e, he, rfl⟩ := Option.map_eq_some_iff.mp h
    have hmem := List.mem_of_find?_eq_some he
    have hname : Text.ofString e.1 = t.upper := by simpa using List.find?_some he
    exact ⟨e, hmem, hname.symm.trans (upper_standard e hmem).symm, rfl⟩

theorem isNamed_info_iff : IsNamed "INFO" level ↔ level = usual := by
  have hinfo : standard? (Text.upper "INFO") = some usual := by decide
  rw [isNamed_iff, hinfo, Option.some.injEq]
  exact eq_comm

/-- The level that a text asks for, by looking its upper case up among the standard names. -/
theorem asks_iff : Asks (some t) level ↔ (standard? t.upper).getD usual = level := by
  constructor
  · rintro (hnamed | ⟨hnone, hinfo⟩)
    · rw [isNamed_iff.mp hnamed, Option.getD_some]
    · have hname : standard? t.upper = none :=
        Option.eq_none_iff_forall_ne_some.mpr fun other h => hnone other (isNamed_iff.mpr h)
      rw [hname, Option.getD_none, isNamed_info_iff.mp hinfo]
  · intro h
    cases hname : standard? t.upper with
    | some named =>
      rw [hname, Option.getD_some] at h
      exact .named (isNamed_iff.mpr (hname.trans (congrArg some h)))
    | none =>
      rw [hname, Option.getD_none] at h
      refine .unnamed (fun other hother => ?_) (isNamed_info_iff.mpr h.symm)
      rw [isNamed_iff, hname] at hother
      cases hother

theorem isRefused_iff :
    IsRefused t fault ↔
      t.upper = "BASIC_FORMAT" ∧ fault = .unknownLevel "%(levelname)s:%(name)s:%(message)s" ∨
      t.upper = "_STYLES" ∧ fault = .wrongType := by
  have hpattern : Text.upper "BASIC_FORMAT" = "BASIC_FORMAT" := by decide
  have hstyles : Text.upper "_STYLES" = "_STYLES" := by decide
  constructor
  · rintro (h | h)
    · exact .inl ⟨h.trans hpattern, rfl⟩
    · exact .inr ⟨h.trans hstyles, rfl⟩
  · rintro (⟨h, rfl⟩ | ⟨h, rfl⟩)
    · exact .pattern (h.trans hpattern.symm)
    · exact .styles (h.trans hstyles.symm)

theorem ofSetting_eq_error_iff : ofSetting t = .error fault ↔ IsRefused t fault := by
  have hwords : ("_STYLES" : Text) ≠ "BASIC_FORMAT" := by decide
  rw [isRefused_iff]
  unfold ofSetting
  dsimp only
  split_ifs with hpattern hstyles
  · simp [hpattern, hwords.symm, eq_comm]
  · simp [hstyles, hwords, eq_comm]
  · simp [hpattern, hstyles]

theorem IsRefused.unique {other : Fault} (h : IsRefused t fault) (h' : IsRefused t other) :
    fault = other := by
  rw [← ofSetting_eq_error_iff] at h h'
  exact Except.error.inj (h.symm.trans h')

theorem ofSetting_eq_ok_iff :
    ofSetting t = .ok level ↔ (∀ fault, ¬IsRefused t fault) ∧ Asks (some t) level := by
  simp only [← ofSetting_eq_error_iff, asks_iff]
  unfold ofSetting
  dsimp only
  split_ifs <;> simp

/-- What comes of a setting, with the usual name in the place of an absent one. -/
theorem ofSetting_getD (setting : Option Text) :
    (∃ t fault, setting = some t ∧ IsRefused t fault ∧
      ofSetting (setting.getD "INFO") = .error fault) ∨
    (∀ t fault, setting = some t → ¬IsRefused t fault) ∧
      ∃ level, Asks setting level ∧ ofSetting (setting.getD "INFO") = .ok level := by
  cases setting with
  | none =>
    have hinfo : ofSetting "INFO" = .ok usual := rfl
    refine .inr ⟨fun t fault h => ?_, usual, .absent (isNamed_info_iff.mpr rfl), hinfo⟩
    cases h
  | some t =>
    rw [Option.getD_some]
    cases h : ofSetting t with
    | error fault => exact .inl ⟨t, fault, rfl, ofSetting_eq_error_iff.mp h, rfl⟩
    | ok level =>
      obtain ⟨htaken, hasks⟩ := ofSetting_eq_ok_iff.mp h
      refine .inr ⟨fun t' fault ht => ?_, level, hasks, rfl⟩
      cases ht
      exact htaken fault

end Settings

end Level

namespace Registry

theorem lookup_put (name : Text) (logger : Logger) (r : Registry) (n : Text) :
    (put name logger r).lookup n = if name = n then some logger else r.lookup n := by
  induction r with
  | nil => rw [put, LookUp.lookup_cons_eq]
  | cons e r ih =>
    obtain ⟨key, held⟩ := e
    unfold put
    by_cases hkey : key = name
    · subst hkey
      rw [if_pos rfl, LookUp.lookup_cons_eq, LookUp.lookup_cons_eq]
      split_ifs <;> rfl
    -- A name cannot be that of the entry passed over and the one that is put.
    · rw [if_neg hkey, LookUp.lookup_cons_eq, LookUp.lookup_cons_eq, ih]
      split_ifs with hn hname
      · exact absurd (hn.trans hname.symm) hkey
      all_goals rfl

theorem get_put (name : Text) (logger : Logger) (r : Registry) (n : Text) :
    (put name logger r).get n = if name = n then logger else r.get n := by
  unfold get
  rw [lookup_put]
  split_ifs <;> rfl

/-- A change of every logger that leaves them under their names. -/
theorem lookup_map (f : Text × Logger → Logger) (r : Registry) (n : Text) :
    List.lookup n (r.map fun e => (e.1, f e)) = (r.lookup n).map fun logger => f (n, logger) := by
  induction r with
  | nil => rfl
  | cons e r ih =>
    rw [List.map_cons, LookUp.lookup_cons_eq, LookUp.lookup_cons_eq, ih]
    by_cases h : e.1 = n
    · subst h
      simp
    · simp [h]

theorem adopt_eq (name : Text) (e : Text × Logger) :
    adopt name e = (e.1, { e.2 with parent := (adopt name e).2.parent }) := by
  unfold adopt
  dsimp only
  split_ifs <;> rfl

/-- The logger that comes to be has no level and no handler, as one that is not there has none, and
the others are put below it at most. -/
theorem get_touch (name : Text) (r : Registry) (n : Text) :
    ((touch name r).get n).level = (r.get n).level ∧
      ((touch name r).get n).handlers = (r.get n).handlers := by
  unfold touch
  split_ifs with hname
  · exact ⟨rfl, rfl⟩
  -- Whom the new logger adopts changes its parent and nothing else.
  · have hadopt : r.map (adopt name) =
        r.map fun e => (e.1, { e.2 with parent := (adopt name e).2.parent }) :=
      List.map_congr_left fun e _ => adopt_eq name e
    unfold get
    rw [List.lookup_append, hadopt, lookup_map, LookUp.lookup_cons_eq]
    cases r.lookup n with
    | some logger => exact ⟨rfl, rfl⟩
    | none => by_cases hn : name = n <;> simp [hn]

theorem get_setLevel (name : Text) (level : Int) (r : Registry) (n : Text) :
    ((setLevel name level r).get n).level = (if name = n then level else (r.get n).level) ∧
      ((setLevel name level r).get n).handlers = (r.get n).handlers := by
  have hget : (setLevel name level r).get n =
      { (put name { r.get name with level } r).get n with verdicts := [] } := by
    unfold setLevel get
    rw [lookup_map fun e => { e.2 with verdicts := [] }]
    cases (put name _ r).lookup n <;> rfl
  rw [hget, get_put]
  by_cases hn : name = n <;> simp [hn]

/-- A handler is given to one logger, and only where it has none. -/
theorem get_addHandler (name : Text) (form : LogForm) (r : Registry) (n : Text) :
    ((addHandler name form r).get n).level = (r.get n).level ∧
      ((addHandler name form r).get n).handlers =
        if name = n ∧ (r.get n).handlers = [] then [form] else (r.get n).handlers := by
  unfold addHandler
  simp only [List.isEmpty_iff]
  by_cases hnone : (r.get name).handlers = []
  · rw [if_pos hnone, get_put]
    by_cases hn : name = n
    · subst hn
      simp [hnone]
    · simp [hn]
  · rw [if_neg hnone]
    refine ⟨rfl, (if_neg ?_).symm⟩
    rintro ⟨rfl, hn⟩
    exact hnone hn

def settle (name : Text) (level : Int) (form : LogForm) (r : Registry) : Registry :=
  addHandler name form (setLevel name level (touch name r))

theorem get_settle (name : Text) (level : Int) (form : LogForm) (r : Registry) (n : Text) :
    ((settle name level form r).get n).level = (if name = n then level else (r.get n).level) ∧
      ((settle name level form r).get n).handlers =
        if name = n ∧ (r.get n).handlers = [] then [form] else (r.get n).handlers := by
  obtain ⟨htouchLevel, htouchHandlers⟩ := get_touch name r n
  obtain ⟨hsetLevel, hsetHandlers⟩ := get_setLevel name level (touch name r) n
  obtain ⟨haddLevel, haddHandlers⟩ := get_addHandler name form (setLevel name level (touch name r)) n
  unfold settle
  rw [haddLevel, haddHandlers, hsetLevel, hsetHandlers, htouchLevel, htouchHandlers]
  exact ⟨rfl, rfl⟩

end Registry

end TopicSink
