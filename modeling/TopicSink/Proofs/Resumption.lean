import TopicSink.Proofs.Recollections

/-!
Loading settings again. The path that a loading takes through its look-ups is decided by the
environment and by what the stores answer, and memory keeps every answer; so a loading that is
repeated walks the same path through memory alone, as far as the first one came. `load_resumes` says
what that means for runs of look-ups in which everything else may change.
-/

namespace TopicSink

structure Memory.Within (memory memory' : Memory) : Prop where
  parameters : ∀ name answer, memory.parameters.lookup name = some answer →
    memory'.parameters.lookup name = some answer
  secrets : ∀ id value, memory.secrets.lookup id = some value →
    memory'.secrets.lookup id = some value
  parameterClient : memory.parameterClient = true → memory'.parameterClient = true
  secretClient : memory.secretClient = true → memory'.secretClient = true

def Memory.holds (memory : Memory) : Call → Bool
  | .openParameterStore => memory.parameterClient
  | .openSecretStore => memory.secretClient
  | .readParameter name _ => (memory.parameters.lookup name).isSome
  | .readSecret id => (memory.secrets.lookup id).isSome
  | _ => false

namespace Memory.Within

variable {a b c : Memory}

theorem refl (a : Memory) : a.Within a :=
  ⟨fun _ _ h => h, fun _ _ h => h, id, id⟩

theorem trans (hab : a.Within b) (hbc : b.Within c) : a.Within c where
  parameters name answer h := hbc.parameters name answer (hab.parameters name answer h)
  secrets id value h := hbc.secrets id value (hab.secrets id value h)
  parameterClient h := hbc.parameterClient (hab.parameterClient h)
  secretClient h := hbc.secretClient (hab.secretClient h)

theorem holds (hab : a.Within b) {call : Call} (h : a.holds call = true) :
    b.holds call = true := by
  cases call with
  | openParameterStore => exact hab.parameterClient h
  | openSecretStore => exact hab.secretClient h
  | readParameter name decrypt =>
    obtain ⟨answer, hanswer⟩ := Option.isSome_iff_exists.mp h
    exact Option.isSome_iff_exists.mpr ⟨answer, hab.parameters name answer hanswer⟩
  | readSecret id =>
    obtain ⟨value, hvalue⟩ := Option.isSome_iff_exists.mp h
    exact Option.isSome_iff_exists.mpr ⟨value, hab.secrets id value hvalue⟩
  | createClient host options => cases h
  | bulk client timeout operations => cases h
  | info client => cases h
  | closeClient client => cases h

end Memory.Within

namespace LookUp

def isUnanswered (w : Surroundings) : Call → Bool
  | .readParameter name _ => (parameterAnswer w name).isNone
  | .readSecret id => (secretAnswer w id).isNone
  | _ => false

def repeats : Call → Call → Bool
  | .openParameterStore, .openParameterStore => true
  | .openSecretStore, .openSecretStore => true
  | .readParameter name _, .readParameter name' _ => name = name'
  | .readSecret id, .readSecret id' => id = id'
  | _, _ => false

/-- What the report of a look-up says of memory: nothing that was held is lost or asked for, what is
answered is held from then on, and nothing else is. -/
structure Recalled {α : Type} (w : Surroundings) (memory : Memory) (r : Report Memory α) : Prop where
  within : memory.Within r.state
  fresh : ∀ call ∈ r.calls, memory.holds call = false
  learns : ∀ call ∈ r.calls, isUnanswered w call = false → r.state.holds call = true
  asked : ∀ call, memory.holds call = false → r.state.holds call = true →
    ∃ call' ∈ r.calls, repeats call call' = true

def Recalls {α : Type} (w : Surroundings) (x : LookUp α) : Prop :=
  ∀ memory, Recalled w memory (x memory)

section Recalls

variable {α β : Type} {w w' : Surroundings} {memory : Memory}

theorem holds_of_repeats {call call' : Call} (h : repeats call call' = true) (memory : Memory) :
    memory.holds call = memory.holds call' := by
  cases call <;> cases call' <;> simp_all [repeats, Memory.holds]

theorem Recalled.of_quiet {r : Report Memory α} (hcalls : r.calls = []) (hstate : r.state = memory) :
    Recalled w memory r := by
  refine ⟨?_, fun call hcall => ?_, fun call hcall => ?_, fun call hnot hheld => ?_⟩
  · rw [hstate]
    exact Memory.Within.refl memory
  · rw [hcalls] at hcall
    cases hcall
  · rw [hcalls] at hcall
    cases hcall
  · rw [hstate, hnot] at hheld
    cases hheld

/-- Nothing is lost between two look-ups, so that what is said of each is said of both. -/
theorem Recalled.behind {r : Report Memory α} {r' : Report Memory β} (h : Recalled w memory r)
    (h' : Recalled w r.state r') : Recalled w memory (r'.behind r.calls r.logs) := by
  constructor
  · exact h.within.trans h'.within
  · intro call hcall
    rcases List.mem_append.mp hcall with hcall | hcall
    · exact h.fresh call hcall
    -- What is asked for later is not held by then, and so it was not held before.
    · have hlater := h'.fresh call hcall
      cases hheld : memory.holds call with
      | false => rfl
      | true =>
        rw [h.within.holds hheld] at hlater
        cases hlater
  · intro call hcall hanswered
    rcases List.mem_append.mp hcall with hcall | hcall
    · exact h'.within.holds (h.learns call hcall hanswered)
    · exact h'.learns call hcall hanswered
  · intro call hnot hheld
    cases hbetween : r.state.holds call with
    | true =>
      obtain ⟨call', hmem, hsame⟩ := h.asked call hnot hbetween
      exact ⟨call', List.mem_append_left _ hmem, hsame⟩
    | false =>
      obtain ⟨call', hmem, hsame⟩ := h'.asked call hbetween hheld
      exact ⟨call', List.mem_append_right _ hmem, hsame⟩

theorem Recalls.ofExcept (r : Except Fault α) : Recalls w (Act.ofExcept r : LookUp α) :=
  fun _ => .of_quiet rfl rfl

theorem Recalls.bind {x : LookUp α} {f : α → LookUp β} (hx : Recalls w x)
    (hf : ∀ a, Recalls w (f a)) : Recalls w (x >>= f) := by
  intro memory
  rcases Act.bind_cases x f memory with ⟨e, -, h⟩ | ⟨a, -, h⟩
  · have hfirst := hx memory
    rw [h]
    exact ⟨hfirst.within, hfirst.fresh, hfirst.learns, hfirst.asked⟩
  · rw [h]
    exact (hx memory).behind (hf a _)

/-- The report of a reading: the store's client is made if there is none, the store is asked, and
what it answers is held from then on. -/
structure IsReading (w : Surroundings) (memory : Memory) (opening read : Call)
    (r : Report Memory α) : Prop where
  calls : r.calls = (if memory.holds opening then [] else [opening]) ++ [read]
  within : memory.Within r.state
  holds : ∀ call, r.state.holds call =
    (memory.holds call || repeats call opening || !isUnanswered w read && repeats call read)

theorem IsReading.recalled {opening read : Call} {r : Report Memory α}
    (h : IsReading w memory opening read r) (hread : memory.holds read = false)
    (hopening : repeats opening opening = true) (hself : repeats read read = true) :
    Recalled w memory r := by
  have hmem : ∀ call, call ∈ r.calls ↔
      (call = opening ∧ memory.holds opening = false) ∨ call = read := by
    intro call
    rw [h.calls]
    cases memory.holds opening <;> simp
  constructor
  · exact h.within
  · intro call hcall
    rcases (hmem call).mp hcall with ⟨rfl, hclosed⟩ | rfl
    · exact hclosed
    · exact hread
  · intro call hcall hanswered
    rw [h.holds]
    rcases (hmem call).mp hcall with ⟨rfl, -⟩ | rfl
    · simp [hopening]
    · simp [hself, hanswered]
  · intro call hnot hheld
    rw [h.holds, hnot, Bool.false_or, Bool.or_eq_true, Bool.and_eq_true] at hheld
    rcases hheld with hsame | ⟨-, hsame⟩
    · have hclosed : memory.holds opening = false := by rw [← holds_of_repeats hsame, hnot]
      exact ⟨opening, (hmem opening).mpr (.inl ⟨rfl, hclosed⟩), hsame⟩
    · exact ⟨read, (hmem read).mpr (.inr rfl), hsame⟩

theorem isReading_readParameter (w : Surroundings) {name : Text} (decrypt : Bool)
    (hname : memory.parameters.lookup name = none) :
    IsReading w memory .openParameterStore (.readParameter name decrypt)
      (readParameter w name decrypt memory) := by
  refine ⟨readParameter_calls w name decrypt memory, ?_, fun call => ?_⟩
  · cases hfailing : w.failing.lookup name with
    | some message =>
      obtain ⟨logs, hr⟩ := readParameter_of_failing hfailing decrypt memory
      rw [hr]
      exact ⟨fun _ _ h => h, fun _ _ h => h, fun _ => rfl, id⟩
    | none =>
      obtain ⟨logs, hr⟩ := readParameter_of_answered hfailing decrypt memory
      rw [hr]
      refine ⟨fun n answer h => ?_, fun _ _ h => h, fun _ => rfl, id⟩
      have hne : name ≠ n := by
        rintro rfl
        rw [hname] at h
        cases h
      rw [lookup_cons_eq, if_neg hne]
      exact h
  · cases hfailing : w.failing.lookup name with
    | some message =>
      obtain ⟨logs, hr⟩ := readParameter_of_failing hfailing decrypt memory
      rw [hr]
      cases call <;> simp [Memory.holds, repeats, isUnanswered, parameterAnswer, hfailing]
    | none =>
      obtain ⟨logs, hr⟩ := readParameter_of_answered hfailing decrypt memory
      rw [hr]
      cases call with
      | readParameter n d =>
        by_cases hn : name = n
        · subst hn
          simp [Memory.holds, repeats, isUnanswered, parameterAnswer, hfailing]
        · simp [Memory.holds, repeats, lookup_cons_eq, hn, Ne.symm hn]
      | _ => simp [Memory.holds, repeats]

theorem isReading_readSecret (w : Surroundings) {id : Text}
    (hid : memory.secrets.lookup id = none) :
    IsReading w memory .openSecretStore (.readSecret id) (readSecret w id memory) := by
  refine ⟨readSecret_calls w id memory, ?_, fun call => ?_⟩
  · cases htext : secretText (secretHeld w id) with
    | error fault =>
      obtain ⟨logs, hr⟩ := readSecret_of_failing htext memory
      rw [hr]
      exact ⟨fun _ _ h => h, fun _ _ h => h, fun h => h, fun _ => rfl⟩
    | ok value =>
      obtain ⟨logs, hr⟩ := readSecret_of_answered htext memory
      rw [hr]
      refine ⟨fun _ _ h => h, fun i answer h => ?_, fun h => h, fun _ => rfl⟩
      have hne : id ≠ i := by
        rintro rfl
        rw [hid] at h
        cases h
      rw [lookup_cons_eq, if_neg hne]
      exact h
  · cases htext : secretText (secretHeld w id) with
    | error fault =>
      obtain ⟨logs, hr⟩ := readSecret_of_failing htext memory
      rw [hr]
      cases call <;>
        simp [Memory.holds, repeats, isUnanswered, secretAnswer, htext, Except.toOption]
    | ok value =>
      obtain ⟨logs, hr⟩ := readSecret_of_answered htext memory
      rw [hr]
      cases call with
      | readSecret i =>
        by_cases hi : id = i
        · subst hi
          simp [Memory.holds, repeats, isUnanswered, secretAnswer, htext, Except.toOption]
        · simp [Memory.holds, repeats, lookup_cons_eq, hi, Ne.symm hi]
      | _ => simp [Memory.holds, repeats]

theorem readParameter_outcome {name : Text} {decrypt : Bool} {answer : Option Text}
    (h : (readParameter w name decrypt memory).outcome = .ok answer) :
    parameterAnswer w name = some answer ∧
      (readParameter w name decrypt memory).state.parameters.lookup name = some answer := by
  cases hfailing : w.failing.lookup name with
  | some message =>
    obtain ⟨logs, hr⟩ := readParameter_of_failing hfailing decrypt memory
    rw [hr] at h
    cases h
  | none =>
    obtain ⟨logs, hr⟩ := readParameter_of_answered hfailing decrypt memory
    rw [hr] at h ⊢
    have hanswer : w.parameters.lookup name = answer := Except.ok.inj h
    constructor
    · rw [parameterAnswer, hfailing, hanswer]
    · rw [lookup_cons_eq, if_pos rfl, hanswer]

theorem readSecret_outcome {id value : Text}
    (h : (readSecret w id memory).outcome = .ok value) :
    secretAnswer w id = some value ∧
      (readSecret w id memory).state.secrets.lookup id = some value := by
  cases htext : secretText (secretHeld w id) with
  | error fault =>
    obtain ⟨logs, hr⟩ := readSecret_of_failing htext memory
    rw [hr] at h
    cases h
  | ok value' =>
    obtain ⟨logs, hr⟩ := readSecret_of_answered htext memory
    rw [hr] at h ⊢
    have hvalue : value' = value := Except.ok.inj h
    constructor
    · rw [secretAnswer, htext, hvalue]
      rfl
    · rw [lookup_cons_eq, if_pos rfl, hvalue]

/-- A look-up of what one call to a store brings: what memory holds of it is all there is to it,
otherwise the store is read. -/
structure Caches (w : Surroundings) (x : LookUp α) (held : Memory → Option α)
    (opening read : Call) : Prop where
  remembered : ∀ memory a, held memory = some a → x memory = ⟨.ok a, memory, [], []⟩
  forgotten : ∀ memory, held memory = none → IsReading w memory opening read (x memory)
  answered : ∀ memory a, held memory = none → (x memory).outcome = .ok a →
    isUnanswered w read = false ∧ held (x memory).state = some a
  holds : ∀ memory : Memory, memory.holds read = (held memory).isSome
  keeps : ∀ (memory memory' : Memory) (a : α), memory.Within memory' → held memory = some a →
    held memory' = some a
  opens : repeats opening opening = true ∧ isUnanswered w opening = false
  reads : repeats read read = true ∧ repeats read opening = false

theorem caches_parameter (w : Surroundings) (name : Text) (decrypt : Bool) :
    Caches w (parameter w name decrypt) (fun memory => memory.parameters.lookup name)
      .openParameterStore (.readParameter name decrypt) := by
  refine ⟨fun memory answer h => parameter_of_remembered h w decrypt, fun memory h => ?_,
    fun memory answer h hanswer => ?_, fun _ => rfl, fun _ _ answer h => h.parameters name answer,
    ⟨rfl, rfl⟩, ⟨by simp [repeats], rfl⟩⟩
  · rw [parameter_of_forgotten h]
    exact isReading_readParameter w decrypt h
  · rw [parameter_of_forgotten h] at hanswer ⊢
    obtain ⟨hanswer, hheld⟩ := readParameter_outcome hanswer
    exact ⟨by rw [isUnanswered, hanswer]; rfl, hheld⟩

theorem caches_secretOf (w : Surroundings) (id : Text) :
    Caches w (secretOf w id) (fun memory => memory.secrets.lookup id)
      .openSecretStore (.readSecret id) := by
  refine ⟨fun memory value h => secretOf_of_remembered h w, fun memory h => ?_,
    fun memory value h hvalue => ?_, fun _ => rfl, fun _ _ value h => h.secrets id value,
    ⟨rfl, rfl⟩, ⟨by simp [repeats], rfl⟩⟩
  · rw [secretOf_of_forgotten h]
    exact isReading_readSecret w h
  · rw [secretOf_of_forgotten h] at hvalue ⊢
    obtain ⟨hvalue, hheld⟩ := readSecret_outcome hvalue
    exact ⟨by rw [isUnanswered, hvalue]; rfl, hheld⟩

theorem Caches.recalls {x : LookUp α} {held : Memory → Option α} {opening read : Call}
    (h : Caches w x held opening read) : Recalls w x := by
  intro memory
  cases hheld : held memory with
  | some a =>
    rw [h.remembered memory a hheld]
    exact .of_quiet rfl rfl
  | none =>
    apply (h.forgotten memory hheld).recalled _ h.opens.1 h.reads.1
    rw [h.holds, hheld]
    rfl

theorem composes_recalls (w : Surroundings) : Composes (fun x _ => Recalls w x) w w where
  ofExcept := Recalls.ofExcept
  bind hx hf := hx.bind hf
  parameter name decrypt := (caches_parameter w name decrypt).recalls
  secretOf id := (caches_secretOf w id).recalls

end Recalls

/-- A look-up, and the same look-up in other surroundings later. What came of the first one comes of
the second one from memory alone; a reading that failed ended the first one, and begins the second
one while there is still no answer to it. -/
structure Resumes {α : Type} (w : Surroundings) (x x' : LookUp α) : Prop where
  recalls : Recalls w x
  again : ∀ (memory memory' : Memory) (a : α), (x memory).outcome = .ok a →
    (x memory).state.Within memory' → x' memory' = ⟨.ok a, memory', [], []⟩
  stops : ∀ memory, ∀ read ∈ (x memory).calls, isUnanswered w read = true →
    (∃ fault, (x memory).outcome = .error fault) ∧ (x memory).calls.getLast? = some read ∧
      (x memory).state.holds read = false
  resumes : ∀ (memory memory' : Memory), ∀ read ∈ (x memory).calls, isUnanswered w read = true →
    (x memory).state.Within memory' → memory'.holds read = false →
      ∃ rest, (x' memory').calls = read :: rest

section Resumes

variable {α β : Type} {w w' : Surroundings} {memory memory' : Memory}

theorem Resumes.ofExcept (r : Except Fault α) :
    Resumes w (Act.ofExcept r : LookUp α) (Act.ofExcept r) := by
  refine ⟨Recalls.ofExcept r, fun memory memory' a h _ => ?_, fun memory read hread => ?_,
    fun memory memory' read hread => ?_⟩
  · have hr : r = .ok a := h
    rw [hr]
    rfl
  · cases hread
  · cases hread

/-- Resuming carries over to one look-up after another: the first is repeated from memory as far as
it came, and the second takes up from there. -/
theorem Resumes.bind {x x' : LookUp α} {f f' : α → LookUp β} (hx : Resumes w x x')
    (hf : ∀ a, Resumes w (f a) (f' a)) : Resumes w (x >>= f) (x' >>= f') := by
  refine ⟨hx.recalls.bind fun a => (hf a).recalls, ?_, ?_, ?_⟩
  · intro memory memory' b hb hwithin
    rcases Act.bind_cases x f memory with ⟨e, -, h⟩ | ⟨a, ha, h⟩
    · rw [h] at hb
      cases hb
    · rw [h] at hb hwithin
      have hfirst := ((hf a).recalls (x memory).state).within.trans hwithin
      rw [Act.bind_of_ok (hx.again memory memory' a ha hfirst), (hf a).again _ memory' b hb hwithin]
      rfl
  · intro memory read hread hunanswered
    rcases Act.bind_cases x f memory with ⟨e, he, h⟩ | ⟨a, ha, h⟩
    · rw [h] at hread ⊢
      obtain ⟨-, hlast, hheld⟩ := hx.stops memory read hread hunanswered
      exact ⟨⟨e, rfl⟩, hlast, hheld⟩
    · rw [h] at hread ⊢
      rcases List.mem_append.mp hread with hread | hread
      -- The first look-up went well, so all its readings were answered.
      · obtain ⟨⟨fault, hfault⟩, -⟩ := hx.stops memory read hread hunanswered
        rw [ha] at hfault
        cases hfault
      · obtain ⟨hfault, hlast, hheld⟩ := (hf a).stops _ read hread hunanswered
        refine ⟨hfault, ?_, hheld⟩
        change ((x memory).calls ++ (f a (x memory).state).calls).getLast? = some read
        rw [List.getLast?_append, hlast]
        rfl
  · intro memory memory' read hread hunanswered hwithin hheld
    rcases Act.bind_cases x f memory with ⟨e, he, h⟩ | ⟨a, ha, h⟩
    · rw [h] at hread hwithin
      obtain ⟨rest, hrest⟩ := hx.resumes memory memory' read hread hunanswered hwithin hheld
      rcases Act.bind_cases x' f' memory' with ⟨e', -, h'⟩ | ⟨a', -, h'⟩
      · rw [h']
        exact ⟨rest, hrest⟩
      · rw [h']
        exact ⟨rest ++ (f' a' (x' memory').state).calls, by rw [Report.behind, hrest]; rfl⟩
    · rw [h] at hread hwithin
      have hfirst := ((hf a).recalls (x memory).state).within.trans hwithin
      rcases List.mem_append.mp hread with hread | hread
      · obtain ⟨⟨fault, hfault⟩, -⟩ := hx.stops memory read hread hunanswered
        rw [ha] at hfault
        cases hfault
      · rw [Act.bind_of_ok (hx.again memory memory' a ha hfirst)]
        exact (hf a).resumes _ memory' read hread hunanswered hwithin hheld

/-- Only the last call of a reading can fail to be answered, and what it reads is not held then. -/
theorem IsReading.stops {opening read : Call} {r : Report Memory α}
    (h : IsReading w memory opening read r) (hread : memory.holds read = false)
    (hopening : isUnanswered w opening = false) (hother : repeats read opening = false) :
    ∀ call ∈ r.calls, isUnanswered w call = true →
      call = read ∧ r.calls.getLast? = some call ∧ r.state.holds call = false := by
  intro call hcall hunanswered
  have hcall' : call = opening ∨ call = read := by
    rw [h.calls] at hcall
    cases hheld : memory.holds opening <;> simp_all
  rcases hcall' with rfl | rfl
  · rw [hopening] at hunanswered
    cases hunanswered
  · refine ⟨rfl, ?_, ?_⟩
    · rw [h.calls]
      exact List.getLast?_concat
    · rw [h.holds, hread, hother, hunanswered]
      rfl

/-- A reading that comes after another one has a client. -/
theorem IsReading.calls_again {opening read : Call} {r : Report Memory α} {r' : Report Memory β}
    (h : IsReading w memory opening read r) (h' : IsReading w' memory' opening read r')
    (hself : repeats opening opening = true) (hwithin : r.state.Within memory') :
    r'.calls = [read] := by
  have hopened : r.state.holds opening = true := by
    rw [h.holds, hself]
    simp
  rw [h'.calls, hwithin.holds hopened]
  rfl

theorem exists_error_of_not_ok {r : Report Memory α} (h : ∀ a, r.outcome ≠ .ok a) :
    ∃ fault, r.outcome = .error fault := by
  cases hr : r.outcome with
  | error fault => exact ⟨fault, rfl⟩
  | ok a => exact absurd hr (h a)

/-- What a memory answers is answered again by every memory that holds it. -/
theorem Caches.resumes {x x' : LookUp α} {held : Memory → Option α} {opening read : Call}
    (h : Caches w x held opening read) (h' : Caches w' x' held opening read) :
    Resumes w x x' := by
  have hforgotten : ∀ memory, ∀ call ∈ (x memory).calls, held memory = none := by
    intro memory call hcall
    cases hheld : held memory with
    | none => rfl
    | some a =>
      rw [h.remembered memory a hheld] at hcall
      cases hcall
  have hnot : ∀ memory : Memory, held memory = none → memory.holds read = false := by
    intro memory hheld
    rw [h.holds, hheld]
    rfl
  -- What is held is found again; a reading that fails leaves nothing held, and is made again.
  refine ⟨h.recalls, ?_, ?_, ?_⟩
  · intro memory memory' a ha hwithin
    apply h'.remembered
    apply h.keeps _ memory' a hwithin
    cases hheld : held memory with
    | some a' =>
      rw [h.remembered memory a' hheld] at ha ⊢
      cases ha
      exact hheld
    | none => exact (h.answered memory a hheld ha).2
  · intro memory call hcall hunanswered
    have hheld := hforgotten memory call hcall
    obtain ⟨rfl, hlast, hstate⟩ := (h.forgotten memory hheld).stops (hnot memory hheld)
      h.opens.2 h.reads.2 call hcall hunanswered
    refine ⟨exists_error_of_not_ok fun a ha => ?_, hlast, hstate⟩
    rw [(h.answered memory a hheld ha).1] at hunanswered
    cases hunanswered
  · intro memory memory' call hcall hunanswered hwithin hstate
    have hheld := hforgotten memory call hcall
    obtain ⟨rfl, -, -⟩ := (h.forgotten memory hheld).stops (hnot memory hheld)
      h.opens.2 h.reads.2 call hcall hunanswered
    have hheld' : held memory' = none := by
      rw [h.holds] at hstate
      simpa using hstate
    exact ⟨[], (h.forgotten memory hheld).calls_again (h'.forgotten memory' hheld') h.opens.1
      hwithin⟩

theorem composes_resumes (w w' : Surroundings) : Composes (Resumes w) w w' where
  ofExcept := Resumes.ofExcept
  bind hx hf := hx.bind hf
  parameter name decrypt := (caches_parameter w name decrypt).resumes (caches_parameter w' name decrypt)
  secretOf id := (caches_secretOf w id).resumes (caches_secretOf w' id)

end Resumes

section Runs

variable {w w' : Surroundings} {s : Journal}

theorem recalls_act (w : Surroundings) (operation : Operation) : Recalls w (operation.act w) :=
  (composes_recalls w).act (.refl w) operation

theorem within_foldl (steps : List Step) (s : Journal) :
    s.memory.Within (steps.foldl Journal.next s).memory := by
  induction steps generalizing s with
  | nil => exact Memory.Within.refl s.memory
  | cons step steps ih =>
    have hstep := (recalls_act step.surroundings step.operation s.memory).within
    exact hstep.trans (ih (s.next step))

theorem mem_exchanges_foldl {e : Exchange} (h : e ∈ s.exchanges) (steps : List Step) :
    e ∈ (steps.foldl Journal.next s).exchanges := by
  induction steps generalizing s with
  | nil => exact h
  | cons step steps ih => exact ih (List.mem_append_left _ h)

/-- What is not held, and is not asked for in a run of look-ups, is not held behind it. -/
theorem holds_foldl_of_not_asked {read : Call} (steps : List Step)
    (h : s.memory.holds read = false)
    (hnot : ∀ e ∈ (steps.foldl Journal.next s).exchanges, repeats read e.call = false) :
    (steps.foldl Journal.next s).memory.holds read = false := by
  induction steps generalizing s with
  | nil => exact h
  | cons step steps ih =>
    apply ih _ hnot
    cases hheld : (s.next step).memory.holds read with
    | false => rfl
    | true =>
      have hrecalled := recalls_act step.surroundings step.operation s.memory
      obtain ⟨call, hcall, hsame⟩ := hrecalled.asked read h hheld
      have hexchange : ⟨step.surroundings, call⟩ ∈ (s.next step).exchanges :=
        List.mem_append_right _ (List.mem_map_of_mem hcall)
      have hother := hnot _ (mem_exchanges_foldl hexchange steps)
      rw [hsame] at hother
      cases hother

/-- Loading settings is stable, and it is resumed where it failed. Once settings were loaded,
whatever happens between, loading them in the same environment gives the same settings and asks
nothing. Where a reading failed, the loading ended there; unless it was made between, the same
reading is the first thing that the next loading asks for, and nothing that was answered before is
asked for again. -/
theorem load_resumes (earlier between : List Step) (w w' : Surroundings)
    (hsame : SameEnvironment w w') :
    let first := Settings.load w (Journal.after earlier).memory
    let s := between.foldl Journal.next ⟨first.state, []⟩
    let later := Settings.load w' s.memory
    (∀ settings, first.outcome = .ok settings → later = ⟨.ok settings, s.memory, [], []⟩) ∧
    ∀ read ∈ first.calls, isUnanswered w read = true →
      (∃ fault, first.outcome = .error fault) ∧ first.calls.getLast? = some read ∧
      ((∀ e ∈ s.exchanges, repeats read e.call = false) → ∃ rest, later.calls = read :: rest) ∧
      ∀ call ∈ first.calls, isUnanswered w call = false →
        ∀ call' ∈ later.calls, repeats call call' = false := by
  intro first s later
  have hresumes := (composes_resumes w w').load hsame
  have hwithin : first.state.Within s.memory := within_foldl between ⟨first.state, []⟩
  constructor
  · intro settings hsettings
    exact hresumes.again _ s.memory settings hsettings hwithin
  · intro read hread hunanswered
    obtain ⟨hfault, hlast, hheld⟩ := hresumes.stops _ read hread hunanswered
    refine ⟨hfault, hlast, fun hnot => ?_, fun call hcall hanswered call' hcall' => ?_⟩
    · have hstill : s.memory.holds read = false := holds_foldl_of_not_asked between hheld hnot
      exact hresumes.resumes _ s.memory read hread hunanswered hwithin hstill
    · -- The answer is held, and what is held is not asked for.
      have hheld' : s.memory.holds call = true :=
        hwithin.holds ((hresumes.recalls _).learns call hcall hanswered)
      have hfresh : s.memory.holds call' = false :=
        ((composes_recalls w').load (.refl w') s.memory).fresh call' hcall'
      cases hrepeats : repeats call call' with
      | false => rfl
      | true =>
        rw [holds_of_repeats hrepeats, hfresh] at hheld'
        cases hheld'

/-- The reading of the host fails, and is the first one when settings are loaded again. -/
theorem load_resumes_host :
    let environment : List (Text × Text) :=
      [("SSM_PARAMETER_PREFIX", "/app/"), ("ELASTICSEARCH_PASSWORD", "")]
    let w : Surroundings := ⟨environment, [], [("/app/ELASTICSEARCH_HOST", "throttled")], []⟩
    let w' : Surroundings := ⟨environment, [("/app/ELASTICSEARCH_HOST", "http://es:9200")], [], []⟩
    let first := Settings.load w Memory.empty
    let between : Step := ⟨w', .setting "ES_INDEX" false⟩
    let s := Journal.next ⟨first.state, []⟩ between
    SameEnvironment w w' ∧ (∃ fault, first.outcome = .error fault) ∧
      ∃ rest, (Settings.load w' s.memory).calls =
        .readParameter "/app/ELASTICSEARCH_HOST" false :: rest := by
  intro environment w w' first between s
  have hsame : SameEnvironment w w' := fun _ => rfl
  have hread : .readParameter "/app/ELASTICSEARCH_HOST" false ∈ first.calls := by
    have hcalls : first.calls =
        [.openParameterStore, .readParameter "/app/ELASTICSEARCH_HOST" false] := rfl
    rw [hcalls]
    exact List.mem_cons_of_mem _ List.mem_cons_self
  have hasked : s.exchanges = [⟨w', .readParameter "/app/ES_INDEX" false⟩] := rfl
  obtain ⟨hfault, -, hresumes, -⟩ := (load_resumes [] [between] w w' hsame).2 _ hread rfl
  refine ⟨hsame, hfault, hresumes fun e he => ?_⟩
  have he' : e = ⟨w', .readParameter "/app/ES_INDEX" false⟩ :=
    List.mem_singleton.mp (hasked ▸ he)
  rw [he']
  decide

end Runs

end LookUp

end TopicSink
