import TopicSink.Act

namespace TopicSink

variable {σ α β : Type}

def Report.behind (calls : List Call) (logs : List LogLine) (r : Report σ α) : Report σ α :=
  ⟨r.outcome, r.state, calls ++ r.calls, logs ++ r.logs⟩

@[simp] theorem Report.behind_mk (calls calls' : List Call) (logs logs' : List LogLine)
    (outcome : Except Fault α) (s : σ) :
    Report.behind calls logs ⟨outcome, s, calls', logs'⟩ =
      ⟨outcome, s, calls ++ calls', logs ++ logs'⟩ := rfl

theorem Report.behind_behind (calls calls' : List Call) (logs logs' : List LogLine)
    (r : Report Memory α) :
    (r.behind calls' logs').behind calls logs = r.behind (calls ++ calls') (logs ++ logs') := by
  simp only [Report.behind, List.append_assoc]

namespace Act

/-- An act that asks nothing and leaves the state alone. -/
def IsQuiet (x : Act σ α) : Prop := ∀ s, (x s).calls = [] ∧ (x s).state = s

@[simp] theorem pure_apply (a : α) (s : σ) : (pure a : Act σ α) s = ⟨.ok a, s, [], []⟩ := rfl

theorem bind_apply (x : Act σ α) (f : α → Act σ β) (s : σ) :
    (x >>= f) s = match x s with
      | ⟨.error e, t, calls, logs⟩ => ⟨.error e, t, calls, logs⟩
      | ⟨.ok a, t, calls, logs⟩ => (f a t).behind calls logs := by
  change andThen x f s = _
  unfold andThen
  rcases x s with ⟨outcome, t, calls, logs⟩
  cases outcome <;> rfl

theorem bind_of_ok {x : Act σ α} {s t : σ} {a : α} {calls : List Call} {logs : List LogLine}
    (h : x s = ⟨.ok a, t, calls, logs⟩) (f : α → Act σ β) :
    (x >>= f) s = (f a t).behind calls logs := by
  rw [bind_apply, h]

theorem bind_of_error {x : Act σ α} {s t : σ} {e : Fault} {calls : List Call} {logs : List LogLine}
    (h : x s = ⟨.error e, t, calls, logs⟩) (f : α → Act σ β) :
    (x >>= f) s = ⟨.error e, t, calls, logs⟩ := by
  rw [bind_apply, h]

/-- One act and then another: it fails as the first one does, or the second one goes on from there.
-/
theorem bind_cases (x : Act σ α) (f : α → Act σ β) (s : σ) :
    (∃ e, (x s).outcome = .error e ∧
      (x >>= f) s = ⟨.error e, (x s).state, (x s).calls, (x s).logs⟩) ∨
    ∃ a, (x s).outcome = .ok a ∧
      (x >>= f) s = (f a (x s).state).behind (x s).calls (x s).logs := by
  rw [bind_apply]
  rcases x s with ⟨outcome, t, calls, logs⟩
  cases outcome with
  | error e => exact .inl ⟨e, rfl, rfl⟩
  | ok a => exact .inr ⟨a, rfl, rfl⟩

theorem bind_of_outcome {x : Act σ α} {s : σ} {a : α} (h : (x s).outcome = .ok a)
    (f : α → Act σ β) : (x >>= f) s = (f a (x s).state).behind (x s).calls (x s).logs := by
  have hx : x s = ⟨.ok a, (x s).state, (x s).calls, (x s).logs⟩ := by rw [← h]
  exact bind_of_ok hx f

theorem outcome_bind_eq_ok_iff {x : Act σ α} {f : α → Act σ β} {s : σ} {b : β} :
    ((x >>= f) s).outcome = .ok b ↔
      ∃ a, (x s).outcome = .ok a ∧ (f a (x s).state).outcome = .ok b := by
  rw [bind_apply]
  rcases x s with ⟨outcome, t, calls, logs⟩
  cases outcome with
  | error e => simp
  | ok a => simp [Report.behind]

theorem bind_pure_apply (x : Act σ α) (f : α → β) (s : σ) :
    (x >>= fun a => pure (f a)) s =
      ⟨(x s).outcome.map f, (x s).state, (x s).calls, (x s).logs⟩ := by
  rw [bind_apply]
  rcases x s with ⟨outcome, t, calls, logs⟩
  cases outcome <;> simp [Except.map]

protected theorem pure_bind (a : α) (f : α → Act σ β) : (pure a : Act σ α) >>= f = f a :=
  funext fun s => bind_of_ok (pure_apply a s) f

protected theorem bind_pure (x : Act σ α) : (x >>= fun a => pure a) = x := by
  funext s
  have hmap : (x >>= fun a => pure a) s = ⟨(x s).outcome.map id, _, _, _⟩ := bind_pure_apply x id s
  rw [Except.map_id] at hmap
  exact hmap

protected theorem bind_assoc {γ : Type} (x : Act σ α) (f : α → Act σ β) (g : β → Act σ γ) :
    x >>= f >>= g = x >>= fun a => f a >>= g := by
  funext s
  rcases hx : x s with ⟨outcome, t, calls, logs⟩
  cases outcome with
  | error e => rw [bind_of_error (bind_of_error hx f) g, bind_of_error hx]
  | ok a =>
    rw [bind_of_ok hx, bind_apply, bind_of_ok hx f, bind_apply]
    rcases f a t with ⟨outcome', t', calls', logs'⟩
    cases outcome' with
    | error e => rfl
    | ok b => simp [Report.behind]

@[simp] theorem fail_apply (e : Fault) (s : σ) : (fail e : Act σ α) s = ⟨.error e, s, [], []⟩ := rfl

@[simp] theorem ofExcept_apply (r : Except Fault α) (s : σ) :
    (ofExcept r : Act σ α) s = ⟨r, s, [], []⟩ := rfl

@[simp] theorem state_apply (s : σ) : (state : Act σ σ) s = ⟨.ok s, s, [], []⟩ := rfl

@[simp] theorem update_apply (f : σ → σ) (s : σ) : update f s = ⟨.ok (), f s, [], []⟩ := rfl

@[simp] theorem ask_apply (c : Call) (s : σ) : ask c s = ⟨.ok (), s, [c], []⟩ := rfl

@[simp] theorem log_apply (line : LogLine) (s : σ) : log line s = ⟨.ok (), s, [], [line]⟩ := rfl

@[simp] theorem attempt_apply (x : Act σ α) (s : σ) :
    attempt x s = ⟨.ok (x s).outcome, (x s).state, (x s).calls, (x s).logs⟩ := rfl

@[simp] theorem failAfter_apply (earlier e : Fault) (s : σ) :
    (failAfter earlier e : Act σ α) s = ⟨.error (earlier.untold.getD e), s, [], []⟩ := rfl

end Act

end TopicSink
