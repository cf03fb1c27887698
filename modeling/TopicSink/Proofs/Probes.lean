import TopicSink.Proofs.Handling
import TopicSink.Proofs.Readiness

namespace TopicSink

namespace Connection

def IsAvailable (cluster : Cluster) (settings : Settings) (c : Connection) : Prop :=
  c.live ≠ none ∨ refusal cluster settings = none

theorem refusal_of_not_isAvailable {cluster : Cluster} {settings : Settings} {c : Connection}
    (h : ¬IsAvailable cluster settings c) :
    c.live = none ∧ ∃ fault, refusal cluster settings = some fault := by
  obtain ⟨hlive, hrefusal⟩ := not_or.mp h
  exact ⟨not_not.mp hlive, Option.ne_none_iff_exists'.mp hrefusal⟩

end Connection

namespace Sink

variable [Stack] {cluster : Cluster} {settings : Settings} {c : Connection}

/-- An answer is an object, and so is the version that it gives, unless it gives none. -/
def TellsVersion (body : Json) : Prop :=
  ∃ members, body = .obj members ∧
    ∀ version, Json.nonempty? (Json.lookup "version" members) = some version →
      ∃ parts, version = .obj parts

/-- What an answer gives as the number of its version is not nested too deeply for the log. -/
def ShowsVersion (body : Json) : Prop :=
  ∀ members parts number room, body = .obj members →
    Json.nonempty? (Json.lookup "version" members) = some (.obj parts) →
      Json.lookup "number" parts = some number →
        Stack.logging = some room → number.hindrance 0 room ≠ some .tooDeep

omit [Stack] in
theorem membersOf_eq_ok_iff {v : Json} {members : Members} :
    membersOf v = .ok members ↔ v = .obj members := by
  cases v <;> simp [membersOf]

omit [Stack] in
theorem membersOf_eq_error_iff {v : Json} {f : Fault} :
    membersOf v = .error f ↔ f = .notAnObject ∧ ∀ members, v ≠ .obj members := by
  cases v <;> simp [membersOf, eq_comm]

omit [Stack] in
theorem tellsVersion_of_ok {body version : Json} (h : versionOf body = .ok version) :
    TellsVersion body := by
  obtain ⟨members, hmembers, h⟩ := bind_eq_ok_iff.mp h
  refine ⟨members, membersOf_eq_ok_iff.mp hmembers, fun given hgiven => ?_⟩
  rw [hgiven] at h
  obtain ⟨parts, hparts, -⟩ := bind_eq_ok_iff.mp h
  exact ⟨parts, membersOf_eq_ok_iff.mp hparts⟩

omit [Stack] in
/-- Looking for the version fails just as an answer that is no object, or has a version that is
none. -/
theorem not_tellsVersion_of_error {body : Json} {f : Fault} (h : versionOf body = .error f) :
    f = .notAnObject ∧ ¬TellsVersion body := by
  -- The answer is no object, or what it gives as its version is none.
  rcases bind_eq_error_iff.mp h with hmembers | ⟨members, hmembers, h⟩
  · obtain ⟨rfl, hother⟩ := membersOf_eq_error_iff.mp hmembers
    refine ⟨rfl, ?_⟩
    rintro ⟨members, hbody, -⟩
    exact hother members hbody
  · have hbody : body = .obj members := membersOf_eq_ok_iff.mp hmembers
    cases hgiven : Json.nonempty? (Json.lookup "version" members) with
    | none =>
      rw [hgiven] at h
      cases h
    | some given =>
      rw [hgiven] at h
      rcases bind_eq_error_iff.mp h with hparts | ⟨parts, -, h⟩
      · obtain ⟨rfl, hother⟩ := membersOf_eq_error_iff.mp hparts
        refine ⟨rfl, ?_⟩
        rintro ⟨members', hbody', htells⟩
        rw [hbody, Json.obj.injEq] at hbody'
        rw [← hbody'] at htells
        obtain ⟨parts, hparts⟩ := htells given hgiven
        exact hother parts hparts
      · cases h

theorem informed_eq_error {v : Json} {f : Fault} (h : informed v = .error f) :
    f = .tooDeepToShow := by
  unfold informed at h
  split at h
  · cases h
  · split at h
    · exact (Except.error.inj h).symm
    · cases h

theorem informed_eq_ok_iff {v : Json} :
    informed v = .ok () ↔
      ∀ room, Stack.logging = some room → v.hindrance 0 room ≠ some .tooDeep := by
  unfold informed
  cases Stack.logging with
  | none => simp
  | some room =>
    cases h : v.hindrance 0 room with
    | none => simp [h]
    | some hindrance => cases hindrance <;> simp [h]

theorem informed_null : informed .null = .ok () := by
  rw [informed_eq_ok_iff]
  rintro (_ | room) - h <;> cases h

/-- Where an answer tells a version, it is the number of this that is shown. -/
theorem showsVersion_iff {body version : Json} (h : versionOf body = .ok version) :
    ShowsVersion body ↔ informed version = .ok () := by
  obtain ⟨members, hmembers, h⟩ := bind_eq_ok_iff.mp h
  rw [membersOf_eq_ok_iff.mp hmembers, informed_eq_ok_iff]
  cases hgiven : Json.nonempty? (Json.lookup "version" members) with
  | none =>
    rw [hgiven] at h
    obtain rfl : Json.null = version := Except.ok.inj h
    refine iff_of_true ?_ (informed_eq_ok_iff.mp informed_null)
    intro members' parts number room hbody hversion
    rw [← Json.obj.inj hbody, hgiven] at hversion
    cases hversion
  | some given =>
    rw [hgiven] at h
    obtain ⟨parts, hparts, h⟩ := bind_eq_ok_iff.mp h
    rw [membersOf_eq_ok_iff.mp hparts] at hgiven
    obtain rfl : (Json.lookup "number" parts).getD .null = version := Except.ok.inj h
    constructor
    · intro hshows
      cases hnumber : Json.lookup "number" parts with
      | none => exact informed_eq_ok_iff.mp informed_null
      | some number => exact fun room => hshows members parts number room rfl hgiven hnumber
    · intro hshown members' parts' number room hbody hversion hnumber
      rw [← Json.obj.inj hbody, hgiven, Option.some.injEq, Json.obj.injEq] at hversion
      rw [← hversion] at hnumber
      rw [hnumber] at hshown
      exact hshown room

theorem readiness_of_unavailable (h : ¬c.IsAvailable cluster settings) :
    (readiness cluster settings c).outcome = .ok false ∧
      (readiness cluster settings c).state = c ∧
        (readiness cluster settings c).calls = [Connection.request settings] := by
  obtain ⟨hlive, fault, hrefusal⟩ := Connection.refusal_of_not_isAvailable h
  have hclient := Connection.connect_of_refusal hrefusal c
  rw [← Connection.client_of_none hlive] at hclient
  have hping := ping_of_error hclient
  -- What the cluster would have said does not matter, since it is not asked.
  rw [readiness_apply, hping]
  exact ⟨rfl, rfl, rfl⟩

/-- With a client the cluster is asked once, by the client that is live from then on. -/
theorem readiness_of_available (h : c.IsAvailable cluster settings) :
    (readiness cluster settings c).outcome = readinessOutcome cluster.info ∧
      ∃ client, (readiness cluster settings c).state.live = some client ∧
        (readiness cluster settings c).calls =
          (if c.isLive then [] else [Connection.request settings]) ++ [.info client] := by
  obtain ⟨client, c', logs, hclient, hlive, -⟩ := Connection.client_of_available h
  rw [readiness_apply, ping_of_client hclient]
  exact ⟨rfl, client, hlive, rfl⟩

theorem readinessOutcome_eq_ok_true_iff {info : Except Fault Answer} :
    readinessOutcome info = .ok true ↔
      ∃ answer, info = .ok answer ∧ TellsVersion answer.body ∧ ShowsVersion answer.body := by
  cases info with
  | error fault => simp [readinessOutcome]
  | ok answer =>
    cases h : versionOf answer.body with
    | ok version =>
      cases hi : informed version <;>
        simp [readinessOutcome, h, hi, Except.map, tellsVersion_of_ok h, showsVersion_iff h]
    | error f => simp [readinessOutcome, h, (not_tellsVersion_of_error h).2]

theorem readinessOutcome_eq_ok_false_iff {info : Except Fault Answer} :
    readinessOutcome info = .ok false ↔ ∃ fault, info = .error fault := by
  cases info with
  | error fault => simp [readinessOutcome]
  | ok answer =>
    cases h : versionOf answer.body with
    | ok version => cases hi : informed version <;> simp [readinessOutcome, h, hi, Except.map]
    | error f => simp [readinessOutcome, h]

/-- How an answer leaves readiness without a result: it is no object or what it gives as its version
is none, or it cannot be shown. -/
inductive LeavesOpen (body : Json) : Fault → Prop
  | odd : ¬TellsVersion body → LeavesOpen body .notAnObject
  | deep : TellsVersion body → ¬ShowsVersion body → LeavesOpen body .tooDeepToShow

/-- There is no result for the answers that leave readiness open, and for no others. -/
theorem readinessOutcome_eq_error_iff {info : Except Fault Answer} {f : Fault} :
    readinessOutcome info = .error f ↔
      ∃ answer, info = .ok answer ∧ LeavesOpen answer.body f := by
  cases info with
  | error fault => simp [readinessOutcome]
  | ok answer =>
    simp only [readinessOutcome, Except.ok.injEq, exists_eq_left']
    cases h : versionOf answer.body with
    | error why =>
      obtain ⟨rfl, htells⟩ := not_tellsVersion_of_error h
      constructor
      · rintro ⟨⟩
        exact .odd htells
      · rintro (- | ⟨htells', -⟩)
        · rfl
        · exact absurd htells' htells
    | ok version =>
      have htells := tellsVersion_of_ok h
      cases hi : informed version with
      | error why =>
        obtain rfl := informed_eq_error hi
        simp only [hi, Except.map]
        have hshows : ¬ShowsVersion answer.body := by simp [showsVersion_iff h, hi]
        constructor
        · rintro ⟨⟩
          exact .deep htells hshows
        · rintro (hodd | -)
          · exact absurd htells hodd
          · rfl
      | ok _ =>
        simp only [hi, Except.map]
        have hshows : ShowsVersion answer.body := (showsVersion_iff h).mpr hi
        refine iff_of_false (fun hok => by cases hok) ?_
        rintro (hodd | ⟨-, hdeep⟩)
        · exact hodd htells
        · exact hdeep hshows

end Sink

namespace Handler

/-- Whether an event asks for readiness: it names that operation, in any case. -/
def IsProbe (event : Members) : Prop :=
  ∃ t : Text, Json.lookup "operation" event = some (.str t) ∧ t.lower = "readiness"

variable [Stack]

theorem operationName_of_probe {event : Members} (h : IsProbe event) :
    operationName event = .ok "readiness" := by
  obtain ⟨t, ht, hlower⟩ := h
  have hnonempty : Json.nonempty? (Json.lookup "operation" event) = some (.str t) := by
    rw [ht]
    cases t with
    | nil => exact absurd hlower (by decide)
    | cons c t => rfl
  rw [operationName_of_text hnonempty, hlower]

theorem handle_of_probe {event : Members} (h : IsProbe event) (validate : Validator)
    (cluster : Cluster) (settings : Settings) (c : Connection) :
    (handle validate cluster settings (.obj event) c).outcome =
      (Sink.readiness cluster settings c).outcome.map fun ready =>
        ⟨.int (if ready then 200 else 503), .obj [("ready", .bool ready)]⟩ := by
  unfold handle
  dsimp only
  rw [operationName_of_probe h, Act.bind_of_ok (Act.ofExcept_apply _ c)]
  exact congrArg Report.outcome (Act.bind_pure_apply (Sink.readiness cluster settings) _ c)

end Handler

namespace Sink

variable [Stack]

/-- Whether the cluster is ready. It is where there is a client whose answer tells a version or
none; it is not where there is no client, or where the client fails in any way. There is no result
where the answer is no object, or its version is none, or the number of this is nested too deeply
for the log. An event that asks is answered with 200 or 503 accordingly, and without a result it is
not. -/
theorem readiness_answers (cluster : Cluster) (settings : Settings) (c : Connection) :
    let report := readiness cluster settings c
    (report.outcome = .ok true ↔ c.IsAvailable cluster settings ∧
      ∃ answer, cluster.info = .ok answer ∧ TellsVersion answer.body ∧ ShowsVersion answer.body) ∧
    (report.outcome = .ok false ↔
      ¬c.IsAvailable cluster settings ∨ ∃ fault, cluster.info = .error fault) ∧
    (∀ f, report.outcome = .error f ↔ c.IsAvailable cluster settings ∧
      ∃ answer, cluster.info = .ok answer ∧ LeavesOpen answer.body f) ∧
    (c.IsAvailable cluster settings → ∃ client, report.state.live = some client ∧
      report.calls =
        (if c.isLive then [] else [Connection.request settings]) ++ [.info client]) ∧
    ∀ validate event, Handler.IsProbe event →
      let reply := (Handler.handle validate cluster settings (.obj event) c).outcome
      (∀ ready, report.outcome = .ok ready →
        reply = .ok ⟨.int (if ready then 200 else 503), .obj [("ready", .bool ready)]⟩) ∧
      ∀ f, report.outcome = .error f → reply = .error f := by
  intro report
  refine ⟨?_, ?_, fun f => ?_, fun h => (readiness_of_available h).2, ?_⟩
  · by_cases havailable : c.IsAvailable cluster settings
    · have hout : report.outcome = _ := (readiness_of_available havailable).1
      rw [hout, readinessOutcome_eq_ok_true_iff, and_iff_right havailable]
    · have hout : report.outcome = _ := (readiness_of_unavailable havailable).1
      simp [hout, havailable]
  · by_cases havailable : c.IsAvailable cluster settings
    · have hout : report.outcome = _ := (readiness_of_available havailable).1
      rw [hout, readinessOutcome_eq_ok_false_iff, or_iff_right (not_not.mpr havailable)]
    · have hout : report.outcome = _ := (readiness_of_unavailable havailable).1
      simp [hout, havailable]
  · by_cases havailable : c.IsAvailable cluster settings
    · have hout : report.outcome = _ := (readiness_of_available havailable).1
      rw [hout, readinessOutcome_eq_error_iff, and_iff_right havailable]
    · have hout : report.outcome = _ := (readiness_of_unavailable havailable).1
      simp [hout, havailable]
  · intro validate event hevent reply
    have hreply : reply = report.outcome.map _ :=
      Handler.handle_of_probe hevent validate cluster settings c
    rw [hreply]
    refine ⟨fun ready hready => ?_, fun f hf => ?_⟩
    · rw [hready]
      rfl
    · rw [hf]
      rfl

omit [Stack] in
/-- A version that is a text leaves an event that asks for readiness without a response. -/
theorem readiness_answers_version_text :
    letI := Stack.usual
    let cluster : Cluster := ⟨fun _ _ => none, .ok (.bare .null),
      .ok (.enveloped (.obj [("version", .str "8")])), none⟩
    (Handler.handle InsertEvent.validator cluster Settings.default
      (.obj [("operation", .str "Readiness")]) Connection.initial).outcome = .error .notAnObject := by
  let _ : Stack := Stack.usual
  intro cluster
  obtain ⟨-, -, hhides, -, hevents⟩ :=
    readiness_answers cluster Settings.default Connection.initial
  have htells : ¬TellsVersion (.obj [("version", .str "8")]) := by
    rintro ⟨members, hbody, htells⟩
    rw [Json.obj.injEq] at hbody
    rw [← hbody] at htells
    obtain ⟨parts, hparts⟩ := htells (.str "8") rfl
    cases hparts
  have hout := (hhides .notAnObject).mpr ⟨.inr rfl, _, rfl, .odd htells⟩
  have hprobe : Handler.IsProbe [("operation", .str "Readiness")] := ⟨"Readiness", rfl, by decide⟩
  exact (hevents _ _ hprobe).2 .notAnObject hout

omit [Stack] in
/-- An answer that is no object. -/
theorem readiness_without_result :
    letI := Stack.usual
    ¬ ∀ (cluster : Cluster) (settings : Settings) (c : Connection),
      ∃ ready, (readiness cluster settings c).outcome = .ok ready := by
  let _ : Stack := Stack.usual
  intro h
  let cluster : Cluster := ⟨fun _ _ => none, .ok (.bare .null), .ok (.bare .null), none⟩
  have hfault : (readiness cluster Settings.default Connection.initial).outcome =
      .error .notAnObject := by
    rw [(readiness_of_available (.inr rfl)).1]
    rfl
  obtain ⟨ready, hready⟩ := h cluster Settings.default Connection.initial
  rw [hfault] at hready
  cases hready

end Sink

end TopicSink
