import TopicSink.Proofs.Derivations
import TopicSink.Proofs.Numerals

namespace TopicSink

namespace Sink

variable [Stack] {σ : Type}

/-- Building goes through one batch and then through the other. -/
theorem buildActions_append (settings : Settings) (records others : List Record) :
    (buildActions settings (records ++ others) : Act σ (List Json)) =
      (do
        let first ← buildActions settings records
        let second ← buildActions settings others
        pure (first ++ second)) := by
  -- By induction on the batch in front, which is the one that building walks through.
  induction records with
  | nil => simp only [List.nil_append, buildActions, Act.pure_bind, Act.bind_pure]
  | cons r rest ih =>
    simp only [List.cons_append, buildActions, ih, Act.bind_assoc, Act.pure_bind,
      List.append_assoc]

/-- A batch that can be built leaves nothing but its operations behind. -/
theorem buildActions_of_ok {settings : Settings} {records : List Record} {s : σ}
    {operations : List Json} (h : (buildActions settings records s).outcome = .ok operations) :
    buildActions settings records s = ⟨.ok operations, s, [], []⟩ := by
  obtain ⟨logs, htells, happly⟩ := buildActions_apply settings records
  rw [buildActions_outcome] at h
  -- Only a failure is logged.
  rw [h] at htells
  have hlogs : logs = [] := htells
  rw [happly s, h, hlogs]

theorem buildActions_of_error {settings : Settings} {records : List Record} {s : σ} {fault : Fault}
    (h : (buildActions settings records s).outcome = .error fault) :
    ∃ logs, buildActions settings records s = ⟨.error fault, s, [], logs⟩ := by
  obtain ⟨logs, -, happly⟩ := buildActions_apply settings records
  rw [buildActions_outcome] at h
  exact ⟨logs, by rw [happly s, h]⟩

theorem buildActions_append_of_ok {settings : Settings} {records others : List Record} {s : σ}
    {first second : List Json} (h : (buildActions settings records s).outcome = .ok first)
    (h' : (buildActions settings others s).outcome = .ok second) :
    buildActions settings (records ++ others) s = ⟨.ok (first ++ second), s, [], []⟩ := by
  rw [buildActions_append, Act.bind_of_ok (buildActions_of_ok h), Act.bind_pure_apply,
    buildActions_of_ok h']
  rfl

theorem buildActions_append_of_error {settings : Settings} {records : List Record} {s : σ}
    {fault : Fault} (h : (buildActions settings records s).outcome = .error fault)
    (others : List Record) :
    buildActions settings (records ++ others) s = buildActions settings records s := by
  obtain ⟨logs, hreport⟩ := buildActions_of_error h
  rw [buildActions_append, Act.bind_of_error hreport, hreport]

theorem buildActions_append_of_later {settings : Settings} {records others : List Record} {s : σ}
    {first : List Json} {fault : Fault}
    (h : (buildActions settings records s).outcome = .ok first)
    (h' : (buildActions settings others s).outcome = .error fault) :
    buildActions settings (records ++ others) s = buildActions settings others s := by
  obtain ⟨logs, hreport⟩ := buildActions_of_error h'
  rw [buildActions_append, Act.bind_of_ok (buildActions_of_ok h), Act.bind_of_error hreport, hreport]
  rfl

/-- The two operations of a record, whatever batch it stands in: the index action, with the topic as
its type exactly where that is asked for, and the document without the hidden columns. -/
structure AreOperationsOf (settings : Settings) (r : Record) (action document : Json) : Prop where
  action_eq : ∃ index id : Text,
    (∀ {σ : Type} (s : σ), (indexName settings r s).outcome = .ok index ∧
      (docId settings r s).outcome = .ok id) ∧
    action = .obj [("index", .obj (if settings.includeDocType then
      [("_index", .str index), ("_id", .str id), ("_type", .str r.topic)]
      else [("_index", .str index), ("_id", .str id)]))]
  document_eq : document = .obj (r.fields.filter fun m => !settings.hiddenColumns.contains m.1)
  alone : ∀ {σ : Type} (s : σ),
    buildActions settings [r] s = ⟨.ok [action, document], s, [], []⟩

omit [Stack] in
theorem indexAction_eq (settings : Settings) (r : Record) (index id : Text) :
    indexAction settings r index id =
      .obj [("index", .obj (if settings.includeDocType then
        [("_index", .str index), ("_id", .str id), ("_type", .str r.topic)]
        else [("_index", .str index), ("_id", .str id)]))] := by
  unfold indexAction
  cases settings.includeDocType <;> rfl

theorem areOperationsOf {settings : Settings} {r : Record} {index id : Text}
    (hindex : indexOf settings r = .ok index) (hid : idOf settings r = .ok id) :
    AreOperationsOf settings r (indexAction settings r index id)
      (.obj (r.without settings.hiddenColumns)) := by
  refine ⟨⟨index, id, fun {σ} s => ?_, indexAction_eq settings r index id⟩, rfl, fun {σ} s => ?_⟩
  · rw [indexName_outcome, docId_outcome]
    exact ⟨hindex, hid⟩
  · apply buildActions_of_ok
    rw [buildActions_outcome, operationsOf_eq_ok_iff]
    exact ⟨_, .cons (entriesOf_eq_ok_iff.mpr ⟨index, id, hindex, hid, rfl⟩) .nil, rfl⟩

/-- Building a batch is a homomorphism. Two batches that can be built make up one that is built of
their operations, in order; where the first one fails both fail as it does, and otherwise as the
second one does. A batch that is built has two operations for each record, an action and a document,
which are those of the record alone. -/
theorem buildActions_homomorphic (settings : Settings) (records others : List Record) (s : σ) :
    (∀ first second, (buildActions settings records s).outcome = .ok first →
      (buildActions settings others s).outcome = .ok second →
        buildActions settings (records ++ others) s = ⟨.ok (first ++ second), s, [], []⟩) ∧
    (∀ fault, (buildActions settings records s).outcome = .error fault →
      buildActions settings (records ++ others) s = buildActions settings records s) ∧
    (∀ first fault, (buildActions settings records s).outcome = .ok first →
      (buildActions settings others s).outcome = .error fault →
        buildActions settings (records ++ others) s = buildActions settings others s) ∧
    ∀ operations, (buildActions settings records s).outcome = .ok operations →
      operations.length = 2 * records.length ∧
      ∀ i r, records[i]? = some r → ∃ action document,
        operations[2 * i]? = some action ∧ operations[2 * i + 1]? = some document ∧
          AreOperationsOf settings r action document := by
  refine ⟨fun _ _ => buildActions_append_of_ok, fun _ h => buildActions_append_of_error h others,
    fun _ _ => buildActions_append_of_later, fun operations h => ?_⟩
  rw [buildActions_outcome] at h
  refine ⟨operationsOf_length h, fun i r hr => ?_⟩
  obtain ⟨index, id, hindex, hid, haction, hdocument⟩ := operationsOf_getElem? h hr
  exact ⟨_, _, haction, hdocument, areOperationsOf hindex hid⟩

omit [Stack] in
/-- A record that has the index column, and one behind it that lacks it. -/
theorem buildActions_homomorphic_second_lacks_column :
    letI := Stack.usual
    let settings : Settings :=
      { Settings.default with
        indexColumn := some "region", hiddenColumns := ["password"], includeDocType := true }
    let time : Instant := ⟨⟨2024, 1, 1⟩, 0, 0, 0, 0⟩
    let first : Record :=
      ⟨"orders", .int 0, .int 7, time, [("password", .str "x"), ("region", .str "eu")]⟩
    let second : Record := ⟨"orders", .int 0, .int 8, time, [("n", .null)]⟩
    (buildActions settings ([first] ++ [second]) ()).outcome = .error (.fieldNotFound "region") ∧
      ∃ index id operations, (buildActions settings [first] ()).outcome = .ok operations ∧
        operations.length = 2 ∧
        operations[0]? = some (.obj [("index", .obj [("_index", .str index), ("_id", .str id),
          ("_type", .str "orders")])]) ∧
        operations[1]? = some (.obj [("region", .str "eu")]) := by
  let _ : Stack := Stack.usual
  intro settings time first second
  have hrenderable : ∀ r ∈ [first], r.IsRenderable :=
    List.forall_mem_singleton.mpr (Record.isRenderable_of_fits (Numeral.fits_of_fitsWord (by decide))
      (Numeral.fits_of_fitsWord (by decide)) rfl (Nat.zero_le _))
  have hpresent : ∀ r ∈ [first], missing? settings r = none :=
    List.forall_mem_singleton.mpr (by decide)
  obtain ⟨operations, hoperations⟩ := operationsOf_of_present hrenderable hpresent
  have hfirst : (buildActions settings [first] ()).outcome = .ok operations := by
    rw [buildActions_outcome, hoperations]
  have hsecond : (buildActions settings [second] ()).outcome = .error (.fieldNotFound "region") :=
    rfl
  obtain ⟨-, -, hlater, hparts⟩ := buildActions_homomorphic settings [first] [second] ()
  obtain ⟨hlength, hrecords⟩ := hparts operations hfirst
  obtain ⟨action, document, haction, hdocument, ⟨index, id, -, rfl⟩, rfl, -⟩ :=
    hrecords 0 first rfl
  refine ⟨?_, index, id, operations, hfirst, hlength, haction, ?_⟩
  · rw [hlater operations _ hfirst hsecond, hsecond]
  · rw [hdocument]
    rfl

end Sink

end TopicSink
