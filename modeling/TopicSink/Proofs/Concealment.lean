import TopicSink.Proofs.Derivations

namespace TopicSink

/-- Two records that differ in hidden fields at most: in which of them there are, in where they
stand among the others, and in what they hold. -/
structure Record.AgreeBeside (hidden : List Text) (r r' : Record) : Prop where
  topic : r.topic = r'.topic
  partition : r.partition = r'.partition
  offset : r.offset = r'.offset
  time : r.time = r'.time
  fields : (r.fields.filter fun m => !hidden.contains m.1) =
    r'.fields.filter fun m => !hidden.contains m.1

namespace Json

theorem lookup_filter {hidden : List Text} {name : Text} (h : name ∉ hidden) (members : Members) :
    lookup name (members.filter fun m => !hidden.contains m.1) = lookup name members := by
  unfold lookup
  rw [List.find?_filter]
  have hpredicate : (fun m : Text × Json => decide ((!hidden.contains m.1) = true ∧
      decide (m.1 = name) = true)) = fun m => decide (m.1 = name) := by
    funext m
    by_cases hm : m.1 = name
    · simp [hm, h]
    · simp [hm]
  rw [hpredicate]

end Json

namespace Record

variable [Stack] {hidden : List Text} {r r' : Record}

omit [Stack] in
theorem AgreeBeside.without_eq (h : AgreeBeside hidden r r') :
    r.without hidden = r'.without hidden :=
  h.fields

theorem AgreeBeside.id_eq (h : AgreeBeside hidden r r') : r.id = r'.id := by
  unfold id
  rw [h.topic, h.partition, h.offset]

omit [Stack] in
theorem AgreeBeside.day_eq (h : AgreeBeside hidden r r') : r.day = r'.day := by
  unfold day
  rw [h.time]

theorem AgreeBeside.column_eq (h : AgreeBeside hidden r r') {name : Text} (hname : name ∉ hidden) :
    r.column name = r'.column name := by
  have hlookup : Json.lookup name r.fields = Json.lookup name r'.fields := by
    rw [← Json.lookup_filter hname r.fields, h.fields, Json.lookup_filter hname]
  unfold column
  rw [hlookup]

end Record

namespace Sink

variable [Stack] {σ : Type} {settings : Settings}

structure ColumnsShow (settings : Settings) : Prop where
  index : ∀ column, Text.nonempty? settings.indexColumn = some column →
    column ∉ settings.hiddenColumns
  docId : ∀ column, Text.nonempty? settings.docIdColumn = some column →
    column ∉ settings.hiddenColumns

section Records

variable {r r' : Record}

theorem columnFor_eq_of_agree (h : Record.AgreeBeside settings.hiddenColumns r r') {name : Text}
    (hname : name ∉ settings.hiddenColumns) (heading : Text) :
    (columnFor heading r name : Act σ Text) = columnFor heading r' name := by
  unfold columnFor
  rw [h.column_eq hname]

theorem indexName_eq_of_agree (hshow : ColumnsShow settings)
    (h : Record.AgreeBeside settings.hiddenColumns r r') :
    (indexName settings r : Act σ Text) = indexName settings r' := by
  unfold indexName
  rw [h.topic, h.day_eq]
  cases hcolumn : Text.nonempty? settings.indexColumn with
  | none => rfl
  | some column =>
    simp only [columnFor_eq_of_agree h (hshow.index column hcolumn)]

theorem docId_eq_of_agree (hshow : ColumnsShow settings)
    (h : Record.AgreeBeside settings.hiddenColumns r r') :
    (docId settings r : Act σ Text) = docId settings r' := by
  unfold docId
  rw [h.id_eq]
  cases hcolumn : Text.nonempty? settings.docIdColumn with
  | none => rfl
  | some column =>
    exact columnFor_eq_of_agree h (hshow.docId column hcolumn) _

theorem actionsOf_eq_of_agree (hshow : ColumnsShow settings)
    (h : Record.AgreeBeside settings.hiddenColumns r r') :
    (actionsOf settings r : Act σ (List Json)) = actionsOf settings r' := by
  have haction : ∀ index id, indexAction settings r index id = indexAction settings r' index id := by
    intro index id
    unfold indexAction
    rw [h.topic]
  unfold actionsOf
  rw [indexName_eq_of_agree hshow h, docId_eq_of_agree hshow h, h.without_eq]
  simp only [haction]

end Records

/-- The same operations are derived, and a failure to derive them leaves the same in the log. -/
theorem buildActions_eq_of_agree (hshow : ColumnsShow settings) {records records' : List Record}
    (h : List.Forall₂ (Record.AgreeBeside settings.hiddenColumns) records records') :
    (buildActions settings records : Act σ (List Json)) = buildActions settings records' := by
  induction h with
  | nil => rfl
  | cons hfirst _ ih =>
    unfold buildActions
    rw [actionsOf_eq_of_agree hshow hfirst, ih]

/-- Batches that agree, record by record, on all that is not hidden are inserted alike: with the
same requests and log lines, to the same outcome, and with the same connection left behind. -/
theorem insert_eq_of_agree (hshow : ColumnsShow settings) {records records' : List Record}
    (h : List.Forall₂ (Record.AgreeBeside settings.hiddenColumns) records records')
    (cluster : Cluster) (c : Connection) :
    insert cluster settings records c = insert cluster settings records' c := by
  unfold insert
  rw [buildActions_eq_of_agree hshow h, h.length_eq]

omit [Stack] in
/-- A password in front of the id and none at all: the same document goes out under the same id. -/
theorem insert_eq_of_agree_password :
    letI := Stack.usual
    let settings : Settings :=
      { Settings.default with docIdColumn := some "id", hiddenColumns := ["password"] }
    let time : Instant := ⟨⟨2024, 1, 1⟩, 0, 0, 0, 0⟩
    let telling : Record :=
      ⟨"users", .int 0, .int 7, time, [("password", .str "x"), ("id", .str "a"), ("n", .int 1)]⟩
    let silent : Record := ⟨"users", .int 0, .int 7, time, [("id", .str "a"), ("n", .int 1)]⟩
    let cluster : Cluster :=
      ⟨fun _ _ => none, .error (.raised .timeout "Connection timed out"), .ok (.bare .null), none⟩
    ColumnsShow settings ∧
      List.Forall₂ (Record.AgreeBeside settings.hiddenColumns) [telling] [silent] ∧
      telling.fields.length ≠ silent.fields.length ∧
      insert cluster settings [telling] Connection.initial =
        insert cluster settings [silent] Connection.initial := by
  let _ : Stack := Stack.usual
  intro settings time telling silent cluster
  have hshow : ColumnsShow settings := by
    refine ⟨fun column hcolumn => ?_, fun column hcolumn => ?_⟩
    · cases hcolumn
    · rw [← Option.some.inj hcolumn]
      decide
  have hagree : List.Forall₂ (Record.AgreeBeside settings.hiddenColumns) [telling] [silent] :=
    .cons ⟨rfl, rfl, rfl, rfl, rfl⟩ .nil
  exact ⟨hshow, hagree, by decide, insert_eq_of_agree hshow hagree cluster Connection.initial⟩

end Sink

end TopicSink
