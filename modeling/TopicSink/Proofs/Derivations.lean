import TopicSink.Proofs.Acts
import TopicSink.Proofs.Members
import TopicSink.Proofs.Outcomes
import TopicSink.Sink

namespace TopicSink

/-- A value that cannot be written. -/
def Fault.IsOfWriting (f : Fault) : Prop :=
  f = .numeralTooLong ∨ f = .tooDeepToWrite ∨ f = .tooDeepToShow

theorem Fault.IsOfWriting.kind {f : Fault} (h : f.IsOfWriting) :
    f.kind = .value ∨ f.kind = .recursion := by
  rcases h with rfl | rfl | rfl <;> decide

theorem Fault.IsOfWriting.kind_ne {f : Fault} (h : f.IsOfWriting) :
    f.kind ≠ .fieldNotFound ∧ f.kind ≠ .datastoreConnection ∧ f.kind.isWrite = false := by
  rcases h with rfl | rfl | rfl <;> decide

namespace Record

variable [Stack]

/-- The values of a record can be written: their integers are within the limit, and there is room
for what stands inside of them. -/
structure IsRenderable (r : Record) : Prop where
  partition : r.partition.writable = true ∧ r.partition.nesting 0 ≤ Stack.telling
  offset : r.offset.writable = true ∧ r.offset.nesting 0 ≤ Stack.telling
  fields : Json.writableMembers r.fields = true ∧ Json.nestingMembers 1 r.fields ≤ Stack.writing

theorem text_eq_ok {v : Json} (hwritable : v.writable = true) (hroom : v.nesting 0 ≤ Stack.telling) :
    text v = .ok v.display := by
  unfold text
  rw [Json.hindrance_eq_none_iff.mpr ⟨hwritable, hroom⟩]

theorem text_int {i : Int} (h : Numeral.fits i = true) : text (.int i) = .ok (Text.ofInt i) :=
  text_eq_ok h (Nat.zero_le _)

theorem text_str (t : Text) : text (.str t) = .ok t := text_eq_ok rfl (Nat.zero_le _)

/-- Integers within the limit do not nest, so that only the fields need room. -/
theorem isRenderable_of_fits {topic : Text} {partition offset : Int} {time : Instant}
    {fields : Members} (hpartition : Numeral.fits partition = true)
    (hoffset : Numeral.fits offset = true) (hwritable : Json.writableMembers fields = true)
    (hroom : Json.nestingMembers 1 fields ≤ Stack.writing) :
    (Record.mk topic (.int partition) (.int offset) time fields).IsRenderable :=
  ⟨⟨hpartition, Nat.zero_le _⟩, ⟨hoffset, Nat.zero_le _⟩, hwritable, hroom⟩

theorem isOfWriting_of_text {v : Json} {f : Fault} (h : text v = .error f) : f.IsOfWriting := by
  unfold text at h
  split at h <;> cases h
  · exact .inl rfl
  · exact .inr (.inr rfl)

theorem compactText_eq_ok {v : Json} (hwritable : v.writable = true)
    (hroom : v.nesting 1 ≤ Stack.writing) : compactText v = .ok v.compact := by
  unfold compactText
  rw [Json.hindrance_eq_none_iff.mpr ⟨hwritable, hroom⟩]

theorem compactText_eq_tooDeep {v : Json} (hwritable : v.writable = true)
    (hdeep : Stack.writing < v.nesting 1) : compactText v = .error .tooDeepToWrite := by
  unfold compactText
  cases h : v.hindrance 1 Stack.writing with
  | none => exact absurd (Json.hindrance_eq_none_iff.mp h).2 (Nat.not_le_of_lt hdeep)
  | some hindrance =>
    cases hindrance with
    | numeralTooLong => exact absurd h (Json.hindrance_ne_numeralTooLong hwritable)
    | tooDeep => rfl

theorem isOfWriting_of_compactText {v : Json} {f : Fault} (h : compactText v = .error f) :
    f.IsOfWriting := by
  unfold compactText at h
  split at h <;> cases h
  · exact .inl rfl
  · exact .inr (.inl rfl)

end Record

namespace Sink

def Tells {α : Type} (outcome : Except Fault α) (logs : List LogLine) : Prop :=
  match outcome with
  | .ok _ => logs = []
  | .error f =>
    f.kind = .fieldNotFound ∧ (∃ heading, logs = [.ofFault logger heading f]) ∨
      f.kind ≠ .fieldNotFound ∧ logs = []

def Derives {α : Type} (x : (σ : Type) → Act σ α) (outcome : Except Fault α) : Prop :=
  ∃ logs, Tells outcome logs ∧ ∀ (σ : Type) (s : σ), x σ s = ⟨outcome, s, [], logs⟩

section Derives

variable {α β : Type}

theorem Derives.pure (a : α) : Derives (fun _ => Pure.pure a) (.ok a) :=
  ⟨[], rfl, fun _ _ => rfl⟩

/-- One derivation after another derives what the one and then the other does, on any state. -/
theorem Derives.bind {x : (σ : Type) → Act σ α} {r : Except Fault α}
    {f : (σ : Type) → α → Act σ β} {g : α → Except Fault β} (hx : Derives x r)
    (hf : ∀ a, Derives (fun σ => f σ a) (g a)) :
    Derives (fun σ => x σ >>= f σ) (r >>= g) := by
  obtain ⟨logs, ht, hx⟩ := hx
  cases r with
  | error e => exact ⟨logs, ht, fun σ s => Act.bind_of_error (hx σ s) _⟩
  | ok a =>
    obtain ⟨logs', ht', hf'⟩ := hf a
    -- What derives a value logs nothing, so the log is that of what comes behind.
    have hlogs : logs = [] := ht
    subst hlogs
    refine ⟨logs', ht', fun σ s => ?_⟩
    have hfa : f σ a s = ⟨g a, s, [], logs'⟩ := hf' σ s
    calc (x σ >>= f σ) s = (f σ a s).behind [] [] := Act.bind_of_ok (hx σ s) (f σ)
      _ = ⟨g a, s, [], logs'⟩ := by rw [hfa]; rfl

end Derives

variable [Stack]

def indexOf (settings : Settings) (r : Record) : Except Fault Text := do
  let lead := (Text.nonempty? settings.index).getD r.topic
  match Text.nonempty? settings.indexColumn with
  | none => pure (lead ++ "-" ++ r.day)
  | some column => do
    let value ← r.column column
    pure (lead ++ "-" ++ value)

def idOf (settings : Settings) (r : Record) : Except Fault Text :=
  match Text.nonempty? settings.docIdColumn with
  | none => r.id
  | some column => r.column column

def entriesOf (settings : Settings) (r : Record) : Except Fault (List Json) := do
  let index ← indexOf settings r
  let id ← idOf settings r
  pure [indexAction settings r index id, .obj (r.without settings.hiddenColumns)]

def operationsOf (settings : Settings) (records : List Record) : Except Fault (List Json) := do
  let entries ← records.mapM (entriesOf settings)
  pure entries.flatten

theorem derives_columnFor (heading : Text) (r : Record) (name : Text) :
    Derives (fun _ => columnFor heading r name) (r.column name) := by
  unfold columnFor
  cases r.column name with
  | ok t => exact Derives.pure t
  | error f =>
    by_cases hk : f.kind = .fieldNotFound
    · refine ⟨[.ofFault logger heading f], .inl ⟨hk, heading, rfl⟩, fun σ s => ?_⟩
      simp [hk, Act.bind_apply]
    · exact ⟨[], .inr ⟨hk, rfl⟩, fun σ s => by simp [hk]⟩

theorem derives_indexName (settings : Settings) (r : Record) :
    Derives (fun _ => indexName settings r) (indexOf settings r) := by
  unfold indexName indexOf
  cases Text.nonempty? settings.indexColumn with
  | none => exact Derives.pure _
  | some column =>
    exact (derives_columnFor "Could not get column value from record" r column).bind
      fun value => Derives.pure _

theorem indexName_outcome {σ : Type} (settings : Settings) (r : Record) (s : σ) :
    (indexName settings r s).outcome = indexOf settings r := by
  obtain ⟨logs, -, h⟩ := derives_indexName settings r
  exact congrArg Report.outcome (h σ s)

theorem isOfWriting_of_id {r : Record} {f : Fault} (h : r.id = .error f) : f.IsOfWriting := by
  unfold Record.id at h
  rcases bind_eq_error_iff.mp h with hpartition | ⟨partition, -, h⟩
  · exact Record.isOfWriting_of_text hpartition
  rcases bind_eq_error_iff.mp h with hoffset | ⟨offset, -, h⟩
  · exact Record.isOfWriting_of_text hoffset
  · cases h

theorem derives_docId (settings : Settings) (r : Record) :
    Derives (fun _ => docId settings r) (idOf settings r) := by
  unfold docId idOf
  cases Text.nonempty? settings.docIdColumn with
  | some column => exact derives_columnFor "Could not get doc id value from record" r column
  | none =>
    cases h : r.id with
    | ok t => exact Derives.pure t
    | error f =>
      exact ⟨[], .inr ⟨(isOfWriting_of_id h).kind_ne.1, rfl⟩, fun σ s => rfl⟩

theorem docId_outcome {σ : Type} (settings : Settings) (r : Record) (s : σ) :
    (docId settings r s).outcome = idOf settings r := by
  obtain ⟨logs, -, h⟩ := derives_docId settings r
  exact congrArg Report.outcome (h σ s)

theorem derives_actionsOf (settings : Settings) (r : Record) :
    Derives (fun _ => actionsOf settings r) (entriesOf settings r) :=
  (derives_indexName settings r).bind fun _ =>
    (derives_docId settings r).bind fun _ => Derives.pure _

theorem operationsOf_cons (settings : Settings) (r : Record) (rest : List Record) :
    operationsOf settings (r :: rest) =
      (do
        let first ← entriesOf settings r
        let others ← operationsOf settings rest
        pure (first ++ others)) := by
  unfold operationsOf
  rw [List.mapM_cons]
  cases entriesOf settings r with
  | error e => rfl
  | ok first => cases rest.mapM (entriesOf settings) <;> rfl

theorem derives_buildActions (settings : Settings) (records : List Record) :
    Derives (fun _ => buildActions settings records) (operationsOf settings records) := by
  induction records with
  | nil => exact Derives.pure []
  -- A batch that fails does so at its first record or behind it, and logs a line there only.
  | cons r rest ih =>
    rw [operationsOf_cons]
    exact (derives_actionsOf settings r).bind fun first => ih.bind fun others => Derives.pure _

theorem buildActions_apply (settings : Settings) (records : List Record) :
    ∃ logs, Tells (operationsOf settings records) logs ∧ ∀ {σ : Type} (s : σ),
      buildActions settings records s = ⟨operationsOf settings records, s, [], logs⟩ := by
  obtain ⟨logs, htells, h⟩ := derives_buildActions settings records
  exact ⟨logs, htells, fun {σ} s => h σ s⟩

theorem buildActions_outcome {σ : Type} (settings : Settings) (records : List Record) (s : σ) :
    (buildActions settings records s).outcome = operationsOf settings records := by
  obtain ⟨logs, -, h⟩ := derives_buildActions settings records
  exact congrArg Report.outcome (h σ s)

theorem entriesOf_eq_ok_iff {settings : Settings} {r : Record} {entries : List Json} :
    entriesOf settings r = .ok entries ↔
      ∃ index id, indexOf settings r = .ok index ∧ idOf settings r = .ok id ∧
        entries = [indexAction settings r index id, .obj (r.without settings.hiddenColumns)] := by
  unfold entriesOf
  cases hindex : indexOf settings r with
  | error f => simp [bind, Except.bind]
  | ok index =>
    cases hid : idOf settings r with
    | error f => simp [bind, Except.bind]
    | ok id => simp [bind, Except.bind, pure, Except.pure, eq_comm]

/-- A batch has operations when every record has entries, and then they are those, in order. -/
theorem operationsOf_eq_ok_iff {settings : Settings} {records : List Record}
    {operations : List Json} :
    operationsOf settings records = .ok operations ↔
      ∃ entries, List.Forall₂ (fun r e => entriesOf settings r = .ok e) records entries ∧
        operations = entries.flatten := by
  unfold operationsOf
  constructor
  · intro h
    obtain ⟨entries, hentries, h⟩ := bind_eq_ok_iff.mp h
    exact ⟨entries, mapM_eq_ok_iff.mp hentries, (Except.ok.inj h).symm⟩
  · rintro ⟨entries, hentries, rfl⟩
    rw [mapM_eq_ok_iff.mpr hentries]
    rfl

theorem column_eq_error {r : Record} {name : Text} {f : Fault} (h : r.column name = .error f) :
    f = .fieldNotFound name ∨ f.IsOfWriting := by
  unfold Record.column at h
  split at h
  · cases h
    exact .inl rfl
  · exact .inr (Record.isOfWriting_of_compactText h)
  · exact .inr (Record.isOfWriting_of_compactText h)
  · exact .inr (Record.isOfWriting_of_text h)

/-- The two entries of a record fail for a column that is missing or for a value that cannot be
written. -/
theorem entriesOf_eq_error {settings : Settings} {r : Record} {f : Fault}
    (h : entriesOf settings r = .error f) :
    (∃ name, f = .fieldNotFound name) ∨ f.IsOfWriting := by
  have hcolumn : ∀ name, r.column name = .error f →
      (∃ name, f = .fieldNotFound name) ∨ f.IsOfWriting :=
    fun name hname => (column_eq_error hname).imp_left fun hf => ⟨name, hf⟩
  unfold entriesOf at h
  rcases bind_eq_error_iff.mp h with hindex | ⟨index, -, h⟩
  · unfold indexOf at hindex
    dsimp only at hindex
    split at hindex
    · cases hindex
    · rcases bind_eq_error_iff.mp hindex with hvalue | ⟨value, -, hindex⟩
      · exact hcolumn _ hvalue
      · cases hindex
  rcases bind_eq_error_iff.mp h with hid | ⟨id, -, h⟩
  · unfold idOf at hid
    split at hid
    · exact .inr (isOfWriting_of_id hid)
    · exact hcolumn _ hid
  · cases h

/-- A batch has no operations where a record lacks a column or a value of one cannot be written. -/
theorem operationsOf_eq_error {settings : Settings} {records : List Record} {f : Fault}
    (h : operationsOf settings records = .error f) :
    (∃ name, f = .fieldNotFound name) ∨ f.IsOfWriting := by
  unfold operationsOf at h
  rcases bind_eq_error_iff.mp h with hentries | ⟨entries, -, h⟩
  · obtain ⟨r, -, hr⟩ := mapM_eq_error hentries
    exact entriesOf_eq_error hr
  · cases h

theorem operationsOf_length {settings : Settings} {records : List Record} {operations : List Json}
    (h : operationsOf settings records = .ok operations) :
    operations.length = 2 * records.length := by
  obtain ⟨entries, hentries, rfl⟩ := operationsOf_eq_ok_iff.mp h
  induction hentries with
  | nil => rfl
  | @cons r first rest entries hfirst hrest ih =>
    obtain ⟨index, id, -, -, rfl⟩ := entriesOf_eq_ok_iff.mp hfirst
    have hlength := ih (operationsOf_eq_ok_iff.mpr ⟨entries, hrest, rfl⟩)
    simp only [List.flatten_cons, List.length_append, List.length_cons, List.length_nil, hlength]
    omega

/-- The entries of the record at a place stand at twice that place, the document behind the action.
-/
theorem operationsOf_getElem? {settings : Settings} {records : List Record}
    {operations : List Json} (h : operationsOf settings records = .ok operations) {i : Nat}
    {r : Record} (hr : records[i]? = some r) :
    ∃ index id, indexOf settings r = .ok index ∧ idOf settings r = .ok id ∧
      operations[2 * i]? = some (indexAction settings r index id) ∧
      operations[2 * i + 1]? = some (.obj (r.without settings.hiddenColumns)) := by
  obtain ⟨entries, hentries, rfl⟩ := operationsOf_eq_ok_iff.mp h
  clear h
  induction hentries generalizing i with
  | nil => cases hr
  | @cons first _ rest entries hfirst hrest ih =>
    obtain ⟨index, id, hindex, hid, rfl⟩ := entriesOf_eq_ok_iff.mp hfirst
    cases i with
    | zero =>
      cases hr
      exact ⟨index, id, hindex, hid, rfl, rfl⟩
    | succ i => exact ih hr

def columns (settings : Settings) : List Text :=
  (Text.nonempty? settings.indexColumn).toList ++ (Text.nonempty? settings.docIdColumn).toList

/-- The first of the columns that a record lacks, if it lacks one. -/
def missing? (settings : Settings) (r : Record) : Option Text :=
  (columns settings).find? fun column => column ∉ r.fields.map Prod.fst

theorem column_of_missing {r : Record} {name : Text} (h : name ∉ r.fields.map Prod.fst) :
    r.column name = .error (.fieldNotFound name) := by
  unfold Record.column
  rw [Json.lookup_eq_none_iff.mpr h]

theorem column_of_present {r : Record} {name : Text} (hr : r.IsRenderable)
    (h : name ∈ r.fields.map Prod.fst) : ∃ t, r.column name = .ok t := by
  obtain ⟨v, hv⟩ : ∃ v, Json.lookup name r.fields = some v :=
    Option.ne_none_iff_exists'.mp fun hn => Json.lookup_eq_none_iff.mp hn h
  have hwritable : v.writable = true := Json.writable_of_lookup hr.fields.1 hv
  have hroom : v.nesting 1 ≤ Stack.writing := Json.nesting_of_lookup hr.fields.2 hv
  unfold Record.column
  rw [hv]
  cases v with
  | arr elements => exact ⟨_, Record.compactText_eq_ok hwritable hroom⟩
  | obj members => exact ⟨_, Record.compactText_eq_ok hwritable hroom⟩
  | _ => exact ⟨_, Record.text_eq_ok hwritable (Nat.zero_le _)⟩

theorem id_of_renderable {r : Record} (hr : r.IsRenderable) : ∃ t, r.id = .ok t := by
  refine ⟨r.topic ++ ":" ++ r.partition.display ++ ":" ++ r.offset.display, ?_⟩
  unfold Record.id
  rw [Record.text_eq_ok hr.partition.1 hr.partition.2, Record.text_eq_ok hr.offset.1 hr.offset.2]
  rfl

theorem indexOf_of_missing {settings : Settings} {r : Record} {column : Text}
    (hi : Text.nonempty? settings.indexColumn = some column)
    (h : column ∉ r.fields.map Prod.fst) :
    indexOf settings r = .error (.fieldNotFound column) := by
  unfold indexOf
  simp only [hi, column_of_missing h]
  rfl

theorem indexOf_of_present {settings : Settings} {r : Record} (hr : r.IsRenderable)
    (h : ∀ column, Text.nonempty? settings.indexColumn = some column →
      column ∈ r.fields.map Prod.fst) : ∃ t, indexOf settings r = .ok t := by
  unfold indexOf
  cases hi : Text.nonempty? settings.indexColumn with
  | none => exact ⟨_, rfl⟩
  | some column =>
    obtain ⟨value, hv⟩ := column_of_present hr (h column hi)
    refine ⟨(Text.nonempty? settings.index).getD r.topic ++ "-" ++ value, ?_⟩
    simp only [hv]
    rfl

theorem idOf_of_present {settings : Settings} {r : Record} (hr : r.IsRenderable)
    (h : ∀ column, Text.nonempty? settings.docIdColumn = some column →
      column ∈ r.fields.map Prod.fst) : ∃ t, idOf settings r = .ok t := by
  unfold idOf
  cases hd : Text.nonempty? settings.docIdColumn with
  | none => exact id_of_renderable hr
  | some column => exact column_of_present hr (h column hd)

omit [Stack] in
/-- The columns that a record may lack are those that the settings name, the index column first. -/
theorem missing?_eq_some_iff {settings : Settings} {r : Record} {column : Text} :
    missing? settings r = some column ↔
      column ∉ r.fields.map Prod.fst ∧
        (Text.nonempty? settings.indexColumn = some column ∨
          Text.nonempty? settings.docIdColumn = some column ∧
            ∀ i, Text.nonempty? settings.indexColumn = some i → i ∈ r.fields.map Prod.fst) := by
  have hfind : ∀ configured : Option Text,
      configured.toList.find? (fun c => c ∉ r.fields.map Prod.fst) = some column ↔
        configured = some column ∧ column ∉ r.fields.map Prod.fst := by
    intro configured
    rw [List.find?_eq_some_iff_getElem, decide_eq_true_iff, and_comm]
    cases configured <;> simp
  have hindex : (Text.nonempty? settings.indexColumn).toList.find?
      (fun c => c ∉ r.fields.map Prod.fst) = none ↔
        ∀ i, Text.nonempty? settings.indexColumn = some i → i ∈ r.fields.map Prod.fst := by
    simp only [List.find?_eq_none, Option.mem_toList, decide_eq_true_eq, not_not]
  unfold missing? columns
  rw [List.find?_append, Option.or_eq_some_iff, hfind, hfind, hindex]
  constructor
  · rintro (⟨hi, hm⟩ | ⟨hpresent, hd, hm⟩)
    · exact ⟨hm, .inl hi⟩
    · exact ⟨hm, .inr ⟨hd, hpresent⟩⟩
  · rintro ⟨hm, hi | ⟨hd, hpresent⟩⟩
    · exact .inl ⟨hi, hm⟩
    · exact .inr ⟨hpresent, hd, hm⟩

omit [Stack] in
theorem missing?_eq_none_iff {settings : Settings} {r : Record} :
    missing? settings r = none ↔
      (∀ i, Text.nonempty? settings.indexColumn = some i → i ∈ r.fields.map Prod.fst) ∧
        ∀ d, Text.nonempty? settings.docIdColumn = some d → d ∈ r.fields.map Prod.fst := by
  unfold missing? columns
  cases Text.nonempty? settings.indexColumn <;> cases Text.nonempty? settings.docIdColumn <;>
    simp

/-- A record without one of the columns yields no entries: the first column that it lacks is told.
-/
theorem entriesOf_of_missing {settings : Settings} {r : Record} {column : Text}
    (hr : r.IsRenderable) (h : missing? settings r = some column) :
    entriesOf settings r = .error (.fieldNotFound column) := by
  obtain ⟨hm, hi | ⟨hd, hi⟩⟩ := missing?_eq_some_iff.mp h
  · unfold entriesOf
    rw [indexOf_of_missing hi hm]
    rfl
  · obtain ⟨index, hindex⟩ := indexOf_of_present hr hi
    have hid : idOf settings r = .error (.fieldNotFound column) := by
      unfold idOf
      rw [hd]
      exact column_of_missing hm
    unfold entriesOf
    rw [hindex, hid]
    rfl

theorem entriesOf_of_present {settings : Settings} {r : Record} (hr : r.IsRenderable)
    (h : missing? settings r = none) :
    ∃ index id, indexOf settings r = .ok index ∧ idOf settings r = .ok id ∧
      entriesOf settings r =
        .ok [indexAction settings r index id, .obj (r.without settings.hiddenColumns)] := by
  obtain ⟨hi, hd⟩ := missing?_eq_none_iff.mp h
  obtain ⟨index, hindex⟩ := indexOf_of_present hr hi
  obtain ⟨id, hid⟩ := idOf_of_present hr hd
  refine ⟨index, id, hindex, hid, ?_⟩
  unfold entriesOf
  rw [hindex, hid]
  rfl

/-- A batch in which records lack columns yields no operations: the first such record's column is
told, wherever in the batch it stands. -/
theorem operationsOf_of_missing {settings : Settings} {records : List Record} {column : Text}
    (hr : ∀ r ∈ records, r.IsRenderable) (h : records.findSome? (missing? settings) = some column) :
    operationsOf settings records = .error (.fieldNotFound column) := by
  induction records with
  | nil => simp at h
  | cons r rest ih =>
    rw [operationsOf_cons]
    rw [List.findSome?_cons] at h
    -- The first record that lacks a column is this one or stands behind it.
    cases hm : missing? settings r with
    | some first =>
      have hfirst : first = column := by simpa [hm] using h
      rw [entriesOf_of_missing (hr r List.mem_cons_self) hm, hfirst]
      rfl
    | none =>
      obtain ⟨index, id, -, -, hentries⟩ := entriesOf_of_present (hr r List.mem_cons_self) hm
      have hrest : operationsOf settings rest = .error (.fieldNotFound column) :=
        ih (fun r' hr' => hr r' (List.mem_cons_of_mem r hr')) (by simpa [hm] using h)
      rw [hentries, hrest]
      rfl

theorem operationsOf_of_present {settings : Settings} {records : List Record}
    (hr : ∀ r ∈ records, r.IsRenderable) (h : ∀ r ∈ records, missing? settings r = none) :
    ∃ operations, operationsOf settings records = .ok operations := by
  induction records with
  | nil => exact ⟨[], rfl⟩
  | cons r rest ih =>
    obtain ⟨index, id, -, -, hentries⟩ :=
      entriesOf_of_present (hr r List.mem_cons_self) (h r List.mem_cons_self)
    obtain ⟨others, hothers⟩ := ih (fun r' hr' => hr r' (List.mem_cons_of_mem r hr'))
      (fun r' hr' => h r' (List.mem_cons_of_mem r hr'))
    refine ⟨indexAction settings r index id :: .obj (r.without settings.hiddenColumns) :: others, ?_⟩
    rw [operationsOf_cons, hentries, hothers]
    rfl

end Sink

end TopicSink
