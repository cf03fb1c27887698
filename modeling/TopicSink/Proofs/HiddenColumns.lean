import TopicSink.Proofs.Derivations
import TopicSink.Proofs.Loading
import TopicSink.Proofs.Numerals
import TopicSink.Proofs.Segments

namespace TopicSink

namespace Settings

/-- A name is hidden by a text if it is what is left of a segment between commas without the spaces
around it, and is not empty. -/
def Hides (t name : Text) : Prop :=
  name ≠ [] ∧ ∃ segment, Text.IsSegment ',' t segment ∧ Text.HasCore CodePoint.isSpace segment name

theorem mem_splitColumns_iff {t name : Text} : name ∈ splitColumns t ↔ Hides t name := by
  unfold splitColumns Hides
  rw [List.mem_eraseDups, List.mem_filter, List.mem_map]
  simp only [Text.mem_splitOn_iff, Text.trim_eq_iff, Bool.not_eq_true', List.isEmpty_eq_false_iff]
  exact and_comm

instance (t name : Text) : Decidable (Hides t name) :=
  decidable_of_iff ((splitColumns t).contains name = true)
    (List.contains_iff_mem.trans mem_splitColumns_iff)

/-- What is hidden is hidden by one of the segments, whatever their order and however often they
come. -/
theorem hides_iff_of_cut {t name : Text} {segments : List Text}
    (h : Text.IsCutInto ',' t segments) :
    Hides t name ↔
      name ≠ [] ∧ ∃ segment ∈ segments, Text.HasCore CodePoint.isSpace segment name := by
  unfold Hides
  simp only [← Text.mem_splitOn_iff, h.splitOn_eq]

theorem without_splitColumns (r : Record) (t : Text) :
    r.without (splitColumns t) = r.fields.filter fun m => ¬Hides t m.1 := by
  unfold Record.without
  apply List.filter_congr
  intro m _
  simp [← mem_splitColumns_iff]

/-- An empty setting hides nothing, and neither does one that is not given. -/
theorem splitColumns_nonempty? (given : Option Text) :
    splitColumns ((Text.nonempty? given).getD []) = splitColumns (given.getD []) := by
  cases given with
  | none => rfl
  | some t => cases t <;> rfl

theorem hiddenColumns_of_load {w : Surroundings} {memory : Memory} {settings : Settings} {t : Text}
    (hload : (load w memory).outcome = .ok settings)
    (hgiven : LookUp.given w memory "ES_BLACKLISTED_COLUMNS" = some (some t)) :
    settings.hiddenColumns = splitColumns t := by
  obtain ⟨hidden, hhidden, hcolumns⟩ := (LookUp.areGiven_of_load hload).hiddenColumns
  unfold LookUp.given? at hhidden
  rw [hgiven] at hhidden
  have hhidden' : Text.nonempty? (some t) = hidden := Option.some.inj hhidden
  rw [hcolumns, ← hhidden', splitColumns_nonempty?]
  rfl

end Settings

namespace Sink

/-- The setting of hidden columns is honoured from its text to the documents. Each record's document
has the fields of the record that the text does not hide, with their values and in their order.
Another text hides the same if its segments have the same cores, in any order and number, empty ones
apart. -/
theorem documents_hide [Stack] {σ : Type} (w w' : Surroundings) (memory memory' : Memory)
    (settings settings' : Settings) (t t' : Text)
    (hload : (Settings.load w memory).outcome = .ok settings)
    (hgiven : LookUp.given w memory "ES_BLACKLISTED_COLUMNS" = some (some t))
    (records : List Record) (s : σ) (operations : List Json)
    (hbuild : (buildActions settings records s).outcome = .ok operations) :
    operations.length = 2 * records.length ∧
    (∀ i r, records[i]? = some r →
      operations[2 * i + 1]? = some (.obj (r.fields.filter fun m => ¬Settings.Hides t m.1))) ∧
    ((Settings.load w' memory').outcome = .ok settings' →
      LookUp.given w' memory' "ES_BLACKLISTED_COLUMNS" = some (some t') →
      ∀ segments segments', Text.IsCutInto ',' t segments → Text.IsCutInto ',' t' segments' →
        (∀ name ≠ [], (∃ segment ∈ segments, Text.HasCore CodePoint.isSpace segment name) ↔
          ∃ segment ∈ segments', Text.HasCore CodePoint.isSpace segment name) →
        ∀ r : Record, r.without settings'.hiddenColumns = r.without settings.hiddenColumns) := by
  rw [buildActions_outcome] at hbuild
  have hhidden : settings.hiddenColumns = Settings.splitColumns t :=
    Settings.hiddenColumns_of_load hload hgiven
  refine ⟨operationsOf_length hbuild, fun i r hr => ?_, ?_⟩
  · obtain ⟨index, id, -, -, -, hdocument⟩ := operationsOf_getElem? hbuild hr
    rw [hdocument, hhidden, Settings.without_splitColumns]
  · intro hload' hgiven' segments segments' hcut hcut' hcores r
    have hhidden' : settings'.hiddenColumns = Settings.splitColumns t' :=
      Settings.hiddenColumns_of_load hload' hgiven'
    have hsame : ∀ name, Settings.Hides t' name ↔ Settings.Hides t name := by
      intro name
      rw [Settings.hides_iff_of_cut hcut, Settings.hides_iff_of_cut hcut']
      exact and_congr_right fun hname => (hcores name hname).symm
    rw [hhidden, hhidden', Settings.without_splitColumns, Settings.without_splitColumns]
    simp only [hsame]

/-- Two names with padding, an empty segment and a repetition, in the store. -/
def untidyNames : Text := " password ,, ssn,password"

def untidySurroundings : Surroundings :=
  ⟨[("SSM_PARAMETER_PREFIX", "/app")], [("/app/ES_BLACKLISTED_COLUMNS", untidyNames)], [], []⟩

def tidyNames : Text := "ssn,password"

def tidySurroundings : Surroundings := ⟨[("ES_BLACKLISTED_COLUMNS", tidyNames)], [], [], []⟩

theorem documents_hide_password :
    letI := Stack.usual
    let settings : Settings :=
      { Settings.default with hiddenColumns := Settings.splitColumns untidyNames }
    let settings' : Settings :=
      { Settings.default with hiddenColumns := Settings.splitColumns tidyNames }
    let r : Record := ⟨"users", .int 0, .int 7, ⟨⟨2024, 1, 1⟩, 0, 0, 0, 0⟩,
      [("name", .str "a"), ("password", .str "x"), ("", .null), ("ssn", .str "b")]⟩
    (Settings.load untidySurroundings Memory.empty).outcome = .ok settings ∧
      (Settings.load tidySurroundings Memory.empty).outcome = .ok settings' ∧
      r.without settings'.hiddenColumns = r.without settings.hiddenColumns ∧
      ∃ operations, (buildActions settings [r] Connection.initial).outcome = .ok operations ∧
        operations[1]? = some (.obj [("name", .str "a"), ("", .null)]) := by
  let _ : Stack := Stack.usual
  intro settings settings' r
  have hload : (Settings.load untidySurroundings Memory.empty).outcome = .ok settings := rfl
  have hload' : (Settings.load tidySurroundings Memory.empty).outcome = .ok settings' := rfl
  have hcut : Text.IsCutInto ',' untidyNames [" password ", [], " ssn", "password"] :=
    ⟨by decide +kernel, by decide +kernel, List.cons_ne_nil _ _⟩
  have hcut' : Text.IsCutInto ',' tidyNames ["ssn", "password"] :=
    ⟨by decide +kernel, by decide +kernel, List.cons_ne_nil _ _⟩
  have hcores : ∀ name ≠ [],
      (∃ segment ∈ ([" password ", [], " ssn", "password"] : List Text),
        Text.HasCore CodePoint.isSpace segment name) ↔
      ∃ segment ∈ (["ssn", "password"] : List Text),
        Text.HasCore CodePoint.isSpace segment name := by
    intro name hname
    have htrimmed : ([" password ", [], " ssn", "password"] : List Text).map
        (Text.trim CodePoint.isSpace) = (["password", [], "ssn", "password"] : List Text) := by
          decide +kernel
    have htrimmed' : (["ssn", "password"] : List Text).map (Text.trim CodePoint.isSpace) =
        (["ssn", "password"] : List Text) := by decide +kernel
    simp only [← Text.trim_eq_iff, ← List.mem_map, htrimmed, htrimmed']
    simp only [List.mem_cons, List.not_mem_nil, or_false, hname, false_or]
    exact ⟨fun h => h.elim .inr id, .inr⟩
  have hrenderable : ∀ r' ∈ [r], r'.IsRenderable := by
    rw [List.forall_mem_singleton]
    exact Record.isRenderable_of_fits (Numeral.fits_of_fitsWord (by decide))
      (Numeral.fits_of_fitsWord (by decide)) rfl (Nat.zero_le _)
  have hpresent : ∀ r' ∈ [r], missing? settings r' = none := List.forall_mem_singleton.mpr rfl
  obtain ⟨operations, hoperations⟩ := operationsOf_of_present hrenderable hpresent
  have hbuild : (buildActions settings [r] Connection.initial).outcome = .ok operations := by
    rw [buildActions_outcome, hoperations]
  obtain ⟨-, hdocument, hlike⟩ := documents_hide untidySurroundings tidySurroundings
    Memory.empty Memory.empty settings settings' untidyNames tidyNames hload rfl [r]
    Connection.initial operations hbuild
  refine ⟨hload, hload', hlike hload' rfl _ _ hcut hcut' hcores r, operations, hbuild, ?_⟩
  rw [hdocument 0 r rfl]
  rfl

end Sink

end TopicSink
