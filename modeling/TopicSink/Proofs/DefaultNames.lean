import TopicSink.Proofs.Derivations
import TopicSink.Proofs.Separators

namespace TopicSink

namespace Text

theorem coordinates_inj {topic topic' : Text} {partition partition' offset offset' : Int} :
    topic ++ ":" ++ ofInt partition ++ ":" ++ ofInt offset =
        topic' ++ ":" ++ ofInt partition' ++ ":" ++ ofInt offset' ↔
      topic = topic' ∧ partition = partition' ∧ offset = offset' := by
  have hcolon : (":" : Text) = [CodePoint.ofChar ':'] := rfl
  have hsep : ∀ i, CodePoint.ofChar ':' ∉ ofInt i := not_mem_ofInt (by decide) (by decide)
  -- The offset comes off first and the partition after it. What is left is the topic, colons and all.
  rw [hcolon, append_separator_inj (hsep _) (hsep _), append_separator_inj (hsep _) (hsep _),
    ofInt_injective.eq_iff, ofInt_injective.eq_iff, and_assoc]

/-- A year without a sign in front of it, a month and a day hold no hyphen. -/
theorem topic_day_inj {topic topic' : Text} {date date' : Date} (h : 0 ≤ date.year)
    (h' : 0 ≤ date'.year) :
    topic ++ "-" ++ date.render = topic' ++ "-" ++ date'.render ↔
      topic = topic' ∧ date = date' := by
  have hhyphen : ("-" : Text) = [CodePoint.ofChar '-'] := rfl
  have hdigit : (CodePoint.ofChar '-').isDigit = false := by decide
  have hyear : ∀ d : Date, 0 ≤ d.year → CodePoint.ofChar '-' ∉ ofInt d.year := by
    intro d hd
    rw [ofInt_of_nonneg hd]
    exact not_mem_ofNat hdigit _
  have hpart : ∀ n, CodePoint.ofChar '-' ∉ padded 2 n := not_mem_padded hdigit 2
  have hflat : ∀ (t : Text) (d : Date), t ++ "-" ++ d.render =
      t ++ [CodePoint.ofChar '-'] ++ ofInt d.year ++ [CodePoint.ofChar '-'] ++ padded 2 d.month ++
        [CodePoint.ofChar '-'] ++ padded 2 d.day := by
    intro t d
    rw [Date.render, hhyphen]
    simp only [List.append_assoc]
  -- Day and month have two digits, but the year has one to four: its end in front is found by the
  -- hyphen alone, and that is why the year must not hold one.
  rw [hflat, hflat, append_separator_inj (hpart _) (hpart _),
    append_separator_inj (hpart _) (hpart _), append_separator_inj (hyear _ h) (hyear _ h'),
    ofInt_injective.eq_iff, (padded_injective 2).eq_iff, (padded_injective 2).eq_iff,
    and_assoc, and_assoc]
  cases date
  cases date'
  simp only [Date.mk.injEq]

end Text

namespace Record

/-- The partition and the offset of a record are integers that can be written. -/
structure IsPlaced (r : Record) : Prop where
  partition : ∃ i, r.partition = .int i ∧ Numeral.fits i = true
  offset : ∃ i, r.offset = .int i ∧ Numeral.fits i = true

def place (r : Record) : Text × Json × Json := (r.topic, r.partition, r.offset)

variable [Stack]

theorem id_of_placed {r : Record} (h : r.IsPlaced) :
    ∃ partition offset, r.place = (r.topic, .int partition, .int offset) ∧
      r.id = .ok (r.topic ++ ":" ++ Text.ofInt partition ++ ":" ++ Text.ofInt offset) := by
  obtain ⟨⟨partition, hpartition, hfits⟩, offset, hoffset, hfits'⟩ := h
  refine ⟨partition, offset, ?_, ?_⟩
  · rw [place, hpartition, hoffset]
  · rw [id, hpartition, hoffset, text_int hfits, text_int hfits']
    rfl

/-- The ids of two records are equal when they stand at the same place. -/
theorem id_eq_iff_place {r r' : Record} (h : r.IsPlaced) (h' : r'.IsPlaced) :
    ∃ id id', r.id = .ok id ∧ r'.id = .ok id' ∧ (id = id' ↔ r.place = r'.place) := by
  obtain ⟨partition, offset, hplace, hid⟩ := id_of_placed h
  obtain ⟨partition', offset', hplace', hid'⟩ := id_of_placed h'
  refine ⟨_, _, hid, hid', ?_⟩
  rw [Text.coordinates_inj, hplace, hplace', Prod.mk.injEq, Prod.mk.injEq, Json.int.injEq,
    Json.int.injEq]

end Record

namespace Sink

def idIn (action : Json) : Option Json :=
  (Json.member? "index" action).bind (Json.member? "_id")

/-- The document ids of a bulk request, in which every other operation is an index action. -/
def idsIn : List Json → List (Option Json)
  | action :: _ :: rest => idIn action :: idsIn rest
  | _ => []

theorem idIn_indexAction (settings : Settings) (r : Record) (index id : Text) :
    idIn (indexAction settings r index id) = some (.str id) := by
  -- The id stands in front of the type, which is there or not.
  unfold indexAction
  cases settings.includeDocType <;> rfl

variable [Stack]

/-- The document ids of a batch are those of its records, in order. -/
theorem idsIn_operationsOf {settings : Settings} {records : List Record} {operations : List Json}
    (h : operationsOf settings records = .ok operations) :
    ∃ ids : List Text, List.Forall₂ (fun r id => idOf settings r = .ok id) records ids ∧
      idsIn operations = ids.map fun id => some (.str id) := by
  obtain ⟨entries, hentries, rfl⟩ := operationsOf_eq_ok_iff.mp h
  clear h
  induction hentries with
  | nil => exact ⟨[], .nil, rfl⟩
  | @cons r first rest entries hfirst _ ih =>
    obtain ⟨index, id, -, hid, rfl⟩ := entriesOf_eq_ok_iff.mp hfirst
    obtain ⟨ids, hids, heq⟩ := ih
    refine ⟨id :: ids, .cons hid hids, ?_⟩
    rw [List.map_cons, ← heq, ← idIn_indexAction settings r index id]
    rfl

/-- Default document ids never collide. Two records have one id only where they stand at the same
place, also if their topics look like places themselves; and in a bulk request for records at
distinct places, all document ids are distinct. -/
theorem default_ids_distinct :
    (∀ r r' : Record, r.IsPlaced → r'.IsPlaced →
      ∃ id id', r.id = .ok id ∧ r'.id = .ok id' ∧
        (id = id' ↔ r.topic = r'.topic ∧ r.partition = r'.partition ∧ r.offset = r'.offset)) ∧
    ∀ (settings : Settings) (records : List Record) (operations : List Json) (c : Connection),
      Text.nonempty? settings.docIdColumn = none → (∀ r ∈ records, r.IsPlaced) →
        (records.map fun r => (r.topic, r.partition, r.offset)).Nodup →
          (buildActions settings records c).outcome = .ok operations →
            ∃ ids : List Text, idsIn operations = ids.map (fun id => some (.str id)) ∧
              ids.length = records.length ∧ ids.Nodup := by
  constructor
  · intro r r' h h'
    obtain ⟨id, id', hid, hid', hiff⟩ := Record.id_eq_iff_place h h'
    refine ⟨id, id', hid, hid', ?_⟩
    rw [hiff, Record.place, Record.place, Prod.mk.injEq, Prod.mk.injEq]
  · intro settings records operations c hdefault hplaced hdistinct hbuild
    rw [buildActions_outcome] at hbuild
    obtain ⟨ids, hids, heq⟩ := idsIn_operationsOf hbuild
    refine ⟨ids, heq, hids.length_eq.symm, ?_⟩
    -- It remains that records of the batch with one id stand at one place.
    apply nodup_of_forall₂ hids Record.place _ hdistinct
    intro r hr r' hr' id hid hid'
    have hown : ∀ r, idOf settings r = r.id := by
      intro r
      rw [idOf, hdefault]
    obtain ⟨own, own', hown₁, hown₂, hiff⟩ :=
      Record.id_eq_iff_place (hplaced r hr) (hplaced r' hr')
    rw [hown, hown₁] at hid
    rw [hown, hown₂] at hid'
    exact hiff.mp ((Except.ok.inj hid).trans (Except.ok.inj hid').symm)

omit [Stack] in
/-- A topic that ends as a partition and an offset do. -/
theorem default_ids_distinct_colon :
    letI := Stack.usual
    let time : Instant := ⟨⟨2024, 1, 1⟩, 0, 0, 0, 0⟩
    let first : Record := ⟨"orders:1", .int (-2), .int 3, time, []⟩
    let second : Record := ⟨"orders", .int 1, .int (-2), time, []⟩
    first.IsPlaced ∧ second.IsPlaced ∧
      (∃ id id', first.id = .ok id ∧ second.id = .ok id' ∧ id ≠ id') ∧
      ∃ operations ids, (buildActions Settings.default [first, second] Connection.initial).outcome =
          .ok operations ∧
        idsIn operations = List.map (fun id => some (.str id)) ids ∧ ids.length = 2 ∧ ids.Nodup := by
  let _ : Stack := Stack.usual
  intro time first second
  have hfits : ∀ i : Int, InsertEvent.fitsWord i = true → Numeral.fits i = true :=
    fun i hi => Numeral.fits_of_fitsWord hi
  have hfirst : first.IsPlaced := ⟨⟨-2, rfl, hfits _ (by decide)⟩, 3, rfl, hfits _ (by decide)⟩
  have hsecond : second.IsPlaced := ⟨⟨1, rfl, hfits _ (by decide)⟩, -2, rfl, hfits _ (by decide)⟩
  have hplaced : ∀ r ∈ [first, second], r.IsPlaced := by
    intro r hr
    rcases List.mem_pair.mp hr with rfl | rfl
    · exact hfirst
    · exact hsecond
  have htopic : first.topic ≠ second.topic := by decide
  have hdistinct : ([first, second].map fun r => (r.topic, r.partition, r.offset)).Nodup := by
    simp [htopic]
  obtain ⟨operations, hoperations⟩ : ∃ operations,
      operationsOf Settings.default [first, second] = .ok operations := by
    apply operationsOf_of_present
    · intro r hr
      obtain ⟨⟨i, hi, hifits⟩, j, hj, hjfits⟩ := hplaced r hr
      refine ⟨?_, ?_, ?_⟩
      · rw [hi]
        exact ⟨hifits, Nat.zero_le _⟩
      · rw [hj]
        exact ⟨hjfits, Nat.zero_le _⟩
      · rcases List.mem_pair.mp hr with rfl | rfl <;> exact ⟨rfl, Nat.zero_le _⟩
    · exact fun _ _ => rfl
  have hbuild : (buildActions Settings.default [first, second] Connection.initial).outcome =
      .ok operations := by rw [buildActions_outcome, hoperations]
  obtain ⟨id, id', hid, hid', hiff⟩ := default_ids_distinct.1 first second hfirst hsecond
  obtain ⟨ids, hids, hlength, hnodup⟩ := default_ids_distinct.2 Settings.default [first, second]
    operations Connection.initial rfl hplaced hdistinct hbuild
  exact ⟨hfirst, hsecond, ⟨id, id', hid, hid', fun heq => htopic (hiff.mp heq).1⟩, operations, ids,
    hbuild, hids, hlength, hnodup⟩

/-- Default index names separate topics and days: two records go to one index when their topics are
the same and their dates are, whatever hyphens and digits stand in the topics. -/
theorem default_indexes_separate (settings : Settings)
    (hindex : Text.nonempty? settings.index = none)
    (hcolumn : Text.nonempty? settings.indexColumn = none) (r r' : Record)
    (hr : 1 ≤ r.time.date.year ∧ r.time.date.year ≤ 9999)
    (hr' : 1 ≤ r'.time.date.year ∧ r'.time.date.year ≤ 9999) (c : Connection) :
    ∃ name name', (indexName settings r c).outcome = .ok name ∧
      (indexName settings r' c).outcome = .ok name' ∧
        (name = name' ↔ r.topic = r'.topic ∧ r.time.date = r'.time.date) := by
  -- No day is too early or too late to be written, so the name is there in any case.
  have hname : ∀ r : Record, indexOf settings r = .ok (r.topic ++ "-" ++ r.time.date.render) := by
    intro r
    rw [indexOf, hindex, hcolumn]
    rfl
  refine ⟨_, _, ?_, ?_, Text.topic_day_inj (by omega) (by omega)⟩
  · rw [indexName_outcome, hname]
  · rw [indexName_outcome, hname]

omit [Stack] in
/-- A topic that ends in the digit with which the other record's year begins. -/
theorem default_indexes_separate_short_year :
    letI := Stack.usual
    let first : Record := ⟨"a-2", .int 0, .int 0, ⟨⟨24, 1, 1⟩, 0, 0, 0, 0⟩, []⟩
    let second : Record := ⟨"a", .int 0, .int 0, ⟨⟨224, 1, 1⟩, 0, 0, 0, 0⟩, []⟩
    ∃ name name', (indexName Settings.default first Connection.initial).outcome = .ok name ∧
      (indexName Settings.default second Connection.initial).outcome = .ok name' ∧
        name ≠ name' := by
  let _ : Stack := Stack.usual
  intro first second
  obtain ⟨name, name', hname, hname', hiff⟩ := default_indexes_separate Settings.default rfl rfl
    first second (by decide) (by decide) Connection.initial
  refine ⟨name, name', hname, hname', fun heq => ?_⟩
  have htopic : first.topic ≠ second.topic := by decide
  exact htopic (hiff.mp heq).1

end Sink

end TopicSink
