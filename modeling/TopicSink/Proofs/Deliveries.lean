import Mathlib.Data.List.Perm.Basic
import TopicSink.Proofs.Validation

namespace TopicSink

namespace InsertEvent

theorem atMost_iff {a b : Text} : atMost a b = true ↔ ¬b < a := by
  unfold atMost
  rw [Bool.not_eq_true', decide_eq_false_iff_not]

def byKey (event : InsertEvent) : InsertEvent := event.mergeSort fun a b => atMost a.1 b.1

theorem inOrder_eq (event : InsertEvent) : inOrder event = (byKey event).flatMap Prod.snd := rfl

theorem byKey_perm (event : InsertEvent) : (byKey event).Perm event :=
  List.mergeSort_perm event _

/-- The keys that are sorted ascend strictly, since they are distinct. -/
theorem byKey_pairwise {event : InsertEvent} (hnodup : (event.map Prod.fst).Nodup) :
    (byKey event).Pairwise fun a b => a.1 < b.1 := by
  have hle : (byKey event).Pairwise fun a b => atMost a.1 b.1 = true := by
    apply List.pairwise_mergeSort
    · intro a b c hab hbc
      rw [atMost_iff] at hab hbc ⊢
      exact List.not_lt.mp (List.le_trans (List.not_lt.mp hab) (List.not_lt.mp hbc))
    · intro a b
      rw [Bool.or_eq_true, atMost_iff, atMost_iff, List.not_lt, List.not_lt]
      exact List.le_total a.1 b.1
  -- Sorting leaves equal keys side by side, of which there are none.
  have hne : (byKey event).Pairwise fun a b => a.1 ≠ b.1 := by
    have hsorted : ((byKey event).map Prod.fst).Nodup :=
      ((byKey_perm event).map Prod.fst).nodup_iff.mpr hnodup
    exact List.pairwise_map.mp hsorted
  refine hle.imp₂ ?_ hne
  intro a b hab hab'
  rcases List.le_iff_lt_or_eq.mp (List.not_lt.mp (atMost_iff.mp hab)) with hlt | heq
  · exact hlt
  · exact absurd heq hab'

/-- Sorting forgets the order in which the keys came. -/
theorem byKey_eq_of_perm {event event' : InsertEvent} (hperm : event.Perm event')
    (hnodup : (event.map Prod.fst).Nodup) : byKey event = byKey event' := by
  have hnodup' : (event'.map Prod.fst).Nodup := (hperm.map Prod.fst).nodup_iff.mp hnodup
  have hsorted : (byKey event).Perm (byKey event') :=
    ((byKey_perm event).trans hperm).trans (byKey_perm event').symm
  -- Lists of the same keys that ascend strictly are the same.
  refine List.Perm.eq_of_pairwise ?_ (byKey_pairwise hnodup) (byKey_pairwise hnodup') hsorted
  intro a b _ _ hab hba
  exact absurd hba (List.lt_asymm hab)

/-- The keys of an event's records in ascending order, each with the values under it. -/
def IsArranged (event : Members) (arranged : List (Text × List Json)) : Prop :=
  (arranged.map fun p => (p.1, Json.arr p.2)).Perm (keysOf event) ∧
    arranged.Pairwise fun a b => a.1 < b.1

/-- A key with a list under it is delivered with the messages that the values of the list are
converted to, in their order. -/
def Delivers (convert : Json → Option Message) (k : Text × Json) (held : Text × List Message) : Prop :=
  k.1 = held.1 ∧ ∃ vs, k.2 = .arr vs ∧ List.Forall₂ (fun v m => convert v = some m) vs held.2

variable {convert : Json → Option Message}

theorem exists_lists_of_delivers {keys : Members} {held : InsertEvent}
    (h : List.Forall₂ (Delivers convert) keys held) :
    ∃ lists : List (Text × List Json), keys = lists.map (fun p => (p.1, Json.arr p.2)) ∧
      lists.map Prod.fst = held.map Prod.fst ∧
        List.Forall₂ (fun v m => convert v = some m) (lists.flatMap Prod.snd)
          (held.flatMap Prod.snd) := by
  induction h with
  | nil => exact ⟨[], rfl, rfl, .nil⟩
  | @cons k held keys rest hk _ ih =>
    obtain ⟨lists, rfl, hnames, hmessages⟩ := ih
    obtain ⟨hname, vs, hvs, hms⟩ := hk
    refine ⟨(k.1, vs) :: lists, ?_, ?_, ?_⟩
    · rw [List.map_cons, ← hvs]
    · rw [List.map_cons, List.map_cons, hnames, hname]
    · rw [List.flatMap_cons, List.flatMap_cons]
      exact List.rel_append hms hmessages

theorem names_of_delivers {keys : Members} {held : InsertEvent}
    (h : List.Forall₂ (Delivers convert) keys held) :
    keys.map Prod.fst = held.map Prod.fst := by
  induction h with
  | nil => rfl
  | cons hk _ ih => rw [List.map_cons, List.map_cons, hk.1, ih]

/-- The messages that are delivered are taken key by key, the keys ascending, and under each key as
they were delivered. -/
theorem exists_arranged {event : Members} {checked : InsertEvent}
    (hnodup : ((keysOf event).map Prod.fst).Nodup)
    (h : List.Forall₂ (Delivers convert) (keysOf event) checked) :
    ∃ arranged, IsArranged event arranged ∧
      List.Forall₂ (fun v m => convert v = some m) (arranged.flatMap Prod.snd)
        (inOrder checked) := by
  -- The sort of the messages is carried back to the values that they were read from.
  obtain ⟨keys, hkeys, hperm⟩ := List.perm_comp_forall₂ (byKey_perm checked) h.flip
  obtain ⟨arranged, rfl, hnames, hmessages⟩ := exists_lists_of_delivers hkeys.flip
  refine ⟨arranged, ⟨hperm, ?_⟩, hmessages⟩
  have hchecked : (checked.map Prod.fst).Nodup := by
    rw [← names_of_delivers h]
    exact hnodup
  have hsorted := List.pairwise_map.mpr (byKey_pairwise hchecked)
  rw [← hnames] at hsorted
  exact List.pairwise_map.mp hsorted

def partNames : List Text := ["topic", "partition", "offset", "timestamp", "value"]

/-- Two values that agree in all that a message is read from. -/
def SameMessage (v v' : Json) : Prop :=
  ∃ members members', v = .obj members ∧ v' = .obj members' ∧
    ∀ name ∈ partNames, Json.lookup name members = Json.lookup name members'

def SameMessages (k k' : Text × Json) : Prop :=
  k.1 = k'.1 ∧ ∃ vs vs', k.2 = .arr vs ∧ k'.2 = .arr vs' ∧ List.Forall₂ SameMessage vs vs'

/-- The same keys in any order, each with the same messages. -/
def SameDelivery (keys keys' : Members) : Prop :=
  ∃ middle, keys.Perm middle ∧ List.Forall₂ SameMessages middle keys'

theorem Carries.congr {members members' : Members} {m : Message} (h : Carries members m)
    (hsame : ∀ name ∈ partNames, Json.lookup name members = Json.lookup name members') :
    Carries members' m := by
  have hrequired : ∀ {α : Type} (check : List Text → Json → Checked α) (name : Text) (a : α),
      name ∈ partNames → required check [] members name = .ok a →
        required check [] members' name = .ok a := by
    intro α check name a hname hr
    rw [required_eq_ok_iff] at hr ⊢
    rw [← hsame name hname]
    exact hr
  have hoptional : ∀ {α : Type} (check : List Text → Json → Checked α) (absent : α) (name : Text),
      name ∈ partNames →
        optional check absent [] members' name = optional check absent [] members name := by
    intro α check absent name hname
    unfold optional
    rw [hsame name hname]
  refine ⟨?_, ?_, ?_, ?_, ?_⟩
  · exact hrequired text "topic" m.topic (by decide) h.topic
  · exact hrequired integer "partition" m.partition (by decide) h.partition
  · exact hrequired integer "offset" m.offset (by decide) h.offset
  · rw [hoptional integer 0 "timestamp" (by decide)]
    exact h.timestamp
  · rw [hoptional optionalText none "value" (by decide)]
    exact h.value

theorem Carries.unique {members : Members} {m m' : Message} (h : Carries members m)
    (h' : Carries members m') : m = m' := by
  rcases m with ⟨topic, partition, offset, timestamp, value⟩
  rcases m' with ⟨topic', partition', offset', timestamp', value'⟩
  have htopic := h.topic.symm.trans h'.topic
  have hpartition := h.partition.symm.trans h'.partition
  have hoffset := h.offset.symm.trans h'.offset
  have htimestamp := h.timestamp.symm.trans h'.timestamp
  have hvalue := h.value.symm.trans h'.value
  simp_all

theorem message_eq_of_same {v v' : Json} {m m' : Message} (hsame : SameMessage v v')
    (h : message [] v = .ok m) (h' : message [] v' = .ok m') : m = m' := by
  obtain ⟨members, members', rfl, rfl, hparts⟩ := hsame
  obtain ⟨_, hv, -, hcarries⟩ := message_eq_ok_iff.mp h
  cases hv
  obtain ⟨_, hv', -, hcarries'⟩ := message_eq_ok_iff.mp h'
  cases hv'
  exact (hcarries.congr hparts).unique hcarries'

end InsertEvent

/-- What is expected of a validator beyond the values that it refuses: it keeps the keys and the
lists of an event, converts the messages in them one by one, and looks at nothing in a message but
the members that messages are made of. -/
structure Validator.Converts (validate : Validator) (convert : Json → Option Message) : Prop where
  keeps : ∀ event checked, validate event = .ok checked →
    List.Forall₂ (InsertEvent.Delivers convert) (InsertEvent.keysOf event) checked
  looks : ∀ v v' m m', InsertEvent.SameMessage v v' → convert v = some m → convert v' = some m' →
    m = m'

namespace InsertEvent

def message? (v : Json) : Option Message := (message [] v).toOption

theorem message?_eq_some_iff {v : Json} {m : Message} :
    message? v = some m ↔ message [] v = .ok m := by
  unfold message?
  cases message [] v <;> simp [Except.toOption]

theorem converts_validator : Validator.Converts validator message? := by
  refine ⟨fun event checked h => ?_, fun v v' m m' hsame h h' => ?_⟩
  · refine (forall₂_holds_of_validate (validator_eq_ok_iff.mp h)).imp ?_
    rintro k held ⟨hname, hmessages⟩
    obtain ⟨vs, hvs, hms⟩ := messages_eq_ok_iff.mp hmessages
    exact ⟨hname, vs, hvs, hms.imp fun v m hm => message?_eq_some_iff.mpr hm⟩
  · exact message_eq_of_same hsame (message?_eq_some_iff.mp h) (message?_eq_some_iff.mp h')

variable {validate : Validator} {convert : Json → Option Message}

theorem messages_eq_of_same (hconverts : validate.Converts convert) {vs vs' : List Json}
    {ms ms' : List Message} (hsame : List.Forall₂ SameMessage vs vs')
    (h : List.Forall₂ (fun v m => convert v = some m) vs ms)
    (h' : List.Forall₂ (fun v m => convert v = some m) vs' ms') : ms = ms' := by
  induction hsame generalizing ms ms' with
  | nil => rw [List.forall₂_nil_left_iff.mp h, List.forall₂_nil_left_iff.mp h']
  | cons hv _ ih =>
    obtain ⟨m, rest, hm, hrest, rfl⟩ := List.forall₂_cons_left_iff.mp h
    obtain ⟨m', rest', hm', hrest', rfl⟩ := List.forall₂_cons_left_iff.mp h'
    rw [hconverts.looks _ _ m m' hv hm hm', ih hrest hrest']

/-- The same messages under the same keys are delivered as the same. -/
theorem delivers_eq_of_same (hconverts : validate.Converts convert) {keys keys' : Members}
    {held held' : InsertEvent} (hsame : List.Forall₂ SameMessages keys keys')
    (h : List.Forall₂ (Delivers convert) keys held)
    (h' : List.Forall₂ (Delivers convert) keys' held') : held = held' := by
  induction hsame generalizing held held' with
  | nil => rw [List.forall₂_nil_left_iff.mp h, List.forall₂_nil_left_iff.mp h']
  | @cons k k' keys keys' hk _ ih =>
    obtain ⟨first, rest, hfirst, hrest, rfl⟩ := List.forall₂_cons_left_iff.mp h
    obtain ⟨first', rest', hfirst', hrest', rfl⟩ := List.forall₂_cons_left_iff.mp h'
    obtain ⟨hname, vs, vs', hvs, hvs', hvalues⟩ := hk
    obtain ⟨hkey, ws, hws, hms⟩ := hfirst
    obtain ⟨hkey', ws', hws', hms'⟩ := hfirst'
    have hw : ws = vs := Json.arr.inj (hws.symm.trans hvs)
    have hw' : ws' = vs' := Json.arr.inj (hws'.symm.trans hvs')
    subst hw hw'
    have hsecond : first.2 = first'.2 := messages_eq_of_same hconverts hvalues hms hms'
    rw [ih hrest hrest', Prod.ext ((hkey.symm.trans hname).trans hkey') hsecond]

/-- Two valid events with the same keys, in any order, and the same messages under each are taken in
the same order. -/
theorem inOrder_eq_of_same (hconverts : validate.Converts convert) {event event' : Members}
    {checked checked' : InsertEvent} (hnodup : ((keysOf event).map Prod.fst).Nodup)
    (h : validate event = .ok checked) (h' : validate event' = .ok checked')
    (hsame : SameDelivery (keysOf event) (keysOf event')) : inOrder checked = inOrder checked' := by
  obtain ⟨middle, hperm, hkeys⟩ := hsame
  have hdelivers := hconverts.keeps event checked h
  have hdelivers' := hconverts.keeps event' checked' h'
  obtain ⟨held, hheld, hheldPerm⟩ := List.perm_comp_forall₂ hperm.symm hdelivers
  have hheldEq : held = checked' := delivers_eq_of_same hconverts hkeys hheld hdelivers'
  have hchecked : (checked.map Prod.fst).Nodup := by
    rw [← names_of_delivers hdelivers]
    exact hnodup
  have hpermChecked : checked.Perm checked' := hheldEq ▸ hheldPerm.symm
  rw [inOrder_eq, inOrder_eq, byKey_eq_of_perm hpermChecked hchecked]

end InsertEvent

end TopicSink
