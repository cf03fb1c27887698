import TopicSink.Event.Basic
import TopicSink.Proofs.Outcomes

namespace TopicSink

namespace Checked

variable {α β : Type}

theorem both_eq_ok_iff {x : Checked α} {y : Checked β} {a : α} {b : β} :
    both x y = .ok (a, b) ↔ x = .ok a ∧ y = .ok b := by
  cases x <;> cases y <;> simp [both]

theorem all_eq_ok_iff {xs : List (Checked α)} {as : List α} :
    all xs = .ok as ↔ List.Forall₂ (fun x a => x = .ok a) xs as := by
  induction xs generalizing as with
  | nil =>
    rw [all, List.forall₂_nil_left_iff]
    exact ⟨fun h => (Except.ok.inj h).symm, fun h => h ▸ rfl⟩
  | cons x xs ih =>
    rw [all, List.forall₂_cons_left_iff, map_eq_ok_iff]
    constructor
    · rintro ⟨⟨a, rest⟩, hboth, rfl⟩
      obtain ⟨ha, hrest⟩ := both_eq_ok_iff.mp hboth
      exact ⟨a, rest, ha, ih.mp hrest, rfl⟩
    · rintro ⟨a, rest, ha, hrest, rfl⟩
      exact ⟨(a, rest), both_eq_ok_iff.mpr ⟨ha, ih.mpr hrest⟩, rfl⟩

end Checked

namespace InsertEvent

variable {α : Type}

/-- A check that accepts the same values as the same everywhere in an event. -/
def IgnoresPath (check : List Text → Json → Checked α) : Prop :=
  ∀ p q v a, check p v = .ok a → check q v = .ok a

theorem ignoresPath_text : IgnoresPath text := by
  intro p q v a h
  cases v <;> simp_all [text, flawed]

theorem ignoresPath_optionalText : IgnoresPath optionalText := by
  intro p q v a h
  cases v <;> simp_all [optionalText, text, flawed, Except.map]

/-- Which integers are accepted does not depend on where they stand. -/
theorem ignoresPath_integer : IgnoresPath integer := by
  intro p q v i h
  cases v with
  | null => cases h
  | bool b => exact h
  | int k => exact h
  | float x =>
    unfold integer at h ⊢
    dsimp only at h ⊢
    cases hx : x.truncate with
    | error why => rw [hx] at h; cases h
    | ok k =>
      simp only [hx] at h ⊢
      split_ifs at h ⊢ <;> first | exact h | cases h
  | str t =>
    unfold integer at h ⊢
    dsimp only at h ⊢
    split_ifs at h ⊢ with hs
    · cases h
    · cases hr : EventNumeral.read t with
      | error flaw => rw [hr] at h; cases h
      | ok k => rw [hr] at h; exact h
  | arr elements => cases h
  | obj members => cases h

theorem required_eq_ok_iff {check : List Text → Json → Checked α} {path : List Text}
    {members : Members} {name : Text} {a : α} :
    required check path members name = .ok a ↔
      ∃ v, Json.lookup name members = some v ∧ check (path ++ [name]) v = .ok a := by
  unfold required
  cases Json.lookup name members with
  | none => simp [flawed]
  | some v => simp

theorem optional_eq_ok_iff {check : List Text → Json → Checked α} {path : List Text}
    {members : Members} {name : Text} {absent a : α} :
    optional check absent path members name = .ok a ↔
      (Json.lookup name members = none ∧ absent = a) ∨
        ∃ v, Json.lookup name members = some v ∧ check (path ++ [name]) v = .ok a := by
  unfold optional
  cases Json.lookup name members <;> simp

theorem required_path {check : List Text → Json → Checked α} (hc : IgnoresPath check)
    (p q : List Text) {members : Members} {name : Text} {a : α}
    (h : required check p members name = .ok a) : required check q members name = .ok a := by
  obtain ⟨v, hl, hv⟩ := required_eq_ok_iff.mp h
  exact required_eq_ok_iff.mpr ⟨v, hl, hc _ _ v a hv⟩

theorem optional_path {check : List Text → Json → Checked α} (hc : IgnoresPath check)
    (p q : List Text) {absent : α} {members : Members} {name : Text} {a : α}
    (h : optional check absent p members name = .ok a) :
    optional check absent q members name = .ok a := by
  rcases optional_eq_ok_iff.mp h with hnone | ⟨v, hl, hv⟩
  · exact optional_eq_ok_iff.mpr (.inl hnone)
  · exact optional_eq_ok_iff.mpr (.inr ⟨v, hl, hc _ _ v a hv⟩)

/-- The members of a value carry a message: each of its parts is read from the member of that name.
-/
structure Carries (members : Members) (m : Message) : Prop where
  topic : required text [] members "topic" = .ok m.topic
  partition : required integer [] members "partition" = .ok m.partition
  offset : required integer [] members "offset" = .ok m.offset
  timestamp : optional integer 0 [] members "timestamp" = .ok m.timestamp
  value : optional optionalText none [] members "value" = .ok m.value

theorem wellNamed_eq_ok_iff {path : List Text} {members : Members} {check : Checked α} {a : α} :
    wellNamed path members check = .ok a ↔ surrogateName? members = none ∧ check = .ok a := by
  unfold wellNamed
  cases surrogateName? members <;> simp [flawed]

/-- A value is a message when it is an object, no name in it holds a surrogate, and its members
carry the message. -/
theorem message_eq_ok_iff {path : List Text} {v : Json} {m : Message} :
    message path v = .ok m ↔
      ∃ members, v = .obj members ∧ surrogateName? members = none ∧ Carries members m := by
  cases v with
  | obj members =>
    unfold message
    dsimp only
    rw [wellNamed_eq_ok_iff, map_eq_ok_iff]
    constructor
    · rintro ⟨hnames, ⟨topic, partition, offset, timestamp, value⟩, hparts, rfl⟩
      obtain ⟨htopic, hparts⟩ := Checked.both_eq_ok_iff.mp hparts
      obtain ⟨hpartition, hparts⟩ := Checked.both_eq_ok_iff.mp hparts
      obtain ⟨hoffset, hparts⟩ := Checked.both_eq_ok_iff.mp hparts
      obtain ⟨htimestamp, hvalue⟩ := Checked.both_eq_ok_iff.mp hparts
      exact ⟨members, rfl, hnames, required_path ignoresPath_text path [] htopic,
        required_path ignoresPath_integer path [] hpartition,
        required_path ignoresPath_integer path [] hoffset,
        optional_path ignoresPath_integer path [] htimestamp,
        optional_path ignoresPath_optionalText path [] hvalue⟩
    · rintro ⟨members', hmembers, hnames, h⟩
      cases hmembers
      refine ⟨hnames, (m.topic, m.partition, m.offset, m.timestamp, m.value), ?_, rfl⟩
      rw [Checked.both_eq_ok_iff, Checked.both_eq_ok_iff, Checked.both_eq_ok_iff,
        Checked.both_eq_ok_iff]
      exact ⟨required_path ignoresPath_text [] path h.topic,
        required_path ignoresPath_integer [] path h.partition,
        required_path ignoresPath_integer [] path h.offset,
        optional_path ignoresPath_integer [] path h.timestamp,
        optional_path ignoresPath_optionalText [] path h.value⟩
  | _ => simp [message, flawed]

/-- The messages of a list are those of its elements, in order. -/
theorem messages_eq_ok_iff {path : List Text} {v : Json} {ms : List Message} :
    messages path v = .ok ms ↔
      ∃ vs, v = .arr vs ∧ List.Forall₂ (fun v m => message [] v = .ok m) vs ms := by
  cases v with
  | arr vs =>
    have hpath : ∀ (p : List Text) (v : Json) (m : Message),
        message p v = .ok m ↔ message [] v = .ok m := by
      intro p v m
      rw [message_eq_ok_iff, message_eq_ok_iff]
    -- The count of the elements shows in paths only, so it may start anywhere.
    have hzip : ∀ k, List.Forall₂ (fun (p : Json × Nat) m =>
          message (path ++ [Text.ofNat p.2]) p.1 = .ok m) (vs.zipIdx k) ms ↔
        List.Forall₂ (fun v m => message [] v = .ok m) vs ms := by
      induction vs generalizing ms with
      | nil => simp
      | cons v vs ih =>
        intro k
        rw [List.zipIdx_cons, List.forall₂_cons_left_iff, List.forall₂_cons_left_iff]
        constructor
        · rintro ⟨m, rest, hm, hrest, rfl⟩
          exact ⟨m, rest, (hpath _ v m).mp hm, (ih (k + 1)).mp hrest, rfl⟩
        · rintro ⟨m, rest, hm, hrest, rfl⟩
          exact ⟨m, rest, (hpath _ v m).mpr hm, (ih (k + 1)).mpr hrest, rfl⟩
    unfold messages
    dsimp only
    rw [Checked.all_eq_ok_iff, List.forall₂_map_left_iff, hzip 0]
    simp
  | _ => simp [messages, flawed]

def keysOf (event : Members) : Members :=
  match Json.lookup "records" event with
  | some (.obj keys) => keys
  | _ => []

def Holds (k : Text × Json) (held : Text × List Message) : Prop :=
  k.1 = held.1 ∧ messages [] k.2 = .ok held.2

/-- A valid event holds the messages of the values under its keys, key by key. -/
theorem forall₂_holds_of_validate {event : Members} {checked : InsertEvent}
    (h : validate event = .ok checked) : List.Forall₂ Holds (keysOf event) checked := by
  obtain ⟨-, h⟩ := wellNamed_eq_ok_iff.mp h
  unfold records at h
  unfold keysOf
  cases hl : Json.lookup "records" event with
  | none =>
    rw [hl] at h
    rw [← Except.ok.inj h]
    exact .nil
  | some v =>
    rw [hl] at h
    cases v with
    | obj keys =>
      dsimp only at h ⊢
      rw [Checked.all_eq_ok_iff, List.forall₂_map_left_iff] at h
      apply h.imp
      intro k held hk
      obtain ⟨ms, hms, hheld⟩ := map_eq_ok_iff.mp hk
      rw [← hheld]
      refine ⟨rfl, ?_⟩
      rw [messages_eq_ok_iff] at hms ⊢
      exact hms
    | _ => cases h

theorem validator_eq_ok_iff {event : Members} {checked : InsertEvent} :
    validator event = .ok checked ↔ validate event = .ok checked := by
  unfold validator
  cases validate event <;> simp [Except.mapError]

end InsertEvent

end TopicSink
