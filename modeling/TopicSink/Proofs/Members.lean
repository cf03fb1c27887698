import Mathlib.Tactic.Common
import Mathlib.Tactic.SplitIfs
import TopicSink.Json.Reader

namespace TopicSink

namespace Json

/-- A name that is looked up in vain is the name of no member. -/
theorem lookup_eq_none_iff {name : Text} {members : Members} :
    lookup name members = none ↔ name ∉ members.map Prod.fst := by
  simp only [lookup, Option.map_eq_none_iff, List.find?_eq_none, decide_eq_true_eq, List.mem_map,
    not_exists, not_and]

theorem mem_of_lookup {name : Text} {members : Members} {v : Json}
    (h : lookup name members = some v) : (name, v) ∈ members := by
  unfold lookup at h
  obtain ⟨m, hm, rfl⟩ := Option.map_eq_some_iff.mp h
  have hn : m.1 = name := by simpa using List.find?_some hm
  rw [← hn]
  exact List.mem_of_find?_eq_some hm

/-- Leaving out the members of a name hides that name and no other. -/
theorem lookup_filter_of_ne {name other : Text} (h : name ≠ other) (members : Members) :
    lookup name (members.filter fun m => m.1 ≠ other) = lookup name members := by
  unfold lookup
  rw [List.find?_filter]
  congr 2
  funext m
  by_cases hm : m.1 = name
  · simp [hm, h]
  · simp [hm]

theorem lookup_filter_self (name : Text) (members : Members) :
    lookup name (members.filter fun m => m.1 ≠ name) = none := by
  refine lookup_eq_none_iff.mpr fun hname => ?_
  obtain ⟨m, hm, hsame⟩ := List.mem_map.mp hname
  simpa [hsame] using (List.mem_filter.mp hm).2

theorem mem_insert {name : Text} {v : Json} {members : Members} {m : Text × Json}
    (h : m ∈ insert name v members) : m = (name, v) ∨ m ∈ members := by
  induction members with
  | nil => exact .inl (List.mem_singleton.mp h)
  | cons first members ih =>
    unfold insert at h
    split_ifs at h
    · exact (List.mem_cons.mp h).imp_right (List.mem_cons_of_mem first)
    · rcases List.mem_cons.mp h with rfl | h
      · exact .inr List.mem_cons_self
      · exact (ih h).imp_right (List.mem_cons_of_mem first)

/-- The members of an object are among those that were read. -/
theorem ofMembers_subset (members : Members) :
    ∃ kept, ofMembers members = .obj kept ∧ kept ⊆ members := by
  have hfold : ∀ (rest acc : Members), acc ⊆ members → rest ⊆ members →
      rest.foldl (fun acc m => insert m.1 m.2 acc) acc ⊆ members := by
    intro rest
    induction rest with
    | nil => exact fun acc hacc _ => hacc
    | cons first rest ih =>
      intro acc hacc hrest
      refine ih (insert first.1 first.2 acc) (fun m hm => ?_) (List.subset_of_cons_subset hrest)
      rcases mem_insert hm with rfl | hm
      · exact hrest List.mem_cons_self
      · exact hacc hm
  exact ⟨_, rfl, hfold members [] (List.nil_subset _) (List.Subset.refl _)⟩

theorem writableAll_iff {elements : List Json} :
    writableAll elements = true ↔ ∀ v ∈ elements, v.writable = true := by
  induction elements with
  | nil => simp [writableAll]
  | cons v rest ih => simp [writableAll, ih]

theorem writableMembers_iff {members : Members} :
    writableMembers members = true ↔ ∀ m ∈ members, m.2.writable = true := by
  induction members with
  | nil => simp [writableMembers]
  | cons m rest ih => simp only [writableMembers, Bool.and_eq_true, ih, List.forall_mem_cons]

theorem writable_of_lookup {name : Text} {members : Members} {v : Json}
    (hw : writableMembers members = true) (h : lookup name members = some v) :
    v.writable = true :=
  writableMembers_iff.mp hw (name, v) (mem_of_lookup h)

variable {bare room : Nat}

theorem nestingAll_le_iff {elements : List Json} :
    nestingAll bare elements ≤ room ↔ ∀ v ∈ elements, v.nesting bare ≤ room := by
  induction elements with
  | nil => simp [nestingAll]
  | cons v rest ih => simp only [nestingAll, Nat.max_le, ih, List.forall_mem_cons]

theorem nestingMembers_le_iff {members : Members} :
    nestingMembers bare members ≤ room ↔ ∀ m ∈ members, m.2.nesting bare ≤ room := by
  induction members with
  | nil => simp [nestingMembers]
  | cons m rest ih => simp only [nestingMembers, Nat.max_le, ih, List.forall_mem_cons]

theorem nesting_element {elements : List Json} {v : Json} (h : v ∈ elements) :
    v.nesting bare + 1 ≤ (Json.arr elements).nesting bare := by
  cases elements with
  | nil => cases h
  | cons w rest =>
    exact Nat.succ_le_succ (nestingAll_le_iff.mp (Nat.le_refl (nestingAll bare (w :: rest))) v h)

theorem nesting_member {members : Members} {m : Text × Json} (h : m ∈ members) :
    m.2.nesting bare + 1 ≤ (Json.obj members).nesting bare := by
  cases members with
  | nil => cases h
  | cons k rest =>
    exact Nat.succ_le_succ
      (nestingMembers_le_iff.mp (Nat.le_refl (nestingMembers bare (k :: rest))) m h)

theorem nesting_of_lookup {name : Text} {members : Members} {v : Json}
    (hnesting : nestingMembers bare members ≤ room) (h : lookup name members = some v) :
    v.nesting bare ≤ room :=
  nestingMembers_le_iff.mp hnesting (name, v) (mem_of_lookup h)

theorem nesting_ofMembers_le {members : Members}
    (h : ∀ m ∈ members, m.2.nesting 1 ≤ room) : (ofMembers members).nesting 1 ≤ room + 1 := by
  obtain ⟨kept, hkept, hsubset⟩ := ofMembers_subset members
  have hroom : nestingMembers 1 kept ≤ room :=
    nestingMembers_le_iff.mpr fun m hm => h m (hsubset hm)
  rw [hkept]
  cases kept with
  | nil => exact Nat.le_add_left 1 room
  | cons m kept => exact Nat.succ_le_succ hroom

mutual

theorem nesting_mono {other : Nat} (h : bare ≤ other) :
    (v : Json) → v.nesting bare ≤ v.nesting other
  | .null | .bool _ | .int _ | .float _ | .str _ => Nat.le_refl _
  | .arr [] | .obj [] => h
  | .arr (v :: rest) => by
    have hv := nesting_mono h v
    have hrest := nestingAll_mono h rest
    simp only [nesting]
    omega
  | .obj (m :: rest) => by
    have hm := nesting_mono h m.2
    have hrest := nestingMembers_mono h rest
    simp only [nesting]
    omega

theorem nestingAll_mono {other : Nat} (h : bare ≤ other) :
    (elements : List Json) → nestingAll bare elements ≤ nestingAll other elements
  | [] => Nat.le_refl 0
  | v :: rest => by
    have hv := nesting_mono h v
    have hrest := nestingAll_mono h rest
    simp only [nestingAll]
    omega

theorem nestingMembers_mono {other : Nat} (h : bare ≤ other) :
    (members : Members) → nestingMembers bare members ≤ nestingMembers other members
  | [] => Nat.le_refl 0
  | m :: rest => by
    have hm := nesting_mono h m.2
    have hrest := nestingMembers_mono h rest
    simp only [nestingMembers]
    omega

end

mutual

/-- Nothing keeps a value from being written whose integers are within the limit and which is not
nested more often than there is room for. -/
theorem hindrance_eq_none_iff : {room : Nat} → {v : Json} →
    (v.hindrance bare room = none ↔ v.writable = true ∧ v.nesting bare ≤ room)
  | room, .null | room, .bool _ | room, .float _ | room, .str _ => by
    simp [hindrance, writable, nesting]
  | room, .int i => by simp [hindrance, writable, nesting]
  | room, .arr [] | room, .obj [] => by
    simp [hindrance, writable, writableAll, writableMembers, nesting]
  | 0, .arr (v :: rest) | 0, .obj (m :: rest) => by simp [hindrance, nesting]
  | room + 1, .arr (v :: rest) => by
    simp only [hindrance, writable, writableAll, nesting, Option.or_eq_none_iff,
      hindrance_eq_none_iff, hindranceAll_eq_none_iff, Bool.and_eq_true,
      Nat.succ_le_succ_iff, Nat.max_le]
    exact and_and_and_comm
  | room + 1, .obj (m :: rest) => by
    simp only [hindrance, writable, writableMembers, nesting, Option.or_eq_none_iff,
      hindrance_eq_none_iff, hindranceMembers_eq_none_iff,
      Bool.and_eq_true, Nat.succ_le_succ_iff, Nat.max_le]
    exact and_and_and_comm

theorem hindranceAll_eq_none_iff : {room : Nat} → {elements : List Json} →
    (hindranceAll bare room elements = none ↔
      writableAll elements = true ∧ nestingAll bare elements ≤ room)
  | room, [] => by simp [hindranceAll, writableAll, nestingAll]
  | room, v :: rest => by
    simp only [hindranceAll, writableAll, nestingAll, Option.or_eq_none_iff,
      hindrance_eq_none_iff, hindranceAll_eq_none_iff, Bool.and_eq_true,
      Nat.max_le]
    exact and_and_and_comm

theorem hindranceMembers_eq_none_iff : {room : Nat} → {members : Members} →
    (hindranceMembers bare room members = none ↔
      writableMembers members = true ∧ nestingMembers bare members ≤ room)
  | room, [] => by simp [hindranceMembers, writableMembers, nestingMembers]
  | room, m :: rest => by
    simp only [hindranceMembers, writableMembers, nestingMembers, Option.or_eq_none_iff,
      hindrance_eq_none_iff, hindranceMembers_eq_none_iff,
      Bool.and_eq_true, Nat.max_le]
    exact and_and_and_comm

end

mutual

/-- Where no integer is beyond the limit, only nesting keeps a value from being written. -/
theorem hindrance_ne_numeralTooLong : {room : Nat} → {v : Json} →
    (v.writable = true → v.hindrance bare room ≠ some .numeralTooLong)
  | room, .null | room, .bool _ | room, .float _ | room, .str _ => by simp [hindrance]
  | room, .int i => fun h => by
    rw [writable] at h
    simp [hindrance, h]
  | room, .arr [] | room, .obj [] => by simp [hindrance]
  | 0, .arr (v :: rest) | 0, .obj (m :: rest) => by simp [hindrance]
  | room + 1, .arr (v :: rest) => fun h => by
    simp only [writable, writableAll, Bool.and_eq_true] at h
    simp [hindrance, Option.or_eq_some_iff, hindrance_ne_numeralTooLong h.1,
      hindranceAll_ne_numeralTooLong h.2]
  | room + 1, .obj (m :: rest) => fun h => by
    simp only [writable, writableMembers, Bool.and_eq_true] at h
    simp [hindrance, Option.or_eq_some_iff, hindrance_ne_numeralTooLong h.1,
      hindranceMembers_ne_numeralTooLong h.2]

theorem hindranceAll_ne_numeralTooLong : {room : Nat} → {elements : List Json} →
    (writableAll elements = true → hindranceAll bare room elements ≠ some .numeralTooLong)
  | room, [] => by simp [hindranceAll]
  | room, v :: rest => fun h => by
    simp only [writableAll, Bool.and_eq_true] at h
    simp [hindranceAll, Option.or_eq_some_iff, hindrance_ne_numeralTooLong h.1,
      hindranceAll_ne_numeralTooLong h.2]

theorem hindranceMembers_ne_numeralTooLong : {room : Nat} → {members : Members} →
    (writableMembers members = true → hindranceMembers bare room members ≠ some .numeralTooLong)
  | room, [] => by simp [hindranceMembers]
  | room, m :: rest => fun h => by
    simp only [writableMembers, Bool.and_eq_true] at h
    simp [hindranceMembers, Option.or_eq_some_iff, hindrance_ne_numeralTooLong h.1,
      hindranceMembers_ne_numeralTooLong h.2]

end

end Json

end TopicSink
