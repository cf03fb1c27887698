import Mathlib.Data.List.Basic
import Mathlib.Data.List.Induction
import TopicSink.Act

namespace TopicSink

namespace Session

/-- What happens to clients. They are numbered in the order in which they are made. -/
inductive Event where
  | made (n : Nat)
  | used (n : Nat)
  | closed (n : Nat)
deriving DecidableEq

def madeCount (history : List Event) : Nat :=
  history.countP fun | .made _ => true | _ => false

def openClients (history : List Event) : List Nat :=
  history.filterMap fun
    | .made n => if .closed n ∈ history then none else some n
    | _ => none

/-- A history with what a call adds to it. A factory that refuses makes no client. -/
def record (refused : Bool) (history : List Event) : Call → List Event
  | .createClient .. => if refused then history else history ++ [.made (madeCount history)]
  | .bulk n .. | .info n => history ++ [.used n]
  | .closeClient n => history ++ [.closed n]
  | _ => history

theorem madeCount_append (history rest : List Event) :
    madeCount (history ++ rest) = madeCount history + madeCount rest :=
  List.countP_append

theorem openClients_append_used (history : List Event) (n : Nat) :
    openClients (history ++ [.used n]) = openClients history := by
  simp [openClients]

theorem openClients_append_made {history : List Event} {n : Nat} (h : .closed n ∉ history) :
    openClients (history ++ [.made n]) = openClients history ++ [n] := by
  simp [openClients, h]

theorem openClients_append_closed (history : List Event) (n : Nat) :
    openClients (history ++ [.closed n]) = (openClients history).filter (· ≠ n) := by
  unfold openClients
  rw [List.filterMap_append, List.filter_filterMap]
  have hlast : [Event.closed n].filterMap (fun
      | .made m => if .closed m ∈ history ++ [.closed n] then none else some m
      | _ => none) = [] := rfl
  rw [hlast, List.append_nil]
  -- Only the making of `n` is passed over by one of the two and not by the other.
  apply List.filterMap_congr
  intro event _
  cases event with
  | made m =>
    by_cases hm : m = n
    · subst hm
      by_cases hc : Event.closed m ∈ history <;> simp [hc, Option.filter]
    · by_cases hc : Event.closed m ∈ history <;> simp [hm, hc, Option.filter]
  | used m => rfl
  | closed m => rfl

/-- Histories in which a client is made only when none is open, and used or closed only while it is
open; with the number of clients made, and the open one. -/
inductive Orderly : List Event → Nat → Option Nat → Prop
  | fresh : Orderly [] 0 none
  | made {history m} : Orderly history m none → Orderly (history ++ [.made m]) (m + 1) (some m)
  | used {history m n} : Orderly history m (some n) → Orderly (history ++ [.used n]) m (some n)
  | closed {history m n} : Orderly history m (some n) → Orderly (history ++ [.closed n]) m none

variable {history : List Event} {m : Nat} {live : Option Nat}

theorem Orderly.madeCount_eq (h : Orderly history m live) : madeCount history = m := by
  induction h with
  | fresh => rfl
  | made _ ih => rw [madeCount_append, ih]; rfl
  | used _ ih => rw [madeCount_append, ih]; rfl
  | closed _ ih => rw [madeCount_append, ih]; rfl

theorem Orderly.live_lt {n : Nat} (h : Orderly history m live) (hn : live = some n) : n < m := by
  induction h with
  | fresh => contradiction
  | made _ _ =>
    have hm := Option.some.inj hn
    omega
  | used _ ih => exact ih hn
  | closed _ _ => contradiction

theorem Orderly.closed_lt {n : Nat} (h : Orderly history m live) (hn : .closed n ∈ history) :
    n < m := by
  induction h with
  | fresh => contradiction
  | made _ ih =>
    have hlt := ih (by simpa using hn)
    omega
  | used _ ih => exact ih (by simpa using hn)
  | closed hopen ih =>
    rcases List.mem_append.mp hn with hn | hn
    · exact ih hn
    · have hlast := List.mem_singleton.mp hn
      cases hlast
      exact hopen.live_lt rfl

/-- Of an orderly history the open client is the only one that was made and not closed. -/
theorem Orderly.openClients_eq (h : Orderly history m live) : openClients history = live.toList := by
  induction h with
  | fresh => rfl
  | @made history m hnone ih =>
    -- Clients are numbered as they are made, and whichever was closed is older than this one.
    have hm : Event.closed m ∉ history := by
      intro hc
      have hlt := hnone.closed_lt hc
      omega
    rw [openClients_append_made hm, ih]
    rfl
  | used _ ih => rw [openClients_append_used, ih]
  | closed _ ih =>
    rw [openClients_append_closed, ih]
    simp

/-- How an orderly history came to its last event, by what kind of event it is. -/
theorem Orderly.append_inv {event : Event} (h : Orderly (history ++ [event]) m live) :
    (event = .made (m - 1) ∧ Orderly history (m - 1) none ∧ live = some (m - 1)) ∨
      (∃ n, event = .used n ∧ Orderly history m (some n) ∧ live = some n) ∨
        ∃ n, event = .closed n ∧ Orderly history m (some n) ∧ live = none := by
  -- The last event tells by which rule the history is orderly.
  generalize hlong : history ++ [event] = long at h
  cases h with
  | fresh => simp at hlong
  | made hnone =>
    obtain ⟨rfl, hevent⟩ := List.append_inj' hlong rfl
    cases hevent
    exact .inl ⟨rfl, hnone, rfl⟩
  | used hopen =>
    obtain ⟨rfl, hevent⟩ := List.append_inj' hlong rfl
    cases hevent
    exact .inr (.inl ⟨_, rfl, hopen, rfl⟩)
  | closed hopen =>
    obtain ⟨rfl, hevent⟩ := List.append_inj' hlong rfl
    cases hevent
    exact .inr (.inr ⟨_, rfl, hopen, rfl⟩)

/-- Every beginning of an orderly history is orderly. -/
theorem Orderly.beginning {rest : List Event} (h : Orderly (history ++ rest) m live) :
    ∃ m' live', Orderly history m' live' := by
  -- Events are taken off the end, which is where the rules put them.
  induction rest using List.reverseRecOn generalizing m live with
  | nil => exact ⟨m, live, by simpa using h⟩
  | append_singleton rest event ih =>
    rw [← List.append_assoc] at h
    rcases h.append_inv with ⟨-, h, -⟩ | ⟨n, -, h, -⟩ | ⟨n, -, h, -⟩
    · exact ih h
    · exact ih h
    · exact ih h

/-- What is used or closed in an orderly history is the only open client there. -/
theorem Orderly.openClients_of_touched {rest : List Event} {event : Event} {n : Nat}
    (h : Orderly (history ++ event :: rest) m live) (he : event = .used n ∨ event = .closed n) :
    openClients history = [n] := by
  rw [List.append_cons] at h
  obtain ⟨m', live', h⟩ := h.beginning
  rcases h.append_inv with ⟨rfl, -, -⟩ | ⟨k, rfl, hopen, -⟩ | ⟨k, rfl, hopen, -⟩
  · rcases he with he | he
    · cases he
    · cases he
  · rcases he with he | he
    · cases he
      exact hopen.openClients_eq
    · cases he
  · rcases he with he | he
    · cases he
    · cases he
      exact hopen.openClients_eq

def IsUseOf (n : Nat) : Call → Prop
  | .bulk client .. | .info client => client = n
  | _ => False

theorem Orderly.uses {refused : Bool} {n : Nat} {calls : List Call} (h : Orderly history m (some n))
    (hcalls : ∀ call ∈ calls, IsUseOf n call) :
    Orderly (calls.foldl (record refused) history) m (some n) := by
  induction calls generalizing history with
  | nil => exact h
  | cons call calls ih =>
    have hrecord : record refused history call = history ++ [.used n] := by
      have huse : IsUseOf n call := hcalls call List.mem_cons_self
      cases call <;> simp_all [IsUseOf, record]
    rw [List.foldl_cons, hrecord]
    exact ih h.used fun call' hcall' => hcalls call' (List.mem_cons_of_mem call hcall')

end Session

end TopicSink
