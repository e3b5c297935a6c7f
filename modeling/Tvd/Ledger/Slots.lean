import Mathlib.Data.Set.Insert
import Mathlib.Data.List.Basic

/-! Bookkeeping of what is taken and given back. A history of moves leaves a set
outstanding; a table of slots, each with a key, records a set of holdings. Keys
may repeat as long as only the first slot of a key holds anything, which lookups by
the first match keep. -/

namespace Ledger

/-! ### Histories -/

/-- Taking something, or giving it back. -/
inductive Move (α : Type) where
  | take (a : α)
  | drop (a : α)

variable {α : Type}

/-- What was taken and not given back since. Histories are newest first. -/
def outstanding : List (Move α) → Set α
  | [] => ∅
  | .take a :: moves => insert a (outstanding moves)
  | .drop a :: moves => outstanding moves \ {a}

@[simp] theorem outstanding_nil : outstanding ([] : List (Move α)) = ∅ := rfl

@[simp] theorem outstanding_take (a : α) (moves : List (Move α)) :
    outstanding (.take a :: moves) = insert a (outstanding moves) := rfl

@[simp] theorem outstanding_drop (a : α) (moves : List (Move α)) :
    outstanding (.drop a :: moves) = outstanding moves \ {a} := rfl

/-! ### Slots -/

structure Slot (κ ρ : Type) where
  key : κ
  held : Option ρ

variable {κ ρ : Type}

/-- What one slot holds. -/
def Slot.pairs (slot : Slot κ ρ) : Set (κ × ρ) := {p | slot.key = p.1 ∧ slot.held = some p.2}

/-- What the slots of a table hold. -/
def holdings (table : List (Slot κ ρ)) : Set (κ × ρ) := {p | ∃ slot ∈ table, p ∈ slot.pairs}

/-- Only the first slot of a key holds anything. -/
def Exclusive (table : List (Slot κ ρ)) : Prop :=
  table.Pairwise fun a b => a.key = b.key → b.held = none

@[simp] theorem Slot.pairs_none (key : κ) : (⟨key, none⟩ : Slot κ ρ).pairs = ∅ := by
  ext p
  simp [pairs]

@[simp] theorem Slot.pairs_some (key : κ) (r : ρ) : (⟨key, some r⟩ : Slot κ ρ).pairs = {(key, r)} := by
  ext ⟨k, q⟩
  simp [pairs, eq_comm]

@[simp] theorem holdings_nil : holdings ([] : List (Slot κ ρ)) = ∅ := by
  ext p
  simp [holdings]

theorem holdings_cons (slot : Slot κ ρ) (table : List (Slot κ ρ)) :
    holdings (slot :: table) = slot.pairs ∪ holdings table := by
  ext p
  simp [holdings]

theorem holdings_append (table more : List (Slot κ ρ)) :
    holdings (table ++ more) = holdings table ∪ holdings more := by
  ext p
  simp [holdings, or_and_right, exists_or]

theorem holdings_eq_empty {table : List (Slot κ ρ)} :
    holdings table = ∅ ↔ ∀ slot ∈ table, slot.held = none := by
  constructor
  · intro h slot hslot
    by_contra hne
    obtain ⟨r, hr⟩ := Option.ne_none_iff_exists'.mp hne
    have hmem : (slot.key, r) ∈ holdings table := ⟨slot, hslot, rfl, hr⟩
    rw [h] at hmem
    exact hmem
  · intro h
    ext p
    constructor
    · rintro ⟨slot, hslot, -, hheld⟩
      rw [h slot hslot] at hheld
      cases hheld
    · intro hp
      cases hp

/-! ### Lookups by the first match -/

/-- The slot at `i` is the first of its key. -/
def IsFirst (table : List (Slot κ ρ)) (i : ℕ) (h : i < table.length) : Prop :=
  ∀ j (hj : j < i), table[j].key ≠ table[i].key

variable {table : List (Slot κ ρ)} {i : ℕ} {h : i < table.length}

/-- Of the slots with the key of a first slot, only that slot holds anything. -/
theorem Exclusive.eq_of_held (hexcl : Exclusive table) (hfirst : IsFirst table i h) {j : ℕ}
    (hj : j < table.length) (hkey : table[j].key = table[i].key) (hheld : table[j].held ≠ none) :
    j = i := by
  rcases Nat.lt_trichotomy j i with hlt | heq | hgt
  · exact absurd hkey (hfirst j hlt)
  · exact heq
  · exact absurd (List.pairwise_iff_getElem.mp hexcl i j h hj hgt hkey.symm) hheld

/-- What is recorded for the key of a first slot is what that slot holds. -/
theorem Exclusive.mem_pairs (hexcl : Exclusive table) (hfirst : IsFirst table i h) {p : κ × ρ}
    (hp : p ∈ holdings table) (hkey : p.1 = table[i].key) : p ∈ table[i].pairs := by
  obtain ⟨slot, hslot, hslotKey, hheld⟩ := hp
  obtain ⟨j, hj, rfl⟩ := List.getElem_of_mem hslot
  obtain rfl := hexcl.eq_of_held hfirst hj (hslotKey.trans hkey)
    (by rw [hheld]; exact Option.some_ne_none _)
  exact ⟨hslotKey, hheld⟩

/-- Behind a slot nothing is held for its key. -/
theorem Exclusive.key_ne {slot : Slot κ ρ} (hexcl : Exclusive (slot :: table)) {p : κ × ρ}
    (hp : p ∈ holdings table) : p.1 ≠ slot.key := by
  obtain ⟨other, hother, hkey, hheld⟩ := hp
  intro heq
  have hnone := (List.pairwise_cons.mp hexcl).1 other hother (heq.symm.trans hkey.symm)
  rw [hheld] at hnone
  cases hnone

/-- Removing a first slot removes what it holds. -/
theorem holdings_eraseIdx (hexcl : Exclusive table) (hfirst : IsFirst table i h) :
    holdings (table.eraseIdx i) = holdings table \ table[i].pairs := by
  ext p
  constructor
  · rintro ⟨slot, hslot, hkey, hheld⟩
    obtain ⟨j, hj, hne, rfl⟩ := List.mem_eraseIdx_iff_getElem.mp hslot
    refine ⟨⟨_, List.getElem_mem hj, hkey, hheld⟩, fun hp => hne ?_⟩
    exact hexcl.eq_of_held hfirst hj (hkey.trans hp.1.symm) (by rw [hheld]; exact Option.some_ne_none _)
  · rintro ⟨⟨slot, hslot, hp⟩, hnot⟩
    obtain ⟨j, hj, rfl⟩ := List.getElem_of_mem hslot
    refine ⟨table[j], List.mem_eraseIdx_iff_getElem.mpr ⟨j, hj, fun heq => hnot ?_, rfl⟩, hp⟩
    subst heq
    exact hp

/-- Storing into a first slot replaces what it holds. -/
theorem holdings_set (hexcl : Exclusive table) (hfirst : IsFirst table i h) (slot : Slot κ ρ) :
    holdings (table.set i slot) = holdings table \ table[i].pairs ∪ slot.pairs := by
  ext p
  constructor
  · rintro ⟨other, hother, hp⟩
    obtain ⟨j, hj, rfl⟩ := List.getElem_of_mem hother
    rw [List.length_set] at hj
    rw [List.getElem_set] at hp
    by_cases hij : i = j
    · rw [if_pos hij] at hp
      exact .inr hp
    · rw [if_neg hij] at hp
      refine .inl ⟨⟨_, List.getElem_mem hj, hp⟩, fun hpi => hij ?_⟩
      exact (hexcl.eq_of_held hfirst hj (hp.1.trans hpi.1.symm)
        (by rw [hp.2]; exact Option.some_ne_none _)).symm
  · rintro (⟨⟨other, hother, hp⟩, hnot⟩ | hp)
    · obtain ⟨j, hj, rfl⟩ := List.getElem_of_mem hother
      have hij : i ≠ j := by
        rintro rfl
        exact hnot hp
      have hj' : j < (table.set i slot).length := by rwa [List.length_set]
      refine ⟨(table.set i slot)[j], List.getElem_mem hj', ?_⟩
      rwa [List.getElem_set_ne hij]
    · exact ⟨slot, List.mem_set h slot, hp⟩

theorem Exclusive.eraseIdx (hexcl : Exclusive table) (i : ℕ) : Exclusive (table.eraseIdx i) :=
  hexcl.sublist (List.eraseIdx_sublist ..)

theorem Exclusive.append_idle (hexcl : Exclusive table) (key : κ) :
    Exclusive (table ++ [⟨key, none⟩]) := by
  refine List.pairwise_append.mpr ⟨hexcl, List.pairwise_singleton _ _, fun a _ b hb _ => ?_⟩
  rw [List.mem_singleton.mp hb]

theorem Exclusive.set (hexcl : Exclusive table) (hfirst : IsFirst table i h) {slot : Slot κ ρ}
    (hkey : slot.key = table[i].key) : Exclusive (table.set i slot) := by
  refine List.pairwise_iff_getElem.mpr fun j k hj hk hjk hkeys => ?_
  rw [List.length_set] at hj hk
  have hpair := List.pairwise_iff_getElem.mp hexcl j k hj hk hjk
  rw [List.getElem_set, List.getElem_set] at hkeys
  rw [List.getElem_set]
  by_cases hik : i = k
  · subst hik
    rw [if_neg (by omega), if_pos rfl, hkey] at hkeys
    exact absurd hkeys (hfirst j hjk)
  · rw [if_neg hik]
    rw [if_neg hik] at hkeys
    apply hpair
    by_cases hij : i = j
    · subst hij
      rw [if_pos rfl, hkey] at hkeys
      exact hkeys
    · rwa [if_neg hij] at hkeys

end Ledger
