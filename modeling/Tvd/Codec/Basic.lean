import Mathlib.Algebra.Ring.Nat
import Mathlib.Data.List.TakeWhile
import Mathlib.Logic.Equiv.Defs

/-! Prefix codes over bytes. A `Codec` carries the proof that what it writes can
be read back in front of any further bytes, and that whatever it reads is what it
would have written, so codecs compose without side conditions: in sequence,
repeated a fixed number of times, and repeated behind a count. -/

/-- A way to write values as bytes, and to read one value off a byte string. -/
structure Codec (α : Type) where
  encode : α → List UInt8
  decode : List UInt8 → Option (α × List UInt8)
  decode_encode : ∀ a rest, decode (encode a ++ rest) = some (a, rest)
  encode_decode : ∀ bs a rest, decode bs = some (a, rest) → bs = encode a ++ rest

namespace Codec

variable {α β : Type}

/-- Exactly the encodings of `a` decode to `a` with nothing left over. -/
theorem decode_eq_iff (c : Codec α) {bs : List UInt8} {a : α} :
    c.decode bs = some (a, []) ↔ bs = c.encode a := by
  constructor
  · intro h
    simpa using c.encode_decode bs a [] h
  · rintro rfl
    simpa using c.decode_encode a []

/-! ### Sequencing -/

/-- One value after the other. -/
def pair (c : Codec α) (d : Codec β) : Codec (α × β) where
  encode v := c.encode v.1 ++ d.encode v.2
  decode bs := do
    let (a, bs) ← c.decode bs
    let (b, bs) ← d.decode bs
    return ((a, b), bs)
  decode_encode v rest := by
    rw [List.append_assoc, c.decode_encode]
    simp [d.decode_encode]
  encode_decode bs v rest h := by
    simp only [Option.bind_eq_bind, Option.bind_eq_some_iff, Option.pure_def, Option.some.injEq,
      Prod.mk.injEq] at h
    obtain ⟨⟨a, as⟩, ha, ⟨b, bs'⟩, hb, rfl, rfl⟩ := h
    dsimp only at hb ⊢
    rw [c.encode_decode _ _ _ ha, d.encode_decode _ _ _ hb, List.append_assoc]

@[simp] theorem pair_encode (c : Codec α) (d : Codec β) (v : α × β) :
    (c.pair d).encode v = c.encode v.1 ++ d.encode v.2 := rfl

/-- The same bytes read as an equivalent type. -/
def equiv (c : Codec α) (e : α ≃ β) : Codec β where
  encode b := c.encode (e.symm b)
  decode bs := (c.decode bs).map fun v => (e v.1, v.2)
  decode_encode b rest := by simp [c.decode_encode]
  encode_decode bs b rest h := by
    rw [Option.map_eq_some_iff] at h
    obtain ⟨⟨a, r⟩, ha, hr⟩ := h
    cases hr
    simpa using c.encode_decode _ _ _ ha

@[simp] theorem equiv_encode (c : Codec α) (e : α ≃ β) (b : β) :
    (c.equiv e).encode b = c.encode (e.symm b) := rfl

/-! ### Repetition -/

/-- All values of a list, one after the other. -/
def encodeAll (c : Codec α) (l : List α) : List UInt8 := l.flatMap c.encode

/-- Read the given number of values. -/
def decodeAll (c : Codec α) : ℕ → List UInt8 → Option (List α × List UInt8)
  | 0, bs => some ([], bs)
  | n + 1, bs => do
    let (a, bs) ← c.decode bs
    let (l, bs) ← c.decodeAll n bs
    return (a :: l, bs)

@[simp] theorem encodeAll_nil (c : Codec α) : c.encodeAll [] = [] := rfl

@[simp] theorem encodeAll_cons (c : Codec α) (a : α) (l : List α) :
    c.encodeAll (a :: l) = c.encode a ++ c.encodeAll l := rfl

theorem encodeAll_append (c : Codec α) (l m : List α) :
    c.encodeAll (l ++ m) = c.encodeAll l ++ c.encodeAll m := List.flatMap_append

/-- The values in front, index by index. -/
theorem encodeAll_take (c : Codec α) (l : List α) (n : ℕ) : c.encodeAll (l.take n) =
    (List.range n).flatMap fun idx => c.encodeAll l[idx]?.toList := by
  induction n with
  | zero => rfl
  | succ n ih =>
    rw [List.take_add_one, encodeAll_append, ih, List.range_succ, List.flatMap_append,
      List.flatMap_singleton]

theorem length_encodeAll (c : Codec α) (l : List α) :
    (c.encodeAll l).length = (l.map fun a => (c.encode a).length).sum := List.length_flatMap

theorem decodeAll_encodeAll (c : Codec α) (l : List α) (rest : List UInt8) :
    c.decodeAll l.length (c.encodeAll l ++ rest) = some (l, rest) := by
  induction l with
  | nil => rfl
  | cons a l ih => simp [decodeAll, c.decode_encode, ih]

theorem encodeAll_decodeAll (c : Codec α) (n : ℕ) (bs : List UInt8) (l : List α)
    (rest : List UInt8) (h : c.decodeAll n bs = some (l, rest)) :
    l.length = n ∧ bs = c.encodeAll l ++ rest := by
  induction n generalizing bs l with
  | zero =>
    simp only [decodeAll, Option.some.injEq, Prod.mk.injEq] at h
    obtain ⟨rfl, rfl⟩ := h
    exact ⟨rfl, rfl⟩
  | succ n ih =>
    simp only [decodeAll, Option.bind_eq_bind, Option.bind_eq_some_iff, Option.pure_def,
      Option.some.injEq, Prod.mk.injEq] at h
    obtain ⟨⟨a, as⟩, ha, ⟨m, ms⟩, hm, rfl, rfl⟩ := h
    dsimp only at hm ⊢
    obtain ⟨hlen, has⟩ := ih _ _ hm
    refine ⟨by simp [hlen], ?_⟩
    rw [c.encode_decode _ _ _ ha, has, encodeAll_cons, List.append_assoc]

/-- A list whose length fits the 32-bit count in front of it. -/
abbrev Counted (α : Type) := {l : List α // l.length < 2 ^ 32}

/-- A 32-bit count, then that many values. -/
def counted (c : Codec α) (word : Codec UInt32) : Codec (Counted α) where
  encode l := word.encode (UInt32.ofNat l.val.length) ++ c.encodeAll l.val
  decode bs := do
    let (n, bs) ← word.decode bs
    let (l, bs) ← c.decodeAll n.toNat bs
    if h : l.length < 2 ^ 32 then some (⟨l, h⟩, bs) else none
  decode_encode l rest := by
    obtain ⟨l, hl⟩ := l
    have hn : (UInt32.ofNat l.length).toNat = l.length := UInt32.toNat_ofNat_of_lt hl
    rw [List.append_assoc, word.decode_encode, Option.bind_eq_bind, Option.bind_some]
    dsimp only
    rw [hn, decodeAll_encodeAll]
    exact dif_pos hl
  encode_decode bs l rest h := by
    simp only [Option.bind_eq_bind, Option.bind_eq_some_iff] at h
    obtain ⟨⟨n, ns⟩, hn, ⟨m, ms⟩, hm, hd⟩ := h
    split at hd
    case isTrue hlt =>
      simp only [Option.some.injEq, Prod.mk.injEq] at hd
      obtain ⟨rfl, rfl⟩ := hd
      dsimp only at hm ⊢
      obtain ⟨hlen, hms⟩ := c.encodeAll_decodeAll _ _ _ _ hm
      rw [word.encode_decode _ _ _ hn, hms, hlen, UInt32.ofNat_toNat, List.append_assoc]
    case isFalse => cases hd

@[simp] theorem counted_encode (c : Codec α) (word : Codec UInt32) (l : Counted α) :
    (c.counted word).encode l = word.encode (UInt32.ofNat l.val.length) ++ c.encodeAll l.val := rfl

end Codec

/-! ### Strings -/

/-- A C string: the bytes in front of its terminating NUL. -/
abbrev CString := {s : List UInt8 // (0 : UInt8) ∉ s}

namespace CString

/-- `strlen`. -/
def strlen (s : CString) : ℕ := s.val.length

/-- A string followed by its NUL. -/
def codec : Codec CString where
  encode s := s.val ++ [0]
  decode bs := match bs.dropWhile (· != 0) with
    | [] => none
    | _ :: rest => some (⟨bs.takeWhile (· != 0), fun h => by
        simpa using List.mem_takeWhile_imp h⟩, rest)
  decode_encode s rest := by
    obtain ⟨s, hs⟩ := s
    have hne : ∀ b ∈ s, (b != 0) = true := fun b hb => by
      simpa using fun h : b = 0 => hs (h ▸ hb)
    simp [List.dropWhile_append_of_pos hne, List.takeWhile_append_of_pos hne]
  encode_decode bs s rest h := by
    split at h
    · cases h
    · rename_i b r hb
      cases h
      have hz : b = 0 := by
        have := List.head?_dropWhile_not (· != 0) bs
        rw [hb] at this
        simpa using this
      subst hz
      rw [List.append_assoc, List.singleton_append, ← hb]
      exact (List.takeWhile_append_dropWhile).symm

@[simp] theorem codec_encode (s : CString) : codec.encode s = s.val ++ [0] := rfl

@[simp] theorem codec_encode_length (s : CString) : (codec.encode s).length = s.strlen + 1 := by
  simp [strlen]

end CString
