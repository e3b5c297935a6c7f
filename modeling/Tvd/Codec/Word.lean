import Tvd.Codec.Basic
import Mathlib.Data.Nat.Basic
import Mathlib.Tactic.Ring

/-! Fixed-width words as bytes, in either byte order. The little-endian digits
of a number below `256 ^ n` determine it, and the big-endian ones are the same
bytes reversed, so both orders give prefix codes of constant length. -/

inductive ByteOrder where
  | little | big
  deriving DecidableEq

/-- Arrange little-endian digits in the given order, or back. -/
def ByteOrder.arrange : ByteOrder → List UInt8 → List UInt8
  | .little, bs => bs
  | .big, bs => bs.reverse

@[simp] theorem ByteOrder.arrange_arrange (o : ByteOrder) (bs : List UInt8) :
    o.arrange (o.arrange bs) = bs := by
  cases o <;> simp [arrange]

@[simp] theorem ByteOrder.arrange_length (o : ByteOrder) (bs : List UInt8) :
    (o.arrange bs).length = bs.length := by
  cases o <;> simp [arrange]

namespace Codec

/-- The lowest `n` base-256 digits of `v`, least significant first. -/
def littleEndian : ℕ → ℕ → List UInt8
  | 0, _ => []
  | n + 1, v => UInt8.ofNat v :: littleEndian n (v / 256)

def ofLittleEndian : List UInt8 → ℕ
  | [] => 0
  | b :: bs => b.toNat + 256 * ofLittleEndian bs

@[simp] theorem littleEndian_length (n v : ℕ) : (littleEndian n v).length = n := by
  induction n generalizing v with
  | zero => rfl
  | succ n ih => simp [littleEndian, ih]

theorem ofLittleEndian_littleEndian (n v : ℕ) (h : v < 256 ^ n) :
    ofLittleEndian (littleEndian n v) = v := by
  induction n generalizing v with
  | zero =>
    have hv : v = 0 := by simpa using h
    rw [hv]
    rfl
  | succ n ih =>
    have hdiv : v / 256 < 256 ^ n := by
      rw [Nat.div_lt_iff_lt_mul (by norm_num), ← Nat.pow_succ]
      exact h
    rw [littleEndian, ofLittleEndian, ih _ hdiv, UInt8.toNat_ofNat']
    omega

theorem ofLittleEndian_lt (bs : List UInt8) : ofLittleEndian bs < 256 ^ bs.length := by
  induction bs with
  | nil => simp [ofLittleEndian]
  | cons b bs ih =>
    have hb := b.toNat_lt
    rw [ofLittleEndian, List.length_cons, Nat.pow_succ]
    omega

theorem littleEndian_ofLittleEndian (bs : List UInt8) :
    littleEndian bs.length (ofLittleEndian bs) = bs := by
  induction bs with
  | nil => rfl
  | cons b bs ih =>
    have hb := b.toNat_lt
    have hlow : UInt8.ofNat (b.toNat + 256 * ofLittleEndian bs) = b := by
      apply UInt8.toNat_inj.mp
      rw [UInt8.toNat_ofNat']
      omega
    have hhigh : (b.toNat + 256 * ofLittleEndian bs) / 256 = ofLittleEndian bs := by omega
    rw [ofLittleEndian, List.length_cons, littleEndian, hlow, hhigh, ih]

/-- Words of `n` bytes, given as numbers below `256 ^ n`. -/
def word {W : Type} (o : ByteOrder) (n : ℕ) (toNat : W → ℕ) (ofNat : ℕ → W)
    (hlt : ∀ w, toNat w < 256 ^ n) (hof : ∀ w, ofNat (toNat w) = w)
    (hto : ∀ v, v < 256 ^ n → toNat (ofNat v) = v) : Codec W where
  encode w := o.arrange (littleEndian n (toNat w))
  decode bs := if n ≤ bs.length then
    some (ofNat (ofLittleEndian (o.arrange (bs.take n))), bs.drop n) else none
  decode_encode w rest := by
    have hlen : (o.arrange (littleEndian n (toNat w))).length = n := by simp
    have htake : (o.arrange (littleEndian n (toNat w)) ++ rest).take n =
        o.arrange (littleEndian n (toNat w)) := List.take_left' hlen
    have hdrop : (o.arrange (littleEndian n (toNat w)) ++ rest).drop n = rest :=
      List.drop_left' hlen
    rw [htake, hdrop, o.arrange_arrange, ofLittleEndian_littleEndian _ _ (hlt w), hof,
      if_pos (by simp)]
  encode_decode bs w rest h := by
    split at h
    case isTrue hn =>
      simp only [Option.some.injEq, Prod.mk.injEq] at h
      obtain ⟨rfl, rfl⟩ := h
      have hlen : (o.arrange (bs.take n)).length = n := by simp [hn]
      have hval := ofLittleEndian_lt (o.arrange (bs.take n))
      have hdig := littleEndian_ofLittleEndian (o.arrange (bs.take n))
      rw [hlen] at hval hdig
      rw [hto _ hval, hdig, o.arrange_arrange, List.take_append_drop]
    case isFalse => cases h

theorem word_encode_length {W : Type} (o : ByteOrder) (n : ℕ) (toNat : W → ℕ) (ofNat : ℕ → W)
    (hlt : ∀ w, toNat w < 256 ^ n) (hof : ∀ w, ofNat (toNat w) = w)
    (hto : ∀ v, v < 256 ^ n → toNat (ofNat v) = v) (w : W) :
    ((word o n toNat ofNat hlt hof hto).encode w).length = n := by
  simp [word]

/-- One octet. -/
def octet : Codec UInt8 :=
  word .little 1 UInt8.toNat UInt8.ofNat (fun w => w.toNat_lt) (fun _ => UInt8.ofNat_toNat)
    (fun v h => UInt8.toNat_ofNat_of_lt' (by simpa using h))

/-- Four octets. -/
def word32 (o : ByteOrder) : Codec UInt32 :=
  word o 4 UInt32.toNat UInt32.ofNat (fun w => w.toNat_lt) (fun _ => UInt32.ofNat_toNat)
    (fun v h => UInt32.toNat_ofNat_of_lt' (by simpa using h))

/-- Eight octets. -/
def word64 (o : ByteOrder) : Codec UInt64 :=
  word o 8 UInt64.toNat UInt64.ofNat (fun w => w.toNat_lt) (fun _ => UInt64.ofNat_toNat)
    (fun v h => UInt64.toNat_ofNat_of_lt' (by simpa using h))

@[simp] theorem octet_encode (b : UInt8) : octet.encode b = [b] := by
  simp [octet, word, littleEndian, ByteOrder.arrange]

@[simp] theorem word32_encode_length (o : ByteOrder) (w : UInt32) :
    ((word32 o).encode w).length = 4 := word_encode_length ..

@[simp] theorem word64_encode_length (o : ByteOrder) (w : UInt64) :
    ((word64 o).encode w).length = 8 := word_encode_length ..

end Codec
