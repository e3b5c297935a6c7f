import Mathlib.Data.Nat.Basic
import Mathlib.Tactic.Ring

/-! Decimal numerals as byte strings. `decimal` prints a natural number and
`horner` reads a byte string by Horner's rule, whatever its bytes are; on
numerals the two are inverse. A number of at least two digits loses its last
digit when it is divided by ten, and its leading digits are `10` exactly when
some number of such divisions reaches ten. -/

namespace Numeral

/-- The numeral of `n`, most significant digit first, in ASCII. -/
def decimal (n : ℕ) : List UInt8 := (Nat.toDigits 10 n).map fun c => UInt8.ofNat c.toNat

/-- The numeral of an integer, with a minus sign in front of a negative one. -/
def signedDecimal : ℤ → List UInt8
  | .ofNat n => decimal n
  | .negSucc n => 45 :: decimal (n + 1)

/-- The value of a byte string whose bytes count as given. -/
def horner (digit : UInt8 → ℤ) (bs : List UInt8) : ℤ :=
  bs.foldl (fun v b => v * 10 + digit b) 0

/-- The bytes of the digits count as the digits. -/
def ReadsDigits (digit : UInt8 → ℤ) : Prop := ∀ d : ℕ, d < 10 → digit (UInt8.ofNat (48 + d)) = d

/-! ### Printing -/

theorem digitByte : ∀ d < 10, UInt8.ofNat (Nat.digitChar d).toNat = UInt8.ofNat (48 + d) := by
  decide

theorem decimal_of_lt {n : ℕ} (h : n < 10) : decimal n = [UInt8.ofNat (48 + n)] := by
  rw [decimal, Nat.toDigits_of_lt_base h, List.map_singleton, digitByte n h]

theorem decimal_of_ge {n : ℕ} (h : 10 ≤ n) :
    decimal n = decimal (n / 10) ++ [UInt8.ofNat (48 + n % 10)] := by
  rw [decimal, Nat.toDigits_of_base_le (by norm_num) h, List.map_append, List.map_singleton,
    digitByte _ (Nat.mod_lt n (by norm_num)), decimal]

theorem decimal_length_of_ge {n : ℕ} (h : 10 ≤ n) :
    (decimal n).length = (decimal (n / 10)).length + 1 := by
  rw [decimal_of_ge h, List.length_append, List.length_singleton]

theorem decimal_length_le_iff {n k : ℕ} (hk : 0 < k) : (decimal n).length ≤ k ↔ n < 10 ^ k := by
  rw [decimal, List.length_map]
  exact Nat.length_toDigits_le_iff (by norm_num) hk

/-- No digit is the NUL byte. -/
theorem zero_notMem_decimal (n : ℕ) : (0 : UInt8) ∉ decimal n := by
  have hdigit : ∀ d < 10, (0 : UInt8) ≠ UInt8.ofNat (48 + d) := by decide
  induction n using Nat.strong_induction_on with
  | h n ih =>
    by_cases h : n < 10
    · rw [decimal_of_lt h, List.mem_singleton]
      exact hdigit n h
    · rw [decimal_of_ge (by omega), List.mem_append, List.mem_singleton]
      rintro (h₀ | h₀)
      · exact ih (n / 10) (by omega) h₀
      · exact hdigit _ (Nat.mod_lt n (by norm_num)) h₀

theorem zero_notMem_signedDecimal (v : ℤ) : (0 : UInt8) ∉ signedDecimal v := by
  cases v with
  | ofNat n => exact zero_notMem_decimal n
  | negSucc n =>
    rw [signedDecimal, List.mem_cons]
    rintro (h | h)
    · exact absurd h (by decide)
    · exact zero_notMem_decimal _ h

/-! ### Reading -/

theorem horner_append (digit : UInt8 → ℤ) (bs : List UInt8) (b : UInt8) :
    horner digit (bs ++ [b]) = horner digit bs * 10 + digit b := by
  rw [horner, List.foldl_append]
  rfl

/-- Reading a numeral gives the number back. -/
theorem horner_decimal {digit : UInt8 → ℤ} (hd : ReadsDigits digit) (n : ℕ) :
    horner digit (decimal n) = n := by
  induction n using Nat.strong_induction_on with
  | h n ih =>
    by_cases h : n < 10
    · rw [decimal_of_lt h]
      change 0 * 10 + digit _ = _
      rw [hd n h, zero_mul, zero_add]
    · rw [decimal_of_ge (by omega), horner_append, ih (n / 10) (by omega),
        hd _ (Nat.mod_lt n (by norm_num))]
      omega

/-! ### Leading digits -/

/-- The numeral of `n` begins with `10`. -/
def LeadsWithTen (n : ℕ) : Prop := ∃ k, n / 10 ^ k = 10

theorem not_leadsWithTen_of_lt {n : ℕ} (h : n < 10) : ¬LeadsWithTen n := by
  rintro ⟨k, hk⟩
  have := Nat.div_le_self n (10 ^ k)
  omega

theorem leadsWithTen_ten : LeadsWithTen 10 := ⟨0, rfl⟩

theorem leadsWithTen_of_gt {n : ℕ} (h : 10 < n) : LeadsWithTen n ↔ LeadsWithTen (n / 10) := by
  constructor
  · rintro ⟨k, hk⟩
    cases k with
    | zero => rw [pow_zero, Nat.div_one] at hk; omega
    | succ k => exact ⟨k, by rwa [Nat.div_div_eq_div_mul, ← Nat.pow_succ']⟩
  · rintro ⟨k, hk⟩
    exact ⟨k + 1, by rwa [Nat.pow_succ', ← Nat.div_div_eq_div_mul]⟩

end Numeral
