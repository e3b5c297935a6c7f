import Tvd.Model.Dtv

/-! The numerals of `dtv.c`: the length that `get_int_length` counts against the
length of a decimal numeral, what is left of the numeral in a buffer of that size,
and what `dtv_set_source` reads off a string. -/

namespace Tvd

open Numeral

/-! ### Counting digits -/

theorem getIntLength_of_le {n : UInt32} (h : n.toNat ≤ 10) : getIntLength n = 1 := by
  rw [getIntLength, if_neg]
  rw [UInt32.lt_iff_toNat_lt]
  exact Nat.not_lt.mpr h

theorem getIntLength_of_gt {n : UInt32} (h : 10 < n.toNat) :
    getIntLength n = getIntLength (n / 10) + 1 := by
  rw [getIntLength, if_pos]
  rw [UInt32.lt_iff_toNat_lt]
  exact h

theorem decimal_length_le (n : UInt32) : (decimal n.toNat).length ≤ 10 := by
  have hlt := n.toNat_lt
  rw [decimal_length_le_iff (by decide)]
  omega

/-- The count is the number of digits, but one less when the numeral begins with
`10`: the loop stops at ten. -/
theorem getIntLength_toNat (n : UInt32) :
    (¬LeadsWithTen n.toNat → (getIntLength n).toNat = (decimal n.toNat).length) ∧
    (LeadsWithTen n.toNat → (getIntLength n).toNat + 1 = (decimal n.toNat).length) := by
  induction hk : n.toNat using Nat.strong_induction_on generalizing n with
  | h k ih =>
    subst hk
    rcases Nat.lt_trichotomy n.toNat 10 with hlt | heq | hgt
    · rw [getIntLength_of_le hlt.le, decimal_of_lt hlt]
      exact ⟨fun _ => rfl, fun hten => absurd hten (not_leadsWithTen_of_lt hlt)⟩
    · rw [getIntLength_of_le heq.le, heq]
      exact ⟨fun hten => absurd leadsWithTen_ten hten, fun _ => rfl⟩
    · have hdiv : (n / 10).toNat = n.toNat / 10 := UInt32.toNat_div n 10
      have hlen := decimal_length_of_ge hgt.le
      obtain ⟨hfull, hshort⟩ := ih (n / 10).toNat (by omega) (n / 10) rfl
      have hbound := decimal_length_le (n / 10)
      have hsucc : (getIntLength (n / 10)).toNat ≤ 10 →
          (getIntLength n).toNat = (getIntLength (n / 10)).toNat + 1 := by
        intro hle
        rw [getIntLength_of_gt hgt, UInt8.toNat_add, show (1 : UInt8).toNat = 1 by rfl]
        omega
      rw [hdiv] at hfull hshort hbound
      rw [leadsWithTen_of_gt hgt, hlen]
      constructor
      · intro hten
        have hcount := hfull hten
        rw [hsucc (by omega), hcount]
      · intro hten
        have hcount := hshort hten
        rw [hsucc (by omega), hcount]

/-! ### Printing -/

/-- The tuner id of a device: its numeral, cut to the counted length. -/
def tunerString (d : Int32) : CString := snprintfInt (getIntLength d.toUInt32).toNat d

theorem toUInt32_toNat {d : Int32} (h : 0 ≤ d.toInt) : d.toUInt32.toNat = d.toInt.toNat := by
  have hle : 0 ≤ d := Int32.le_iff_toInt_le.mpr h
  exact Int32.toNat_toUInt32_of_le hle

theorem signedDecimal_of_nonneg {v : ℤ} (h : 0 ≤ v) : signedDecimal v = decimal v.toNat := by
  obtain ⟨n, rfl⟩ := Int.eq_ofNat_of_zero_le h
  rfl

/-- The string is the whole numeral exactly when that does not begin with `10`. -/
theorem tunerString_eq_iff {d : Int32} (h : 0 ≤ d.toInt) :
    (tunerString d).val = decimal d.toInt.toNat ↔ ¬LeadsWithTen d.toInt.toNat := by
  have hnat := toUInt32_toNat h
  obtain ⟨hfull, hshort⟩ := getIntLength_toNat d.toUInt32
  rw [hnat] at hfull hshort
  have hval : (tunerString d).val =
      (decimal d.toInt.toNat).take (getIntLength d.toUInt32).toNat := by
    rw [← signedDecimal_of_nonneg h]
    rfl
  rw [hval]
  constructor
  · intro heq hten
    have hcount := hshort hten
    have hlen := congrArg List.length heq
    rw [List.length_take] at hlen
    omega
  · intro hten
    rw [hfull hten, List.take_length]

/-! ### Reading -/

/-- The id read is the value of the string by Horner's rule, modulo 2^32. -/
theorem parseDeviceId_eq (p : Platform) (tunerId : CString) (hlen : tunerId.strlen < 2 ^ 32) :
    parseDeviceId p tunerId =
      UInt32.ofInt (horner (fun c => p.charValue c - 48) tunerId.val) := by
  have hfold (bs : List UInt8) (v : ℤ) :
      bs.foldl (fun (deviceId : UInt32) c => deviceId * 10 + UInt32.ofInt (p.charValue c - 48))
        (UInt32.ofInt v) =
      UInt32.ofInt (bs.foldl (fun v c => v * 10 + (p.charValue c - 48)) v) := by
    induction bs generalizing v with
    | nil => rfl
    | cons c bs ih =>
      rw [List.foldl_cons, List.foldl_cons, ← ih, UInt32.ofInt_add, UInt32.ofInt_mul]
      rfl
  rw [parseDeviceId, UInt32.toNat_ofNat_of_lt' hlen, CString.strlen, List.take_length]
  exact hfold tunerId.val 0

theorem readsDigits (p : Platform) : ReadsDigits fun c => p.charValue c - 48 := by
  intro d hd
  have hval : (UInt8.ofNat (48 + d)).toNat = 48 + d := by
    rw [UInt8.toNat_ofNat']
    omega
  dsimp only
  rw [Platform.charValue, if_neg (by omega), hval]
  omega

/-- The numeral of a device that is not negative is read as that device. -/
theorem parseDeviceId_decimal (p : Platform) {d : Int32} (h : 0 ≤ d.toInt) {tunerId : CString}
    (heq : tunerId.val = decimal d.toInt.toNat) : (parseDeviceId p tunerId).toInt32 = d := by
  have hlen : tunerId.strlen < 2 ^ 32 := by
    have hle := decimal_length_le d.toUInt32
    rw [CString.strlen, heq, ← toUInt32_toNat h]
    omega
  rw [parseDeviceId_eq p tunerId hlen, heq, horner_decimal (readsDigits p), Int.toNat_of_nonneg h]
  have hlt := d.toInt_lt
  have hmod : d.toInt % 2 ^ 32 = d.toInt := Int.emod_eq_of_lt h (by omega)
  rw [UInt32.ofInt, hmod, UInt32.toInt32_ofNat', ← Int32.ofInt_eq_ofNat, Int.toNat_of_nonneg h,
    Int32.ofInt_toInt]

end Tvd
