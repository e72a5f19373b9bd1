import Mathlib.Algebra.Ring.Nat
import Mathlib.Data.List.Induction
import TextureCatalog.Text.Numeral

/-!
# Numerals

A decimal numeral consists of digits, and begins with a zero only if it is the numeral of zero.  The
digits of a hexadecimal numeral are read as its number again.
-/

namespace TextureCatalog.Text

/-! ## Decimal numerals -/

theorem ne_of_isDigit {c other : Char} (h : c.isDigit = true) (hother : other.isDigit = false) :
    c ≠ other := by
  rintro rfl
  rw [hother] at h
  exact absurd h (by decide)

theorem toNat_of_isDigit {c : Char} (h : c.isDigit = true) : 48 ≤ c.toNat ∧ c.toNat ≤ 57 := by
  simp only [Char.isDigit, Bool.and_eq_true, decide_eq_true_eq, ge_iff_le,
    UInt32.le_iff_toNat_le] at h
  exact h

theorem isBlank_of_isDigit {c : Char} (h : c.isDigit = true) : isBlank c = false := by
  obtain ⟨hlow, hhigh⟩ := toNat_of_isDigit h
  have hdecide : ∀ code < 58, 48 ≤ code → inRanges blankRanges code = false := by decide
  exact hdecide c.toNat (by omega) hlow

theorem isDigit_of_mem_decimal {n : Nat} {c : Char} (h : c ∈ decimal n) : c.isDigit = true :=
  Nat.isDigit_of_mem_toDigits (by omega) (by omega) h

theorem decimal_ne_nil (n : Nat) : decimal n ≠ [] :=
  Nat.toDigits_ne_nil

theorem decimal_of_lt_ten {n : Nat} (h : n < 10) : decimal n = [n.digitChar] :=
  Nat.toDigits_of_lt_base h

theorem decimal_of_ten_le {n : Nat} (h : 10 ≤ n) :
    decimal n = decimal (n / 10) ++ [(n % 10).digitChar] :=
  Nat.toDigits_of_base_le (by omega) h

/-- No numeral but that of zero begins with a zero. -/
theorem head?_decimal_ne_zero {n : Nat} (h : n ≠ 0) : (decimal n).head? ≠ some '0' := by
  induction n using Nat.strongRecOn with
  | ind n ih =>
      by_cases hsmall : n < 10
      · rw [decimal_of_lt_ten hsmall]
        have hdigit : ∀ digit < 10, digit ≠ 0 → digit.digitChar ≠ '0' := by decide
        simpa using hdigit n hsmall h
      · have hlarge : 10 ≤ n := Nat.le_of_not_lt hsmall
        have hhead := ih (n / 10) (by omega) (by omega)
        obtain ⟨first, digits, hfirst⟩ := List.exists_cons_of_ne_nil (decimal_ne_nil (n / 10))
        rw [decimal_of_ten_le hlarge, hfirst]
        rw [hfirst] at hhead
        exact hhead

theorem exists_decimal_eq_cons (n : Nat) :
    ∃ first digits, decimal n = first :: digits ∧ first.isDigit = true := by
  obtain ⟨first, digits, hnumeral⟩ := List.exists_cons_of_ne_nil (decimal_ne_nil n)
  exact ⟨first, digits, hnumeral, isDigit_of_mem_decimal (n := n) (by simp [hnumeral])⟩

/-- A numeral that begins with a zero consists of it. -/
theorem decimal_eq_of_zero_cons {n : Nat} {digits : List Char} (h : decimal n = '0' :: digits) :
    digits = [] := by
  by_cases hzero : n = 0
  · subst hzero
    exact (List.cons.inj h).2.symm
  · exact absurd (by rw [h]; rfl) (head?_decimal_ne_zero hzero)

/-- So many digits stand for a number below the power of ten. -/
theorem ofDigitChars_lt {digits : List Char} (h : ∀ c ∈ digits, c.isDigit = true) (start : Nat) :
    Nat.ofDigitChars 10 digits start < (start + 1) * 10 ^ digits.length := by
  induction digits generalizing start with
  | nil => simp
  | cons c digits ih =>
      have hc := toNat_of_isDigit (h c (by simp))
      have hrest := ih (fun d hd => h d (by simp [hd])) (10 * start + (c.toNat - '0'.toNat))
      have hstart : 10 * start + (c.toNat - '0'.toNat) + 1 ≤ (start + 1) * 10 := by
        have hzero : '0'.toNat = 48 := rfl
        omega
      rw [Nat.ofDigitChars_cons]
      calc Nat.ofDigitChars 10 digits (10 * start + (c.toNat - '0'.toNat))
          < (10 * start + (c.toNat - '0'.toNat) + 1) * 10 ^ digits.length := hrest
        _ ≤ (start + 1) * 10 * 10 ^ digits.length := Nat.mul_le_mul_right _ hstart
        _ = (start + 1) * 10 ^ (c :: digits).length := by
            rw [List.length_cons, Nat.pow_succ', Nat.mul_assoc]

/-- A number that was read can be written. -/
theorem isWritable_signedValue {negative : Bool} {digits : List Char}
    (h : ∀ c ∈ digits, c.isDigit = true) (hlimit : digits.length ≤ numeralLimit) :
    isWritable (signedValue negative digits) = true := by
  have habs : (signedValue negative digits).natAbs = decimalValue digits := by
    cases negative <;> simp [signedValue]
  have hvalue : decimalValue digits < 10 ^ digits.length := by
    simpa [decimalValue] using ofDigitChars_lt h 0
  rw [isWritable, habs, decide_eq_true_eq, decimal,
    Nat.length_toDigits_le_iff (by omega) (by decide)]
  exact Nat.lt_of_lt_of_le hvalue (Nat.pow_le_pow_right (by omega) hlimit)

/-! ## Hexadecimal numerals -/

theorem hexDigitValue?_digitChar : ∀ digit < 16, hexDigitValue? digit.digitChar = some digit := by
  decide

theorem hexValue?_append_singleton (digits : List Char) (c : Char) :
    hexValue? (digits ++ [c]) =
      (hexValue? digits).bind fun value => (hexDigitValue? c).map (16 * value + ·) := by
  rw [hexValue?, hexValue?, List.foldlM_append]
  simp only [List.foldlM_cons, List.foldlM_nil]
  cases List.foldlM (fun value c => (hexDigitValue? c).map (16 * value + ·)) 0 digits with
  | none => rfl
  | some value => simp

theorem isSome_hexDigitValue?_of_hexValue? {digits : List Char} {value : Nat}
    (h : hexValue? digits = some value) : ∀ c ∈ digits, (hexDigitValue? c).isSome = true := by
  induction digits using List.reverseRecOn generalizing value with
  | nil => exact List.forall_mem_nil _
  | append_singleton digits c ih =>
      rw [hexValue?_append_singleton] at h
      obtain ⟨front, hfront, hlast⟩ := Option.bind_eq_some_iff.1 h
      obtain ⟨last, hc, -⟩ := Option.map_eq_some_iff.1 hlast
      exact List.forall_mem_append.2 ⟨ih hfront, List.forall_mem_singleton.2 (by rw [hc]; rfl)⟩

theorem hexValue?_replicate_append (count : Nat) (digits : List Char) :
    hexValue? (List.replicate count '0' ++ digits) = hexValue? digits := by
  induction count with
  | zero => rfl
  | succ count ih =>
      rw [List.replicate_succ, List.cons_append, hexValue?, List.foldlM_cons]
      exact ih

theorem hexValue?_toDigits (n : Nat) : hexValue? (Nat.toDigits 16 n) = some n := by
  induction n using Nat.strongRecOn with
  | ind n ih =>
      by_cases hsmall : n < 16
      · rw [Nat.toDigits_of_lt_base hsmall]
        have := hexDigitValue?_digitChar n hsmall
        simp [hexValue?, this]
      · have hlarge : 16 ≤ n := Nat.le_of_not_lt hsmall
        rw [Nat.toDigits_of_base_le (by omega) hlarge, hexValue?_append_singleton,
          ih (n / 16) (by omega), hexDigitValue?_digitChar _ (Nat.mod_lt _ (by omega))]
        exact congrArg some (Nat.div_add_mod n 16)

/-- The numeral of a number that fits into its width has the digits of the number. -/
theorem hexPadded_of_lt {width n : Nat} (hwidth : 0 < width) (h : n < 16 ^ width) :
    (hexPadded width n).length = width ∧ hexValue? (hexPadded width n) = some n := by
  have hlength : (Nat.toDigits 16 n).length ≤ width :=
    (Nat.length_toDigits_le_iff (by omega) hwidth).2 h
  constructor
  · rw [hexPadded, List.length_append, List.length_replicate]
    omega
  · rw [hexPadded, hexValue?_replicate_append, hexValue?_toDigits]
end TextureCatalog.Text
