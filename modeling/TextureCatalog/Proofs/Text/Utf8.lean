import TextureCatalog.Text.Utf8

/-!
# Decoding encoded text

A text is decoded from its own UTF-8 form.  Each byte of the form is given by a number below 256, so
what the decoder asks of bytes is first said of such numbers.
-/

namespace TextureCatalog.Text.Utf8

/-! ## Bytes given by numbers -/

theorem toNat_byte {n : Nat} (h : n < 256) : (UInt8.ofNat n).toNat = n :=
  Nat.mod_eq_of_lt h

theorem byte_lt_iff {n : Nat} (h : n < 256) (bound : UInt8) :
    UInt8.ofNat n < bound ↔ n < bound.toNat := by
  rw [UInt8.lt_iff_toNat_lt, toNat_byte h]

theorem le_byte_iff {n : Nat} (h : n < 256) (bound : UInt8) :
    bound ≤ UInt8.ofNat n ↔ bound.toNat ≤ n := by
  rw [UInt8.le_iff_toNat_le, toNat_byte h]

theorem byte_eq_iff {n : Nat} (h : n < 256) (other : UInt8) :
    UInt8.ofNat n = other ↔ n = other.toNat := by
  rw [← UInt8.toNat_inj, toNat_byte h]

theorem sequenceLength?_byte {n : Nat} (h : n < 256) :
    sequenceLength? (UInt8.ofNat n) =
      if n < 0x80 then some 1
      else if n < 0xC2 then none
      else if n < 0xE0 then some 2
      else if n < 0xF0 then some 3
      else if n < 0xF5 then some 4
      else none := by
  simp only [sequenceLength?, byte_lt_iff h]
  rfl

theorem isContinuation_byte {n : Nat} (h : n < 256) :
    isContinuation (UInt8.ofNat n) = (decide (0x80 ≤ n) && decide (n < 0xC0)) := by
  simp only [isContinuation, byte_lt_iff h, le_byte_iff h]
  rfl

/-- The continuation byte with a payload of six bits. -/
theorem isContinuation_payload (n : Nat) :
    isContinuation (UInt8.ofNat (0x80 + n % 0x40)) = true := by
  rw [isContinuation_byte (by omega)]
  simp
  omega

theorem payload_byte (n : Nat) : payload (UInt8.ofNat (0x80 + n % 0x40)) = n % 0x40 := by
  have hbyte : 0x80 + n % 0x40 < 256 := by omega
  unfold payload
  rw [toNat_byte hbyte]
  omega

/-- A continuation byte may follow a first byte unless the form would be overlong, a surrogate or
too great. -/
theorem mayFollow_byte {first n : Nat} (h : first < 256)
    (hoverlong : first = 0xE0 → 0x20 ≤ n % 0x40)
    (hsurrogate : first = 0xED → n % 0x40 < 0x20)
    (hplane : first = 0xF0 → 0x10 ≤ n % 0x40)
    (hgreat : first = 0xF4 → n % 0x40 < 0x10) :
    mayFollow (UInt8.ofNat first) (UInt8.ofNat (0x80 + n % 0x40)) = true := by
  have hbyte : 0x80 + n % 0x40 < 256 := by omega
  simp only [mayFollow, isContinuation_payload, Bool.true_and, byte_eq_iff h,
    byte_lt_iff hbyte, le_byte_iff hbyte]
  simp
  grind

/-! ## Single characters -/

theorem toNat_lt_or (c : Char) : c.toNat < 0xD800 ∨ 0xDFFF < c.toNat ∧ c.toNat < 0x110000 :=
  c.valid

variable {first second third fourth : UInt8}

theorem decodeFrom_one (h : sequenceLength? first = some 1) (position : Nat)
    (rest : List UInt8) :
    decodeFrom position (first :: rest) =
      (Char.ofNat first.toNat :: ·) <$> decodeFrom (position + 1) rest := by
  rw [decodeFrom.eq_def]
  simp only [h]

theorem decodeFrom_two (h : sequenceLength? first = some 2)
    (hsecond : isContinuation second = true) (position : Nat) (rest : List UInt8) :
    decodeFrom position (first :: second :: rest) =
      (Char.ofNat ((first.toNat - 0xC0) * 0x40 + payload second) :: ·) <$>
        decodeFrom (position + 2) rest := by
  rw [decodeFrom.eq_def]
  simp [h, hsecond]

theorem decodeFrom_three (h : sequenceLength? first = some 3)
    (hsecond : mayFollow first second = true) (hthird : isContinuation third = true)
    (position : Nat) (rest : List UInt8) :
    decodeFrom position (first :: second :: third :: rest) =
      (Char.ofNat ((first.toNat - 0xE0) * 0x1000 + payload second * 0x40 + payload third) :: ·) <$>
        decodeFrom (position + 3) rest := by
  rw [decodeFrom.eq_def]
  simp [h, hsecond, hthird]

theorem decodeFrom_four (h : sequenceLength? first = some 4)
    (hsecond : mayFollow first second = true) (hthird : isContinuation third = true)
    (hfourth : isContinuation fourth = true) (position : Nat) (rest : List UInt8) :
    decodeFrom position (first :: second :: third :: fourth :: rest) =
      (Char.ofNat ((first.toNat - 0xF0) * 0x40000 + payload second * 0x1000 +
        payload third * 0x40 + payload fourth) :: ·) <$> decodeFrom (position + 4) rest := by
  rw [decodeFrom.eq_def]
  simp [h, hsecond, hthird, hfourth]

/-- The form of a character is decoded to the character, whatever follows it. -/
theorem decodeFrom_encodeChar (c : Char) (position : Nat) (rest : List UInt8) :
    decodeFrom position (encodeChar c ++ rest) =
      (c :: ·) <$> decodeFrom (position + (encodeChar c).length) rest := by
  have hvalid := toNat_lt_or c
  have hc : Char.ofNat c.toNat = c := Char.ofNat_toNat c
  generalize hcode : c.toNat = code at hvalid hc
  unfold encodeChar
  simp only [hcode]
  by_cases hone : code < 0x80
  · have hbyte : code < 256 := by omega
    have hlength : sequenceLength? (UInt8.ofNat code) = some 1 := by
      rw [sequenceLength?_byte hbyte, if_pos hone]
    simp only [hone, if_true, List.cons_append, List.nil_append]
    rw [decodeFrom_one hlength, toNat_byte hbyte, hc]
    rfl
  by_cases htwo : code < 0x800
  · have hbyte : 0xC0 + code / 0x40 < 256 := by omega
    have hlength : sequenceLength? (UInt8.ofNat (0xC0 + code / 0x40)) = some 2 := by
      rw [sequenceLength?_byte hbyte]
      grind
    have hvalue : (0xC0 + code / 0x40 - 0xC0) * 0x40 + code % 0x40 = code := by omega
    simp only [hone, htwo, if_true, if_false, List.cons_append, List.nil_append]
    rw [decodeFrom_two hlength (isContinuation_payload _), toNat_byte hbyte, payload_byte, hvalue,
      hc]
    rfl
  by_cases hthree : code < 0x10000
  · have hbyte : 0xE0 + code / 0x1000 < 256 := by omega
    have hlength : sequenceLength? (UInt8.ofNat (0xE0 + code / 0x1000)) = some 3 := by
      rw [sequenceLength?_byte hbyte]
      grind
    have hfollow : mayFollow (UInt8.ofNat (0xE0 + code / 0x1000))
        (UInt8.ofNat (0x80 + code / 0x40 % 0x40)) = true := by
      apply mayFollow_byte hbyte <;> omega
    have hvalue : (0xE0 + code / 0x1000 - 0xE0) * 0x1000 + code / 0x40 % 0x40 * 0x40 +
        code % 0x40 = code := by omega
    simp only [hone, htwo, hthree, if_true, if_false, List.cons_append, List.nil_append]
    rw [decodeFrom_three hlength hfollow (isContinuation_payload _), toNat_byte hbyte,
      payload_byte, payload_byte, hvalue, hc]
    rfl
  · have hbyte : 0xF0 + code / 0x40000 < 256 := by omega
    have hlength : sequenceLength? (UInt8.ofNat (0xF0 + code / 0x40000)) = some 4 := by
      rw [sequenceLength?_byte hbyte]
      grind
    have hfollow : mayFollow (UInt8.ofNat (0xF0 + code / 0x40000))
        (UInt8.ofNat (0x80 + code / 0x1000 % 0x40)) = true := by
      apply mayFollow_byte hbyte <;> omega
    have hvalue : (0xF0 + code / 0x40000 - 0xF0) * 0x40000 + code / 0x1000 % 0x40 * 0x1000 +
        code / 0x40 % 0x40 * 0x40 + code % 0x40 = code := by omega
    simp only [hone, htwo, hthree, if_false, List.cons_append, List.nil_append]
    rw [decodeFrom_four hlength hfollow (isContinuation_payload _) (isContinuation_payload _),
      toNat_byte hbyte, payload_byte, payload_byte, payload_byte, hvalue, hc]
    rfl

/-! ## Texts -/

theorem decodeFrom_encode (text : List Char) (position : Nat) :
    decodeFrom position (encode text) = .ok text := by
  induction text generalizing position with
  | nil => rfl
  | cons c text ih =>
      rw [encode, List.flatMap_cons, ← encode, decodeFrom_encodeChar, ih]
      rfl

/-- Decoding gives back the text that was encoded. -/
theorem decode_encode (text : List Char) : decode (encode text) = .ok text :=
  decodeFrom_encode text 0

end TextureCatalog.Text.Utf8
