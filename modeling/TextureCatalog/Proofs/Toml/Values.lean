import TextureCatalog.Proofs.Text.Numeral
import TextureCatalog.Toml.Reader
import TextureCatalog.Toml.Writer

/-!
# Written values are read again

Strings, integers and truth values are read from their written form, whatever follows it.  Strings
close themselves; a numeral has to be followed by the end of its line.
-/

namespace TextureCatalog.Toml

/-! ## Strings -/

/-- The forms of a character in a string: an escape of one letter, an escape of four hexadecimal
digits, or the character itself. -/
inductive Escaped (c : Char) : List Char → Prop
  | letter {letter : Char} : escapedChar? letter = some c → Escaped c ['\\', letter]
  | digits {first second third fourth : Char} :
      Text.hexValue? [first, second, third, fourth] = some c.toNat →
        Escaped c ['\\', 'u', first, second, third, fourth]
  | plain : c ≠ '"' → c ≠ '\\' → isForbidden c = false → Escaped c [c]

theorem isForbidden_eq_false_iff {c : Char} :
    isForbidden c = false ↔ ¬ ((c.toNat < 0x20 ∧ c ≠ '\t') ∨ c.toNat = 0x7F) := by
  simp [isForbidden]

/-- A character is written in one of its forms. -/
theorem escaped_writeChar (c : Char) : Escaped c (writeChar c) := by
  unfold writeChar
  split
  · next h =>
      rcases h with rfl | rfl <;> exact Escaped.letter rfl
  split
  · next h => exact Escaped.letter (by rw [h]; rfl)
  split
  · next h => exact Escaped.letter (by rw [h]; rfl)
  split
  · next h => exact Escaped.letter (by rw [h]; rfl)
  split
  · next h => exact Escaped.letter (by rw [h]; rfl)
  split
  · next hcontrol =>
      have hcode : c.toNat < 16 ^ 4 := by omega
      obtain ⟨hlength, hvalue⟩ := Text.hexPadded_of_lt (by decide) hcode
      match hdigits : Text.hexPadded 4 c.toNat, hlength with
      | [_, _, _, _], _ =>
          rw [hdigits] at hvalue
          exact Escaped.digits hvalue
  · next hmark _ _ _ _ hplain =>
      obtain ⟨hquote, hbackslash⟩ := not_or.1 hmark
      exact Escaped.plain hquote hbackslash (isForbidden_eq_false_iff.2 hplain)

theorem escapedScalar_of_hexValue? {digits : List Char} {c : Char}
    (h : Text.hexValue? digits = some c.toNat) (remaining : Nat) :
    escapedScalar digits remaining = .ok c := by
  have hvalid : c.toNat.isValidChar := c.valid
  rw [escapedScalar, h]
  exact dif_pos hvalid

/-- A character is read from each of its forms. -/
theorem Escaped.readBasic_append {c : Char} {written : List Char} (h : Escaped c written)
    (rest : List Char) : readBasic (written ++ rest) = (readBasic rest).map (c :: ·) := by
  cases h with
  | @letter letter hletter =>
      have hshort : letter ≠ 'u' := by
        rintro rfl
        exact absurd hletter (by simp [escapedChar?])
      have hlong : letter ≠ 'U' := by
        rintro rfl
        exact absurd hletter (by simp [escapedChar?])
      rw [List.cons_append, List.singleton_append, readBasic]
      · rw [hletter]
      · exact hshort
      · exact hlong
  | digits hvalue =>
      simp only [List.cons_append, List.nil_append, readBasic]
      rw [escapedScalar_of_hexValue? hvalue]
      rfl
  | plain hquote hbackslash hforbidden =>
      rw [List.singleton_append, readBasic]
      · rw [if_neg (by simp [hforbidden])]
      · exact hquote
      · exact hbackslash

/-- A text is read from the form in which it stands in a string, up to the closing mark. -/
theorem readBasic_flatMap_writeChar (text rest : List Char) :
    readBasic (text.flatMap writeChar ++ '"' :: rest) = .ok (text, rest) := by
  induction text with
  | nil => rfl
  | cons c text ih =>
      rw [List.flatMap_cons, List.append_assoc, (escaped_writeChar c).readBasic_append, ih]
      rfl

theorem readString_mark {content : List Char}
    (h : ∀ others, content ≠ '"' :: '"' :: others) :
    readString ('"' :: content) = some ((readBasic content).map String.ofList) := by
  rw [readString.eq_def]
  split
  · next others heq =>
      obtain ⟨-, rfl⟩ := List.cons.inj heq
      exact absurd rfl (h others)
  · next others _ heq =>
      obtain ⟨-, rfl⟩ := List.cons.inj heq
      rfl
  all_goals simp_all

/-- No written character begins with a mark. -/
theorem Escaped.exists_eq_cons {c : Char} {written : List Char} (h : Escaped c written) :
    ∃ first others, written = first :: others ∧ first ≠ '"' := by
  cases h with
  | letter => exact ⟨'\\', _, rfl, by decide⟩
  | digits => exact ⟨'\\', _, rfl, by decide⟩
  | plain hquote => exact ⟨c, [], rfl, hquote⟩

/-- A written string is read again.  A mark behind it could be taken for the beginning of a string
on several lines. -/
theorem readString_writeString (text : String) {rest : List Char} (h : rest.head? ≠ some '"') :
    readString (writeString text ++ rest) = some (.ok (text, rest)) := by
  rw [writeString, List.cons_append, List.append_assoc, List.singleton_append, readString_mark,
    readBasic_flatMap_writeChar]
  · exact congrArg (fun read => some (Except.ok (read, rest))) String.ofList_toList
  intro others heq
  cases htext : text.toList with
  | nil =>
      rw [htext] at heq
      obtain ⟨-, rfl⟩ := List.cons.inj heq
      exact h rfl
  | cons c characters =>
      obtain ⟨first, continued, hwritten, hfirst⟩ := (escaped_writeChar c).exists_eq_cons
      rw [htext, List.flatMap_cons, hwritten] at heq
      exact hfirst (List.cons.inj heq).1

/-! ## Integers -/

theorem twoDigits?_eq_none {a b : Char} (h : ¬ (a.isDigit ∧ b.isDigit)) :
    twoDigits? a b = none := by
  rw [twoDigits?, if_neg (by simpa using h)]

/-- A text begins with a date only if four digits and a dash stand at its beginning. -/
theorem takeDate?_eq_none {text : List Char}
    (h : ∀ a b c d rest, text = a :: b :: c :: d :: '-' :: rest →
      ¬ (a.isDigit ∧ b.isDigit ∧ c.isDigit ∧ d.isDigit)) : takeDate? text = none := by
  unfold takeDate?
  split
  · next a b c d _ _ _ _ _ =>
      have hdigits := h a b c d _ rfl
      by_cases hcentury : a.isDigit ∧ b.isDigit
      · have hyear : ¬ (c.isDigit ∧ d.isDigit) := fun hyear =>
          hdigits ⟨hcentury.1, hcentury.2, hyear⟩
        rw [twoDigits?_eq_none hyear]
        cases twoDigits? a b <;> rfl
      · rw [twoDigits?_eq_none hcentury]
        rfl
  · rfl

/-- A text begins with a time only if two digits and a colon stand at its beginning. -/
theorem takeTime?_eq_none {text : List Char}
    (h : ∀ a b rest, text = a :: b :: ':' :: rest → ¬ (a.isDigit ∧ b.isDigit)) :
    takeTime? text = none := by
  unfold takeTime?
  split
  · next a b _ _ _ _ _ =>
      rw [twoDigits?_eq_none (h a b _ rfl)]
      rfl
  · rfl

/-- A run of digits with what follows it, up to the end of the line. -/
theorem dropWhile_isDigit_line {digits : List Char} (h : ∀ c ∈ digits, c.isDigit = true)
    (rest : List Char) : (digits ++ '\n' :: rest).dropWhile Char.isDigit = '\n' :: rest := by
  rw [List.dropWhile_append_of_pos h]
  rfl

theorem spanGrouped_digit {c : Char} (h : c.isDigit = true) (rest : List Char) :
    spanGrouped Char.isDigit (c :: rest) =
      (c :: (spanGrouped Char.isDigit rest).1, (spanGrouped Char.isDigit rest).2) := by
  rw [spanGrouped]
  · rw [if_pos h]
  · intro other others hunderscore
    exact absurd hunderscore (Text.ne_of_isDigit h (by decide))

theorem spanGrouped_line {digits : List Char} (h : ∀ c ∈ digits, c.isDigit = true)
    (rest : List Char) :
    spanGrouped Char.isDigit (digits ++ '\n' :: rest) = (digits, '\n' :: rest) := by
  induction digits with
  | nil => cases rest <;> rfl
  | cons c digits ih =>
      have hdigits := ih fun other hother => h other (List.mem_cons_of_mem _ hother)
      rw [List.cons_append, spanGrouped_digit (h c List.mem_cons_self), hdigits]

/-- The whole part of a numeral at the end of its line is the numeral. -/
theorem wholePart?_decimal (n : Nat) (rest : List Char) :
    wholePart? (Text.decimal n ++ '\n' :: rest) = some (Text.decimal n, '\n' :: rest) := by
  obtain ⟨first, digits, hnumeral, hdigit⟩ := Text.exists_decimal_eq_cons n
  by_cases hzero : first = '0'
  · subst hzero
    rw [hnumeral, Text.decimal_eq_of_zero_cons hnumeral]
    rfl
  · have hspan := spanGrouped_line (fun c => Text.isDigit_of_mem_decimal (n := n)) rest
    rw [hnumeral, List.cons_append] at hspan ⊢
    rw [wholePart?, if_neg hzero, if_pos hdigit, hspan]

/-- A numeral at the end of its line is read with its sign. -/
theorem readDecimal_of_takeSign {text sign rest : List Char} {n : Nat}
    (hsign : takeSign text = (sign, Text.decimal n ++ '\n' :: rest))
    (hlimit : (Text.decimal n).length ≤ Text.numeralLimit) :
    readDecimal text =
      some (.ok (.integer (Text.signedValue (sign == ['-']) (Text.decimal n)), '\n' :: rest)) := by
  simp only [readDecimal, hsign, wholePart?_decimal, Option.map_some]
  simp [takeFraction, takeExponent, hlimit]

theorem readString_eq_none {c : Char} (hquote : c ≠ '"') (hapostrophe : c ≠ '\'')
    (rest : List Char) : readString (c :: rest) = none := by
  rw [readString.eq_def]
  split <;> simp_all

/-- A text that begins with a digit or a dash, and with no date and no time, is read as a number. -/
theorem readScalar_of_readDecimal {c : Char} {rest : List Char} {reading : Reading Document}
    (hfirst : c.isDigit = true ∨ c = '-') (hdate : takeDate? (c :: rest) = none)
    (htime : takeTime? (c :: rest) = none) (hbase : prefixedNumber? (c :: rest) = none)
    (hdecimal : readDecimal (c :: rest) = some reading) : readScalar (c :: rest) = reading := by
  have hletter : ∀ letter : Char, letter.isDigit = false → letter ≠ '-' → c ≠ letter := by
    intro letter hdigit hdash
    rcases hfirst with h | rfl
    · exact Text.ne_of_isDigit h hdigit
    · exact hdash.symm
  have htrue : afterWord? "true" (c :: rest) = none := by
    simp [afterWord?, (hletter 't' (by decide) (by decide)).symm]
  have hfalse : afterWord? "false" (c :: rest) = none := by
    simp [afterWord?, (hletter 'f' (by decide) (by decide)).symm]
  have hstring : readString (c :: rest) = none :=
    readString_eq_none (hletter _ (by decide) (by decide)) (hletter _ (by decide) (by decide)) rest
  simp only [readScalar, hstring, htrue, hfalse, readDate, hdate, readTime, htime, readNumber,
    hbase, hdecimal, Option.map_none]

/-- A numeral at the end of its line is no date and no time. -/
theorem takeDate?_decimal (n : Nat) (rest : List Char) :
    takeDate? (Text.decimal n ++ '\n' :: rest) = none := by
  have hdrop := dropWhile_isDigit_line (fun c => Text.isDigit_of_mem_decimal (n := n)) rest
  apply takeDate?_eq_none
  rintro a b c d others heq ⟨ha, hb, hc, hd⟩
  rw [heq] at hdrop
  simp [ha, hb, hc, hd] at hdrop

theorem takeTime?_decimal (n : Nat) (rest : List Char) :
    takeTime? (Text.decimal n ++ '\n' :: rest) = none := by
  have hdrop := dropWhile_isDigit_line (fun c => Text.isDigit_of_mem_decimal (n := n)) rest
  apply takeTime?_eq_none
  rintro a b others heq ⟨ha, hb⟩
  rw [heq] at hdrop
  simp [ha, hb] at hdrop

theorem prefixedNumber?_decimal (n : Nat) (rest : List Char) :
    prefixedNumber? (Text.decimal n ++ '\n' :: rest) = none := by
  obtain ⟨first, digits, hnumeral, -⟩ := Text.exists_decimal_eq_cons n
  by_cases hzero : first = '0'
  · subst hzero
    rw [hnumeral, Text.decimal_eq_of_zero_cons hnumeral]
    rfl
  · rw [hnumeral, List.cons_append, prefixedNumber?.eq_def]
    split <;> simp_all

theorem takeSign_decimal (n : Nat) (rest : List Char) :
    takeSign (Text.decimal n ++ rest) = ([], Text.decimal n ++ rest) := by
  obtain ⟨first, digits, hnumeral, hdigit⟩ := Text.exists_decimal_eq_cons n
  rw [hnumeral, List.cons_append, takeSign]
  · rintro others heq
    exact Text.ne_of_isDigit hdigit (by decide) (List.cons.inj heq).1
  · rintro others heq
    exact Text.ne_of_isDigit hdigit (by decide) (List.cons.inj heq).1

/-- An integer at the end of its line is read again, unless its numeral is too long. -/
theorem readScalar_decimalInt (value : Int) (h : Text.isWritable value = true)
    (rest : List Char) :
    readScalar (Text.decimalInt value ++ '\n' :: rest) = .ok (.integer value, '\n' :: rest) := by
  have hlimit : (Text.decimal value.natAbs).length ≤ Text.numeralLimit := of_decide_eq_true h
  cases value with
  | ofNat n =>
      have hdate := takeDate?_decimal n rest
      have htime := takeTime?_decimal n rest
      have hbase := prefixedNumber?_decimal n rest
      have hdecimal := readDecimal_of_takeSign (takeSign_decimal n ('\n' :: rest)) hlimit
      obtain ⟨first, digits, hnumeral, hdigit⟩ := Text.exists_decimal_eq_cons n
      rw [Text.decimalInt]
      rw [hnumeral, List.cons_append] at hdate htime hbase hdecimal ⊢
      rw [readScalar_of_readDecimal (Or.inl hdigit) hdate htime hbase hdecimal, ← hnumeral]
      simp [Text.signedValue]
  | negSucc n =>
      have hsign : takeSign ('-' :: (Text.decimal (n + 1) ++ '\n' :: rest)) =
          (['-'], Text.decimal (n + 1) ++ '\n' :: rest) := rfl
      have hdate : takeDate? ('-' :: (Text.decimal (n + 1) ++ '\n' :: rest)) = none := by
        apply takeDate?_eq_none
        rintro a b c d others heq ⟨ha, -⟩
        rw [← (List.cons.inj heq).1] at ha
        exact absurd ha (by decide)
      have htime : takeTime? ('-' :: (Text.decimal (n + 1) ++ '\n' :: rest)) = none := by
        apply takeTime?_eq_none
        rintro a b others heq ⟨ha, -⟩
        rw [← (List.cons.inj heq).1] at ha
        exact absurd ha (by decide)
      have hdecimal := readDecimal_of_takeSign hsign hlimit
      rw [Text.decimalInt, List.cons_append,
        readScalar_of_readDecimal (Or.inr rfl) hdate htime rfl hdecimal]
      simp [Text.signedValue, Int.negSucc_eq]

/-! ## Values of all kinds -/

/-- The value as it stands in a document. -/
def Scalar.toDocument : Scalar → Document
  | .boolean value => .boolean value
  | .integer value => .integer value
  | .text value => .text value

/-- Values whose written form is read again: integers have no more digits than are ever read. -/
def Scalar.IsReadable : Scalar → Prop
  | .integer value => Text.isWritable value = true
  | _ => True

theorem readScalar_write {value : Scalar} (h : value.IsReadable) (rest : List Char) :
    readScalar (value.write ++ '\n' :: rest) = .ok (value.toDocument, '\n' :: rest) := by
  cases value with
  | boolean value => cases value <;> rfl
  | integer value => exact readScalar_decimalInt value h rest
  | text value =>
      rw [Scalar.write, readScalar, readString_writeString value (by simp)]
      rfl

/-- A written value begins with a character that opens no list and no table, and that is no
blank. -/
theorem exists_write_eq_cons (value : Scalar) : ∃ first others, value.write = first :: others ∧
    first ≠ '[' ∧ first ≠ '\x7b' ∧ isBlank first = false := by
  cases value with
  | boolean value => cases value <;> exact ⟨_, _, rfl, by decide⟩
  | integer value =>
      cases value with
      | ofNat n =>
          obtain ⟨first, digits, hnumeral, hdigit⟩ := Text.exists_decimal_eq_cons n
          have hspace : first ≠ ' ' := Text.ne_of_isDigit hdigit (by decide)
          have htab : first ≠ '\t' := Text.ne_of_isDigit hdigit (by decide)
          exact ⟨first, digits, hnumeral, Text.ne_of_isDigit hdigit (by decide),
            Text.ne_of_isDigit hdigit (by decide), by simp [isBlank, hspace, htab]⟩
      | negSucc n => exact ⟨'-', _, rfl, by decide⟩
  | text value => exact ⟨'"', _, rfl, by decide⟩

/-- A written value is read again, and what follows its line end is left. -/
theorem readValue_write {value : Scalar} (h : value.IsReadable) (fuel : Nat) (rest : List Char) :
    readValue (fuel + 1) (value.write ++ '\n' :: rest) =
      .ok (value.toDocument, '\n' :: rest) := by
  obtain ⟨first, others, hwrite, hlist, htable, -⟩ := exists_write_eq_cons value
  have hscalar := readScalar_write h rest
  rw [hwrite, List.cons_append] at hscalar ⊢
  rw [readValue]
  · exact hscalar
  · exact fun _ heq => hlist (List.cons.inj heq).1
  · exact fun _ heq => htable (List.cons.inj heq).1

/-! ## Carriage returns -/

/-- Digits that have a value are digits one by one. -/
theorem hexDigitValue?_ne_none {digits : List Char} {n : Nat}
    (h : Text.hexValue? digits = some n) {c : Char} (hc : c ∈ digits) :
    Text.hexDigitValue? c ≠ none := by
  unfold Text.hexValue? at h
  generalize 0 = start at h
  induction digits generalizing start with
  | nil => exact absurd hc List.not_mem_nil
  | cons digit digits ih =>
      rw [List.foldlM_cons] at h
      cases hvalue : Text.hexDigitValue? digit with
      | none =>
          rw [hvalue] at h
          exact absurd h (by simp)
      | some value =>
          rcases List.mem_cons.1 hc with rfl | hothers
          · simp [hvalue]
          · rw [hvalue] at h
            exact ih hothers _ h

/-- Carriage returns are escaped. -/
theorem Escaped.return_not_mem {c : Char} {written : List Char} (h : Escaped c written) :
    '\r' ∉ written := by
  cases h with
  | @letter letter hletter =>
      have hreturn : '\r' ≠ letter := by
        rintro rfl
        exact absurd hletter (by simp [escapedChar?])
      simp [hreturn]
  | digits hvalue =>
      intro hmem
      rw [List.mem_cons, List.mem_cons] at hmem
      rcases hmem with hbackslash | hletter | hdigit
      · exact absurd hbackslash (by decide)
      · exact absurd hletter (by decide)
      · exact hexDigitValue?_ne_none hvalue hdigit (by decide)
  | plain _ _ hforbidden =>
      have hreturn : '\r' ≠ c := by
        rintro rfl
        exact absurd hforbidden (by decide)
      simp [hreturn]

theorem return_not_mem_decimal (n : Nat) : '\r' ∉ Text.decimal n :=
  fun h => absurd (Text.isDigit_of_mem_decimal h) (by decide)

theorem return_not_mem_write (value : Scalar) : '\r' ∉ value.write := by
  cases value with
  | boolean value => cases value <;> decide
  | integer value =>
      cases value with
      | ofNat n => exact return_not_mem_decimal n
      | negSucc n => simpa [Scalar.write, Text.decimalInt] using return_not_mem_decimal (n + 1)
  | text value =>
      have hcontent : '\r' ∉ value.toList.flatMap writeChar := by
        intro h
        obtain ⟨c, -, hc⟩ := List.mem_flatMap.1 h
        exact (escaped_writeChar c).return_not_mem hc
      simpa [Scalar.write, writeString] using hcontent

end TextureCatalog.Toml
