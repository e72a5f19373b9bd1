import TextureCatalog.Json.Writer
import TextureCatalog.Proofs.Json.Reading

/-!
# Written strings and numbers

Which documents JSON can express, which characters its texts hold, and that what is written for a
character or an integer stands for it in the grammar.
-/

namespace TextureCatalog.Json

/-! ## What JSON can express -/

/-- A document that JSON can express: its integers are not too long, its decimal numbers are numbers
of JSON, and it holds no dates. -/
inductive Legible : Document → Prop
  | null : Legible .null
  | boolean {value : Bool} : Legible (.boolean value)
  | integer {value : Int} : Text.isWritable value = true → Legible (.integer value)
  | decimal {literal : String} :
      Spells literal.toList (.value (.decimal literal)) → Legible (.decimal literal)
  | text {value : String} : Legible (.text value)
  | list {items : List Document} : (∀ item ∈ items, Legible item) → Legible (.list items)
  | table {members : Document.Members} :
      (∀ member ∈ members, Legible member.2) → Legible (.table members)

/-- What holds of each part of a legible document. -/
def Part.IsLegible : Part → Prop
  | .value document => Legible document
  | .items documents => ∀ document ∈ documents, Legible document
  | .members pairs => ∀ pair ∈ pairs, Legible pair.2

theorem IsNumeral.isDigit {digits : List Char} (h : IsNumeral digits) :
    ∀ c ∈ digits, c.isDigit = true := by
  rcases h with rfl | ⟨⟨-, hdigits⟩, -⟩
  · intro c hc
    rw [List.mem_singleton.1 hc]
    decide
  · exact hdigits

/-- What a text stands for is legible. -/
theorem Spells.isLegible {text : List Char} {part : Part} (h : Spells text part) :
    part.IsLegible := by
  induction h with
  | @word word value hword =>
      have hspells := Spells.word hword
      simp only [wordValues, List.mem_cons, Prod.mk.injEq, List.not_mem_nil, or_false] at hword
      rcases hword with ⟨rfl, rfl⟩ | ⟨rfl, rfl⟩ | ⟨rfl, rfl⟩ | ⟨rfl, rfl⟩ | ⟨rfl, rfl⟩ | ⟨rfl, rfl⟩
      · exact Legible.null
      · exact Legible.boolean
      · exact Legible.boolean
      all_goals exact Legible.decimal hspells
  | integer hdigits hlimit =>
      exact Legible.integer (Text.isWritable_signedValue hdigits.isDigit hlimit)
  | decimal hdigits hfraction hexponent hne =>
      refine Legible.decimal ?_
      rw [String.toList_ofList]
      exact .decimal hdigits hfraction hexponent hne
  | string => exact Legible.text
  | emptyList => exact Legible.list (List.forall_mem_nil _)
  | list _ _ ih => exact Legible.list ih
  | emptyTable => exact Legible.table (List.forall_mem_nil _)
  | table _ _ ih => exact Legible.table ih
  | lastItem _ _ ih => exact List.forall_mem_singleton.2 ih
  | item _ _ _ _ ih ihitems => exact List.forall_mem_cons.2 ⟨ih, ihitems⟩
  | lastMember _ _ _ _ _ ih => exact List.forall_mem_singleton.2 ih
  | member _ _ _ _ _ _ _ ih ihmembers => exact List.forall_mem_cons.2 ⟨ih, ihmembers⟩

/-! ## Control characters -/

/-- A text without control characters. -/
def NoControls (text : List Char) : Prop :=
  ∀ c ∈ text, 0x20 ≤ c.toNat

instance (text : List Char) : Decidable (NoControls text) :=
  decidable_of_iff (text.all fun c => decide (0x20 ≤ c.toNat)) (by simp [NoControls])

theorem NoControls.not_mem {text : List Char} (h : NoControls text) {c : Char}
    (hc : c.toNat < 0x20) : c ∉ text :=
  fun hmem => absurd (h c hmem) (Nat.not_le.2 hc)

theorem noControls_append_iff {text other : List Char} :
    NoControls (text ++ other) ↔ NoControls text ∧ NoControls other :=
  List.forall_mem_append

theorem noControls_of_isDigit {digits : List Char} (h : ∀ c ∈ digits, c.isDigit = true) :
    NoControls digits := by
  intro c hc
  have hdigit := Text.toNat_of_isDigit (h c hc)
  omega

theorem noControls_word {word : String} {value : Document} (h : (word, value) ∈ wordValues) :
    NoControls word.toList := by
  have hwords : ∀ word ∈ wordValues, NoControls word.1.toList := by
    simp only [wordValues, List.forall_mem_cons]
    decide
  exact hwords _ h

theorem noControls_signText (negative : Bool) : NoControls (signText negative) := by
  cases negative <;> decide

theorem IsFraction.noControls {fraction : List Char} (h : IsFraction fraction) :
    NoControls fraction := by
  cases h with
  | absent => exact List.forall_mem_nil _
  | point hdigits =>
      exact List.forall_mem_cons.2 ⟨by decide, noControls_of_isDigit hdigits.2⟩

theorem IsExponent.noControls {exponent : List Char} (h : IsExponent exponent) :
    NoControls exponent := by
  cases h with
  | absent => exact List.forall_mem_nil _
  | @power letter sign digits hletter hsign hdigits =>
      have hletterPlain : 0x20 ≤ letter.toNat := by
        rcases hletter with rfl | rfl <;> decide
      have hsignPlain : NoControls sign := by
        rcases hsign with rfl | rfl | rfl <;> decide
      exact List.forall_mem_cons.2 ⟨hletterPlain,
        noControls_append_iff.2 ⟨hsignPlain, noControls_of_isDigit hdigits.2⟩⟩

/-- A character that has a value is no control character if those have none. -/
theorem le_toNat_of_isSome {α : Type} (value? : Char → Option α)
    (hcontrols : ∀ code < 0x20, value? (Char.ofNat code) = none) {c : Char}
    (h : (value? c).isSome = true) : 0x20 ≤ c.toNat := by
  by_contra hsmall
  rw [← Char.ofNat_toNat c, hcontrols c.toNat (Nat.not_le.1 hsmall)] at h
  exact Bool.false_ne_true h

theorem Codes.noControls {content : List Char} {codes : List Nat} (h : Codes content codes) :
    NoControls content := by
  induction h with
  | nil => exact List.forall_mem_nil _
  | plain _ _ hplain _ ih => exact List.forall_mem_cons.2 ⟨hplain, ih⟩
  | letter hletter _ ih =>
      have hplain := le_toNat_of_isSome escapedChar? (by decide)
        (Option.isSome_of_eq_some hletter)
      exact List.forall_mem_cons.2 ⟨by decide, List.forall_mem_cons.2 ⟨hplain, ih⟩⟩
  | @unit first second third fourth code text codes hvalue _ ih =>
      have hdigits : NoControls [first, second, third, fourth] := fun c hc =>
        le_toNat_of_isSome Text.hexDigitValue? (by decide)
          (Text.isSome_hexDigitValue?_of_hexValue? hvalue c hc)
      have hrest := noControls_append_iff.2 ⟨hdigits, ih⟩
      exact List.forall_mem_cons.2 ⟨by decide, List.forall_mem_cons.2 ⟨by decide, hrest⟩⟩

theorem Quotes.noControls {content : List Char} {text : String} (h : Quotes content text) :
    NoControls content := by
  obtain ⟨codes, hcodes, -⟩ := h
  exact hcodes.noControls

/-- The text of a decimal number holds no control characters. -/
theorem noControls_of_spells_decimal {text : List Char} {literal : String}
    (h : Spells text (.value (.decimal literal))) : NoControls text := by
  cases h with
  | word hword => exact noControls_word hword
  | decimal hdigits hfraction hexponent =>
      simp only [noControls_append_iff]
      exact ⟨⟨⟨noControls_signText _, noControls_of_isDigit hdigits.isDigit⟩,
        hfraction.noControls⟩, hexponent.noControls⟩

/-- The character that begins a control sequence of a terminal. -/
def escapeChar : Char := '\x1b'

theorem escapeChar_not_mem_spaces {space : List Char} (h : IsSpaces space) :
    escapeChar ∉ space := fun hmem => absurd (h _ hmem) (by decide)

/-- No text of the grammar holds an escape character. -/
theorem Spells.escapeChar_not_mem {text : List Char} {part : Part} (h : Spells text part) :
    escapeChar ∉ text := by
  have hplain {text : List Char} (htext : NoControls text) : escapeChar ∉ text :=
    htext.not_mem (by decide)
  have hquotes {content : List Char} {value : String} (hcontent : Quotes content value) :=
    hplain hcontent.noControls
  have hspaces {space : List Char} (hspace : IsSpaces space) := escapeChar_not_mem_spaces hspace
  obtain ⟨hquote, hbracket, hbracketEnd, hbrace, hbraceEnd, hcomma, hcolon⟩ :
      escapeChar ≠ '"' ∧ escapeChar ≠ '[' ∧ escapeChar ≠ ']' ∧ escapeChar ≠ '\x7b' ∧
        escapeChar ≠ '\x7d' ∧ escapeChar ≠ ',' ∧ escapeChar ≠ ':' := by decide
  induction h with
  | word hword => exact hplain (noControls_word hword)
  | integer hdigits hlimit =>
      simp [hplain (noControls_signText _), hplain (noControls_of_isDigit hdigits.isDigit)]
  | decimal hdigits hfraction hexponent hne =>
      simp [hplain (noControls_signText _), hplain (noControls_of_isDigit hdigits.isDigit),
        hplain hfraction.noControls, hplain hexponent.noControls]
  | string hcontent => simp [hquote, hquotes hcontent]
  | emptyList hspace => simp [hbracket, hbracketEnd, hspaces hspace]
  | list hspace _ ih => simp [hbracket, hspaces hspace, ih]
  | emptyTable hspace => simp [hbrace, hbraceEnd, hspaces hspace]
  | table hspace _ ih => simp [hbrace, hspaces hspace, ih]
  | lastItem _ hspace ih => simp [hbracketEnd, hspaces hspace, ih]
  | item _ hbefore hafter _ ih ihitems =>
      simp [hcomma, hspaces hbefore, hspaces hafter, ih, ihitems]
  | lastMember hkey hbefore hafter _ hspace ih =>
      simp [hquote, hcolon, hbraceEnd, hquotes hkey, hspaces hbefore, hspaces hafter,
        hspaces hspace, ih]
  | member hkey hbefore hafter _ hspace hgap _ ih ihmembers =>
      simp [hquote, hcolon, hcomma, hquotes hkey, hspaces hbefore, hspaces hafter, hspaces hspace,
        hspaces hgap, ih, ihmembers]

/-! ## Strings -/

theorem codes_append {content text : List Char} {codes others : List Nat}
    (h : Codes content codes) (htext : Codes text others) :
    Codes (content ++ text) (codes ++ others) := by
  induction h with
  | nil => exact htext
  | plain hquote hbackslash hcontrol _ ih => exact .plain hquote hbackslash hcontrol ih
  | letter hletter _ ih => exact .letter hletter ih
  | unit hvalue _ ih => exact .unit hvalue ih

theorem codes_unitEscape {code : Nat} (h : code < 0x10000) : Codes (unitEscape code) [code] := by
  have hfour : code < 16 ^ 4 := h
  obtain ⟨hlength, hvalue⟩ := Text.hexPadded_of_lt (by decide) hfour
  rw [unitEscape]
  match hdigits : Text.hexPadded 4 code, hlength with
  | [_, _, _, _], _ =>
      rw [hdigits] at hvalue
      exact .unit hvalue .nil

/-- The codes that stand for a character: its own, or those of its surrogate pair. -/
inductive Units (c : Char) : List Nat → Prop
  | lone : Units c [c.toNat]
  | pair : 0x10000 ≤ c.toNat →
      Units c [0xD800 + (c.toNat - 0x10000) / 0x400, 0xDC00 + c.toNat % 0x400]

theorem isValidChar_toNat (c : Char) :
    c.toNat < 0xD800 ∨ (0xDFFF < c.toNat ∧ c.toNat < 0x110000) :=
  c.valid

theorem isHighSurrogate_toNat (c : Char) : isHighSurrogate c.toNat = false := by
  have := isValidChar_toNat c
  simp only [isHighSurrogate, Bool.and_eq_false_iff, decide_eq_false_iff_not]
  omega

theorem loneChar_toNat (c : Char) : loneChar c.toNat = c := by
  have hlow : isLowSurrogate c.toNat = false := by
    have := isValidChar_toNat c
    simp only [isLowSurrogate, Bool.and_eq_false_iff, decide_eq_false_iff_not]
    omega
  rw [loneChar, isHighSurrogate_toNat, hlow]
  exact Char.ofNat_toNat c

theorem Units.charsOfCodes_append {c : Char} {units : List Nat} (h : Units c units)
    (codes : List Nat) : charsOfCodes (units ++ codes) = c :: charsOfCodes codes := by
  cases h with
  | lone =>
      cases codes with
      | nil => exact congrArg (fun c => [c]) (loneChar_toNat c)
      | cons next codes =>
          rw [List.singleton_append, charsOfCodes, isHighSurrogate_toNat, loneChar_toNat]
          rfl
  | pair hlarge =>
      have hvalid := isValidChar_toNat c
      have hhigh : isHighSurrogate (0xD800 + (c.toNat - 0x10000) / 0x400) = true := by
        simp only [isHighSurrogate, Bool.and_eq_true, decide_eq_true_eq]
        omega
      have hlow : isLowSurrogate (0xDC00 + c.toNat % 0x400) = true := by
        simp only [isLowSurrogate, Bool.and_eq_true, decide_eq_true_eq]
        omega
      have hpair :
          pairChar (0xD800 + (c.toNat - 0x10000) / 0x400) (0xDC00 + c.toNat % 0x400) = c := by
        have hcode : 0x10000 + (0xD800 + (c.toNat - 0x10000) / 0x400 - 0xD800) * 0x400 +
            (0xDC00 + c.toNat % 0x400 - 0xDC00) = c.toNat := by
          omega
        calc pairChar (0xD800 + (c.toNat - 0x10000) / 0x400) (0xDC00 + c.toNat % 0x400)
            = Char.ofNat c.toNat := congrArg Char.ofNat hcode
          _ = c := Char.ofNat_toNat c
      simp only [List.cons_append, List.nil_append, charsOfCodes, hhigh, hlow, hpair, Bool.and_self,
        if_true]

/-- The codes stand for the characters of a text, one after the other.  No surrogate among them is
without its partner. -/
inductive UnitsOf : List Char → List Nat → Prop
  | nil : UnitsOf [] []
  | cons {c : Char} {chars : List Char} {units codes : List Nat} :
      Units c units → UnitsOf chars codes → UnitsOf (c :: chars) (units ++ codes)

theorem UnitsOf.charsOfCodes_eq {chars : List Char} {codes : List Nat} (h : UnitsOf chars codes) :
    charsOfCodes codes = chars := by
  induction h with
  | nil => rfl
  | cons hunits _ ih => rw [hunits.charsOfCodes_append, ih]

/-- No string of a JSON text has an escape for a surrogate without its partner, so the strings are
the texts that are read. -/
def PairsSurrogates (text : List Char) : Prop :=
  ∀ content codes, Codes content codes → '"' :: (content ++ ['"']) <:+: text →
    ∃ chars, UnitsOf chars codes

/-- Without escapes there are no surrogates. -/
theorem pairsSurrogates_of_not_mem {text : List Char} (h : '\\' ∉ text) : PairsSurrogates text := by
  intro content codes hcodes hstands
  have hescape : '\\' ∉ content := fun hmem =>
    h (List.IsInfix.mem (List.mem_cons_of_mem _ (List.mem_append_left _ hmem)) hstands)
  clear hstands
  induction hcodes with
  | nil => exact ⟨[], .nil⟩
  | plain _ _ _ _ ih =>
      obtain ⟨chars, hchars⟩ := ih fun hmem => hescape (List.mem_cons_of_mem _ hmem)
      exact ⟨_, .cons .lone hchars⟩
  | letter | unit => exact absurd List.mem_cons_self hescape

theorem exists_codes_unicodeEscape (c : Char) :
    ∃ units, Units c units ∧ Codes (unicodeEscape c) units := by
  have hvalid := isValidChar_toNat c
  simp only [unicodeEscape]
  split_ifs with hsmall
  · exact ⟨_, .lone, codes_unitEscape hsmall⟩
  · exact ⟨_, .pair (Nat.le_of_not_lt hsmall),
      codes_append (codes_unitEscape (by omega)) (codes_unitEscape (by omega))⟩

/-- A character is written in one of its forms. -/
theorem exists_codes_writeChar (layout : Layout) (c : Char) :
    ∃ units, Units c units ∧ Codes (writeChar layout c) units := by
  have hletter {letter : Char} (h : escapedChar? letter = some c) :
      ∃ units, Units c units ∧ Codes ['\\', letter] units := ⟨_, .lone, .letter h .nil⟩
  unfold writeChar
  split_ifs with hmark hline hreturn htab hfeed hback hcontrol hwide
  · rcases hmark with rfl | rfl <;> exact hletter rfl
  · exact hletter (by rw [hline]; rfl)
  · exact hletter (by rw [hreturn]; rfl)
  · exact hletter (by rw [htab]; rfl)
  · exact hletter (by rw [hfeed]; rfl)
  · exact hletter (by rw [hback]; rfl)
  · exact ⟨_, .lone, codes_unitEscape (by omega)⟩
  · exact exists_codes_unicodeEscape c
  · obtain ⟨hquote, hbackslash⟩ := not_or.1 hmark
    exact ⟨_, .lone, .plain hquote hbackslash (Nat.le_of_not_lt hcontrol) .nil⟩

/-! ## Integers -/

theorem isNumeral_decimal (n : Nat) : IsNumeral (Text.decimal n) := by
  by_cases hzero : n = 0
  · exact .inl (by rw [hzero]; rfl)
  · exact .inr ⟨⟨Text.decimal_ne_nil n, fun _ hc => Text.isDigit_of_mem_decimal hc⟩,
      Text.head?_decimal_ne_zero hzero⟩

theorem spells_signed_decimal {n : Nat} (h : (Text.decimal n).length ≤ Text.numeralLimit)
    (negative : Bool) :
    Spells (signText negative ++ Text.decimal n)
      (.value (.integer (if negative then -(n : Int) else n))) := by
  have hspells := @Spells.integer negative _ (isNumeral_decimal n) h
  rwa [Text.signedValue, Text.decimalValue_decimal] at hspells

theorem spells_decimalInt {value : Int} (h : Text.isWritable value = true) :
    Spells (Text.decimalInt value) (.value (.integer value)) := by
  have hlength : (Text.decimal value.natAbs).length ≤ Text.numeralLimit := of_decide_eq_true h
  cases value with
  | ofNat n => exact spells_signed_decimal hlength false
  | negSucc n => exact spells_signed_decimal hlength true

end TextureCatalog.Json
