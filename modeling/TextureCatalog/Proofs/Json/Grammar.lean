import TextureCatalog.Json.Reader
import TextureCatalog.Proofs.Text.Numeral

/-!
# The grammar of JSON

Which texts stand for which documents, as a relation.  Numbers are maximal runs, so a text that is
followed by something that continues a number may be read differently; whatever else follows, the
reader reads every text of the grammar as the document that it stands for.
-/

namespace TextureCatalog.Json

/-! ## Parts of texts -/

/-- White space between tokens. -/
def IsSpaces (text : List Char) : Prop :=
  ∀ c ∈ text, isSpace c = true

/-- One or more digits. -/
def IsRun (digits : List Char) : Prop :=
  digits ≠ [] ∧ ∀ c ∈ digits, c.isDigit = true

/-- The digits of an integer, which begin with a zero only if there is no other digit. -/
def IsNumeral (digits : List Char) : Prop :=
  digits = ['0'] ∨ (IsRun digits ∧ digits.head? ≠ some '0')

/-- The sign before a number. -/
def signText (negative : Bool) : List Char :=
  if negative then ['-'] else []

/-- A point with digits behind it, or nothing. -/
inductive IsFraction : List Char → Prop
  | absent : IsFraction []
  | point {digits : List Char} : IsRun digits → IsFraction ('.' :: digits)

/-- The letter of an exponent with its digits, which can have a sign, or nothing. -/
inductive IsExponent : List Char → Prop
  | absent : IsExponent []
  | power {letter : Char} {sign digits : List Char} :
      letter = 'e' ∨ letter = 'E' → sign = [] ∨ sign = ['+'] ∨ sign = ['-'] → IsRun digits →
        IsExponent (letter :: (sign ++ digits))

/-- The content of a string and the codes that it stands for. -/
inductive Codes : List Char → List Nat → Prop
  | nil : Codes [] []
  | plain {c : Char} {text : List Char} {codes : List Nat} :
      c ≠ '"' → c ≠ '\\' → 0x20 ≤ c.toNat → Codes text codes → Codes (c :: text) (c.toNat :: codes)
  | letter {letter c : Char} {text : List Char} {codes : List Nat} :
      escapedChar? letter = some c → Codes text codes →
        Codes ('\\' :: letter :: text) (c.toNat :: codes)
  | unit {first second third fourth : Char} {code : Nat} {text : List Char} {codes : List Nat} :
      Text.hexValue? [first, second, third, fourth] = some code → Codes text codes →
        Codes ('\\' :: 'u' :: first :: second :: third :: fourth :: text) (code :: codes)

/-- The content of a string and the text that it stands for. -/
def Quotes (content : List Char) (text : String) : Prop :=
  ∃ codes, Codes content codes ∧ text = String.ofList (charsOfCodes codes)

/-! ## The grammar -/

/-- What a text can stand for: a value, or what comes after the opening bracket of a list or a table
that is not empty. -/
inductive Part
  | value (value : Document)
  | items (items : List Document)
  | members (members : Document.Members)

/-- A text stands for a part of a document. -/
inductive Spells : List Char → Part → Prop
  | word {word : String} {value : Document} :
      (word, value) ∈ wordValues → Spells word.toList (.value value)
  | integer {negative : Bool} {digits : List Char} :
      IsNumeral digits → digits.length ≤ Text.numeralLimit →
        Spells (signText negative ++ digits) (.value (.integer (Text.signedValue negative digits)))
  | decimal {negative : Bool} {digits fraction exponent : List Char} :
      IsNumeral digits → IsFraction fraction → IsExponent exponent → fraction ++ exponent ≠ [] →
        Spells (signText negative ++ digits ++ fraction ++ exponent)
          (.value (.decimal (String.ofList (signText negative ++ digits ++ fraction ++ exponent))))
  | string {content : List Char} {text : String} :
      Quotes content text → Spells ('"' :: (content ++ ['"'])) (.value (.text text))
  | emptyList {space : List Char} :
      IsSpaces space → Spells ('[' :: (space ++ [']'])) (.value (.list []))
  | list {space inner : List Char} {items : List Document} :
      IsSpaces space → Spells inner (.items items) →
        Spells ('[' :: (space ++ inner)) (.value (.list items))
  | emptyTable {space : List Char} :
      IsSpaces space → Spells ('{' :: (space ++ ['}'])) (.value (.table []))
  | table {space inner : List Char} {members : Document.Members} :
      IsSpaces space → Spells inner (.members members) →
        Spells ('{' :: (space ++ inner)) (.value (.table members))
  | lastItem {text space : List Char} {item : Document} :
      Spells text (.value item) → IsSpaces space → Spells (text ++ (space ++ [']'])) (.items [item])
  | item {text before after inner : List Char} {item : Document} {items : List Document} :
      Spells text (.value item) → IsSpaces before → IsSpaces after → Spells inner (.items items) →
        Spells (text ++ (before ++ ',' :: (after ++ inner))) (.items (item :: items))
  | lastMember {content before after text space : List Char} {key : String} {value : Document} :
      Quotes content key → IsSpaces before → IsSpaces after → Spells text (.value value) →
        IsSpaces space →
        Spells ('"' :: (content ++ '"' :: (before ++ ':' :: (after ++ (text ++ (space ++ ['}']))))))
          (.members [(key, value)])
  | member {content before after text space gap inner : List Char} {key : String}
      {value : Document} {members : Document.Members} :
      Quotes content key → IsSpaces before → IsSpaces after → Spells text (.value value) →
        IsSpaces space → IsSpaces gap → Spells inner (.members members) →
        Spells
          ('"' :: (content ++ '"' ::
            (before ++ ':' :: (after ++ (text ++ (space ++ ',' :: (gap ++ inner)))))))
          (.members ((key, value) :: members))

/-! ## White space -/

theorem isSpaces_nil : IsSpaces [] := fun _ hmem => absurd hmem List.not_mem_nil

theorem skipSpace_append {space : List Char} (h : IsSpaces space) (rest : List Char) :
    skipSpace (space ++ rest) = skipSpace rest :=
  List.dropWhile_append_of_pos h

theorem skipSpace_cons {c : Char} (h : isSpace c = false) (rest : List Char) :
    skipSpace (c :: rest) = c :: rest := by
  simp [skipSpace, h]

/-- White space is skipped up to the next token. -/
theorem skipSpace_append_cons {space : List Char} (h : IsSpaces space) {c : Char}
    (hc : isSpace c = false) (rest : List Char) : skipSpace (space ++ c :: rest) = c :: rest := by
  rw [skipSpace_append h, skipSpace_cons hc]

/-! ## Strings -/

theorem Codes.readCodes_append {content : List Char} {codes : List Nat} (h : Codes content codes)
    (whole rest : List Char) :
    readCodes whole (content ++ '"' :: rest) = .ok (codes, rest) := by
  induction h with
  | nil => rfl
  | plain hquote hbackslash hcontrol _ ih =>
      rw [List.cons_append, readCodes]
      · rw [if_neg (Nat.not_lt.2 hcontrol), ih]
        rfl
      · exact hquote
      · exact hbackslash
  | @letter letter c text codes hletter _ ih =>
      have hunit : letter ≠ 'u' := by
        rintro rfl
        simp [escapedChar?] at hletter
      rw [List.cons_append, List.cons_append, readCodes]
      · rw [hletter, ih]
        rfl
      · exact hunit
  | @unit first second third fourth code text codes hvalue _ ih =>
      simp only [List.cons_append, readCodes, hvalue]
      rw [if_neg (by simp), ih]
      rfl

theorem Quotes.readString_append {content : List Char} {text : String} (h : Quotes content text)
    (whole rest : List Char) :
    readString whole (content ++ '"' :: rest) = .ok (text, rest) := by
  obtain ⟨codes, hcodes, rfl⟩ := h
  rw [readString, hcodes.readCodes_append]
  rfl

/-! ## Numbers -/

/-- No digit follows. -/
def NoDigit (rest : List Char) : Prop :=
  ∀ c, rest.head? = some c → c.isDigit = false

/-- Nothing follows that could continue a number. -/
def Ends (rest : List Char) : Prop :=
  ∀ c, rest.head? = some c → c.isDigit = false ∧ c ≠ '.' ∧ c ≠ 'e' ∧ c ≠ 'E'

theorem Ends.noDigit {rest : List Char} (h : Ends rest) : NoDigit rest :=
  fun c hc => (h c hc).1

theorem ends_nil : Ends [] := fun _ hc => absurd hc (by simp)

theorem ends_cons {c : Char} (h : c.isDigit = false ∧ c ≠ '.' ∧ c ≠ 'e' ∧ c ≠ 'E')
    (rest : List Char) : Ends (c :: rest) := by
  intro other hother
  obtain rfl := Option.some.inj hother
  exact h

/-- White space ends a number, and what comes after it does not matter. -/
theorem ends_append {space : List Char} (h : IsSpaces space) {rest : List Char}
    (hrest : Ends rest) : Ends (space ++ rest) := by
  cases space with
  | nil => exact hrest
  | cons c space =>
      have hc := h c (by simp)
      simp only [isSpace, Bool.or_eq_true, beq_iff_eq] at hc
      refine ends_cons ?_ _
      rcases hc with ((rfl | rfl) | rfl) | rfl <;> decide

theorem spanDigits_append {digits rest : List Char} (h : ∀ c ∈ digits, c.isDigit = true)
    (hrest : NoDigit rest) : spanDigits (digits ++ rest) = (digits, rest) := by
  have hnone : rest.takeWhile Char.isDigit = [] ∧ rest.dropWhile Char.isDigit = rest := by
    cases rest with
    | nil => exact ⟨rfl, rfl⟩
    | cons c rest => simp [hrest c rfl]
  rw [spanDigits, List.takeWhile_append_of_pos h, List.dropWhile_append_of_pos h, hnone.1, hnone.2,
    List.append_nil]

theorem IsNumeral.exists_eq_cons {digits : List Char} (h : IsNumeral digits) :
    ∃ first others, digits = first :: others ∧ first.isDigit = true := by
  rcases h with rfl | ⟨⟨hne, hdigits⟩, -⟩
  · exact ⟨'0', [], rfl, by decide⟩
  · obtain ⟨first, others, rfl⟩ := List.exists_cons_of_ne_nil hne
    exact ⟨first, others, rfl, hdigits first (by simp)⟩

theorem IsNumeral.integerDigits?_append {digits : List Char} (h : IsNumeral digits)
    {rest : List Char} (hrest : NoDigit rest) :
    integerDigits? (digits ++ rest) = some (digits, rest) := by
  rcases h with rfl | ⟨⟨hne, hdigits⟩, hzero⟩
  · rfl
  · obtain ⟨first, others, rfl⟩ := List.exists_cons_of_ne_nil hne
    have hfirst : first ≠ '0' := by simpa using hzero
    rw [List.cons_append, integerDigits?, if_neg hfirst, if_pos (hdigits first (by simp)),
      ← List.cons_append, spanDigits_append hdigits hrest]

theorem IsFraction.fractionPart_append {fraction : List Char} (h : IsFraction fraction)
    {rest : List Char} (hrest : NoDigit rest) (hpoint : rest.head? ≠ some '.') :
    fractionPart (fraction ++ rest) = (fraction, rest) := by
  cases h with
  | absent =>
      rw [List.nil_append, fractionPart.eq_def]
      split
      · simp at hpoint
      · rfl
  | @point digits hdigits =>
      obtain ⟨first, others, rfl⟩ := List.exists_cons_of_ne_nil hdigits.1
      rw [List.cons_append, fractionPart, spanDigits_append hdigits.2 hrest]

theorem exponentSign_append {sign : List Char} (h : sign = [] ∨ sign = ['+'] ∨ sign = ['-'])
    {first : Char} (hfirst : first.isDigit = true) (rest : List Char) :
    exponentSign (sign ++ first :: rest) = (sign, first :: rest) := by
  rcases h with rfl | rfl | rfl
  · rw [List.nil_append, exponentSign.eq_def]
    split
    · next heq =>
        rw [(List.cons.inj heq).1] at hfirst
        exact absurd hfirst (by decide)
    · next heq =>
        rw [(List.cons.inj heq).1] at hfirst
        exact absurd hfirst (by decide)
    · rfl
  · rfl
  · rfl

theorem IsExponent.exponentPart_append {exponent : List Char} (h : IsExponent exponent)
    {rest : List Char} (hrest : Ends rest) :
    exponentPart (exponent ++ rest) = (exponent, rest) := by
  cases h with
  | absent =>
      cases rest with
      | nil => rfl
      | cons c rest =>
          obtain ⟨-, -, hlower, hupper⟩ := hrest c rfl
          simp [exponentPart, hlower, hupper]
  | @power letter sign digits hletter hsign hdigits =>
      obtain ⟨first, others, rfl⟩ := List.exists_cons_of_ne_nil hdigits.1
      have hfirst := hdigits.2 first (by simp)
      rw [List.cons_append, exponentPart, if_pos hletter, List.append_assoc, List.cons_append,
        exponentSign_append hsign hfirst]
      simp only
      rw [← List.cons_append, spanDigits_append hdigits.2 hrest.noDigit]

/-- What is read of a number whose parts have been found. -/
theorem readNumber_eq {negative : Bool} {digits fraction exponent unsigned afterDigits
    afterFraction rest : List Char} (hsign : unsigned.head? ≠ some '-')
    (hdigits : integerDigits? unsigned = some (digits, afterDigits))
    (hfraction : fractionPart afterDigits = (fraction, afterFraction))
    (hexponent : exponentPart afterFraction = (exponent, rest)) :
    readNumber (signText negative ++ unsigned) =
      if fraction ++ exponent = [] then
        if digits.length ≤ Text.numeralLimit then
          .ok (.integer (Text.signedValue negative digits), rest)
        else .error .numeralTooLong
      else
        .ok (.decimal (String.ofList (signText negative ++ digits ++ fraction ++ exponent)),
          rest) := by
  have hempty : (fraction.isEmpty && exponent.isEmpty) = decide (fraction ++ exponent = []) := by
    cases fraction <;> cases exponent <;> simp
  cases negative with
  | true =>
      simp only [signText, if_true, List.singleton_append, readNumber, hdigits, hfraction,
        hexponent, hempty, decide_eq_true_eq, List.append_assoc]
  | false =>
      simp only [signText, Bool.false_eq_true, if_false, List.nil_append]
      rw [readNumber]
      · simp only [hdigits, hfraction, hexponent, hempty, decide_eq_true_eq, List.nil_append,
          Bool.false_eq_true, if_false, List.append_assoc]
      · rintro others rfl
        exact hsign rfl

theorem IsNumeral.head?_append_ne {digits : List Char} (h : IsNumeral digits) (rest : List Char) :
    (digits ++ rest).head? ≠ some '-' := by
  obtain ⟨first, others, rfl, hfirst⟩ := h.exists_eq_cons
  rintro heq
  obtain rfl := Option.some.inj heq
  exact absurd hfirst (by decide)

theorem Ends.head?_ne {rest : List Char} (h : Ends rest) : rest.head? ≠ some '.' :=
  fun heq => (h '.' heq).2.1 rfl

/-- An exponent that is there ends the digits before it. -/
theorem IsExponent.noDigit_append {exponent : List Char} (h : IsExponent exponent)
    {rest : List Char} (hrest : Ends rest) :
    NoDigit (exponent ++ rest) ∧ (exponent ++ rest).head? ≠ some '.' := by
  cases h with
  | absent => exact ⟨hrest.noDigit, hrest.head?_ne⟩
  | power hletter =>
      rcases hletter with rfl | rfl <;> constructor <;> simp [NoDigit]

/-- A fraction that is there ends the digits before it. -/
theorem IsFraction.noDigit_append {fraction : List Char} (h : IsFraction fraction)
    {rest : List Char} (hrest : NoDigit rest) : NoDigit (fraction ++ rest) := by
  cases h with
  | absent => exact hrest
  | point =>
      intro c hc
      obtain rfl := Option.some.inj hc
      decide

/-- What is read of a number. -/
theorem readNumber_append (negative : Bool) {digits fraction exponent : List Char}
    (hdigits : IsNumeral digits) (hfraction : IsFraction fraction)
    (hexponent : IsExponent exponent) {rest : List Char} (hrest : Ends rest) :
    readNumber (signText negative ++ (digits ++ (fraction ++ (exponent ++ rest)))) =
      if fraction ++ exponent = [] then
        if digits.length ≤ Text.numeralLimit then
          .ok (.integer (Text.signedValue negative digits), rest)
        else .error .numeralTooLong
      else
        .ok (.decimal (String.ofList (signText negative ++ digits ++ fraction ++ exponent)),
          rest) := by
  obtain ⟨hafter, hpoint⟩ := hexponent.noDigit_append hrest
  exact readNumber_eq (hdigits.head?_append_ne _)
    (hdigits.integerDigits?_append (hfraction.noDigit_append hafter))
    (hfraction.fractionPart_append hafter hpoint) (hexponent.exponentPart_append hrest)

/-! ## Words and numbers -/

theorem readScalar_word {word : String} {value : Document} (h : (word, value) ∈ wordValues)
    (rest : List Char) : readScalar (word.toList ++ rest) = .ok (value, rest) := by
  simp only [wordValues, List.mem_cons, Prod.mk.injEq, List.not_mem_nil, or_false] at h
  rcases h with ⟨rfl, rfl⟩ | ⟨rfl, rfl⟩ | ⟨rfl, rfl⟩ | ⟨rfl, rfl⟩ | ⟨rfl, rfl⟩ | ⟨rfl, rfl⟩ <;> rfl

/-- No word begins like a number. -/
theorem readScalar_number {negative : Bool} {first : Char} (h : first.isDigit = true)
    (others : List Char) :
    readScalar (signText negative ++ first :: others) =
      readNumber (signText negative ++ first :: others) := by
  have hne (c : Char) (hc : c.isDigit = false) : c ≠ first := (Text.ne_of_isDigit h hc).symm
  have hnone : ∀ word ∈ wordValues,
      afterWord? word.1.toList (signText negative ++ first :: others) = none := by
    simp only [wordValues, List.forall_mem_cons, afterWord?]
    cases negative <;> simp [signText, hne]
  rw [readScalar, List.findSome?_eq_none_iff.2 fun word hmem => by simp [hnone word hmem]]

/-! ## Values -/

/-- A text that does not begin like a string, a list or a table is a word or a number. -/
theorem readValue_scalar {c : Char} (hquote : c ≠ '"') (hbracket : c ≠ '[') (hbrace : c ≠ '{')
    (fuel : Nat) (text : List Char) :
    readValue (fuel + 1) (c :: text) = readScalar (c :: text) := by
  rw [readValue.eq_def]
  simp only
  split <;> simp_all

theorem readValue_string (fuel : Nat) (text : List Char) :
    readValue (fuel + 1) ('"' :: text) =
      Reading.map Document.text (readString ('"' :: text) text) :=
  rfl

/-- A text that begins with a digit, or with a minus and a digit, is a number. -/
theorem readValue_number {negative : Bool} {digits : List Char} (h : IsNumeral digits)
    (fuel : Nat) (text : List Char) :
    readValue (fuel + 1) (signText negative ++ (digits ++ text)) =
      readNumber (signText negative ++ (digits ++ text)) := by
  obtain ⟨first, others, rfl, hfirst⟩ := h.exists_eq_cons
  rw [List.cons_append, ← readScalar_number hfirst]
  cases negative with
  | true => exact readValue_scalar (by decide) (by decide) (by decide) fuel _
  | false =>
      exact readValue_scalar (Text.ne_of_isDigit hfirst (by decide))
        (Text.ne_of_isDigit hfirst (by decide)) (Text.ne_of_isDigit hfirst (by decide)) fuel _

theorem IsNumeral.exists_signText_append_eq_cons {digits : List Char} (h : IsNumeral digits)
    (negative : Bool) (text : List Char) :
    ∃ first others, signText negative ++ (digits ++ text) = first :: others ∧
      isSpace first = false ∧ first ≠ ']' ∧ first ≠ '}' ∧ first ≠ '\uFEFF' := by
  obtain ⟨first, others, rfl, hfirst⟩ := h.exists_eq_cons
  cases negative with
  | true => exact ⟨'-', _, rfl, by decide⟩
  | false =>
      have hne {c : Char} : c.isDigit = false → first ≠ c := Text.ne_of_isDigit hfirst
      exact ⟨first, _, rfl, by simp [isSpace, hne], hne (by decide), hne (by decide),
        hne (by decide)⟩

/-- The first character of a part is neither white space nor a closing mark, nor one that marks the
byte order. -/
theorem Spells.exists_eq_cons {text : List Char} {part : Part} (h : Spells text part) :
    ∃ first others, text = first :: others ∧
      isSpace first = false ∧ first ≠ ']' ∧ first ≠ '}' ∧ first ≠ '\uFEFF' := by
  induction h with
  | @word word value hword =>
      simp only [wordValues, List.mem_cons, Prod.mk.injEq, List.not_mem_nil, or_false] at hword
      rcases hword with ⟨rfl, -⟩ | ⟨rfl, -⟩ | ⟨rfl, -⟩ | ⟨rfl, -⟩ | ⟨rfl, -⟩ | ⟨rfl, -⟩ <;>
        exact ⟨_, _, rfl, by decide⟩
  | @integer negative digits hdigits _ =>
      simpa using hdigits.exists_signText_append_eq_cons negative []
  | @decimal negative digits fraction exponent hdigits _ _ _ =>
      simpa using hdigits.exists_signText_append_eq_cons negative (fraction ++ exponent)
  | string => exact ⟨'"', _, rfl, by decide⟩
  | emptyList => exact ⟨'[', _, rfl, by decide⟩
  | list => exact ⟨'[', _, rfl, by decide⟩
  | emptyTable => exact ⟨'{', _, rfl, by decide⟩
  | table => exact ⟨'{', _, rfl, by decide⟩
  | lastItem _ _ ih =>
      obtain ⟨first, others, rfl, hfirst⟩ := ih
      exact ⟨first, _, rfl, hfirst⟩
  | item _ _ _ _ ih =>
      obtain ⟨first, others, rfl, hfirst⟩ := ih
      exact ⟨first, _, rfl, hfirst⟩
  | lastMember => exact ⟨'"', _, rfl, by decide⟩
  | member => exact ⟨'"', _, rfl, by decide⟩

/-! ## Reading what the grammar allows -/

/-- The reader reads a text as a part, whatever comes after it; a value must come to its end. -/
def Reads (text : List Char) : Part → Prop
  | .value value => ∀ fuel rest, 2 * text.length ≤ fuel → Ends rest →
      readValue fuel (text ++ rest) = .ok (value, rest)
  | .items items => ∀ fuel rest, 2 * text.length ≤ fuel →
      readItems fuel (text ++ rest) = .ok (items, rest)
  | .members members => ∀ fuel rest, 2 * text.length ≤ fuel →
      readMembers fuel (text ++ rest) = .ok (members, rest)

/-- White space before a mark ends a number, because it or the mark does. -/
theorem ends_append_cons {space : List Char} (h : IsSpaces space) {c : Char}
    (hc : c.isDigit = false ∧ c ≠ '.' ∧ c ≠ 'e' ∧ c ≠ 'E') (rest : List Char) :
    Ends (space ++ c :: rest) :=
  ends_append h (ends_cons hc rest)

theorem readValue_emptyList {space : List Char} (h : IsSpaces space) (fuel : Nat)
    (rest : List Char) :
    readValue (fuel + 1) ('[' :: (space ++ ']' :: rest)) = .ok (.list [], rest) := by
  simp only [readValue]
  rw [skipSpace_append_cons h (by decide)]
  rfl

theorem readValue_list {space : List Char} (h : IsSpaces space) {first : Char}
    (hspace : isSpace first = false) (hclose : first ≠ ']') (fuel : Nat) (others : List Char) :
    readValue (fuel + 1) ('[' :: (space ++ first :: others)) =
      Reading.map Document.list (readItems fuel (first :: others)) := by
  simp only [readValue]
  rw [skipSpace_append_cons h hspace]
  split
  · next heq => exact absurd (List.cons.inj heq).1 hclose
  · rfl

theorem readValue_emptyTable {space : List Char} (h : IsSpaces space) (fuel : Nat)
    (rest : List Char) :
    readValue (fuel + 1) ('{' :: (space ++ '}' :: rest)) = .ok (.table [], rest) := by
  simp only [readValue]
  rw [skipSpace_append_cons h (by decide)]
  rfl

theorem readValue_table {space : List Char} (h : IsSpaces space) {first : Char}
    (hspace : isSpace first = false) (hclose : first ≠ '}') (fuel : Nat) (others : List Char) :
    readValue (fuel + 1) ('{' :: (space ++ first :: others)) =
      Reading.map Document.table (readMembers fuel (first :: others)) := by
  simp only [readValue]
  rw [skipSpace_append_cons h hspace]
  split
  · next heq => exact absurd (List.cons.inj heq).1 hclose
  · rfl

/-- How a list is read on after one of its items. -/
theorem readItems_of_ok {fuel : Nat} {text rest : List Char} {item : Document}
    (h : readValue fuel text = .ok (item, rest)) :
    readItems (fuel + 1) text =
      match skipSpace rest with
      | ']' :: rest => .ok ([item], rest)
      | ',' :: rest => Reading.map (item :: ·) (readItems fuel (skipSpace rest))
      | rest => .error (.malformed .expectedComma rest.length) := by
  rw [readItems, h]
  simp only [bind, Except.bind]
  split <;> try simp_all only
  cases readItems fuel (skipSpace _) <;> rfl

/-- How a table is read on after one of its members. -/
theorem readMembers_of_ok {fuel : Nat} {text afterKey afterColon rest : List Char} {key : String}
    {value : Document} (hkey : readString ('"' :: text) text = .ok (key, afterKey))
    (hcolon : skipSpace afterKey = ':' :: afterColon)
    (h : readValue fuel (skipSpace afterColon) = .ok (value, rest)) :
    readMembers (fuel + 1) ('"' :: text) =
      match skipSpace rest with
      | '}' :: rest => .ok ([(key, value)], rest)
      | ',' :: rest => Reading.map ((key, value) :: ·) (readMembers fuel (skipSpace rest))
      | rest => .error (.malformed .expectedComma rest.length) := by
  rw [readMembers, hkey]
  simp only [bind, Except.bind, hcolon, h]
  split <;> try simp_all only
  cases readMembers fuel (skipSpace _) <;> rfl

theorem readItems_last {fuel : Nat} {text space rest : List Char} {item : Document}
    (h : readValue fuel text = .ok (item, space ++ ']' :: rest)) (hspace : IsSpaces space) :
    readItems (fuel + 1) text = .ok ([item], rest) := by
  rw [readItems_of_ok h, skipSpace_append_cons hspace (by decide)]
  rfl

theorem readItems_next {fuel : Nat} {text before after rest : List Char} {item : Document}
    {first : Char}
    (h : readValue fuel text = .ok (item, before ++ ',' :: (after ++ first :: rest)))
    (hbefore : IsSpaces before) (hafter : IsSpaces after) (hfirst : isSpace first = false) :
    readItems (fuel + 1) text = Reading.map (item :: ·) (readItems fuel (first :: rest)) := by
  rw [readItems_of_ok h, skipSpace_append_cons hbefore (by decide)]
  simp only
  rw [skipSpace_append_cons hafter hfirst]

section Members

variable {fuel : Nat} {content before after text space : List Char} {key : String}
  {value : Document} {first : Char} (hkey : Quotes content key) (hbefore : IsSpaces before)
  (hafter : IsSpaces after) (hfirst : isSpace first = false) (hspace : IsSpaces space)

include hkey hbefore hafter hfirst hspace

theorem readMembers_last {rest : List Char}
    (h : readValue fuel (first :: text) = .ok (value, space ++ '}' :: rest)) :
    readMembers (fuel + 1)
        ('"' :: (content ++ '"' :: (before ++ ':' :: (after ++ first :: text)))) =
      .ok ([(key, value)], rest) := by
  rw [← skipSpace_append_cons hafter hfirst] at h
  rw [readMembers_of_ok (hkey.readString_append _ _)
      (skipSpace_append_cons hbefore (by decide) _) h,
    skipSpace_append_cons hspace (by decide)]
  rfl

theorem readMembers_next {gap rest : List Char} {second : Char} (hgap : IsSpaces gap)
    (hsecond : isSpace second = false)
    (h : readValue fuel (first :: text) = .ok (value, space ++ ',' :: (gap ++ second :: rest))) :
    readMembers (fuel + 1)
        ('"' :: (content ++ '"' :: (before ++ ':' :: (after ++ first :: text)))) =
      Reading.map ((key, value) :: ·) (readMembers fuel (second :: rest)) := by
  rw [← skipSpace_append_cons hafter hfirst] at h
  rw [readMembers_of_ok (hkey.readString_append _ _)
      (skipSpace_append_cons hbefore (by decide) _) h,
    skipSpace_append_cons hspace (by decide)]
  simp only
  rw [skipSpace_append_cons hgap hsecond]

end Members

theorem Spells.exists_fuel {text : List Char} {part : Part} (h : Spells text part) {fuel : Nat}
    (hfuel : 2 * text.length ≤ fuel) : ∃ less, fuel = less + 1 := by
  obtain ⟨first, others, rfl, -⟩ := h.exists_eq_cons
  rw [List.length_cons] at hfuel
  exact Nat.exists_eq_add_one.2 (by omega)

/-- The reader reads every text of the grammar as what the text stands for. -/
theorem Spells.reads {text : List Char} {part : Part} (h : Spells text part) : Reads text part := by
  induction h with
  | @word word value hword =>
      intro fuel rest hfuel _
      obtain ⟨fuel, rfl⟩ := (Spells.word hword).exists_fuel hfuel
      rw [← readScalar_word hword rest]
      simp only [wordValues, List.mem_cons, Prod.mk.injEq, List.not_mem_nil, or_false] at hword
      rcases hword with ⟨rfl, -⟩ | ⟨rfl, -⟩ | ⟨rfl, -⟩ | ⟨rfl, -⟩ | ⟨rfl, -⟩ | ⟨rfl, -⟩ <;>
        exact readValue_scalar (by decide) (by decide) (by decide) fuel _
  | @integer negative digits hdigits hlimit =>
      intro fuel rest hfuel hrest
      obtain ⟨fuel, rfl⟩ := (Spells.integer hdigits hlimit).exists_fuel hfuel
      have hread := readNumber_append negative hdigits .absent .absent hrest
      rw [if_pos (List.append_nil _), if_pos hlimit] at hread
      rw [List.append_assoc, readValue_number hdigits]
      exact hread
  | @decimal negative digits fraction exponent hdigits hfraction hexponent hne =>
      intro fuel rest hfuel hrest
      obtain ⟨fuel, rfl⟩ := (Spells.decimal hdigits hfraction hexponent hne).exists_fuel hfuel
      have hread := readNumber_append negative hdigits hfraction hexponent hrest
      rw [if_neg hne] at hread
      rw [List.append_assoc, List.append_assoc, List.append_assoc, readValue_number hdigits]
      exact hread
  | string hquotes =>
      intro fuel rest hfuel _
      obtain ⟨fuel, rfl⟩ := (Spells.string hquotes).exists_fuel hfuel
      rw [List.cons_append, List.append_assoc, List.singleton_append, readValue_string,
        hquotes.readString_append]
      rfl
  | emptyList hspace =>
      intro fuel rest hfuel _
      obtain ⟨fuel, rfl⟩ := (Spells.emptyList hspace).exists_fuel hfuel
      rw [List.cons_append, List.append_assoc, List.singleton_append]
      exact readValue_emptyList hspace fuel rest
  | list hspace hinner ih =>
      intro fuel rest hfuel _
      obtain ⟨fuel, rfl⟩ := (Spells.list hspace hinner).exists_fuel hfuel
      simp only [List.length_cons, List.length_append] at hfuel
      have hread := ih fuel rest (by omega)
      obtain ⟨first, others, rfl, hfirst, hclose, -⟩ := hinner.exists_eq_cons
      rw [List.cons_append, List.append_assoc, List.cons_append,
        readValue_list hspace hfirst hclose, ← List.cons_append, hread]
      rfl
  | emptyTable hspace =>
      intro fuel rest hfuel _
      obtain ⟨fuel, rfl⟩ := (Spells.emptyTable hspace).exists_fuel hfuel
      rw [List.cons_append, List.append_assoc, List.singleton_append]
      exact readValue_emptyTable hspace fuel rest
  | table hspace hinner ih =>
      intro fuel rest hfuel _
      obtain ⟨fuel, rfl⟩ := (Spells.table hspace hinner).exists_fuel hfuel
      simp only [List.length_cons, List.length_append] at hfuel
      have hread := ih fuel rest (by omega)
      obtain ⟨first, others, rfl, hfirst, -, hclose, -⟩ := hinner.exists_eq_cons
      rw [List.cons_append, List.append_assoc, List.cons_append,
        readValue_table hspace hfirst hclose, ← List.cons_append, hread]
      rfl
  | lastItem htext hspace ih =>
      intro fuel rest hfuel
      obtain ⟨fuel, rfl⟩ := (Spells.lastItem htext hspace).exists_fuel hfuel
      simp only [List.length_append, List.length_singleton] at hfuel
      rw [List.append_assoc, List.append_assoc, List.singleton_append]
      exact readItems_last (ih fuel _ (by omega) (ends_append_cons hspace (by decide) rest)) hspace
  | item htext hbefore hafter hinner ihtext ihinner =>
      intro fuel rest hfuel
      obtain ⟨fuel, rfl⟩ := (Spells.item htext hbefore hafter hinner).exists_fuel hfuel
      simp only [List.length_append, List.length_cons] at hfuel
      have hread := ihinner fuel rest (by omega)
      obtain ⟨first, others, rfl, hfirst, -⟩ := hinner.exists_eq_cons
      rw [List.append_assoc, List.append_assoc, List.cons_append, List.append_assoc,
        List.cons_append]
      rw [readItems_next (ihtext fuel _ (by omega) (ends_append_cons hbefore (by decide) _)) hbefore
        hafter hfirst, ← List.cons_append, hread]
      rfl
  | @lastMember _ _ _ _ space _ _ hkey hbefore hafter htext hspace ih =>
      intro fuel rest hfuel
      have hends : Ends (space ++ '}' :: rest) := ends_append_cons hspace (by decide) rest
      obtain ⟨fuel, rfl⟩ :=
        (Spells.lastMember hkey hbefore hafter htext hspace).exists_fuel hfuel
      simp only [List.length_append, List.length_cons, List.length_nil] at hfuel
      have hread := ih fuel _ (by omega) hends
      obtain ⟨first, others, rfl, hfirst, -⟩ := htext.exists_eq_cons
      simp only [List.cons_append, List.append_assoc, List.nil_append] at hread ⊢
      exact readMembers_last hkey hbefore hafter hfirst hspace hread
  | @member _ _ _ _ space gap inner _ _ _ hkey hbefore hafter htext hspace hgap hinner ihtext
      ihinner =>
      intro fuel rest hfuel
      have hends : Ends (space ++ ',' :: (gap ++ (inner ++ rest))) :=
        ends_append_cons hspace (by decide) _
      obtain ⟨fuel, rfl⟩ :=
        (Spells.member hkey hbefore hafter htext hspace hgap hinner).exists_fuel hfuel
      simp only [List.length_append, List.length_cons] at hfuel
      have hread := ihtext fuel _ (by omega) hends
      have hinnerRead := ihinner fuel rest (by omega)
      obtain ⟨first, others, rfl, hfirst, -⟩ := htext.exists_eq_cons
      obtain ⟨second, members, rfl, hsecond, -⟩ := hinner.exists_eq_cons
      simp only [List.cons_append, List.append_assoc] at hread hinnerRead ⊢
      rw [readMembers_next hkey hbefore hafter hfirst hspace hgap hsecond hread, hinnerRead]
      rfl

end TextureCatalog.Json
