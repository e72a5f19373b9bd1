import Mathlib.Data.List.TakeWhile
import TextureCatalog.Proofs.Json.Grammar

/-!
# What the JSON reader accepts

The reader against the grammar.  What it reads is what the text that it passed stands for, and it
gives up on a number with too many digits exactly where the text is JSON up to such a number.
-/

namespace TextureCatalog.Json

variable {α β : Type}

theorem Reading.map_eq_ok_iff {change : α → β} {reading : Reading α} {value : β}
    {rest : List Char} :
    reading.map change = .ok (value, rest) ↔
      ∃ inner, reading = .ok (inner, rest) ∧ change inner = value := by
  cases reading with
  | error fault => simp [Reading.map]
  | ok pair =>
      obtain ⟨inner, after⟩ := pair
      constructor
      · intro h
        obtain ⟨rfl, rfl⟩ := Prod.mk.inj (Except.ok.inj h)
        exact ⟨inner, rfl, rfl⟩
      · rintro ⟨inner, h, rfl⟩
        obtain ⟨rfl, rfl⟩ := Prod.mk.inj (Except.ok.inj h)
        rfl

theorem Reading.map_eq_error_iff {change : α → β} {reading : Reading α} {fault : Fault} :
    reading.map change = .error fault ↔ reading = .error fault := by
  cases reading <;> simp [Reading.map]

/-! ## White space and strings -/

theorem exists_eq_append_skipSpace (text : List Char) :
    ∃ space, IsSpaces space ∧ text = space ++ skipSpace text :=
  ⟨text.takeWhile isSpace, fun _ hc => List.mem_takeWhile_imp hc,
    List.takeWhile_append_dropWhile.symm⟩

theorem codes_of_readCodes {whole text rest : List Char} {codes : List Nat}
    (h : readCodes whole text = .ok (codes, rest)) :
    ∃ content, Codes content codes ∧ text = content ++ '"' :: rest := by
  fun_induction readCodes whole text generalizing codes with
  | case1 | case3 | case4 | case5 | case7 | case8 | case10 => simp at h
  | case2 after =>
      obtain ⟨rfl, rfl⟩ := Prod.mk.inj (Except.ok.inj h)
      exact ⟨[], .nil, rfl⟩
  | case6 first second third fourth tail code hvalue _ ih =>
      obtain ⟨codes, hread, rfl⟩ := Reading.map_eq_ok_iff.1 h
      obtain ⟨content, hcontent, rfl⟩ := ih hread
      exact ⟨_, .unit hvalue hcontent, rfl⟩
  | case9 letter tail _ c hletter ih =>
      obtain ⟨codes, hread, rfl⟩ := Reading.map_eq_ok_iff.1 h
      obtain ⟨content, hcontent, rfl⟩ := ih hread
      exact ⟨_, .letter hletter hcontent, rfl⟩
  | case11 c tail hquote hbackslash hcontrol ih =>
      obtain ⟨codes, hread, rfl⟩ := Reading.map_eq_ok_iff.1 h
      obtain ⟨content, hcontent, rfl⟩ := ih hread
      exact ⟨_, .plain hquote hbackslash (Nat.le_of_not_lt hcontrol) hcontent, rfl⟩

theorem readCodes_ne_numeralTooLong (whole text : List Char) :
    readCodes whole text ≠ .error .numeralTooLong := by
  fun_induction readCodes whole text <;> simp_all [Reading.map_eq_error_iff]

theorem quotes_of_readString {whole text rest : List Char} {value : String}
    (h : readString whole text = .ok (value, rest)) :
    ∃ content, Quotes content value ∧ text = content ++ '"' :: rest := by
  obtain ⟨codes, hread, rfl⟩ := Reading.map_eq_ok_iff.1 h
  obtain ⟨content, hcodes, rfl⟩ := codes_of_readCodes hread
  exact ⟨content, ⟨codes, hcodes, rfl⟩, rfl⟩

theorem readString_ne_numeralTooLong (whole text : List Char) :
    readString whole text ≠ .error .numeralTooLong := fun h =>
  readCodes_ne_numeralTooLong whole text (Reading.map_eq_error_iff.1 h)

/-! ## Numbers -/

theorem spanDigits_eq_iff {text digits rest : List Char} :
    spanDigits text = (digits, rest) ↔
      text = digits ++ rest ∧ (∀ c ∈ digits, c.isDigit = true) ∧ NoDigit rest := by
  constructor
  · rintro h
    obtain ⟨rfl, rfl⟩ := Prod.mk.inj h
    refine ⟨List.takeWhile_append_dropWhile.symm, fun _ hc => List.mem_takeWhile_imp hc, ?_⟩
    intro c hc
    have := List.head?_dropWhile_not Char.isDigit text
    rw [hc] at this
    simpa using this
  · rintro ⟨rfl, hdigits, hrest⟩
    exact spanDigits_append hdigits hrest

theorem numeral_of_integerDigits? {text digits rest : List Char}
    (h : integerDigits? text = some (digits, rest)) :
    text = digits ++ rest ∧ IsNumeral digits ∧ (digits = ['0'] ∨ NoDigit rest) := by
  cases text with
  | nil => simp [integerDigits?] at h
  | cons c tail =>
      rw [integerDigits?] at h
      split_ifs at h with hzero hdigit
      · obtain ⟨rfl, rfl⟩ := Prod.mk.inj (Option.some.inj h)
        exact ⟨by rw [hzero]; rfl, .inl rfl, .inl rfl⟩
      · obtain ⟨heq, hdigits, hrest⟩ := spanDigits_eq_iff.1 (Option.some.inj h)
        cases digits with
        | nil =>
            have hfirst := hrest c (by rw [← List.nil_append rest, ← heq]; rfl)
            exact absurd (hfirst.symm.trans hdigit) (by decide)
        | cons first others =>
            obtain ⟨rfl, rfl⟩ := List.cons.inj heq
            exact ⟨rfl, .inr ⟨⟨List.cons_ne_nil _ _, hdigits⟩, by simpa using hzero⟩, .inr hrest⟩

theorem fraction_of_fractionPart {text fraction rest : List Char}
    (h : fractionPart text = (fraction, rest)) : text = fraction ++ rest ∧ IsFraction fraction := by
  unfold fractionPart at h
  split at h
  · next tail =>
      split at h
      · obtain ⟨rfl, rfl⟩ := Prod.mk.inj h
        exact ⟨rfl, .absent⟩
      · next digits after hne hspan =>
          obtain ⟨rfl, rfl⟩ := Prod.mk.inj h
          obtain ⟨rfl, hdigits, -⟩ := spanDigits_eq_iff.1 hspan
          exact ⟨rfl, .point ⟨hne, hdigits⟩⟩
  · obtain ⟨rfl, rfl⟩ := Prod.mk.inj h
    exact ⟨rfl, .absent⟩

theorem sign_of_exponentSign {text sign rest : List Char}
    (h : exponentSign text = (sign, rest)) :
    text = sign ++ rest ∧ (sign = [] ∨ sign = ['+'] ∨ sign = ['-']) := by
  unfold exponentSign at h
  split at h <;> obtain ⟨rfl, rfl⟩ := Prod.mk.inj h <;> simp

theorem exponent_of_exponentPart {text exponent rest : List Char}
    (h : exponentPart text = (exponent, rest)) : text = exponent ++ rest ∧ IsExponent exponent := by
  cases text with
  | nil =>
      obtain ⟨rfl, rfl⟩ := Prod.mk.inj h
      exact ⟨rfl, .absent⟩
  | cons letter tail =>
      rw [exponentPart] at h
      split_ifs at h with hletter
      · obtain ⟨sign, afterSign, hsplit⟩ : ∃ sign after, exponentSign tail = (sign, after) :=
          ⟨_, _, rfl⟩
        obtain ⟨rfl, hsign⟩ := sign_of_exponentSign hsplit
        rw [hsplit] at h
        simp only at h
        split at h
        · obtain ⟨rfl, rfl⟩ := Prod.mk.inj h
          exact ⟨rfl, .absent⟩
        · next digits after hne hspan =>
            obtain ⟨rfl, rfl⟩ := Prod.mk.inj h
            obtain ⟨rfl, hdigits, -⟩ := spanDigits_eq_iff.1 hspan
            exact ⟨by simp, .power hletter hsign ⟨hne, hdigits⟩⟩
      · obtain ⟨rfl, rfl⟩ := Prod.mk.inj h
        exact ⟨rfl, .absent⟩

/-- A text goes on with a part of the number before it. -/
inductive Continues : List Char → Prop
  | digit {c : Char} {rest : List Char} : c.isDigit = true → Continues (c :: rest)
  | fraction {c : Char} {rest : List Char} : c.isDigit = true → Continues ('.' :: c :: rest)
  | exponent {letter c : Char} {sign rest : List Char} :
      letter = 'e' ∨ letter = 'E' → sign = [] ∨ sign = ['+'] ∨ sign = ['-'] → c.isDigit = true →
        Continues (letter :: (sign ++ c :: rest))

theorem not_continues_iff {rest : List Char} :
    ¬ Continues rest ↔
      NoDigit rest ∧ fractionPart rest = ([], rest) ∧ exponentPart rest = ([], rest) := by
  constructor
  · intro h
    refine ⟨?_, ?_, ?_⟩
    · intro c hc
      cases rest with
      | nil => simp at hc
      | cons first others =>
          obtain rfl := Option.some.inj hc
          exact Bool.eq_false_iff.2 fun hdigit => h (.digit hdigit)
    · obtain ⟨fraction, after, hsplit⟩ : ∃ fraction after, fractionPart rest = (fraction, after) :=
        ⟨_, _, rfl⟩
      obtain ⟨rfl, hfraction⟩ := fraction_of_fractionPart hsplit
      cases hfraction with
      | absent => exact hsplit
      | point hdigits =>
          obtain ⟨first, others, rfl⟩ := List.exists_cons_of_ne_nil hdigits.1
          exact absurd (.fraction (hdigits.2 first (by simp))) h
    · obtain ⟨exponent, after, hsplit⟩ : ∃ exponent after, exponentPart rest = (exponent, after) :=
        ⟨_, _, rfl⟩
      obtain ⟨rfl, hexponent⟩ := exponent_of_exponentPart hsplit
      cases hexponent with
      | absent => exact hsplit
      | power hletter hsign hdigits =>
          obtain ⟨first, others, rfl⟩ := List.exists_cons_of_ne_nil hdigits.1
          rw [List.cons_append, List.append_assoc, List.cons_append] at h
          exact absurd (.exponent hletter hsign (hdigits.2 first (by simp))) h
  · rintro ⟨hdigit, hfraction, hexponent⟩ h
    cases h with
    | @digit c tail hc => exact absurd ((hdigit c rfl).symm.trans hc) (by decide)
    | fraction hc => simp [fractionPart, spanDigits, hc] at hfraction
    | @exponent letter c sign tail hletter hsign hc =>
        simp [exponentPart, hletter, exponentSign_append hsign hc, spanDigits, hc] at hexponent

/-- What a text that is read as a number looks like.  Nothing more of an integer follows, unless it
is a zero. -/
structure IsNumber (text : List Char) (negative : Bool)
    (digits fraction exponent rest : List Char) : Prop where
  eq_append : text = signText negative ++ (digits ++ (fraction ++ (exponent ++ rest)))
  isNumeral : IsNumeral digits
  isFraction : IsFraction fraction
  isExponent : IsExponent exponent
  ends : fraction ++ exponent = [] → digits = ['0'] ∨ ¬ Continues rest

theorem readNumber_cases (text : List Char) :
    (∃ problem remaining, readNumber text = .error (.malformed problem remaining)) ∨
      ∃ negative digits fraction exponent rest,
        IsNumber text negative digits fraction exponent rest ∧
          readNumber text =
            if fraction ++ exponent = [] then
              if digits.length ≤ Text.numeralLimit then
                .ok (.integer (Text.signedValue negative digits), rest)
              else .error .numeralTooLong
            else
              .ok (.decimal (String.ofList (signText negative ++ digits ++ fraction ++ exponent)),
                rest) := by
  obtain ⟨negative, unsigned, rfl, hsign⟩ : ∃ negative unsigned,
      text = signText negative ++ unsigned ∧
        (integerDigits? unsigned = none → ∃ problem remaining,
          readNumber (signText negative ++ unsigned) = .error (.malformed problem remaining)) := by
    by_cases hminus : ∃ tail, text = '-' :: tail
    · obtain ⟨tail, rfl⟩ := hminus
      exact ⟨true, tail, rfl, fun hnone =>
        ⟨.expectedValue, tail.length + 1, by simp [signText, readNumber, hnone]⟩⟩
    · refine ⟨false, text, rfl, fun hnone => ⟨.expectedValue, text.length, ?_⟩⟩
      rw [signText, if_neg (by decide), List.nil_append, readNumber]
      · simp [hnone]
      · exact fun tail htail => hminus ⟨tail, htail⟩
  cases hsplit : integerDigits? unsigned with
  | none => exact .inl (hsign hsplit)
  | some parts =>
      obtain ⟨digits, afterDigits⟩ := parts
      obtain ⟨fraction, afterFraction, hfractionSplit⟩ :
          ∃ fraction after, fractionPart afterDigits = (fraction, after) := ⟨_, _, rfl⟩
      obtain ⟨exponent, rest, hexponentSplit⟩ :
          ∃ exponent after, exponentPart afterFraction = (exponent, after) := ⟨_, _, rfl⟩
      obtain ⟨rfl, hdigits, hends⟩ := numeral_of_integerDigits? hsplit
      obtain ⟨rfl, hfraction⟩ := fraction_of_fractionPart hfractionSplit
      obtain ⟨rfl, hexponent⟩ := exponent_of_exponentPart hexponentSplit
      refine .inr ⟨negative, digits, fraction, exponent, rest,
        ⟨rfl, hdigits, hfraction, hexponent, ?_⟩,
        readNumber_eq (hdigits.head?_append_ne _) hsplit hfractionSplit hexponentSplit⟩
      intro hnil
      obtain ⟨rfl, rfl⟩ := List.append_eq_nil_iff.1 hnil
      exact hends.imp_right fun hrest => not_continues_iff.2 ⟨hrest, hfractionSplit, hexponentSplit⟩

/-! ## Numbers with too many digits -/

/-- What can be read at a place of a text. -/
inductive Place
  | value
  | items
  | members

/-- A text is JSON up to an integer with more digits than are ever read. -/
inductive Overlong : List Char → Place → Prop
  | numeral {negative : Bool} {digits rest : List Char} :
      IsNumeral digits → Text.numeralLimit < digits.length → ¬ Continues rest →
        Overlong (signText negative ++ (digits ++ rest)) .value
  | list {space inner : List Char} :
      IsSpaces space → Overlong inner .items → Overlong ('[' :: (space ++ inner)) .value
  | table {space inner : List Char} :
      IsSpaces space → Overlong inner .members → Overlong ('{' :: (space ++ inner)) .value
  | inItem {text : List Char} : Overlong text .value → Overlong text .items
  | afterItem {text before after inner : List Char} {item : Document} :
      Spells text (.value item) → IsSpaces before → IsSpaces after → Overlong inner .items →
        Overlong (text ++ (before ++ ',' :: (after ++ inner))) .items
  | inMember {content before after inner : List Char} {key : String} :
      Quotes content key → IsSpaces before → IsSpaces after → Overlong inner .value →
        Overlong ('"' :: (content ++ '"' :: (before ++ ':' :: (after ++ inner)))) .members
  | afterMember {content before after text space gap inner : List Char} {key : String}
      {value : Document} :
      Quotes content key → IsSpaces before → IsSpaces after → Spells text (.value value) →
        IsSpaces space → IsSpaces gap → Overlong inner .members →
        Overlong
          ('"' :: (content ++ '"' ::
            (before ++ ':' :: (after ++ (text ++ (space ++ ',' :: (gap ++ inner))))))) .members

/-- What was read is what the text that was passed stands for, and a number that was given up on is
too long. -/
def Accounts (text : List Char) (place : Place) (part : α → Part) : Reading α → Prop
  | .ok (value, rest) => ∃ token, text = token ++ rest ∧ Spells token (part value)
  | .error .numeralTooLong => Overlong text place
  | .error (.malformed _ _) => True

theorem accounts_readNumber (text : List Char) :
    Accounts text .value .value (readNumber text) := by
  obtain ⟨problem, remaining, herror⟩ |
      ⟨negative, digits, fraction, exponent, rest, hnumber, heq⟩ := readNumber_cases text
  · rw [herror]
    trivial
  · obtain ⟨rfl, hdigits, hfraction, hexponent, hends⟩ := hnumber
    rw [heq]
    split_ifs with hnil hlimit
    · obtain ⟨rfl, rfl⟩ := List.append_eq_nil_iff.1 hnil
      exact ⟨_, by simp, .integer hdigits hlimit⟩
    · obtain ⟨rfl, rfl⟩ := List.append_eq_nil_iff.1 hnil
      refine .numeral hdigits (Nat.lt_of_not_le hlimit) ((hends hnil).resolve_left ?_)
      rintro rfl
      exact hlimit (by decide)
    · exact ⟨_, by simp, .decimal hdigits hfraction hexponent hnil⟩

theorem eq_append_of_afterWord? {word text rest : List Char}
    (h : afterWord? word text = some rest) : text = word ++ rest := by
  rw [afterWord?] at h
  split_ifs at h with hprefix
  obtain ⟨tail, rfl⟩ := List.isPrefixOf_iff_prefix.1 hprefix
  rw [← Option.some.inj h, List.drop_left]

theorem accounts_readScalar (text : List Char) :
    Accounts text .value .value (readScalar text) := by
  rw [readScalar]
  split
  · next reading hfound =>
      obtain ⟨word, hmem, hword⟩ := List.exists_of_findSome?_eq_some hfound
      obtain ⟨rest, hrest, rfl⟩ := Option.map_eq_some_iff.1 hword
      exact ⟨word.1.toList, eq_append_of_afterWord? hrest, .word hmem⟩
  · exact accounts_readNumber text

/-- A part that was read as a part of another one. -/
theorem Accounts.map {inner text : List Char} {place other : Place} {part : α → Part}
    {whole : β → Part} {change : α → β} {reading : Reading α}
    (h : Accounts inner place part reading)
    (hspells : ∀ token value rest, inner = token ++ rest → Spells token (part value) →
      ∃ token, text = token ++ rest ∧ Spells token (whole (change value)))
    (hoverlong : Overlong inner place → Overlong text other) :
    Accounts text other whole (reading.map change) := by
  cases reading with
  | ok pair =>
      obtain ⟨token, heq, htoken⟩ := h
      exact hspells token pair.1 pair.2 heq htoken
  | error fault =>
      cases fault with
      | malformed => trivial
      | numeralTooLong => exact hoverlong h

theorem accounts_readString (text : List Char) :
    Accounts ('"' :: text) .value .value
      (Reading.map Document.text (readString ('"' :: text) text)) := by
  cases hread : readString ('"' :: text) text with
  | ok pair =>
      obtain ⟨content, hquotes, heq⟩ := quotes_of_readString hread
      exact ⟨_, by simp [heq], .string hquotes⟩
  | error fault =>
      cases fault with
      | malformed => trivial
      | numeralTooLong => exact absurd hread (readString_ne_numeralTooLong _ _)

theorem accounts_readList {fuel : Nat} {text : List Char}
    (h : Accounts (skipSpace text) .items .items (readItems fuel (skipSpace text))) :
    Accounts ('[' :: text) .value .value (readValue (fuel + 1) ('[' :: text)) := by
  obtain ⟨space, hspace, heq⟩ := exists_eq_append_skipSpace text
  simp only [readValue]
  split
  · next rest hskip =>
      rw [hskip] at heq
      exact ⟨'[' :: (space ++ [']']), by simp [heq], .emptyList hspace⟩
  · refine h.map ?_ fun hlong => ?_
    · intro token items rest htoken hspells
      exact ⟨'[' :: (space ++ token), by rw [heq, htoken]; simp, .list hspace hspells⟩
    · rw [heq]
      exact .list hspace hlong

theorem accounts_readTable {fuel : Nat} {text : List Char}
    (h : Accounts (skipSpace text) .members .members (readMembers fuel (skipSpace text))) :
    Accounts ('{' :: text) .value .value (readValue (fuel + 1) ('{' :: text)) := by
  obtain ⟨space, hspace, heq⟩ := exists_eq_append_skipSpace text
  simp only [readValue]
  split
  · next rest hskip =>
      rw [hskip] at heq
      exact ⟨'{' :: (space ++ ['}']), by simp [heq], .emptyTable hspace⟩
  · refine h.map ?_ fun hlong => ?_
    · intro token items rest htoken hspells
      exact ⟨'{' :: (space ++ token), by rw [heq, htoken]; simp, .table hspace hspells⟩
    · rw [heq]
      exact .table hspace hlong

theorem accounts_readValue {fuel : Nat}
    (hitems : ∀ text, Accounts text .items .items (readItems fuel text))
    (hmembers : ∀ text, Accounts text .members .members (readMembers fuel text))
    (text : List Char) : Accounts text .value .value (readValue (fuel + 1) text) := by
  by_cases hquote : ∃ rest, text = '"' :: rest
  · obtain ⟨rest, rfl⟩ := hquote
    exact accounts_readString rest
  · by_cases hbracket : ∃ rest, text = '[' :: rest
    · obtain ⟨rest, rfl⟩ := hbracket
      exact accounts_readList (hitems _)
    · by_cases hbrace : ∃ rest, text = '{' :: rest
      · obtain ⟨rest, rfl⟩ := hbrace
        exact accounts_readTable (hmembers _)
      · have hscalar : readValue (fuel + 1) text = readScalar text := by
          rw [readValue]
          · exact fun rest h => hquote ⟨rest, h⟩
          · exact fun rest h => hbracket ⟨rest, h⟩
          · exact fun rest h => hbrace ⟨rest, h⟩
        rw [hscalar]
        exact accounts_readScalar text

theorem accounts_readItems {fuel : Nat}
    (hvalue : ∀ text, Accounts text .value .value (readValue fuel text))
    (hitems : ∀ text, Accounts text .items .items (readItems fuel text)) (text : List Char) :
    Accounts text .items .items (readItems (fuel + 1) text) := by
  have hfirst := hvalue text
  cases hread : readValue fuel text with
  | error fault =>
      rw [hread] at hfirst
      rw [readItems, hread]
      cases fault with
      | malformed => trivial
      | numeralTooLong => exact .inItem hfirst
  | ok pair =>
      obtain ⟨item, rest⟩ := pair
      rw [hread] at hfirst
      obtain ⟨token, rfl, htoken⟩ := hfirst
      obtain ⟨space, hspace, heq⟩ := exists_eq_append_skipSpace rest
      rw [readItems_of_ok hread]
      split
      · next after hskip =>
          rw [hskip] at heq
          exact ⟨token ++ (space ++ [']']), by simp [heq], .lastItem htoken hspace⟩
      · next after hskip =>
          obtain ⟨gap, hgap, hafter⟩ := exists_eq_append_skipSpace after
          rw [hskip, hafter] at heq
          refine (hitems (skipSpace after)).map ?_ fun hlong => ?_
          · intro inner items rest hinner hspells
            refine ⟨token ++ (space ++ ',' :: (gap ++ inner)), ?_, .item htoken hspace hgap hspells⟩
            rw [heq, hinner]
            simp
          · rw [heq]
            exact .afterItem htoken hspace hgap hlong
      · trivial

theorem accounts_afterKey {fuel : Nat} {content afterKey : List Char} {key : String}
    (hvalue : ∀ text, Accounts text .value .value (readValue fuel text))
    (hmembers : ∀ text, Accounts text .members .members (readMembers fuel text))
    (hcontent : Quotes content key)
    (hkey : readString ('"' :: (content ++ '"' :: afterKey)) (content ++ '"' :: afterKey) =
      .ok (key, afterKey)) :
    Accounts ('"' :: (content ++ '"' :: afterKey)) .members .members
      (readMembers (fuel + 1) ('"' :: (content ++ '"' :: afterKey))) := by
  obtain ⟨before, hbefore, heq⟩ := exists_eq_append_skipSpace afterKey
  by_cases hcolon : ∃ afterColon, skipSpace afterKey = ':' :: afterColon
  · obtain ⟨afterColon, hcolon⟩ := hcolon
    obtain ⟨after, hafter, hgap⟩ := exists_eq_append_skipSpace afterColon
    have hfirst := hvalue (skipSpace afterColon)
    rw [hcolon, hgap] at heq
    cases hread : readValue fuel (skipSpace afterColon) with
    | error fault =>
        rw [hread] at hfirst
        rw [readMembers, hkey]
        simp only [bind, Except.bind, hcolon, hread]
        cases fault with
        | malformed => trivial
        | numeralTooLong =>
            rw [heq]
            exact .inMember hcontent hbefore hafter hfirst
    | ok pair =>
        obtain ⟨value, rest⟩ := pair
        rw [hread] at hfirst
        obtain ⟨token, htoken, hspells⟩ := hfirst
        obtain ⟨space, hspace, hrest⟩ := exists_eq_append_skipSpace rest
        rw [readMembers_of_ok hkey hcolon hread]
        rw [htoken] at heq
        split
        · next last hskip =>
            rw [hrest, hskip] at heq
            exact ⟨_, by simp [heq], .lastMember hcontent hbefore hafter hspells hspace⟩
        · next next hskip =>
            obtain ⟨gap, hgap, hnext⟩ := exists_eq_append_skipSpace next
            rw [hrest, hskip, hnext] at heq
            refine (hmembers (skipSpace next)).map ?_ fun hlong => ?_
            · intro inner members rest hinner hinnerSpells
              refine ⟨_, ?_, .member hcontent hbefore hafter hspells hspace hgap hinnerSpells⟩
              rw [heq, hinner]
              simp
            · rw [heq]
              exact .afterMember hcontent hbefore hafter hspells hspace hgap hlong
        · trivial
  · rw [readMembers, hkey]
    simp only [bind, Except.bind]
    split
    · next afterColon hskip => exact absurd ⟨afterColon, hskip⟩ hcolon
    · trivial

theorem accounts_readMembers {fuel : Nat}
    (hvalue : ∀ text, Accounts text .value .value (readValue fuel text))
    (hmembers : ∀ text, Accounts text .members .members (readMembers fuel text))
    (text : List Char) : Accounts text .members .members (readMembers (fuel + 1) text) := by
  by_cases hquote : ∃ rest, text = '"' :: rest
  · obtain ⟨text, rfl⟩ := hquote
    cases hkey : readString ('"' :: text) text with
    | error fault =>
        rw [readMembers, hkey]
        cases fault with
        | malformed => trivial
        | numeralTooLong => exact absurd hkey (readString_ne_numeralTooLong _ _)
    | ok pair =>
        obtain ⟨key, afterKey⟩ := pair
        obtain ⟨content, hcontent, rfl⟩ := quotes_of_readString hkey
        exact accounts_afterKey hvalue hmembers hcontent hkey
  · rw [readMembers]
    · trivial
    · exact fun rest h => hquote ⟨rest, h⟩

/-- The reader is right about what it reads, and about the numbers at which it gives up. -/
theorem accounts_read (fuel : Nat) :
    (∀ text, Accounts text .value .value (readValue fuel text)) ∧
      (∀ text, Accounts text .items .items (readItems fuel text)) ∧
      ∀ text, Accounts text .members .members (readMembers fuel text) := by
  induction fuel with
  | zero => exact ⟨fun _ => trivial, fun _ => trivial, fun _ => trivial⟩
  | succ fuel ih =>
      obtain ⟨hvalue, hitems, hmembers⟩ := ih
      exact ⟨accounts_readValue hitems hmembers, accounts_readItems hvalue hitems,
        accounts_readMembers hvalue hmembers⟩

/-! ## Giving up -/

/-- The reader gives up on a text that it reads at a place. -/
def GivesUp (text : List Char) : Place → Prop
  | .value => ∀ fuel, 2 * text.length ≤ fuel → readValue fuel text = .error .numeralTooLong
  | .items => ∀ fuel, 2 * text.length < fuel → readItems fuel text = .error .numeralTooLong
  | .members => ∀ fuel, 2 * text.length < fuel → readMembers fuel text = .error .numeralTooLong

theorem Overlong.exists_eq_cons {text : List Char} {place : Place} (h : Overlong text place) :
    ∃ first others, text = first :: others ∧
      isSpace first = false ∧ first ≠ ']' ∧ first ≠ '}' ∧ first ≠ '\uFEFF' := by
  induction h with
  | numeral hdigits => exact hdigits.exists_signText_append_eq_cons _ _
  | list => exact ⟨'[', _, rfl, by decide⟩
  | table => exact ⟨'{', _, rfl, by decide⟩
  | inItem _ ih => exact ih
  | afterItem htext =>
      obtain ⟨first, others, rfl, hfirst⟩ := htext.exists_eq_cons
      exact ⟨first, _, rfl, hfirst⟩
  | inMember => exact ⟨'"', _, rfl, by decide⟩
  | afterMember => exact ⟨'"', _, rfl, by decide⟩

theorem Overlong.exists_fuel {text : List Char} {place : Place} (h : Overlong text place)
    {fuel : Nat} (hfuel : 2 * text.length ≤ fuel) : ∃ less, fuel = less + 1 := by
  obtain ⟨first, others, rfl, -⟩ := h.exists_eq_cons
  rw [List.length_cons] at hfuel
  exact Nat.exists_eq_add_one.2 (by omega)

theorem Overlong.givesUp {text : List Char} {place : Place} (h : Overlong text place) :
    GivesUp text place := by
  induction h with
  | @numeral negative digits rest hdigits hlong hends =>
      intro fuel hfuel
      obtain ⟨fuel, rfl⟩ := (Overlong.numeral hdigits hlong hends).exists_fuel hfuel
      obtain ⟨hnoDigit, hfraction, hexponent⟩ := not_continues_iff.1 hends
      rw [readValue_number hdigits, readNumber_eq (hdigits.head?_append_ne rest)
        (hdigits.integerDigits?_append hnoDigit) hfraction hexponent, if_pos (List.append_nil _),
        if_neg (Nat.not_le.2 hlong)]
  | list hspace hinner ih =>
      intro fuel hfuel
      obtain ⟨fuel, rfl⟩ := (Overlong.list hspace hinner).exists_fuel hfuel
      simp only [List.length_cons, List.length_append] at hfuel
      have hread := ih fuel (by omega)
      obtain ⟨first, others, rfl, hfirst, hclose, -⟩ := hinner.exists_eq_cons
      rw [readValue_list hspace hfirst hclose, hread]
      rfl
  | table hspace hinner ih =>
      intro fuel hfuel
      obtain ⟨fuel, rfl⟩ := (Overlong.table hspace hinner).exists_fuel hfuel
      simp only [List.length_cons, List.length_append] at hfuel
      have hread := ih fuel (by omega)
      obtain ⟨first, others, rfl, hfirst, -, hclose, -⟩ := hinner.exists_eq_cons
      rw [readValue_table hspace hfirst hclose, hread]
      rfl
  | inItem htext ih =>
      intro fuel hfuel
      obtain ⟨fuel, rfl⟩ := Nat.exists_eq_add_one.2 (Nat.zero_lt_of_lt hfuel)
      rw [readItems, ih fuel (Nat.le_of_lt_succ hfuel)]
      rfl
  | afterItem htext hbefore hafter hinner ih =>
      intro fuel hfuel
      obtain ⟨fuel, rfl⟩ := Nat.exists_eq_add_one.2 (Nat.zero_lt_of_lt hfuel)
      simp only [List.length_cons, List.length_append] at hfuel
      have hread := ih fuel (by omega)
      obtain ⟨first, others, rfl, hfirst, -⟩ := hinner.exists_eq_cons
      rw [readItems_next (htext.reads fuel _ (by omega) (ends_append_cons hbefore (by decide) _))
        hbefore hafter hfirst, hread]
      rfl
  | inMember hkey hbefore hafter hinner ih =>
      intro fuel hfuel
      obtain ⟨fuel, rfl⟩ := Nat.exists_eq_add_one.2 (Nat.zero_lt_of_lt hfuel)
      simp only [List.length_cons, List.length_append] at hfuel
      have hread := ih fuel (by omega)
      obtain ⟨first, others, rfl, hfirst, -⟩ := hinner.exists_eq_cons
      rw [readMembers, hkey.readString_append]
      simp only [bind, Except.bind]
      rw [skipSpace_append_cons hbefore (by decide)]
      simp only
      rw [skipSpace_append_cons hafter hfirst, hread]
  | @afterMember _ _ _ _ space gap inner _ _ hkey hbefore hafter htext hspace hgap hinner ih =>
      intro fuel hfuel
      obtain ⟨fuel, rfl⟩ := Nat.exists_eq_add_one.2 (Nat.zero_lt_of_lt hfuel)
      simp only [List.length_cons, List.length_append] at hfuel
      have hread := ih fuel (by omega)
      have hends : Ends (space ++ ',' :: (gap ++ inner)) := ends_append_cons hspace (by decide) _
      have hvalue := htext.reads fuel _ (by omega) hends
      obtain ⟨first, others, rfl, hfirst, -⟩ := htext.exists_eq_cons
      obtain ⟨second, members, rfl, hsecond, -⟩ := hinner.exists_eq_cons
      rw [List.cons_append] at hvalue ⊢
      rw [readMembers_next hkey hbefore hafter hfirst hspace hgap hsecond hvalue, hread]
      rfl

/-! ## Whole texts -/

/-- A text means a document: it spells the document between white space. -/
def Means (text : List Char) (document : Document) : Prop :=
  ∃ before token after, IsSpaces before ∧ IsSpaces after ∧ Spells token (.value document) ∧
    text = before ++ (token ++ after)

/-- A text is JSON up to an integer with more digits than are ever read. -/
def MeetsLongNumeral (text : List Char) : Prop :=
  ∃ before rest, IsSpaces before ∧ Overlong rest .value ∧ text = before ++ rest

/-- Nothing but the byte order mark matters before white space and a first token. -/
theorem read_append {before : List Char} (h : IsSpaces before) {first : Char}
    (hspace : isSpace first = false) (hmark : first ≠ '\uFEFF') (others : List Char) :
    read (before ++ first :: others) = (do
      let (value, rest) ←
        readValue (2 * (before ++ first :: others).length + 2) (first :: others)
      match skipSpace rest with
      | [] => .ok value
      | rest => .error (.malformed .extraData rest.length)) := by
  have hhead : (before ++ first :: others).head? ≠ some '\uFEFF' := by
    cases before with
    | nil => simpa using hmark
    | cons c before =>
        intro hc
        obtain rfl := Option.some.inj hc
        exact absurd (h '\uFEFF' (by simp)) (by decide)
  rewrite [read, if_neg hhead, skipSpace_append_cons h hspace]
  rfl

theorem Means.read_eq {text : List Char} {document : Document} (h : Means text document) :
    read text = .ok document := by
  obtain ⟨before, token, after, hbefore, hafter, htoken, rfl⟩ := h
  have hends : Ends after := List.append_nil after ▸ ends_append hafter ends_nil
  have hread := htoken.reads (2 * (before ++ (token ++ after)).length + 2) after
    (by simp only [List.length_append]; omega) hends
  obtain ⟨first, others, rfl, hfirst, -, -, hmark⟩ := htoken.exists_eq_cons
  have hend : skipSpace after = [] := by
    rw [← List.append_nil after, skipSpace_append hafter]
    rfl
  rw [List.cons_append] at hread ⊢
  rw [read_append hbefore hfirst hmark, hread]
  simp only [bind, Except.bind, hend]

theorem MeetsLongNumeral.read_eq {text : List Char} (h : MeetsLongNumeral text) :
    read text = .error .numeralTooLong := by
  obtain ⟨before, rest, hbefore, hlong, rfl⟩ := h
  have hread := hlong.givesUp (2 * (before ++ rest).length + 2)
    (by simp only [List.length_append]; omega)
  obtain ⟨first, others, rfl, hfirst, -, -, hmark⟩ := hlong.exists_eq_cons
  rw [read_append hbefore hfirst hmark, hread]
  rfl

theorem read_cases (text : List Char) :
    (∃ problem remaining, read text = .error (.malformed problem remaining)) ∨
      (∃ document, Means text document ∧ read text = .ok document) ∨
      (MeetsLongNumeral text ∧ read text = .error .numeralTooLong) := by
  obtain ⟨before, hbefore, htext⟩ := exists_eq_append_skipSpace text
  have hvalue := (accounts_read (2 * text.length + 2)).1 (skipSpace text)
  rw [read]
  split_ifs with hmark
  · exact .inl ⟨_, _, rfl⟩
  · cases hread : readValue (2 * text.length + 2) (skipSpace text) with
    | error fault =>
        rw [hread] at hvalue
        cases fault with
        | malformed problem remaining => exact .inl ⟨problem, remaining, rfl⟩
        | numeralTooLong => exact .inr (.inr ⟨⟨before, _, hbefore, hvalue, htext⟩, rfl⟩)
    | ok pair =>
        obtain ⟨value, rest⟩ := pair
        rw [hread] at hvalue
        obtain ⟨token, htoken, hspells⟩ := hvalue
        obtain ⟨after, hafter, hrest⟩ := exists_eq_append_skipSpace rest
        simp only [bind, Except.bind]
        split
        · next hend =>
            rw [hend, List.append_nil] at hrest
            refine .inr (.inl ⟨value, ⟨before, token, after, hbefore, hafter, hspells, ?_⟩, rfl⟩)
            rw [← hrest, ← htoken, ← htext]
        · exact .inl ⟨_, _, rfl⟩

theorem read_eq_ok_iff {text : List Char} {document : Document} :
    read text = .ok document ↔ Means text document := by
  refine ⟨fun h => ?_, Means.read_eq⟩
  obtain ⟨_, _, heq⟩ | ⟨other, hmeans, heq⟩ | ⟨_, heq⟩ := read_cases text
  · exact absurd (h.symm.trans heq) (by simp)
  · obtain rfl := Except.ok.inj (h.symm.trans heq)
    exact hmeans
  · exact absurd (h.symm.trans heq) (by simp)

/-- The reader gives up exactly on the texts that are JSON up to a number with too many digits. -/
theorem read_eq_numeralTooLong_iff {text : List Char} :
    read text = .error .numeralTooLong ↔ MeetsLongNumeral text := by
  refine ⟨fun h => ?_, MeetsLongNumeral.read_eq⟩
  obtain ⟨_, _, heq⟩ | ⟨_, _, heq⟩ | ⟨hlong, _⟩ := read_cases text
  · exact absurd (h.symm.trans heq) (by simp)
  · exact absurd (h.symm.trans heq) (by simp)
  · exact hlong

end TextureCatalog.Json
