import TextureCatalog.Text.Numeral

/-!
# UTF-8

The bytes of a text, and the text of a run of bytes.  Bytes that are not UTF-8 are refused with the
place and the kind of the first violation; overlong forms, surrogates and code points beyond
U+10FFFF are violations.
-/

namespace TextureCatalog.Text.Utf8

def encodeChar (c : Char) : List UInt8 :=
  let code := c.toNat
  if code < 0x80 then [UInt8.ofNat code]
  else if code < 0x800 then [UInt8.ofNat (0xC0 + code / 0x40), UInt8.ofNat (0x80 + code % 0x40)]
  else if code < 0x10000 then
    [UInt8.ofNat (0xE0 + code / 0x1000), UInt8.ofNat (0x80 + code / 0x40 % 0x40),
      UInt8.ofNat (0x80 + code % 0x40)]
  else
    [UInt8.ofNat (0xF0 + code / 0x40000), UInt8.ofNat (0x80 + code / 0x1000 % 0x40),
      UInt8.ofNat (0x80 + code / 0x40 % 0x40), UInt8.ofNat (0x80 + code % 0x40)]

def encode (text : List Char) : List UInt8 :=
  text.flatMap encodeChar

inductive Reason
  | startByte
  | continuationByte
  | endOfData
  deriving DecidableEq, Repr

/-- A violation of UTF-8: `span` bytes from `position` on are wrong, the first of them `first`. -/
structure Fault where
  first : UInt8
  position : Nat
  span : Nat
  reason : Reason
  deriving DecidableEq, Repr

def Reason.message : Reason → String
  | .startByte => "invalid start byte"
  | .continuationByte => "invalid continuation byte"
  | .endOfData => "unexpected end of data"

def Fault.message (fault : Fault) : String :=
  let place :=
    if fault.span = 1 then
      s!"byte 0x{String.ofList (hexPadded 2 fault.first.toNat)} in position {fault.position}"
    else s!"bytes in position {fault.position}-{fault.position + fault.span - 1}"
  s!"'utf-8' codec can't decode {place}: {fault.reason.message}"

/-- How many bytes a character takes, by its first byte; `none` if no character begins so. -/
def sequenceLength? (first : UInt8) : Option Nat :=
  if first < 0x80 then some 1
  else if first < 0xC2 then none
  else if first < 0xE0 then some 2
  else if first < 0xF0 then some 3
  else if first < 0xF5 then some 4
  else none

def isContinuation (byte : UInt8) : Bool :=
  0x80 ≤ byte && byte < 0xC0

/-- The second bytes that may follow a first byte: those that make the form neither overlong, nor a
surrogate, nor greater than U+10FFFF. -/
def mayFollow (first second : UInt8) : Bool :=
  isContinuation second &&
    (if first = 0xE0 then 0xA0 ≤ second
      else if first = 0xED then second < 0xA0
      else if first = 0xF0 then 0x90 ≤ second
      else if first = 0xF4 then second < 0x90
      else true)

def payload (byte : UInt8) : Nat := byte.toNat - 0x80

/-- Decodes bytes that begin `position` bytes into the data. -/
def decodeFrom (position : Nat) : List UInt8 → Except Fault (List Char)
  | [] => .ok []
  | first :: rest =>
    match sequenceLength? first with
    | some 1 => (Char.ofNat first.toNat :: ·) <$> decodeFrom (position + 1) rest
    | some 2 =>
      match rest with
      | [] => .error ⟨first, position, 1, .endOfData⟩
      | second :: rest =>
        if !isContinuation second then .error ⟨first, position, 1, .continuationByte⟩
        else
          (Char.ofNat ((first.toNat - 0xC0) * 0x40 + payload second) :: ·) <$>
            decodeFrom (position + 2) rest
    | some 3 =>
      match rest with
      | [] => .error ⟨first, position, 1, .endOfData⟩
      | second :: rest =>
        if !mayFollow first second then .error ⟨first, position, 1, .continuationByte⟩
        else
          match rest with
          | [] => .error ⟨first, position, 2, .endOfData⟩
          | third :: rest =>
            if !isContinuation third then .error ⟨first, position, 2, .continuationByte⟩
            else
              (Char.ofNat ((first.toNat - 0xE0) * 0x1000 + payload second * 0x40 +
                payload third) :: ·) <$> decodeFrom (position + 3) rest
    | some 4 =>
      match rest with
      | [] => .error ⟨first, position, 1, .endOfData⟩
      | second :: rest =>
        if !mayFollow first second then .error ⟨first, position, 1, .continuationByte⟩
        else
          match rest with
          | [] => .error ⟨first, position, 2, .endOfData⟩
          | third :: rest =>
            if !isContinuation third then .error ⟨first, position, 2, .continuationByte⟩
            else
              match rest with
              | [] => .error ⟨first, position, 3, .endOfData⟩
              | fourth :: rest =>
                if !isContinuation fourth then .error ⟨first, position, 3, .continuationByte⟩
                else
                  (Char.ofNat ((first.toNat - 0xF0) * 0x40000 + payload second * 0x1000 +
                    payload third * 0x40 + payload fourth) :: ·) <$> decodeFrom (position + 4) rest
    | _ => .error ⟨first, position, 1, .startByte⟩

def decode (bytes : List UInt8) : Except Fault (List Char) :=
  decodeFrom 0 bytes

end TextureCatalog.Text.Utf8
