/-!
# Byte strings and UTF-8

Keys, values and file contents are byte strings. This module fixes their type and reads them as
text, strictly or with replacement characters.

## Main definitions

- `Bytes`: a byte string
- `Bytes.ofString`: the UTF-8 form of a text
- `Utf8.Piece`, `Utf8.pieces`: a byte string cut into characters and ill-formed parts
- `Bytes.text?`: the text a byte string is the UTF-8 form of
- `Bytes.lossyText`: the text with every ill-formed part replaced by `U+FFFD`

## Design notes

An ill-formed part is a maximal one: the longest run of bytes that begins some well-formed
character, or a single byte when there is none. Both readers are folds over `Utf8.pieces`, so they
agree on where the ill-formed parts are.
-/

namespace ClusterVault

/-- A byte string. -/
abbrev Bytes := List UInt8

namespace Bytes

/-- The UTF-8 form of a text. -/
def ofString (s : String) : Bytes := s.toByteArray.data.toList

/-- The bytes of a byte array. -/
def ofByteArray (a : ByteArray) : Bytes := a.data.toList

/-- The byte array holding these bytes. -/
def toByteArray (b : Bytes) : ByteArray := ⟨b.toArray⟩

end Bytes

namespace Utf8

/-- A part of a byte string read as UTF-8. -/
inductive Piece where
  /-- A well-formed character. -/
  | char (c : Char)
  /-- An ill-formed part of the given width, followed by a byte that does not continue it. -/
  | bad (width : Nat)
  /-- The string ends inside a character. -/
  | cut
  deriving DecidableEq, Repr

/-- Whether a byte continues a character of several bytes. -/
def isContinuation (b : UInt8) : Bool := 0x80 ≤ b && b ≤ 0xbf

/-- For the first byte of a character of several bytes: the range of the second byte and the
    number of bytes that follow the first. -/
def lead? (b : UInt8) : Option (UInt8 × UInt8 × Nat) :=
  if 0xc2 ≤ b && b ≤ 0xdf then some (0x80, 0xbf, 1)
  else if b = 0xe0 then some (0xa0, 0xbf, 2)
  else if b = 0xed then some (0x80, 0x9f, 2)
  else if 0xe1 ≤ b && b ≤ 0xef then some (0x80, 0xbf, 2)
  else if b = 0xf0 then some (0x90, 0xbf, 3)
  else if 0xf1 ≤ b && b ≤ 0xf3 then some (0x80, 0xbf, 3)
  else if b = 0xf4 then some (0x80, 0x8f, 3)
  else none

/-- The six payload bits of a continuation byte. -/
def payload (b : UInt8) : Nat := b.toNat % 64

/-- Cuts a byte string into characters and maximal ill-formed parts. -/
def pieces : Bytes → List Piece
  | [] => []
  | b₀ :: t₀ =>
    if b₀ < 0x80 then .char (Char.ofNat b₀.toNat) :: pieces t₀
    else match lead? b₀ with
      | none => .bad 1 :: pieces t₀
      | some (lo, hi, more) =>
        match t₀ with
        | [] => [.cut]
        | b₁ :: t₁ =>
          if lo ≤ b₁ && b₁ ≤ hi then
            if more = 1 then
              .char (Char.ofNat (b₀.toNat % 32 * 64 + payload b₁)) :: pieces t₁
            else match t₁ with
              | [] => [.cut]
              | b₂ :: t₂ =>
                if isContinuation b₂ then
                  if more = 2 then
                    .char (Char.ofNat ((b₀.toNat % 16 * 64 + payload b₁) * 64 + payload b₂)) ::
                      pieces t₂
                  else match t₂ with
                    | [] => [.cut]
                    | b₃ :: t₃ =>
                      if isContinuation b₃ then
                        .char (Char.ofNat
                          (((b₀.toNat % 8 * 64 + payload b₁) * 64 + payload b₂) * 64
                            + payload b₃)) :: pieces t₃
                      else .bad 3 :: pieces (b₃ :: t₃)
                else .bad 2 :: pieces (b₂ :: t₂)
          else .bad 1 :: pieces (b₁ :: t₁)

/-- Where a byte string stops being well-formed UTF-8. -/
inductive Fault where
  /-- The ill-formed part of the given width starts at the given index. -/
  | invalid (width index : Nat)
  /-- The string ends inside the character that starts at the given index. -/
  | incomplete (index : Nat)
  deriving DecidableEq, Repr

/-- The wording of a fault. -/
def Fault.message : Fault → String
  | .invalid width index => s!"invalid utf-8 sequence of {width} bytes from index {index}"
  | .incomplete index => s!"incomplete utf-8 byte sequence from index {index}"

/-- Reads pieces that start at the given index as text, up to the first fault. -/
def read (index : Nat) : List Piece → Except Fault (List Char)
  | [] => .ok []
  | .char c :: rest => (read (index + c.utf8Size) rest).map (c :: ·)
  | .bad width :: _ => .error (.invalid width index)
  | .cut :: _ => .error (.incomplete index)

end Utf8

namespace Bytes

/-- The text a byte string is the UTF-8 form of, or where it stops being one. -/
def decode (b : Bytes) : Except Utf8.Fault String :=
  (Utf8.read 0 (Utf8.pieces b)).map String.ofList

/-- The text a byte string is the UTF-8 form of, if it is well formed. -/
def text? (b : Bytes) : Option String := b.decode.toOption

/-- The text of a byte string, with `U+FFFD` in place of every ill-formed part. -/
def lossyText (b : Bytes) : String :=
  String.ofList ((Utf8.pieces b).map fun
    | .char c => c
    | _ => '\ufffd')

/-- The two lower-case hexadecimal digits of every byte. -/
def hex (b : Bytes) : String :=
  let digit (n : Nat) : Char := Nat.digitChar n
  String.ofList (b.flatMap fun x => [digit (x.toNat / 16), digit (x.toNat % 16)])

end Bytes

end ClusterVault
