import ClusterVault.Text.Bytes

/-!
# Percent encoding

The parts of a URL write the bytes that may not stand in them as a percent sign and two
hexadecimal digits.

## Main definitions

- `Percent.EncodeSet`: the ASCII characters that a part encodes
- `Percent.encode`: a character in a part of a URL
- `Percent.decode`: a byte string with every encoded byte decoded

## Design notes

The sets grow from `controls` to `userinfo` as the standard lists them. Characters beyond ASCII
are encoded in every part. A percent sign that is not followed by two digits stays as it is.
-/

namespace ClusterVault.Percent

/-- The ASCII characters that a part of a URL encodes. -/
abbrev EncodeSet := Char → Bool

/-- Control characters. -/
def controls : EncodeSet := fun c => c.toNat < 0x20 || c.toNat = 0x7f

/-- What a fragment encodes. -/
def fragment : EncodeSet := fun c => controls c || [' ', '"', '<', '>', '\x60'].contains c

/-- What a query encodes. -/
def query : EncodeSet := fun c => controls c || [' ', '"', '#', '<', '>'].contains c

/-- What the query of a special scheme encodes. -/
def specialQuery : EncodeSet := fun c => query c || c = '\''

/-- What a path encodes. -/
def path : EncodeSet := fun c => fragment c || ['#', '?', '\x7b', '\x7d'].contains c

/-- What a user name or password encodes. -/
def userinfo : EncodeSet := fun c =>
  path c || ['/', ':', ';', '=', '@', '[', '\\', ']', '^', '|'].contains c

/-- An upper-case hexadecimal digit. -/
def upperDigit (n : Nat) : Char := (Nat.digitChar n).toUpper

/-- A byte as a percent sign and two digits. -/
def escapeByte (b : UInt8) : List Char :=
  ['%', upperDigit (b.toNat / 16), upperDigit (b.toNat % 16)]

/-- A character in a part that encodes the given set. -/
def encodeChar (set : EncodeSet) (c : Char) : List Char :=
  if c.toNat < 0x80 && !set c then [c]
  else (Bytes.ofString (String.singleton c)).flatMap escapeByte

/-- A text in a part that encodes the given set. -/
def encode (set : EncodeSet) (s : List Char) : List Char := s.flatMap (encodeChar set)

/-- The value of a hexadecimal digit. -/
def hexValue? (b : UInt8) : Option UInt8 :=
  if 0x30 ≤ b && b ≤ 0x39 then some (b - 0x30)
  else if 0x61 ≤ b && b ≤ 0x66 then some (b - 0x61 + 10)
  else if 0x41 ≤ b && b ≤ 0x46 then some (b - 0x41 + 10)
  else none

/-- Decodes every encoded byte. -/
def decode : Bytes → Bytes
  | [] => []
  | b :: rest =>
    if b = 0x25 then
      match rest with
      | h :: l :: rest' =>
        match hexValue? h, hexValue? l with
        | some x, some y => (x * 16 + y) :: decode rest'
        | _, _ => b :: decode (h :: l :: rest')
      | short => b :: decode short
    else b :: decode rest

end ClusterVault.Percent
