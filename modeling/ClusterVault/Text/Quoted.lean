import ClusterVault.Text.Hidden

/-!
# Quoted text

Messages show names, paths and lists of addresses between quotation marks, with every character
escaped that could hide in the output.

## Main definitions

- `Quoted.escape`: the written form of one character
- `Quoted.text`: a text in quotation marks
- `Quoted.list`: a list of texts, each in quotation marks
- `Quoted.path`: the name of a file in quotation marks

## Design notes

A character is written as itself unless it is a quotation mark, a backslash, a hidden character or
one that combines with its neighbour. Tab, line feed, carriage return and the null character have
short escapes, all others the code point in hexadecimal. A single quote is escaped in the name of a
file only.
-/

namespace ClusterVault.Quoted

/-- The written form of one character. -/
def escape (c : Char) : List Char :=
  if c = '\x00' then ['\\', '0']
  else if c = '\t' then ['\\', 't']
  else if c = '\n' then ['\\', 'n']
  else if c = '\r' then ['\\', 'r']
  else if c = '"' then ['\\', '"']
  else if c = '\\' then ['\\', '\\']
  else if Character.extendsGrapheme c || Character.isHidden c then
    ['\\', 'u', '\x7b'] ++ Nat.toDigits 16 c.toNat ++ ['\x7d']
  else [c]

/-- A text in quotation marks. -/
def text (s : String) : String :=
  String.ofList ('"' :: s.toList.flatMap escape ++ ['"'])

/-- The name of a file in quotation marks. -/
def path (s : String) : String :=
  String.ofList ('"' :: s.toList.flatMap (fun c => if c = '\'' then ['\\', '\''] else escape c)
    ++ ['"'])

/-- Texts in quotation marks, separated by commas, in square brackets. -/
def list (items : List String) : String :=
  "[" ++ ", ".intercalate (items.map text) ++ "]"

end ClusterVault.Quoted
