import HeadUnit.Text.Printable

/-!
# Quoted text

Two ways of writing a text between double quotes, and one of writing a
character between single ones:

* `quoted` keeps every printable character and escapes the rest, by a letter
  where there is one, else by its code point;
* `quotedBytes` keeps ASCII from the space on and writes every other
  character as the bytes of its UTF-8 form;
* `quotedSingle` is like `quoted`, for one character.
-/

namespace HeadUnit.Text

/-- The digit of `n < 16`, in lower case. -/
def hexDigit (n : Nat) : Char :=
  if n < 10 then Char.ofNat (48 + n) else Char.ofNat (87 + n)

/-- `n` in `width` hexadecimal digits; higher digits are dropped. -/
def hexDigits : Nat → Nat → List Char
  | 0, _ => []
  | width + 1, n => hexDigits width (n / 16) ++ [hexDigit (n % 16)]

/-- The letter that escapes a control character, if it has one. -/
def escapeLetter? (c : Char) : Option Char :=
  match c.toNat with
  | 0x07 => some 'a'
  | 0x08 => some 'b'
  | 0x0c => some 'f'
  | 0x0a => some 'n'
  | 0x0d => some 'r'
  | 0x09 => some 't'
  | 0x0b => some 'v'
  | _ => none

/-- One character of a quoted text. -/
def quotedChar (c : Char) : List Char :=
  if c = '"' ∨ c = '\\' then ['\\', c]
  else if isPrintable c then [c]
  else match escapeLetter? c with
    | some l => ['\\', l]
    | none =>
      if c.toNat < 0x80 then '\\' :: 'x' :: hexDigits 2 c.toNat
      else if c.toNat < 0x10000 then '\\' :: 'u' :: hexDigits 4 c.toNat
      else '\\' :: 'U' :: hexDigits 8 c.toNat

/-- The text between double quotes, printable characters kept. -/
def quoted (s : String) : String :=
  String.ofList ('"' :: s.toList.flatMap quotedChar ++ ['"'])

/-- A character between single quotes. -/
def quotedSingle (c : Char) : String :=
  let body := if c = '"' then [c] else if c.toNat = 0x27 then ['\\', c] else quotedChar c
  String.ofList (Char.ofNat 0x27 :: body ++ [Char.ofNat 0x27])

/-- One character of a byte-quoted text. -/
def quotedByteChar (c : Char) : List Char :=
  if c.toNat < 0x20 ∨ 0x80 ≤ c.toNat then
    (String.utf8EncodeChar c).flatMap fun b => '\\' :: 'x' :: hexDigits 2 b.toNat
  else if c = '"' ∨ c = '\\' then ['\\', c]
  else [c]

/-- The text between double quotes, all beyond ASCII written as bytes. -/
def quotedBytes (s : String) : String :=
  String.ofList ('"' :: s.toList.flatMap quotedByteChar ++ ['"'])

end HeadUnit.Text
