import InputBinding.Text.Printable

/-!
Quoted texts in diagnostics: the text between quotes, with escapes for the quote, the backslash and
all that is not printable.
-/

namespace InputBinding.Text

def hexDigits (width code : Nat) : List Char :=
  let digits := Nat.toDigits 16 code
  List.replicate (width - digits.length) '0' ++ digits

/-- Escapes a character that is not printable, in the shortest of three fixed widths. -/
def escapeCode (code : Nat) : List Char :=
  if code < 0x100 then '\\' :: 'x' :: hexDigits 2 code
  else if code < 0x10000 then '\\' :: 'u' :: hexDigits 4 code
  else '\\' :: 'U' :: hexDigits 8 code

def quoteChar (mark char : Char) : List Char :=
  if char = mark ∨ char = '\\' then ['\\', char]
  else if char = '\n' then ['\\', 'n']
  else if char = '\r' then ['\\', 'r']
  else if char = '\t' then ['\\', 't']
  else if isPrintable char then [char]
  else escapeCode char.toNat

def quoteMark (chars : List Char) : Char :=
  if chars.contains '\'' && !chars.contains '"' then '"' else '\''

def quoteChars (chars : List Char) : List Char :=
  let mark := quoteMark chars
  mark :: chars.flatMap (quoteChar mark) ++ [mark]

def quote (text : String) : String :=
  String.ofList (quoteChars text.toList)

end InputBinding.Text
