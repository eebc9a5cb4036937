import Midrange.Text.Printable

/-!
# Quoted text

The displayed form of a text stands between quotes: single ones, unless the
text holds a single quote and no double one.  Inside, the quote and the
backslash are escaped, and so is every character without a printed form.
-/

namespace Midrange.Text

/-- The lower-case hexadecimal digits of a number, filled up with zeros. -/
def hexadecimal (width number : Nat) : List Char :=
  let digits := Nat.toDigits 16 number
  List.replicate (width - digits.length) '0' ++ digits

def quoteFor (characters : List Char) : Char :=
  if characters.contains '\'' && !characters.contains '"' then '"' else '\''

/-- The displayed form of one character between the given quotes. -/
def escaped (quote character : Char) : List Char :=
  let code := character.toNat
  if character = quote || character = '\\' then ['\\', character]
  else if character = '\n' then ['\\', 'n']
  else if character = '\r' then ['\\', 'r']
  else if character = '\t' then ['\\', 't']
  else if isPrintable character then [character]
  else if code ≤ 0xFF then ['\\', 'x'] ++ hexadecimal 2 code
  else if code ≤ 0xFFFF then ['\\', 'u'] ++ hexadecimal 4 code
  else ['\\', 'U'] ++ hexadecimal 8 code

def quoted (text : String) : String :=
  let quote := quoteFor text.toList
  String.ofList
    (quote :: text.toList.flatMap (escaped quote) ++ [quote])

end Midrange.Text
