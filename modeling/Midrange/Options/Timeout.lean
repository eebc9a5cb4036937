import Midrange.Fault
import Midrange.Number.Reading
import Midrange.Target

/-!
# Statement timeouts

The timeout option counts seconds.  A text counts as a timeout if, apart from
blanks around it, it consists of digit marks; those without a decimal value
make it a malformed numeral.
-/

namespace Midrange.Options

open Midrange.Text Midrange.Number

def readNumeral (text : String) : Except Fault Nat :=
  let (run, rest) := takeDigits false ⟨0, 0⟩ (trimBy isNumeralBlank text.toList)
  if Fault.numeralLimit < run.count then
    .error (.longNumeral run.count)
  else if run.count = 0 ∨ rest ≠ [] then
    .error (.invalidNumeral text)
  else
    .ok run.value

/-- Apart from blanks around it, the text is a run of digit marks. -/
def looksNumeric (text : String) : Bool :=
  let trimmed := trim text.toList
  !trimmed.isEmpty && trimmed.all isDigitLike

/-- The statement timeout in seconds that options ask for. -/
def queryTimeout (options : Fields Value) : Except Fault (Option Int) :=
  match options.get? timeout with
  | some (.int seconds) => .ok (some seconds)
  | some (.text text) =>
      if looksNumeric text then
        (readNumeral text).map fun seconds => some (seconds : Int)
      else
        .ok none
  | _ => .ok none

end Midrange.Options
