import Midrange.Fields
import Midrange.Text.LetterCase
import Midrange.Value

/-!
# Redaction

Options go into the log with their secrets masked.
-/

namespace Midrange.Options

/-- What stands for a secret in the log. -/
def mask : Value := .text "***"

/-- Options whose values are secret, in small letters. -/
def secretNames : List String := ["password", "pwd"]

/-- The options with the values of secret options masked.  A value that counts
as nothing is shown. -/
def redact (options : Fields Value) : Fields Value :=
  options.map fun name value =>
    if secretNames.contains (Text.small name) && value.isTrue then mask else value

end Midrange.Options
