import Flowline.Condition.Error
import Flowline.Text.Half
import Flowline.Text.Digit

/-!
# Faults

Why an act fails: something is not configured, a condition has no value, a collaborator reports
trouble, or a value has no form that the act needs. `Fault.text` is what an answer that carries
the failure shows of it.
-/

namespace Flowline

inductive Unsendable where
  | address
  | relative
  | redirect
  deriving DecidableEq, Repr

/-- What ends the reading of a submission at once. -/
inductive Breakage where
  | typeNotText
  | temperatureTooLarge
  | listNotJson
  deriving DecidableEq, Repr

inductive Fault where
  | configuration (message : String)
  | condition (refusal : Condition.Refusal) (condition : String)
  | timedOut (text : String)
  /-- Any other trouble that a collaborator reports, with the name of its kind. -/
  | reported (kind text : String)
  | integerTooLong
  | halfPair (position unit : Nat)
  | noConnectionString
  | missingCell
  | endlessDuration
  | unclearDuration
  | malformedAddress
  | unsendable (why : Unsendable)
  | unencodable
  | undecodable
  | noJsonForm
  | unreadable (why : Breakage)
  deriving DecidableEq, Repr

namespace Fault

def text : Fault → String
  | configuration message => message
  | condition refusal _ => refusal.message
  | timedOut text => text
  | reported _ text => text
  | integerTooLong =>
    "Exceeds the limit (4300 digits) for integer string conversion; "
      ++ "use sys.set_int_max_str_digits() to increase the limit"
  | halfPair position unit =>
    "'utf-16-le' codec can't encode character '\\u" ++ String.ofList (Text.hexText 4 unit)
      ++ "' in position " ++ toString position ++ ": surrogates not allowed"
  | noConnectionString => "SQL_CONNECTION_STRING environment variable is required"
  | missingCell => "tuple index out of range"
  | endlessDuration => "cannot convert float infinity to integer"
  | unclearDuration => "cannot convert float NaN to integer"
  | malformedAddress => "Invalid URL"
  | unsendable _ => "Invalid request"
  | unencodable => "Characters cannot be encoded"
  | undecodable => "Octets are not text"
  | noJsonForm => "Value has no JSON form"
  | unreadable _ => "Submission cannot be read"

/-- Only trouble with the configuration is told to clients in its own words. -/
def isConfiguration : Fault → Bool
  | configuration _ => true
  | _ => false

end Fault

end Flowline
