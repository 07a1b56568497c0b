import LoginGateway.Settings.Help
import LoginGateway.Text.Integer
import LoginGateway.Text.Lines
import LoginGateway.Text.Terminal

/-!
Why a command line does not lead to settings: it asks for help or for the version, or it is wrong.
-/

namespace LoginGateway.Settings

inductive NumberFault
  | text (fault : Text.IntegerFault)
  | range (value : Int) (low high : Nat)
deriving DecidableEq, Repr

def NumberFault.message : NumberFault → String
  | text fault => fault.message
  | range value low high => s!"{value} is not in {low}..={high}"

inductive Rejection
  | help (text : String)
  | version
  | unknownArgument (shown : String)
  | excessValue (value flag : String)
  | missingValue (key : Key)
  | badChoice (key : Key) (value : String)
  | badNumber (key : Key) (value : String) (fault : NumberFault)
deriving DecidableEq, Repr

namespace Rejection

/-- The word for the kind of rejection. -/
def kind : Rejection → String
  | help _ => "DisplayHelp"
  | version => "DisplayVersion"
  | unknownArgument _ => "UnknownArgument"
  | excessValue .. => "TooManyValues"
  | missingValue _ => "InvalidValue"
  | badChoice .. => "InvalidValue"
  | badNumber .. => "ValueValidation"

/-- Asking is no mistake. -/
def isAnswer : Rejection → Bool
  | help _ => true
  | version => true
  | _ => false

def fullText : Rejection → String
  | help text => text
  | version => Help.versionText
  | unknownArgument shown => s!"error: unexpected argument '{shown}' found"
  | excessValue value flag =>
    s!"error: unexpected value '{value}' for '{flag}' found; no more were expected"
  | missingValue key => s!"error: a value is required for '{key.usage}' but none was supplied"
  | badChoice key value => s!"error: invalid value '{value}' for '{key.usage}'"
  | badNumber key value fault =>
    s!"error: invalid value '{value}' for '{key.usage}': {fault.message}"

/-- What is shown: an answer in full, and of a mistake the first line. -/
def message (r : Rejection) : String :=
  let shown := Text.Terminal.plainText r.fullText.toList
  String.ofList (if r.isAnswer then shown else Text.firstLine shown)

end Rejection

end LoginGateway.Settings
