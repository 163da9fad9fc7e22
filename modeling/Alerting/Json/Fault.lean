import Alerting.Json.Numeral
import Alerting.Text.Quoted
import Alerting.Time.Text

/-!
# Faults of documents

A document is refused for what is wrong with its text or for a value of the
wrong shape. Every cause has one message.
-/
namespace Alerting.Json

/-- What stands where a value of another type is expected. -/
inductive Found where
  | null
  | bool (b : Bool)
  | number (n : Numeral)
  | text (s : String)
  | list
  | object
  | bareVariant
deriving DecidableEq

def Found.phrase : Found → String
  | null => "null"
  | bool b => "boolean `" ++ toString b ++ "`"
  | number (.whole n) => "integer `" ++ toString n ++ "`"
  | number (.real x) => "floating point `" ++ String.ofList (Numeral.real x).chars ++ "`"
  | text s => "string " ++ Text.quoted s
  | list => "sequence"
  | object => "map"
  | bareVariant => "unit variant"

inductive Fault where
  | valueCutOff
  | listCutOff
  | objectCutOff
  | textCutOff
  | valueExpected
  | wordExpected
  | colonExpected
  | listEndExpected
  | objectEndExpected
  | keyExpected
  | trailingComma
  | trailingCharacters
  | badNumber
  | numberOutOfRange
  | badEscape
  | unpairedSurrogate
  | unfinishedSurrogate
  | controlCharacter
  | nestedTooDeep
  | wrongType (found : Found) (expected : String)
  | wrongLength (length : Nat) (expected : String)
  | missingField (name : String)
  | repeatedField (name : String)
  | unknownVariant (name : String) (known : List String)
  | badTime (fault : Time.TextFault)
deriving DecidableEq

/-- The names between back quotes, as a choice. -/
def choice (names : List String) : String :=
  match names.map fun n => "`" ++ n ++ "`" with
  | [a, b] => "expected " ++ a ++ " or " ++ b
  | [a] => "expected " ++ a
  | all => "expected one of " ++ ", ".intercalate all

def Fault.message : Fault → String
  | valueCutOff => "EOF while parsing a value"
  | listCutOff => "EOF while parsing a list"
  | objectCutOff => "EOF while parsing an object"
  | textCutOff => "EOF while parsing a string"
  | valueExpected => "expected value"
  | wordExpected => "expected ident"
  | colonExpected => "expected `:`"
  | listEndExpected => "expected `,` or `]`"
  | objectEndExpected => "expected `,` or `\x7d`"
  | keyExpected => "key must be a string"
  | trailingComma => "trailing comma"
  | trailingCharacters => "trailing characters"
  | badNumber => "invalid number"
  | numberOutOfRange => "number out of range"
  | badEscape => "invalid escape"
  | unpairedSurrogate => "lone leading surrogate in hex escape"
  | unfinishedSurrogate => "unexpected end of hex escape"
  | controlCharacter => "control character (\\u0000-\\u001F) found while parsing a string"
  | nestedTooDeep => "recursion limit exceeded"
  | wrongType found expected => "invalid type: " ++ found.phrase ++ ", expected " ++ expected
  | wrongLength length expected =>
    "invalid length " ++ toString length ++ ", expected " ++ expected
  | missingField name => "missing field `" ++ name ++ "`"
  | repeatedField name => "duplicate field `" ++ name ++ "`"
  | unknownVariant name known => "unknown variant `" ++ name ++ "`, " ++ choice known
  | badTime fault => fault.message

end Alerting.Json
