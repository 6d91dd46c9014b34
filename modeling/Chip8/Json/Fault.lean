import Chip8.Decimal.Shortest
import Chip8.Except
import Chip8.Text.Quoted

/-! # What can be wrong with a JSON text

A text is read from left to right and the first thing wrong with it is the
answer. Faults of syntax stand beside faults of content: a value of another
kind than expected, a number out of range, a list of another length, a field
that is missing or occurs twice. -/

namespace Chip8.Json

/-- What stood where a value of another kind was expected. -/
inductive Found where
  | null
  | boolean (value : Bool)
  | integer (value : Int)
  | real (negative : Bool) (magnitude : Decimal.Binary64)
  | text (value : String)
  | list
  | record
deriving DecidableEq

def Found.describe : Found → String
  | .null => "null"
  | .boolean b => s!"boolean `{b}`"
  | .integer n => s!"integer `{n}`"
  | .real negative x => "floating point `" ++ x.text negative ++ "`"
  | .text s => "string " ++ Text.quoted s
  | .list => "sequence"
  | .record => "map"

inductive Fault where
  | endInValue
  | endInList
  | endInObject
  | endInString
  | valueExpected
  | wordExpected
  | colonExpected
  | listCommaExpected
  | objectCommaExpected
  | keyNotString
  | trailingComma
  | trailingText
  | badNumber
  | numberTooLarge
  | badEscape
  | controlCharacter
  | loneSurrogate
  | halfSurrogatePair
  | missingField (name : String)
  | duplicateField (name : String)
  | wrongLength (found : Nat) (expected : String)
  | wrongKind (found : Found) (expected : String)
  | outOfRange (value : Int) (expected : String)
deriving DecidableEq

def Fault.message : Fault → String
  | .endInValue => "EOF while parsing a value"
  | .endInList => "EOF while parsing a list"
  | .endInObject => "EOF while parsing an object"
  | .endInString => "EOF while parsing a string"
  | .valueExpected => "expected value"
  | .wordExpected => "expected ident"
  | .colonExpected => "expected `:`"
  | .listCommaExpected => "expected `,` or `]`"
  | .objectCommaExpected => "expected `,` or `\x7d`"
  | .keyNotString => "key must be a string"
  | .trailingComma => "trailing comma"
  | .trailingText => "trailing characters"
  | .badNumber => "invalid number"
  | .numberTooLarge => "number out of range"
  | .badEscape => "invalid escape"
  | .controlCharacter => "control character (\\u0000-\\u001F) found while parsing a string"
  | .loneSurrogate => "lone leading surrogate in hex escape"
  | .halfSurrogatePair => "unexpected end of hex escape"
  | .missingField name => s!"missing field `{name}`"
  | .duplicateField name => s!"duplicate field `{name}`"
  | .wrongLength found expected => s!"invalid length {found}, expected {expected}"
  | .wrongKind found expected => s!"invalid type: {found.describe}, expected {expected}"
  | .outOfRange value expected => s!"invalid value: integer `{value}`, expected {expected}"

end Chip8.Json
