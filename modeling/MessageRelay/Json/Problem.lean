import MessageRelay.Json.Printer
import MessageRelay.Text.Quoted

/-!
What can be wrong with a document, or with a value that is decoded, and how it is said.
-/
namespace MessageRelay.Json

inductive Found where
  | null
  | bool (value : Bool)
  | num (value : Number)
  | text (value : String)
  | list
  | object

def Found.message : Found → String
  | .null => "null"
  | .bool true => "boolean `true`"
  | .bool false => "boolean `false`"
  | .num (.int n) => s!"integer `{n}`"
  | .num (.double x) => "floating point `" ++ String.ofList (Shortest.literal x) ++ "`"
  | .text s => "string " ++ Text.quoted s
  | .list => "sequence"
  | .object => "map"

def found : Json → Found
  | .null => .null
  | .bool b => .bool b
  | .num n => .num n
  | .str s => .text s
  | .arr _ => .list
  | .obj _ => .object

inductive Problem where
  | endOfValue | endOfList | endOfObject | endOfText
  | expectedColon | expectedItemEnd | expectedMemberEnd | expectedWord | expectedValue
  | invalidEscape | invalidNumber | outOfRange | expectedKey
  | loneSurrogate | unfinishedEscape | controlCharacter
  | trailingComma | trailingCharacters | tooDeep
  | wrongType (found : Found) (expected : String)
  | wrongValue (found : Found) (expected : String)
  | wrongLength (length : Nat) (expected : String)
  | unknownVariant (name : String) (known : List String)
  | missingField (name : String)
  | duplicateField (name : String)
  | refused (reason : String)

def alternatives : List String → String
  | [] => "there are no variants"
  | [a] => "expected `" ++ a ++ "`"
  | [a, b] => "expected `" ++ a ++ "` or `" ++ b ++ "`"
  | names => "expected one of " ++ ", ".intercalate (names.map fun n => "`" ++ n ++ "`")

def Problem.message : Problem → String
  | .endOfValue => "EOF while parsing a value"
  | .endOfList => "EOF while parsing a list"
  | .endOfObject => "EOF while parsing an object"
  | .endOfText => "EOF while parsing a string"
  | .expectedColon => "expected `:`"
  | .expectedItemEnd => "expected `,` or `]`"
  | .expectedMemberEnd => "expected `,` or `\x7d`"
  | .expectedWord => "expected ident"
  | .expectedValue => "expected value"
  | .invalidEscape => "invalid escape"
  | .invalidNumber => "invalid number"
  | .outOfRange => "number out of range"
  | .expectedKey => "key must be a string"
  | .loneSurrogate => "lone leading surrogate in hex escape"
  | .unfinishedEscape => "unexpected end of hex escape"
  | .controlCharacter => "control character (\\u0000-\\u001F) found while parsing a string"
  | .trailingComma => "trailing comma"
  | .trailingCharacters => "trailing characters"
  | .tooDeep => "recursion limit exceeded"
  | .wrongType found expected => "invalid type: " ++ found.message ++ ", expected " ++ expected
  | .wrongValue found expected => "invalid value: " ++ found.message ++ ", expected " ++ expected
  | .wrongLength n expected => s!"invalid length {n}, expected {expected}"
  | .unknownVariant name known =>
    "unknown variant `" ++ name ++ "`, " ++ alternatives known
  | .missingField name => "missing field `" ++ name ++ "`"
  | .duplicateField name => "duplicate field `" ++ name ++ "`"
  | .refused reason => reason

/-- A place in a text. Lines count from one; the column is the number of bytes of the line up to
and with the last one read. -/
structure Position where
  line : Nat
  column : Nat
  deriving DecidableEq, Repr

/-- What is wrong, and where in the text. A value that was read before has no place any more. -/
structure DecodeError where
  problem : Problem
  position : Option Position

def DecodeError.message (e : DecodeError) : String :=
  match e.position with
  | none => e.problem.message
  | some p => s!"{e.problem.message} at line {p.line} column {p.column}"

end MessageRelay.Json
