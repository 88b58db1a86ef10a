import ScriptedRays.Toml.Reader

/-!
# Quotation — strings in a document

Double quotes admit escapes, single quotes take everything as it stands.  Three quotes open a string
of several lines: a new line right after them is dropped, and up to two quotes may stand before the
closing three.
-/

namespace ScriptedRays.Toml.Reader

def digitValue (c : Char) : Nat :=
  if c.isDigit then c.toNat - '0'.toNat
  else if 'a' ≤ c ∧ c ≤ 'f' then c.toNat - 'a'.toNat + 10
  else c.toNat - 'A'.toNat + 10

def isHexDigit (c : Char) : Bool :=
  c.isDigit || decide ('a' ≤ c ∧ c ≤ 'f') || decide ('A' ≤ c ∧ c ≤ 'F')

/-- The number that digits denote in a base. -/
def numeral (base : Nat) (digits : List Char) : Nat :=
  digits.foldl (fun n c => base * n + digitValue c) 0

/-- A character by the given count of hexadecimal digits. -/
def codePoint (count : Nat) : Reader Char := do
  let n := numeral 16 (← times (oneOf isHexDigit) count)
  if h : n.isValidChar then return Char.ofNatAux n h else failure

/-- A backslash and what it escapes. -/
def escape : Reader Char := do
  exactly ['\\']
  match ← oneOf fun _ => true with
  | 'b' => return '\x08'
  | 't' => return '\t'
  | 'n' => return '\n'
  | 'f' => return '\x0c'
  | 'r' => return '\r'
  | '"' => return '"'
  | '\\' => return '\\'
  | 'u' => codePoint 4
  | 'U' => codePoint 8
  | _ => failure

/-- What needs no escape between double quotes. -/
def isPlain (c : Char) : Bool := isVisible c && c != '"' && c != '\\'

/-- What may stand between single quotes. -/
def isLiteral (c : Char) : Bool := isVisible c && c != '\''

/-- A part of a string in double quotes. -/
def plainPart : Reader (List Char) := run1 isPlain <|> return [← escape]

/-- A new line within a string, always read as a line feed. -/
def newlinePart : Reader (List Char) := newline *> return ['\n']

/-- A backslash at the end of a line takes away the blanks and new lines up to the next text. -/
def continuation : Reader (List Char) := do
  exactly ['\\']
  blanks
  newline
  discard (many (discard (run1 isBlank) <|> newline))
  return []

/-- A string of one line in double quotes. -/
def basicString : Reader String := do
  exactly ['"']
  let parts ← many plainPart
  exactly ['"']
  return String.ofList parts.flatten

/-- A string of one line in single quotes. -/
def literalString : Reader String := do
  exactly ['\'']
  let s ← run isLiteral
  exactly ['\'']
  return String.ofList s

/-- A string of several lines: its parts, and quotes in ones or twos among them. -/
def longString (quote : Char) (part : Reader (List Char)) : Reader String := do
  let quotes := run1 (· == quote)
  exactly [quote, quote, quote]
  discard (optional newline)
  let parts ← many (part <|> do
    let some ← quotes
    guard (some.length ≤ 2)
    return some)
  let closing ← quotes
  guard (3 ≤ closing.length ∧ closing.length ≤ 5)
  return String.ofList (parts.flatten ++ closing.drop 3)

/-- A string in any of the four forms. -/
def string : Reader String :=
  longString '"' (run1 isPlain <|> continuation <|> plainPart <|> newlinePart) <|>
    longString '\'' (run1 isLiteral <|> newlinePart) <|>
    basicString <|> literalString

end ScriptedRays.Toml.Reader
