/-!
# Sequence — text without control sequences

A terminal takes an escape character, and what belongs to it, for an instruction: one more character,
or parameters up to a final character, or a string up to its terminator.  `withoutSequences` leaves
such sequences out, and with them every control but white space.

White space stands even inside a sequence, if no string has begun there, and interrupts it: what
follows counts as text, until another control takes the sequence up again or a character beyond ASCII
ends it.
-/

namespace ScriptedRays.Text

/-- What the next character belongs to, once an escape character has come. -/
inductive Sequence where
  /-- The kind of the sequence is still open. -/
  | escape
  /-- Behind characters that announce a final one. -/
  | designation
  /-- Behind `[`: parameters, then a final character. -/
  | control
  /-- Behind `]`: a string that a bell ends. -/
  | command
  /-- Behind `P`: nothing yet of what comes before a device's string. -/
  | device
  /-- Among the parameters of a device's string. -/
  | deviceParameter
  /-- Behind the parameters of a device's string. -/
  | deviceDesignation
  /-- A string with an end of its own. -/
  | string
  deriving DecidableEq, Inhabited

namespace Sequence

/-- Whether a character's number lies in a range. -/
def within (c : Char) (first last : Nat) : Bool := decide (first ≤ c.toNat ∧ c.toNat ≤ last)

/-- The byte that ends a string in the eight-bit form. -/
def stringEnd : UInt8 := 0x9C

/-- Whether white space stands inside. -/
def isInterruptible : Sequence → Bool
  | escape | designation | control => true
  | command | device | deviceParameter | deviceDesignation | string => false

/-- The sequence behind a character, if it goes on.  A string ends with the byte `stringEnd`, be it part
of a longer character. -/
def next? (q : Sequence) (c : Char) : Option Sequence :=
  match q with
  | escape =>
    if c = '[' then some control
    else if c = ']' then some command
    else if c = 'P' then some device
    else if c = 'X' ∨ c = '^' ∨ c = '_' then some string
    else if within c 0x20 0x2F then some designation
    else if within c 0x30 0x7E then none
    else some escape
  | designation => if within c 0x30 0x7E then none else some designation
  | control => if within c 0x40 0x7E then none else some control
  | command => if c = '\x07' then none else some command
  | device =>
    if within c 0x20 0x2F then some deviceDesignation
    else if within c 0x30 0x3F then some deviceParameter
    else if within c 0x40 0x7E then some string
    else some device
  | deviceParameter =>
    if within c 0x20 0x2F then some deviceDesignation
    else if within c 0x3C 0x7E then some string
    else some deviceParameter
  | deviceDesignation => if within c 0x30 0x7E then some string else some deviceDesignation
  | string => if (String.utf8EncodeChar c).contains stringEnd then none else some string

end Sequence

/-- How far a text has been read. -/
inductive Reading where
  /-- In the text, perhaps in the middle of an interrupted sequence. -/
  | text (interrupted : Option Sequence)
  /-- In a sequence. -/
  | sequence (q : Sequence)
  deriving DecidableEq, Inhabited

namespace Reading

/-- Whether a character is white space among the controls. -/
def isLayout (c : Char) : Bool := c = '\t' || c = '\n' || c = '\x0c' || c = '\r'

/-- Whether a character outside of sequences stands. -/
def stands (c : Char) : Bool := isLayout c || (decide (' ' ≤ c) && c != '\x7f')

/-- Reads a character and says whether it stands. -/
def step (r : Reading) (c : Char) : Bool × Reading :=
  if c = '\x18' ∨ c = '\x1a' then (false, text none)
  else if c = '\x1b' then (false, sequence .escape)
  else
    match r with
    | text interrupted =>
      if stands c then (true, text (if c ≤ '\x7f' then interrupted else none))
      else (false, interrupted.elim (text none) sequence)
    | sequence q =>
      if isLayout c && q.isInterruptible then (true, text (some q))
      else (false, (q.next? c).elim (text none) sequence)

/-- The characters that stand. -/
def keep (r : Reading) : List Char → List Char
  | [] => []
  | c :: rest =>
    let (stands, r) := r.step c
    if stands then c :: r.keep rest else r.keep rest

end Reading

/-- A text without the control sequences in it, and without other controls than white space. -/
def withoutSequences (s : String) : String := String.ofList (Reading.keep (.text none) s.toList)

end ScriptedRays.Text
