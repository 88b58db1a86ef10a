import ScriptedRays.Text.Name

/-!
# Log — diagnostics as data

Operations do not print: each gives back, beside its answer and the next state, the records it emits,
in order.  A verbosity decides later which of them are shown.
-/

namespace ScriptedRays

/-- How serious a record is, gravest first. -/
inductive Severity where
  | error
  | warn
  | info
  | debug
  | trace
  deriving DecidableEq, Inhabited

namespace Severity

def all : List Severity := [error, warn, info, debug, trace]

/-- The name in lower case, as configurations write it. -/
def name : Severity → String
  | error => "error"
  | warn => "warn"
  | info => "info"
  | debug => "debug"
  | trace => "trace"

/-- The name in upper case, as log lines show it. -/
def label : Severity → String
  | error => "ERROR"
  | warn => "WARN"
  | info => "INFO"
  | debug => "DEBUG"
  | trace => "TRACE"

/-- One for the gravest, five for the least. -/
def rank : Severity → Nat
  | error => 1
  | warn => 2
  | info => 3
  | debug => 4
  | trace => 5

end Severity

/-- Which records are shown: none, or those at least as grave as a given severity. -/
inductive Verbosity where
  | off
  | upTo (least : Severity)
  deriving DecidableEq

namespace Verbosity

instance : Inhabited Verbosity := ⟨.upTo .info⟩

def all : List Verbosity := off :: Severity.all.map upTo

def name : Verbosity → String
  | off => "off"
  | upTo least => least.name

def label : Verbosity → String
  | off => "OFF"
  | upTo least => least.label

/-- Zero when nothing is shown, five when everything is. -/
def rank : Verbosity → Nat
  | off => 0
  | upTo least => least.rank

/-- The verbosity of exactly this name. -/
def named? : String → Option Verbosity := Text.named? all name

/-- Reads a verbosity given by hand. -/
def parse : String → Except UnknownName Verbosity := Text.readName all name .verbosity

def allows (v : Verbosity) (s : Severity) : Bool := s.rank ≤ v.rank

/-- The severities that are shown, gravest first. -/
def shown : Verbosity → List Severity
  | off => []
  | upTo .error => [.error]
  | upTo .warn => [.error, .warn]
  | upTo .info => [.error, .warn, .info]
  | upTo .debug => [.error, .warn, .info, .debug]
  | upTo .trace => [.error, .warn, .info, .debug, .trace]

theorem allows_iff {v : Verbosity} {s : Severity} : v.allows s = true ↔ s ∈ v.shown := by
  rcases v with _ | (_ | _ | _ | _ | _) <;> cases s <;> decide

end Verbosity

/-- One line of diagnostics. -/
structure Record where
  severity : Severity
  text : String
  deriving DecidableEq, Inhabited

/-- What an operation on a state leaves behind: an answer, the next state, the records in order. -/
structure Outcome (σ α : Type) where
  value : α
  state : σ
  log : List Record

namespace Record

def warn (text : String) : Record := ⟨.warn, text⟩

def info (text : String) : Record := ⟨.info, text⟩

def debug (text : String) : Record := ⟨.debug, text⟩

end Record

/-- Sets up what is shown.  The first time decides; another one changes nothing and says so. -/
def Verbosity.install (wanted : Verbosity) (current : Option Verbosity) : Outcome Verbosity Unit :=
  match current with
  | none => ⟨(), wanted, []⟩
  | some kept => ⟨(), kept, [.debug "logger already initialized, keep the existing one"]⟩

end ScriptedRays
