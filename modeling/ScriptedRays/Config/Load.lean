import ScriptedRays.Bytes
import ScriptedRays.Config.Document
import ScriptedRays.Config.Environment
import ScriptedRays.Text.Quoted

/-!
# Load — the configuration from all its sources

First the file, if there is one, then the environment.  A failure is told in two messages: what could
not be done, and the reason.
-/

namespace ScriptedRays

/-- Why a file's text cannot be had. -/
inductive Unreadable where
  /-- The operating system refuses, with a reason and its number. -/
  | refused (reason : String) (code : Nat)
  /-- The path holds a NUL, which ends a path for the operating system. -/
  | nulInPath
  /-- The bytes are not UTF-8. -/
  | notText
  deriving DecidableEq, Inhabited

namespace Unreadable

/-- There is no such file. -/
def missing : Unreadable := .refused "No such file or directory" 2

/-- The path leads to a directory. -/
def directory : Unreadable := .refused "Is a directory" 21

/-- The path leads through a file as if it were a directory. -/
def throughFile : Unreadable := .refused "Not a directory" 20

/-- The path or a name in it has too many bytes. -/
def longName : Unreadable := .refused "File name too long" 36

def message : Unreadable → String
  | refused reason code => reason ++ " (os error " ++ Text.decimal code ++ ")"
  | nulInPath => "file name contained an unexpected NUL byte"
  | notText => "stream did not contain valid UTF-8"

end Unreadable

/-- The text in UTF-8 bytes. -/
def Bytes.text (bytes : Bytes) : Except Unreadable String :=
  (String.fromUTF8? ⟨bytes.toArray⟩).elim (.error .notText) .ok

namespace Config

/-- Why there is no configuration. -/
inductive Failure where
  | unreadable (path : String) (cause : Unreadable)
  | badFile (path : String) (cause : Settings.Problem)
  | badVariable (bad : BadVariable)
  deriving DecidableEq, Inhabited

/-- What happened in the terms of whoever asked for a configuration. -/
def Failure.message : Failure → String
  | unreadable path _ => "读取配置文件失败: " ++ Text.quoted path
  | badFile path _ => "解析 TOML 配置失败: " ++ Text.quoted path
  | badVariable bad => "环境变量 " ++ bad.name ++ " 无效"

/-- What was the cause, in its own terms. -/
def Failure.reason : Failure → String
  | unreadable _ cause => cause.message
  | badFile _ cause => cause.message
  | badVariable bad => bad.cause.message

/-- The configuration that a text gives. -/
def ofText (text : String) : Except Settings.Problem Config :=
  (Settings.parse text).map (update {})

/-- The configuration that a file gives, by the text read from it. -/
def ofFile (path : String) : Except Unreadable String → Except Failure Config
  | .error e => .error (.unreadable path e)
  | .ok text => (ofText text).mapError (.badFile path)

/-- The configuration from a file, if one is given, and the environment. -/
def load (path : Option String) (read : String → Except Unreadable String) (env : Environment) :
    Except Failure Config := do
  let c ← path.elim (.ok {}) fun path => ofFile path (read path)
  match c.override env with
  | (c, .ok ()) => .ok c
  | (_, .error bad) => .error (.badVariable bad)

end Config

end ScriptedRays
