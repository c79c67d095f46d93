import SolidStudy.Text.Utf8

/-! The computer that a run takes place on: programs that can be started, and files. What it does
is given by the operations of a `Host` in any monad. -/
namespace SolidStudy

inductive HostFault where
  | notFound
  | permissionDenied
  | notADirectory
  | isADirectory
  | nameTooLong
  | nulCharacter
  | notText
  deriving DecidableEq, Repr

def HostFault.message : HostFault → String
  | .notFound => "No such file or directory (os error 2)"
  | .permissionDenied => "Permission denied (os error 13)"
  | .notADirectory => "Not a directory (os error 20)"
  | .isADirectory => "Is a directory (os error 21)"
  | .nameTooLong => "File name too long (os error 36)"
  | .nulCharacter => "nul byte found in provided data"
  | .notText => "stream did not contain valid UTF-8"

structure Command where
  program : String
  arguments : List String
  /-- Variables that are set for the program beside those it inherits. -/
  environment : List (String × String)
  deriving DecidableEq, Repr

namespace Command

def hasNul (s : String) : Bool := s.toList.contains (Char.ofNat 0)

/-- Whether no part of the command has a character that ends it early. -/
def isPassable (command : Command) : Bool :=
  !(hasNul command.program || command.arguments.any hasNul ||
    command.environment.any fun (name, value) => hasNul name || hasNul value)

end Command

inductive ExitStatus where
  | exited (code : Nat)
  | killed (signal : Nat)
  deriving DecidableEq, Repr

namespace ExitStatus

def signalNames : List String :=
  ["SIGHUP", "SIGINT", "SIGQUIT", "SIGILL", "SIGTRAP", "SIGABRT", "SIGBUS", "SIGFPE", "SIGKILL",
    "SIGUSR1", "SIGSEGV", "SIGUSR2", "SIGPIPE", "SIGALRM", "SIGTERM", "SIGSTKFLT", "SIGCHLD",
    "SIGCONT", "SIGSTOP", "SIGTSTP", "SIGTTIN", "SIGTTOU", "SIGURG", "SIGXCPU", "SIGXFSZ",
    "SIGVTALRM", "SIGPROF", "SIGWINCH", "SIGIO", "SIGPWR", "SIGSYS"]

def describe : ExitStatus → String
  | .exited code => s!"exit status: {code}"
  | .killed signal =>
    match signalNames[signal - 1]? with
    | some name => s!"signal: {signal} ({name})"
    | none => s!"signal: {signal}"

end ExitStatus

/-- A program that has come to its end, with what it wrote on its diagnostic channel. -/
structure Ended where
  status : ExitStatus
  diagnostics : Text.Utf8.Octets
  deriving DecidableEq, Repr

structure Host (m : Type → Type) where
  /-- Starts a program and waits for its end. -/
  run : Command → m (Except HostFault Ended)
  contents : String → m (Except HostFault Text.Utf8.Octets)
  /-- Anything but a file is left where it is. -/
  removeFile : String → m Unit

namespace Host

variable {m : Type → Type} [Monad m] (host : Host m)

/-- A command that cannot be passed on is not started. -/
def start (command : Command) : m (Except HostFault Ended) :=
  if command.isPassable then host.run command else pure (.error .nulCharacter)

def readText (path : String) : m (Except HostFault (List Char)) := do
  match ← host.contents path with
  | .error fault => return .error fault
  | .ok octets => return (Text.Utf8.decode? octets).elim (.error .notText) .ok

end Host

end SolidStudy
