import AuthBroker.Decimal.Digits
import AuthBroker.Word

namespace AuthBroker

/-! How a process ended, as the system reports it in one word of 32 bits. -/

structure WaitStatus where
  raw : UInt32
deriving DecidableEq, Repr

inductive WaitStatus.Kind
  | exited (code : Nat)
  | signaled (signal : Nat)
  | stopped (signal : Nat)
  | continued
  | unrecognised
deriving DecidableEq, Repr

namespace WaitStatus

/-- The low seven bits: zero for an exit, the signal for a death by signal. -/
def low (status : WaitStatus) : Nat :=
  status.raw.toNat % 128

/-- The second octet: the code of an exit, or the signal that stopped a process. -/
def high (status : WaitStatus) : Nat :=
  status.raw.toNat / 256 % 256

/-- The kind of a status word.  The bit that marks a core dump plays no part. -/
def kind (status : WaitStatus) : Kind :=
  if status.low = 0 then .exited status.high
  else if status.low ≠ 127 then .signaled status.low
  else if status.raw.toNat % 256 = 127 then .stopped status.high
  else if status.raw.toNat = 65535 then .continued
  else .unrecognised

def code? (status : WaitStatus) : Option Nat :=
  match status.kind with
  | .exited code => some code
  | _ => none

def ofCode (code : Nat) : WaitStatus :=
  ⟨UInt32.ofNat (code % 256 * 256)⟩

def ofSignal (signal : Nat) : WaitStatus :=
  ⟨UInt32.ofNat (signal % 128)⟩

def coreDumped (status : WaitStatus) : Bool :=
  status.raw.toNat / 128 % 2 = 1

def signalNames : List String :=
  ["SIGHUP", "SIGINT", "SIGQUIT", "SIGILL", "SIGTRAP", "SIGABRT", "SIGBUS", "SIGFPE",
    "SIGKILL", "SIGUSR1", "SIGSEGV", "SIGUSR2", "SIGPIPE", "SIGALRM", "SIGTERM",
    "SIGSTKFLT", "SIGCHLD", "SIGCONT", "SIGSTOP", "SIGTSTP", "SIGTTIN", "SIGTTOU",
    "SIGURG", "SIGXCPU", "SIGXFSZ", "SIGVTALRM", "SIGPROF", "SIGWINCH", "SIGIO",
    "SIGPWR", "SIGSYS"]

/-- A signal by number, with its name when it has one. -/
def signalText (signal : Nat) : String :=
  match signal with
  | 0 => Decimal.text 0
  | index + 1 =>
      match signalNames[index]? with
      | some name => Decimal.text signal ++ " (" ++ name ++ ")"
      | none => Decimal.text signal

def signed (status : WaitStatus) : Int :=
  if status.raw.toNat < Word.count 31 then status.raw.toNat
  else (status.raw.toNat : Int) - Word.count 32

def text (status : WaitStatus) : String :=
  match status.kind with
  | .exited code => "exit status: " ++ Decimal.text code
  | .signaled signal =>
      "signal: " ++ signalText signal ++ (if status.coreDumped then " (core dumped)" else "")
  | .stopped signal => "stopped (not terminated) by signal: " ++ signalText signal
  | .continued => "continued (WIFCONTINUED)"
  | .unrecognised =>
      "unrecognised wait status: " ++ Decimal.signedText status.signed ++ " 0x" ++
        String.ofList (Nat.toDigits 16 status.raw.toNat)

end WaitStatus

end AuthBroker
