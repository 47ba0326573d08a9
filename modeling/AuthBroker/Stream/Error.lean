import AuthBroker.Decimal.Digits
import AuthBroker.Stream.Errno

namespace AuthBroker.Stream

/-! Input and output errors: what went wrong and how it reads. -/

inductive ErrorKind
  | interrupted | brokenPipe | unexpectedEof | connectionReset | permissionDenied
  | notFound | writeZero | timedOut | invalidInput | invalidData | other
deriving DecidableEq, Repr

def ErrorKind.text : ErrorKind → String
  | .interrupted => "operation interrupted"
  | .brokenPipe => "broken pipe"
  | .unexpectedEof => "unexpected end of file"
  | .connectionReset => "connection reset"
  | .permissionDenied => "permission denied"
  | .notFound => "entity not found"
  | .writeZero => "write zero"
  | .timedOut => "timed out"
  | .invalidInput => "invalid input parameter"
  | .invalidData => "invalid data"
  | .other => "other error"

/-- An error of the system by its number, or one of a kind, perhaps with a text. -/
inductive IoError
  | system (number : Int)
  | plain (kind : ErrorKind)
  | worded (kind : ErrorKind) (text : String)
deriving DecidableEq, Repr

namespace IoError

/-- A call that a signal interrupted has done nothing and may be made again. -/
def isInterrupted : IoError → Bool
  | .system number => number == 4
  | .plain kind => kind == .interrupted
  | .worded kind _ => kind == .interrupted

def message : IoError → String
  | .system number =>
      errnoText number ++ " (os error " ++ Decimal.signedText number ++ ")"
  | .plain kind => kind.text
  | .worded _ text => text

def noEntry : IoError := .system 2

def textTooLong : IoError := .system 7

def accessDenied : IoError := .system 13

def notDirectory : IoError := .system 20

def isDirectory : IoError := .system 21

def noReader : IoError := .system 32

def nameTooLong : IoError := .system 36

end IoError

end AuthBroker.Stream
