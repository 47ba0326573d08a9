import AuthBroker.Request.Basic
import AuthBroker.Request.Draft
import AuthBroker.Request.Failure

namespace AuthBroker.Request

/-! Requests from payloads, as the helper reads them.

The message name is looked at when the whole document was read.
-/

def splitEntry (text : List Char) : Option (List Char × List Char) :=
  match text.dropWhile (· != '=') with
  | [] => none
  | _ :: value => some (text.takeWhile (· != '='), value)

/-- The name and the value of an environment entry; the name is not empty. -/
def parseEntry (entry : String) : Except ProtocolFailure (String × String) :=
  match splitEntry entry.toList with
  | some (char :: name, value) => .ok (String.ofList (char :: name), String.ofList value)
  | some ([], _) => .error (.malformedEnvironment entry)
  | none => .error (.malformedEnvironment entry)

def parseEntries (environment : Environment) :
    List String → Except ProtocolFailure Environment
  | [] => .ok environment
  | entry :: entries =>
      match parseEntry entry with
      | .error failure => .error failure
      | .ok (name, value) => parseEntries (environment.insert name value) entries

def ofWire (wire : Wire) : Except ProtocolFailure Request :=
  if wire.name = probeName then .ok (.probe wire.username ⟨wire.password⟩)
  else if wire.name = runName then
    match wire.arguments, wire.environment with
    | none, _ => .error (.missingField "arguments")
    | some _, none => .error (.missingField "environment")
    | some arguments, some entries =>
        match parseEntries .empty entries with
        | .error failure => .error failure
        | .ok environment => .ok (.run wire.username ⟨wire.password⟩ arguments environment)
  else .error (.unknownMessage wire.name)

def decode (payload : List UInt8) : Except ProtocolFailure Request :=
  match readWire payload with
  | .error fault => .error (.malformed (fault.diagnose payload))
  | .ok wire => ofWire wire

end AuthBroker.Request
