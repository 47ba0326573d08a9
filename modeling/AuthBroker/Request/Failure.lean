import AuthBroker.Frame.Basic
import AuthBroker.Json.Fault
import AuthBroker.Text.Quoted

namespace AuthBroker

open AuthBroker.Stream

/-! Failures of the protocol between broker and helper. -/

inductive ProtocolFailure
  | malformed (diagnosis : Json.Diagnosis)
  | unknownMessage (name : String)
  | missingField (name : String)
  | malformedEnvironment (entry : String)
  | frame (error : Frame.Error)
  | invalidReply (reason : String)
  | requestRejected (reason : String)
deriving DecidableEq, Repr

namespace ProtocolFailure

def message : ProtocolFailure → String
  | .malformed diagnosis => "malformed request payload: " ++ diagnosis.message
  | .unknownMessage name => "unknown request message " ++ Text.quote name
  | .missingField name => "request is missing `" ++ name ++ "`"
  | .malformedEnvironment entry =>
      "environment entry " ++ Text.quote entry ++ " is not KEY=VALUE"
  | .frame error => error.message
  | .invalidReply reason => "invalid helper response: " ++ reason
  | .requestRejected reason => "helper could not parse the request: " ++ reason

def source? : ProtocolFailure → Option String
  | .malformed diagnosis => some diagnosis.message
  | .frame (.io error) => some error.message
  | _ => none

end ProtocolFailure

end AuthBroker
