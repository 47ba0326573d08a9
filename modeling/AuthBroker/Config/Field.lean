namespace AuthBroker.Config

/-! The fields of a configuration file. -/

inductive Field
  | helperPath
  | helperName
  | probeTimeout
  | replyReadTimeout
  | requestWriteTimeout
  | forwardEnv
deriving DecidableEq, Repr

namespace Field

def all : List Field :=
  [.helperPath, .helperName, .probeTimeout, .replyReadTimeout, .requestWriteTimeout,
    .forwardEnv]

def name : Field → String
  | .helperPath => "helper_path"
  | .helperName => "helper_name"
  | .probeTimeout => "probe_timeout_ms"
  | .replyReadTimeout => "reply_read_timeout_ms"
  | .requestWriteTimeout => "request_write_timeout_ms"
  | .forwardEnv => "forward_env"

def ofName? (name : String) : Option Field :=
  all.find? fun field => field.name == name

end Field

end AuthBroker.Config
