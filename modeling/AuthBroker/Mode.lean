namespace AuthBroker

/-! What a helper is started for. -/

inductive Mode
  /-- Authenticate and report: the helper replies and exits. -/
  | probe
  /-- Authenticate and run a program: the helper becomes the process of the session. -/
  | run
deriving DecidableEq, Repr

namespace Mode

def name : Mode → String
  | .probe => "Probe"
  | .run => "Run"

/-- Tells the helper to write no reply, since nobody reads it. -/
def quietFlag : String := "-q"

def arguments : Mode → List String
  | .probe => []
  | .run => [quietFlag]

end Mode

end AuthBroker
