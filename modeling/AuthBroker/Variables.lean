import AuthBroker.Environment
import AuthBroker.Text.Utf8

namespace AuthBroker

/-! The variables of a process, as the system keeps them: octets, for which no encoding is
promised and among which a name may occur more than once. -/

structure Variables where
  entries : List (List UInt8 × List UInt8)
deriving DecidableEq, Repr

namespace Variables

def empty : Variables := ⟨[]⟩

/-- The variables that hold an environment of texts. -/
def ofEnvironment (environment : Environment) : Variables :=
  ⟨environment.entries.map fun entry => (Text.Utf8.bytes entry.1, Text.Utf8.bytes entry.2)⟩

def ofList (settings : List (String × String)) : Variables :=
  ofEnvironment (.ofList settings)

instance : Coe Environment Variables := ⟨ofEnvironment⟩

/-- The octets of a variable; of those with one name, the first is found. -/
def value? (process : Variables) (name : String) : Option (List UInt8) :=
  (process.entries.find? fun entry => entry.1 == Text.Utf8.bytes name).map Prod.snd

end Variables

end AuthBroker
