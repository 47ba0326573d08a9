import AuthBroker.Request.Basic

namespace AuthBroker

/-! What a caller hands over for an attempt: credentials, and for a session what it is to run. -/

structure Credentials where
  username : String
  secret : Secret
deriving DecidableEq

def Credentials.debug (credentials : Credentials) : String :=
  "Credentials \x7b username: " ++ Text.quote credentials.username ++ ", secret: " ++
    credentials.secret.debug ++ " \x7d"

/-- What is run for a user who is authenticated. -/
structure RunSpec where
  arguments : List String
  environment : Environment
deriving DecidableEq

/-- The request to check the credentials and to do no more. -/
def Credentials.probe (credentials : Credentials) : Request :=
  .probe credentials.username credentials.secret

/-- The request to check the credentials and to run a program for the user. -/
def Credentials.run (credentials : Credentials) (target : RunSpec) : Request :=
  .run credentials.username credentials.secret target.arguments target.environment

def Request.credentials (request : Request) : Credentials :=
  ⟨request.username, request.secret⟩

end AuthBroker
