namespace AuthBroker

/-! Replies: what the helper answers to a request. -/

/-- The tags that a reply can carry; there are no others. -/
inductive Reply.Tag
  | pamInfo
  | pamError
  | systemError
  | requestError
  | result
  | executionError
deriving DecidableEq, Repr

namespace Reply.Tag

def all : List Reply.Tag :=
  [.pamInfo, .pamError, .systemError, .requestError, .result, .executionError]

def name : Reply.Tag → String
  | .pamInfo => "pam-info"
  | .pamError => "pam-error"
  | .systemError => "unix-error"
  | .requestError => "json-error"
  | .result => "rtvs-result"
  | .executionError => "rtvs-error"

def ofName? (name : String) : Option Reply.Tag :=
  all.find? fun tag => tag.name == name

end Reply.Tag

/-- A reply is a text under a tag; anything else is invalid, for a stated reason. -/
inductive Reply
  | tagged (tag : Reply.Tag) (text : String)
  | invalid (reason : String)
deriving DecidableEq, Repr

namespace Reply

def tag? : Reply → Option Reply.Tag
  | .tagged tag _ => some tag
  | .invalid _ => none

def text : Reply → String
  | .tagged _ text => text
  | .invalid reason => reason

end Reply

end AuthBroker
