import AuthBroker.Toml.Scalar
import AuthBroker.Toml.Statement
import AuthBroker.Toml.Table

namespace AuthBroker.Toml

/-! Reading TOML documents.

The whole document is taken apart into statements first.  Then keys and values are made
of them one after the other, and the first that breaks a rule decides.
-/

inductive Flaw
  | malformed
  | longKey
deriving DecidableEq, Repr

def maxParts : Nat := 80

def keysOf (parts : List Lexeme) : Except Flaw (List Key) :=
  match parts.mapM Lexeme.key? with
  | none => .error .malformed
  | some keys => if maxParts < keys.length then .error .longKey else .ok keys

def orMalformed {α : Type} : Option α → Except Flaw α
  | some value => .ok value
  | none => .error .malformed

mutual

def itemOf : Term → Except Flaw Item
  | .scalar lexeme => (orMalformed lexeme.scalar?).map (.scalar lexeme.span)
  | .array span terms => (itemsOf [] terms).map (.array span)
  | .table span entries => (entriesOf [] entries).map (.table span .inline)

/-- The items that are written; `held` are those before, newest first. -/
def itemsOf (held : List Item) : List Term → Except Flaw (List Item)
  | [] => .ok held.reverse
  | term :: terms =>
      match itemOf term with
      | .ok item => itemsOf (item :: held) terms
      | .error flaw => .error flaw

/-- The entries that are written, after those that are there. -/
def entriesOf (held : Entries) : List (List Lexeme × Term) → Except Flaw Entries
  | [] => .ok held
  | (parts, term) :: rest =>
      match keysOf parts with
      | .error flaw => .error flaw
      | .ok keys =>
          match itemOf term with
          | .error flaw => .error flaw
          | .ok item =>
              match assign keys item .inline held with
              | some entries => entriesOf entries rest
              | none => .error .malformed

end

structure Draft where
  header : List Key
  root : Entries

def Draft.empty : Draft := ⟨[], []⟩

def Draft.add (draft : Draft) : Statement → Except Flaw Draft
  | .assignment parts value =>
      match keysOf parts with
      | .error flaw => .error flaw
      | .ok keys =>
          match itemOf value with
          | .error flaw => .error flaw
          | .ok item =>
              (orMalformed (assignIn draft.header keys item draft.root)).map fun root =>
                { draft with root }
  | .header span parts =>
      match keysOf parts with
      | .error flaw => .error flaw
      | .ok keys => (orMalformed (openTable span keys draft.root)).map (⟨keys, ·⟩)
  | .doubledHeader span parts =>
      match keysOf parts with
      | .error flaw => .error flaw
      | .ok keys => (orMalformed (pushTable span keys draft.root)).map (⟨keys, ·⟩)

def ofStatements (statements : List Statement) : Except Flaw Entries :=
  (statements.foldlM Draft.add Draft.empty).map Draft.root

def dropMark : List Char → List Char
  | '\uFEFF' :: rest => rest
  | text => text

def read (document : List Char) : Except Flaw Entries :=
  match statements? (dropMark document) with
  | some statements => ofStatements statements
  | none => .error .malformed

end AuthBroker.Toml
