import AuthBroker.Toml.Value

namespace AuthBroker.Toml

/-! Adding to tables.

A table is named once.  A dotted key may add to tables that dotted keys have made, and
a header may pass through any table that is not inline; passing through the tables of
a doubled header leads to the latest of them.  What breaks a rule gives nothing.
-/

def find? (entries : Entries) (name : String) : Option Item :=
  (entries.find? fun entry => entry.1.name == name).map Prod.snd

/-- Puts an item in the place of the entry of its name, or at the end. -/
def put (key : Key) (item : Item) : Entries → Entries
  | [] => [(key, item)]
  | entry :: entries =>
      if entry.1.name = key.name then (key, item) :: entries
      else entry :: put key item entries

def replace (name : String) (item : Item) : Entries → Entries
  | [] => []
  | entry :: entries =>
      if entry.1.name = name then (entry.1, item) :: entries
      else entry :: replace name item entries

/-- Changes the table at the end of a path.  Tables that are missing are made, with
the origin `missing`; `origin` is that of the table in hand. -/
def change (missing : Origin) (act : Origin → Entries → Option Entries) :
    List Key → Origin → Entries → Option Entries
  | [], origin, entries => act origin entries
  | key :: path, _, entries =>
      match find? entries key.name with
      | none =>
          (change missing act path missing []).map fun inner =>
            entries ++ [(key, .table key.span missing inner)]
      | some (.table span origin inner) =>
          if origin = .inline || (missing = .dotted && origin = .header) then none
          else (change missing act path origin inner).map fun inner =>
            replace key.name (.table span origin inner) entries
      | some (.tables span elements) =>
          match elements.reverse with
          | .table last origin inner :: before =>
              (change missing act path origin inner).map fun inner =>
                replace key.name
                  (.tables span (before.reverse ++ [.table last origin inner])) entries
          | _ => none
      | some (.scalar _ _) => none
      | some (.array _ _) => none

def splitLast : List Key → Option (List Key × Key)
  | [] => none
  | [key] => some ([], key)
  | key :: rest => (splitLast rest).map fun (path, last) => (key :: path, last)

/-- Gives a key of a table its value.  A key without dots goes into the table in hand,
which no dotted key has made; a key with dots goes into one that a dotted key made. -/
def assign (keys : List Key) (item : Item) (origin : Origin) (entries : Entries) :
    Option Entries :=
  match splitLast keys with
  | none => none
  | some (path, last) =>
      change .dotted
        (fun origin entries =>
          if (origin == .dotted) != !path.isEmpty then none
          else match find? entries last.name with
            | some _ => none
            | none => some (entries ++ [(last, item)]))
        path origin entries

/-- Names a table by a header.  It may exist already if headers only passed through
it; from now on it is at this place. -/
def openTable (span : Span) (keys : List Key) (root : Entries) : Option Entries :=
  match splitLast keys with
  | none => none
  | some (path, last) =>
      change .implied
        (fun _ entries =>
          match find? entries last.name with
          | none => some (entries ++ [(last, .table span .header [])])
          | some (.table _ .implied inner) => some (put last (.table span .header inner) entries)
          | some _ => none)
        path .header root

def pushTable (span : Span) (keys : List Key) (root : Entries) : Option Entries :=
  match splitLast keys with
  | none => none
  | some (path, last) =>
      change .implied
        (fun _ entries =>
          match find? entries last.name with
          | none => some (entries ++ [(last, .tables span [.table span .header []])])
          | some (.tables first elements) =>
              some (replace last.name
                (.tables first (elements ++ [.table span .header []])) entries)
          | some _ => none)
        path .header root

/-- Gives a key its value in the table that a header has named. -/
def assignIn (header keys : List Key) (item : Item) (root : Entries) : Option Entries :=
  change .implied (assign keys item) header .header root

end AuthBroker.Toml
