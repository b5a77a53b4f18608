-- Tables of a TOML document while it is read. A table remembers how it came to
-- be, because that decides who may still add to it: a header adds to a table
-- that only a deeper header has implied, a dotted key adds to a table that
-- only dotted keys have made, and a table in braces is closed.
namespace OcamlAssist.Toml

inductive Origin where
  | header
  | implied
  | dotted
  | braces
  deriving DecidableEq, Repr

def Origin.isImplicit : Origin → Bool
  | .implied => true
  | .dotted => true
  | _ => false

inductive Node where
  | text (value : String)
  | integer (value : Int)
  | boolean (value : Bool)
  | float
  | dateTime
  | array (parts : List Node)
  | table (origin : Origin) (entries : List (String × Node))
  /-- Tables that share a header, in the order of their headers. -/
  | tables (all : List (List (String × Node)))

/-- The keys of a table with what they stand for. A key stands at most once. -/
abbrev Entries := List (String × Node)

namespace Entries

def get? (entries : Entries) (key : String) : Option Node := entries.lookup key

def erase (entries : Entries) (key : String) : Entries := entries.filter (·.1 != key)

def put (entries : Entries) (key : String) (node : Node) : Entries :=
  match entries with
  | [] => [(key, node)]
  | (first, old) :: rest =>
    if first == key then (key, node) :: rest else (first, old) :: put rest key node

/-- Changes the table at the end of a path, and gives what the change gives besides. Tables that
are not there are made on the way, and of tables that share a header the last is meant. A dotted
key passes no table that has been defined outright. -/
def modify {α : Type} (dotted : Bool) (change : Origin → Entries → Option (α × Entries)) :
    (path : List String) → (origin : Origin) → Entries → Option (α × Entries)
  | [], origin, entries => change origin entries
  | key :: path, _, entries =>
    match entries.get? key with
    | none => do
      let made : Origin := if dotted then .dotted else .implied
      let (found, inner) ← modify dotted change path made []
      return (found, entries.put key (.table made inner))
    | some (.table origin inner) =>
      if origin == .braces || (dotted && !origin.isImplicit) then none
      else do
        let (found, inner) ← modify dotted change path origin inner
        return (found, entries.put key (.table origin inner))
    | some (.tables all) =>
      match all.reverse with
      | [] => none
      | last :: before => do
        let (found, inner) ← modify dotted change path .header last
        return (found, entries.put key (.tables (inner :: before).reverse))
    | some _ => none

/-- Adds what a key stands for to a table without that key. Dotted keys add to tables that dotted
keys have made, and other keys to the rest. -/
def add (dotted : Bool) (key : String) (node : Node) (origin : Origin) (entries : Entries) :
    Option (Unit × Entries) :=
  if dotted == (origin == .dotted) && (entries.get? key).isNone then
    some ((), entries.put key node)
  else none

def addAt (entries : Entries) (path : List String) (key : String) (node : Node) : Option Entries :=
  (entries.modify true (add (!path.isEmpty) key node) path .header).map Prod.snd

end Entries

/-! ## Documents -/

/-- A document as far as it has been read. The entries of the table at hand are kept apart from
the root until the next header. -/
structure Draft where
  root : Entries := []
  path : List String := []
  /-- Whether the table at hand shares its header with others. -/
  shared : Bool := false
  current : Entries := []

namespace Draft

def modifyLast {α : Type} (root : Entries) (header : List String)
    (change : String → Entries → Option (α × Entries)) : Option (α × Entries) := do
  let key ← header.getLast?
  root.modify false (fun _ entries => change key entries) header.dropLast .header

def close (d : Draft) : Option Entries :=
  if d.path.isEmpty then some d.current
  else
    (modifyLast d.root d.path fun key entries =>
      match d.shared, entries.get? key with
      | false, none => some ((), entries.put key (.table .header d.current))
      | true, none => some ((), entries.put key (.tables [d.current]))
      | true, some (.tables all) => some ((), entries.put key (.tables (all ++ [d.current])))
      | _, _ => none).map Prod.snd

def openTable (d : Draft) (header : List String) : Option Draft := do
  let root ← d.close
  let (current, root) ← modifyLast root header fun key entries =>
    match entries.get? key with
    | none => some ([], entries)
    | some (.table .implied inner) => some (inner, entries.erase key)
    | some _ => none
  return { root, path := header, current }

def openShared (d : Draft) (header : List String) : Option Draft := do
  return { root := ← d.close, path := header, shared := true }

def add (d : Draft) (path : List String) (key : String) (node : Node) : Option Draft := do
  return { d with current := ← d.current.addAt path key node }

end Draft

end OcamlAssist.Toml
