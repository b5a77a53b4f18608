-- Entries of a completion list, and the flags that keep the host editor's own
-- entries out of it.
import OcamlAssist.Text.Split

namespace OcamlAssist

open OcamlAssist.Text

inductive ItemKind where
  | text
  | value
  | type
  | module
  | constructor
  | exception
  | field
  | method
  | classType
  | keyword
  | variable
  deriving DecidableEq, Repr

namespace ItemKind

/-- The kind that the index tool's word stands for. -/
def ofWord : String → ItemKind
  | "value" => .value
  | "type" => .type
  | "module" => .module
  | "constructor" => .constructor
  | "variant" => .constructor
  | "exception" => .exception
  | "field" => .field
  | "method" => .method
  | "class" => .classType
  | "keyword" => .keyword
  | _ => .text

def name : ItemKind → String
  | .text => "text"
  | .value => "value"
  | .type => "type"
  | .module => "module"
  | .constructor => "constructor"
  | .exception => "exception"
  | .field => "field"
  | .method => "method"
  | .classType => "class"
  | .keyword => "keyword"
  | .variable => "variable"

def shortName : ItemKind → String
  | .text => "text"
  | .value => "val"
  | .type => "type"
  | .module => "mod"
  | .constructor => "ctor"
  | .exception => "exn"
  | .field => "field"
  | .method => "method"
  | .classType => "class"
  | .keyword => "kw"
  | .variable => "var"

end ItemKind

inductive ItemSource where
  | indexer
  | builtin
  | buffer
  | fault
  deriving DecidableEq, Repr

def ItemSource.name : ItemSource → String
  | .indexer => "ocp-index"
  | .builtin => "builtin"
  | .buffer => "local"
  | .fault => "error"

structure Item where
  /-- What is shown: a name, and an annotation after a tab. -/
  label : String
  insertText : String
  kind : ItemKind
  source : ItemSource
  deriving DecidableEq, Repr

namespace Item

def name (item : Item) : String := String.ofList (item.label.toList.takeWhile (· != '\t'))

def annotation (item : Item) : Option String :=
  (cutAt '\t' item.label.toList).map fun parts => String.ofList parts.2

def pair (item : Item) : String × String := (item.label, item.insertText)

end Item

/-- Sources of completions that the host editor is told to leave out, a bit each. -/
structure Inhibition where
  bits : Nat
  deriving DecidableEq, Repr

namespace Inhibition

def none : Inhibition := ⟨0⟩

def words : Inhibition := ⟨8⟩

def explicit : Inhibition := ⟨16⟩

def union (a b : Inhibition) : Inhibition := ⟨a.bits ||| b.bits⟩

def contains (a b : Inhibition) : Bool := a.bits &&& b.bits == b.bits

end Inhibition

structure CompletionList where
  items : List Item
  inhibits : Inhibition
  deriving DecidableEq, Repr

namespace CompletionList

/-- A list that stands alone: the host editor adds nothing of its own. -/
def alone (items : List Item) : CompletionList :=
  ⟨items, Inhibition.union Inhibition.words Inhibition.explicit⟩

def pairs (list : CompletionList) : List (String × String) := list.items.map Item.pair

end CompletionList

end OcamlAssist
