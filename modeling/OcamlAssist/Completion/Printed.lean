-- A completion list as text: a line an entry, or JSON.
import OcamlAssist.Completion.Item
import OcamlAssist.Json.Printer

namespace OcamlAssist.CompletionList

/-- A line for each entry: what is shown, a tab, and what is put into the text. -/
def lines (list : CompletionList) : List String :=
  list.pairs.map fun (label, insertText) => label ++ "\t" ++ insertText

def itemJson (item : Item) : Json.Value :=
  .object [("label", .text item.label), ("insert_text", .text item.insertText),
    ("kind", .text item.kind.name), ("source", .text item.source.name)]

def json (list : CompletionList) : Json.Value :=
  .object [("items", .array (list.items.map itemJson)), ("flags", .number list.inhibits.bits)]

end OcamlAssist.CompletionList
