import DeclDocs.Yaml.Node
import DeclDocs.Yaml.Plain

/-!
From a YAML text to a value. Of several entries with one key the last counts. An entry with the
merging mark as its key brings in the entries of another mapping, or of several; the mapping's own
entries count before them.

Block scalars, anchors, tags and directives are left out: a text with one of them is malformed here.
-/
namespace DeclDocs.Yaml

open Settings

namespace Node

def isMergeMark : Node → Bool
  | .scalar ['<', '<'] true => true
  | _ => false

/-- A lone equals sign is a text when it is a key. -/
def keyValue? : Node → Option Value
  | .scalar ['='] true => some (.text "=")
  | _ => none

/-- Bring one value into a mapping under construction. -/
def addEntry (key value : Value) (entries : List (Value × Value)) :
    Except Fault (List (Value × Value)) :=
  if key.canBeKey then .ok (Value.putEntry key value entries) else .error .malformed

/-- Lay entries on others; the upper ones count. -/
def layer (below above : List (Value × Value)) : List (Value × Value) :=
  above.foldl (fun entries (key, value) => Value.putEntry key value entries) below

mutual

def toValue : Node → Except Fault Value
  | .scalar text plain => if plain then plainValue text else .ok (.text (String.ofList text))
  | .sequence items => return .list (← itemValues items)
  | .mapping entries => return .mapping (← mappingEntries entries)

def itemValues : List Node → Except Fault (List Value)
  | [] => .ok []
  | item :: rest => return (← toValue item) :: (← itemValues rest)

/-- The entries of a mapping with those merged into it first. -/
def mappingEntries (entries : List (Node × Node)) : Except Fault (List (Value × Value)) := do
  let merged ← mergedFrom entries
  ownEntries merged entries

/-- What the merging entries bring, in order. -/
def mergedFrom : List (Node × Node) → Except Fault (List (Value × Value))
  | [] => .ok []
  | (key, value) :: rest => do
      if key.isMergeMark then
        let here ← mergeSource value
        return layer here (← mergedFrom rest)
      else mergedFrom rest

/-- A mapping, or a sequence of mappings of which the first counts most. -/
def mergeSource : Node → Except Fault (List (Value × Value))
  | .mapping entries => mappingEntries entries
  | .sequence items => mergeItems items
  | .scalar _ _ => .error .malformed

def mergeItems : List Node → Except Fault (List (Value × Value))
  | [] => .ok []
  | .mapping entries :: rest => do
      let below ← mergeItems rest
      return layer below (← mappingEntries entries)
  | _ :: _ => .error .malformed

def ownEntries (found : List (Value × Value)) :
    List (Node × Node) → Except Fault (List (Value × Value))
  | [] => .ok found
  | (key, value) :: rest => do
      if key.isMergeMark then ownEntries found rest
      else
        let k ← (match key.keyValue? with
          | some k => .ok k
          | none => toValue key)
        let v ← toValue value
        ownEntries (← addEntry k v found) rest

end

end Node

/-- The value of a text of one document. -/
def parse (text : List Char) : Except Fault Value :=
  match (tokens? text).bind Node.ofTokens? with
  | some node => node.toValue
  | none => .error .malformed

end DeclDocs.Yaml
