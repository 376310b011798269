import DeclDocs.Yaml.Token

/-!
The structure of a YAML document. A node is a scalar, a sequence or a mapping; where a node may
stand and none does, an empty scalar is meant. Readers take tokens from the front and hand back
the rest.
-/
namespace DeclDocs.Yaml

inductive Node where
  | scalar (text : List Char) (plain : Bool)
  | sequence (items : List Node)
  | mapping (entries : List (Node × Node))
  deriving Inhabited

namespace Node

def empty : Node := .scalar [] true

/-- A reader of something from the front of a list of tokens. -/
abbrev Reader (α : Type) : Type := List Token → Option (α × List Token)

/-- A node, unless one of some tokens is next or none is left. -/
def orEmpty (stops : List Token) (read : Reader Node) : Reader Node := fun tokens =>
  match tokens with
  | token :: _ => if stops.contains token then some (empty, tokens) else read tokens
  | [] => some (empty, [])

mutual

/-- A node. Blocks may stand only where `block` says so; entries without a block of their own only
where `loose` does. -/
def read (block loose : Bool) : Nat → Reader Node
  | 0, _ => none
  | fuel + 1, tokens =>
      match tokens with
      | .scalar text plain :: rest => some (.scalar text plain, rest)
      | .openSequence :: rest =>
          (flowItems fuel true rest).map fun (items, rest) => (.sequence items, rest)
      | .openMapping :: rest =>
          (flowEntries fuel true rest).map fun (entries, rest) => (.mapping entries, rest)
      | .blockSequence :: rest =>
          if block then (blockItems fuel rest).map fun (items, rest) => (.sequence items, rest)
          else none
      | .blockMapping :: rest =>
          if block then (blockEntries fuel rest).map fun (entries, rest) => (.mapping entries, rest)
          else none
      | .entry :: _ =>
          if loose then (looseItems fuel tokens).map fun (items, rest) => (.sequence items, rest)
          else none
      | _ => none

def blockItems : Nat → Reader (List Node)
  | 0, _ => none
  | fuel + 1, tokens =>
      match tokens with
      | .entry :: rest => do
          let (item, rest) ← orEmpty [.entry, .blockEnd] (read true false fuel) rest
          let (items, rest) ← blockItems fuel rest
          return (item :: items, rest)
      | .blockEnd :: rest => some ([], rest)
      | _ => none

/-- Entries that stand at the column of the key around them. -/
def looseItems : Nat → Reader (List Node)
  | 0, _ => none
  | fuel + 1, tokens =>
      match tokens with
      | .entry :: rest => do
          let (item, rest) ← orEmpty [.entry, .key, .value, .blockEnd] (read true false fuel) rest
          let (items, rest) ← looseItems fuel rest
          return (item :: items, rest)
      | _ => some ([], tokens)

def blockEntries : Nat → Reader (List (Node × Node))
  | 0, _ => none
  | fuel + 1, tokens =>
      match tokens with
      | .key :: rest => do
          let stops := [Token.key, .value, .blockEnd]
          let (key, rest) ← orEmpty stops (read true true fuel) rest
          let (value, rest) ← (match rest with
            | .value :: rest => orEmpty stops (read true true fuel) rest
            | _ => some (empty, rest))
          let (entries, rest) ← blockEntries fuel rest
          return ((key, value) :: entries, rest)
      | .blockEnd :: rest => some ([], rest)
      | _ => none

/-- The items up to a closing bracket. A key among them is a mapping of one entry. -/
def flowItems : Nat → Bool → Reader (List Node)
  | 0, _, _ => none
  | fuel + 1, first, tokens =>
      match tokens with
      | .closeSequence :: rest => some ([], rest)
      | _ => do
          let tokens ← (if first then some tokens
            else match tokens with
              | .comma :: rest => some rest
              | _ => none)
          match tokens with
          | .closeSequence :: rest => return ([], rest)
          | .key :: rest =>
              let (key, rest) ←
                orEmpty [.value, .comma, .closeSequence] (read false false fuel) rest
              let (value, rest) ← (match rest with
                | .value :: rest => orEmpty [.comma, .closeSequence] (read false false fuel) rest
                | _ => some (empty, rest))
              let (items, rest) ← flowItems fuel false rest
              return (.mapping [(key, value)] :: items, rest)
          | _ =>
              let (item, rest) ← read false false fuel tokens
              let (items, rest) ← flowItems fuel false rest
              return (item :: items, rest)

/-- The entries up to a closing brace. A node that is no key has an empty value. -/
def flowEntries : Nat → Bool → Reader (List (Node × Node))
  | 0, _, _ => none
  | fuel + 1, first, tokens =>
      match tokens with
      | .closeMapping :: rest => some ([], rest)
      | _ => do
          let tokens ← (if first then some tokens
            else match tokens with
              | .comma :: rest => some rest
              | _ => none)
          match tokens with
          | .closeMapping :: rest => return ([], rest)
          | .key :: rest =>
              let (key, rest) ←
                orEmpty [.value, .comma, .closeMapping] (read false false fuel) rest
              let (value, rest) ← (match rest with
                | .value :: rest => orEmpty [.comma, .closeMapping] (read false false fuel) rest
                | _ => some (empty, rest))
              let (entries, rest) ← flowEntries fuel false rest
              return ((key, value) :: entries, rest)
          | _ =>
              let (key, rest) ← read false false fuel tokens
              let (entries, rest) ← flowEntries fuel false rest
              return ((key, empty) :: entries, rest)

end

/-- The node of a single document with all its tokens. -/
def content (tokens : List Token) : Option Node := do
  let (node, rest) ← read true false (tokens.length + 1) tokens
  if rest.all fun token => token == .documentEnd then return node else none

/-- The node of a text of one document. A text without any has an empty node. -/
def ofTokens? : List Token → Option Node
  | [] => some empty
  | .documentStart :: rest =>
      if rest.all fun token => token == .documentEnd then some empty else content rest
  | tokens => content tokens

end Node
end DeclDocs.Yaml
