import DeclDocs.Decimal.Layout
import DeclDocs.Json.Basic
import DeclDocs.Settings.Calendar
import DeclDocs.Text.Quoted

/-!
The values that a settings file may hold, with the texts that stand for them in messages and paths.
Inside of another value texts are quoted and dates have their long form. The members of a set stand
in the order in which they are shown. A list or a mapping that holds itself is left out.
-/
namespace DeclDocs.Settings

inductive Value where
  | null
  | bool (value : Bool)
  | int (value : Int)
  | float (value : Float)
  | text (value : String)
  | octets (value : List UInt8)
  | date (value : Date)
  | moment (value : Moment)
  | pair (first second : Value)
  | list (items : List Value)
  | set (members : List Value)
  | mapping (entries : List (Value × Value))
  deriving Inhabited

namespace Value

def typeName : Value → String
  | .null => "NoneType"
  | .bool _ => "bool"
  | .int _ => "int"
  | .float _ => "float"
  | .text _ => "str"
  | .octets _ => "bytes"
  | .date _ => "date"
  | .moment _ => "datetime"
  | .pair _ _ => "tuple"
  | .list _ => "list"
  | .set _ => "set"
  | .mapping _ => "dict"

def boolText (value : Bool) : String := if value then "True" else "False"

mutual

/-- The text of a value inside of another one. -/
def innerText : Value → String
  | .null => "None"
  | .bool value => boolText value
  | .int value => toString value
  | .float value => Decimal.Style.plain.write value
  | .text value => Text.quoted value
  | .octets value => Text.quotedOctets value
  | .date value => value.longForm
  | .moment value => value.longForm
  | .pair first second => "(" ++ innerText first ++ ", " ++ innerText second ++ ")"
  | .list items => "[" ++ itemsText items ++ "]"
  | .set [] => "set()"
  | .set members => "\x7b" ++ itemsText members ++ "\x7d"
  | .mapping entries => "\x7b" ++ entriesText entries ++ "\x7d"

def itemsText : List Value → String
  | [] => ""
  | [item] => innerText item
  | item :: rest => innerText item ++ ", " ++ itemsText rest

def entriesText : List (Value × Value) → String
  | [] => ""
  | [(key, value)] => innerText key ++ ": " ++ innerText value
  | (key, value) :: rest => innerText key ++ ": " ++ innerText value ++ ", " ++ entriesText rest

end

/-- The text of a value on its own. -/
def asText : Value → String
  | .text value => value
  | .date value => value.text
  | .moment value => value.text
  | other => innerText other

/-- Whether a value counts as given: nothing, false, zero and what is empty do not. -/
def isGiven : Value → Bool
  | .null => false
  | .bool value => value
  | .int value => value != 0
  | .float value => value != 0.0
  | .text value => !value.isEmpty
  | .octets value => !value.isEmpty
  | .date _ => true
  | .moment _ => true
  | .pair _ _ => true
  | .list items => !items.isEmpty
  | .set members => !members.isEmpty
  | .mapping entries => !entries.isEmpty

def bool? : Value → Option Bool
  | .bool value => some value
  | _ => none

def text? : Value → Option String
  | .text value => some value
  | _ => none

/-- The items of a list. -/
def items? : Value → Option (List Value)
  | .list items => some items
  | _ => none

/-- The number a value is equal to, if any. -/
def number? : Value → Option Float
  | .bool value => some (if value then 1.0 else 0.0)
  | .int value => some (Float.ofInt value)
  | .float value => some value
  | _ => none

/-- Whether two keys of a mapping are the same; numbers are the same if they are equal. -/
def sameKey : Value → Value → Bool
  | .null, .null => true
  | .text a, .text b => a == b
  | .octets a, .octets b => a == b
  | .date a, .date b => a == b
  | .moment a, .moment b => a == b
  | .int a, .int b => a == b
  | .pair a b, .pair c d => sameKey a c && sameKey b d
  | a, b =>
      match a.number?, b.number? with
      | some x, some y => x == y
      | _, _ => false

/-- Lists, sets and mappings cannot be keys, nor pairs with one of them. -/
def canBeKey : Value → Bool
  | .pair first second => canBeKey first && canBeKey second
  | .list _ => false
  | .set _ => false
  | .mapping _ => false
  | _ => true

/-- Give a key a value; a key that is already there keeps its place. -/
def putEntry (key value : Value) : List (Value × Value) → List (Value × Value)
  | [] => [(key, value)]
  | (k, v) :: rest =>
      if sameKey k key then (k, value) :: rest else (k, v) :: putEntry key value rest

mutual

def ofJson : Json → Value
  | .null => .null
  | .bool value => .bool value
  | .int value => .int value
  | .float value => .float value
  | .str value => .text value
  | .arr items => .list (ofJsonItems items)
  | .obj fields => .mapping (ofJsonFields fields)

def ofJsonItems : List Json → List Value
  | [] => []
  | item :: rest => ofJson item :: ofJsonItems rest

def ofJsonFields : List (String × Json) → List (Value × Value)
  | [] => []
  | (name, value) :: rest => (.text name, ofJson value) :: ofJsonFields rest

end

end Value

/-- The value of a named entry. -/
def setting? (name : String) (entries : List (Value × Value)) : Option Value :=
  (entries.find? fun e => Value.sameKey e.1 (.text name)).map (·.2)

end DeclDocs.Settings
