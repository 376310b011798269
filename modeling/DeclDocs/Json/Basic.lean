/-!
JSON values. Whole numbers and floating-point numbers are different values, and an object keeps its
fields in the order in which their names first appeared.
-/
namespace DeclDocs

inductive Json where
  | null
  | bool (value : Bool)
  | int (value : Int)
  | float (value : Float)
  | str (value : String)
  | arr (items : List Json)
  | obj (fields : List (String × Json))
  deriving Inhabited

namespace Json

/-- Give a field a value; a field that is already there keeps its place. -/
def putField (name : String) (value : Json) : List (String × Json) → List (String × Json)
  | [] => [(name, value)]
  | (n, v) :: rest => if n = name then (n, value) :: rest else (n, v) :: putField name value rest

def field? (name : String) : Json → Option Json
  | .obj fields => (fields.find? fun entry => entry.1 == name).map (·.2)
  | _ => none

def ofOption {α : Type} (encode : α → Json) : Option α → Json
  | none => .null
  | some a => encode a

def ofStringOption : Option String → Json := ofOption .str

end Json
end DeclDocs
