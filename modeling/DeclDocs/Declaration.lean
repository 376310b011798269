import DeclDocs.Doc.Section

/-!
Records of what a source unit declares. A list of members is absent if the type declares none of
that kind, which is not the same as an empty list. An entry of a list of written texts is absent
if the syntax tree has no text for it.
-/
namespace DeclDocs

/-- A member: a property, a field, a method or an enum member. -/
structure Declaration where
  name : String
  summary : String
  typeName : Option String := none
  returns : Option String := none
  isPrimitive : Bool := false
  parameters : Option (List (Option String)) := none
  deriving DecidableEq, Repr

namespace Declaration

/-- Record the parameters of a method; an empty list leaves them as they were. -/
def attachParameters (d : Declaration) (parameters : List (Option String)) : Declaration :=
  if parameters.isEmpty then d else { d with parameters := some parameters }

def hasSummary (d : Declaration) : Bool := !Doc.isAbsent (some d.summary)

def hasReturns (d : Declaration) : Bool := !Doc.isAbsent d.returns

end Declaration

/-- An interface or a struct. -/
structure TypeRecord where
  name : String
  summary : String
  properties : Option (List Declaration) := none
  fields : Option (List Declaration) := none
  methods : Option (List Declaration) := none
  deriving DecidableEq, Repr

def TypeRecord.hasSummary (r : TypeRecord) : Bool := !Doc.isAbsent (some r.summary)

/-- A class, which also has the types it is based on. -/
structure ClassRecord extends TypeRecord where
  bases : List (Option String) := []
  deriving DecidableEq, Repr

structure EnumRecord where
  name : String
  summary : String
  members : List Declaration := []
  deriving DecidableEq, Repr

def EnumRecord.hasSummary (r : EnumRecord) : Bool := !Doc.isAbsent (some r.summary)

/-- A declaration that could not be read, with the unit it is in and the type around it. -/
structure DeclarationError where
  message : String
  unit : Option String := none
  declaration : Option String := none
  deriving DecidableEq, Repr

namespace DeclarationError

def describe (label : String) : Option String → List String
  | none => []
  | some text => if text.isEmpty then [] else [label ++ "=" ++ text]

/-- The message with what is known about the place. -/
def text (e : DeclarationError) : String :=
  String.intercalate " | "
    (e.message :: (describe "declaration" e.declaration ++ describe "unit" e.unit))

/-- Name the unit, unless one is named already. -/
def inUnit (e : DeclarationError) (unit : String) : DeclarationError :=
  { e with unit := some (e.unit.getD unit) }

end DeclarationError

/-- Everything read from one source unit, in the order of the source. -/
structure UnitResult where
  unit : String
  grammar : String
  classes : List ClassRecord := []
  interfaces : List TypeRecord := []
  structs : List TypeRecord := []
  enums : List EnumRecord := []
  errors : List DeclarationError := []
  deriving DecidableEq, Repr

namespace UnitResult

/-- Append all that another result holds. -/
def merge (r other : UnitResult) : UnitResult :=
  { r with
    classes := r.classes ++ other.classes
    interfaces := r.interfaces ++ other.interfaces
    structs := r.structs ++ other.structs
    enums := r.enums ++ other.enums
    errors := r.errors ++ other.errors }

def declarationCount (r : UnitResult) : Nat :=
  r.classes.length + r.interfaces.length + r.structs.length + r.enums.length

def isEmpty (r : UnitResult) : Bool := r.declarationCount == 0

end UnitResult
end DeclDocs
