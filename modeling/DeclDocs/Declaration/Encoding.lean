import DeclDocs.Declaration
import DeclDocs.Json.Basic

/-!
Records as JSON values and back. The fields of a record always stand in the same order, and an
absent value is written as null, so nothing is lost.
-/
namespace DeclDocs

namespace Json

def ofList {α : Type} (encode : α → Json) (items : List α) : Json := .arr (items.map encode)

def toString? : Json → Option String
  | .str s => some s
  | _ => none

def toBool? : Json → Option Bool
  | .bool b => some b
  | _ => none

def toOption? {α : Type} (decode : Json → Option α) : Json → Option (Option α)
  | .null => some none
  | v => (decode v).map some

def toList? {α : Type} (decode : Json → Option α) : Json → Option (List α)
  | .arr items => items.mapM decode
  | _ => none

end Json

open Json

namespace Declaration

def toJson (d : Declaration) : Json :=
  .obj
    [("name", .str d.name), ("summaryText", .str d.summary),
     ("typeName", ofStringOption d.typeName), ("returnsText", ofStringOption d.returns),
     ("isPrimitiveType", .bool d.isPrimitive),
     ("parameters", ofOption (ofList ofStringOption) d.parameters)]

def ofJson? : Json → Option Declaration
  | .obj [("name", name), ("summaryText", summary), ("typeName", typeName),
      ("returnsText", returns), ("isPrimitiveType", isPrimitive), ("parameters", parameters)] => do
      return {
        name := ← toString? name
        summary := ← toString? summary
        typeName := ← toOption? toString? typeName
        returns := ← toOption? toString? returns
        isPrimitive := ← toBool? isPrimitive
        parameters := ← toOption? (toList? (toOption? toString?)) parameters }
  | _ => none

end Declaration

/-- A list of members, null if it is absent. -/
def membersToJson : Option (List Declaration) → Json := ofOption (ofList Declaration.toJson)

def membersOfJson? : Json → Option (Option (List Declaration)) :=
  toOption? (toList? Declaration.ofJson?)

namespace TypeRecord

def fieldsJson (r : TypeRecord) : List (String × Json) :=
  [("name", .str r.name), ("summaryText", .str r.summary),
   ("properties", membersToJson r.properties), ("fields", membersToJson r.fields),
   ("methods", membersToJson r.methods)]

def toJson (r : TypeRecord) : Json := .obj r.fieldsJson

def ofJson? : Json → Option TypeRecord
  | .obj [("name", name), ("summaryText", summary), ("properties", properties),
      ("fields", fields), ("methods", methods)] => do
      return {
        name := ← toString? name
        summary := ← toString? summary
        properties := ← membersOfJson? properties
        fields := ← membersOfJson? fields
        methods := ← membersOfJson? methods }
  | _ => none

end TypeRecord

namespace ClassRecord

def toJson (r : ClassRecord) : Json :=
  .obj (r.toTypeRecord.fieldsJson ++ [("baseTypes", ofList ofStringOption r.bases)])

def ofJson? : Json → Option ClassRecord
  | .obj [("name", name), ("summaryText", summary), ("properties", properties),
      ("fields", fields), ("methods", methods), ("baseTypes", bases)] => do
      return {
        name := ← toString? name
        summary := ← toString? summary
        properties := ← membersOfJson? properties
        fields := ← membersOfJson? fields
        methods := ← membersOfJson? methods
        bases := ← toList? (toOption? toString?) bases }
  | _ => none

end ClassRecord

namespace EnumRecord

def toJson (r : EnumRecord) : Json :=
  .obj
    [("name", .str r.name), ("summaryText", .str r.summary),
     ("members", ofList Declaration.toJson r.members)]

def ofJson? : Json → Option EnumRecord
  | .obj [("name", name), ("summaryText", summary), ("members", members)] => do
      return {
        name := ← toString? name
        summary := ← toString? summary
        members := ← toList? Declaration.ofJson? members }
  | _ => none

end EnumRecord

namespace DeclarationError

def toJson (e : DeclarationError) : Json :=
  .obj
    [("message", .str e.message), ("unitId", ofStringOption e.unit),
     ("declarationName", ofStringOption e.declaration)]

def ofJson? : Json → Option DeclarationError
  | .obj [("message", message), ("unitId", unit), ("declarationName", declaration)] => do
      return {
        message := ← toString? message
        unit := ← toOption? toString? unit
        declaration := ← toOption? toString? declaration }
  | _ => none

end DeclarationError

namespace UnitResult

def toJson (r : UnitResult) : Json :=
  .obj
    [("unitId", .str r.unit), ("grammar", .str r.grammar),
     ("classes", ofList ClassRecord.toJson r.classes),
     ("interfaces", ofList TypeRecord.toJson r.interfaces),
     ("structs", ofList TypeRecord.toJson r.structs),
     ("enums", ofList EnumRecord.toJson r.enums),
     ("errors", ofList DeclarationError.toJson r.errors)]

def ofJson? : Json → Option UnitResult
  | .obj [("unitId", unit), ("grammar", grammar), ("classes", classes),
      ("interfaces", interfaces), ("structs", structs), ("enums", enums), ("errors", errors)] => do
      return {
        unit := ← toString? unit
        grammar := ← toString? grammar
        classes := ← toList? ClassRecord.ofJson? classes
        interfaces := ← toList? TypeRecord.ofJson? interfaces
        structs := ← toList? TypeRecord.ofJson? structs
        enums := ← toList? EnumRecord.ofJson? enums
        errors := ← toList? DeclarationError.ofJson? errors }
  | _ => none

end UnitResult
end DeclDocs
