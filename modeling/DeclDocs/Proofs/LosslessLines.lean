import DeclDocs.Declaration.Encoding
import DeclDocs.Proofs.JsonText
import DeclDocs.Proofs.OctetText
import DeclDocs.Proofs.OutputFile

/-!
Reading back the lines of a run. Each kind of record is restored from its JSON value, the value from
its one-line form and that form from its octets. A file of lines, cut at its line breaks, therefore
gives back the results it was written from.
-/
namespace DeclDocs

open Text

theorem mapM_map_of_restored {α β : Type} {encode : α → β} {decode : β → Option α}
    (h : ∀ a, decode (encode a) = some a) (items : List α) :
    (items.map encode).mapM decode = some items := by
  induction items with
  | nil => rfl
  | cons item items ih => simp [List.mapM_cons, h, ih]

section Restoring

open Json

/-- Values are read back as they were, and their JSON values as they were written. -/
structure Restores {α : Type} (encode : α → Json) (decode : Json → Option α) : Prop where
  restored : ∀ a, decode (encode a) = some a
  plain : ∀ a, IsPlain (encode a)

variable {α : Type} {encode : α → Json} {decode : Json → Option α}

theorem restores_str : Restores .str toString? := ⟨fun _ => rfl, fun _ => trivial⟩

theorem restores_bool : Restores .bool toBool? := ⟨fun _ => rfl, fun _ => trivial⟩

/-- Null stands for an absent value, so no present one may be written as null. -/
theorem Restores.option (h : Restores encode decode) (hpresent : ∀ a, encode a ≠ .null) :
    Restores (ofOption encode) (toOption? decode) where
  restored
    | none => rfl
    | some a => by
        have hvalue : toOption? decode (encode a) = (decode (encode a)).map some := by
          unfold toOption?
          split
          · rename_i hnull
            exact absurd hnull (hpresent a)
          · rfl
        rw [ofOption, hvalue, h.restored, Option.map_some]
  plain
    | none => trivial
    | some a => h.plain a

theorem arePlain_map (h : Restores encode decode) (items : List α) :
    ArePlain (items.map encode) := by
  induction items with
  | nil => trivial
  | cons item items ih => exact ⟨h.plain item, ih⟩

theorem Restores.list (h : Restores encode decode) :
    Restores (ofList encode) (toList? decode) where
  restored := mapM_map_of_restored h.restored
  plain := arePlain_map h

theorem restores_optionalStr : Restores ofStringOption (toOption? toString?) :=
  restores_str.option nofun

theorem restores_parameters :
    Restores (ofOption (ofList ofStringOption)) (toOption? (toList? (toOption? toString?))) :=
  restores_optionalStr.list.option nofun

theorem restores_declaration : Restores Declaration.toJson Declaration.ofJson? where
  restored d := by
    simp only [Declaration.toJson, Declaration.ofJson?, restores_str.restored,
      restores_bool.restored, restores_optionalStr.restored, restores_parameters.restored]
    rfl
  plain d :=
    ⟨by simp, trivial, trivial, restores_optionalStr.plain _, restores_optionalStr.plain _,
      trivial, restores_parameters.plain _, trivial⟩

theorem restores_members : Restores membersToJson membersOfJson? :=
  restores_declaration.list.option nofun

theorem restores_type : Restores TypeRecord.toJson TypeRecord.ofJson? where
  restored r := by
    simp only [TypeRecord.toJson, TypeRecord.fieldsJson, TypeRecord.ofJson?,
      restores_str.restored, restores_members.restored]
    rfl
  plain r :=
    ⟨by simp [TypeRecord.fieldsJson], trivial, trivial, restores_members.plain _,
      restores_members.plain _, restores_members.plain _, trivial⟩

theorem restores_class : Restores ClassRecord.toJson ClassRecord.ofJson? where
  restored r := by
    simp only [ClassRecord.toJson, TypeRecord.fieldsJson, ClassRecord.ofJson?, List.cons_append,
      List.nil_append, restores_str.restored, restores_members.restored,
      restores_optionalStr.list.restored]
    rfl
  plain r :=
    ⟨by simp [TypeRecord.fieldsJson], trivial, trivial, restores_members.plain _,
      restores_members.plain _, restores_members.plain _, restores_optionalStr.list.plain _, trivial⟩

theorem restores_enum : Restores EnumRecord.toJson EnumRecord.ofJson? where
  restored r := by
    simp only [EnumRecord.toJson, EnumRecord.ofJson?, restores_str.restored,
      restores_declaration.list.restored]
    rfl
  plain r := ⟨by simp, trivial, trivial, restores_declaration.list.plain _, trivial⟩

theorem restores_error : Restores DeclarationError.toJson DeclarationError.ofJson? where
  restored e := by
    simp only [DeclarationError.toJson, DeclarationError.ofJson?, restores_str.restored,
      restores_optionalStr.restored]
    rfl
  plain e :=
    ⟨by simp, trivial, restores_optionalStr.plain _, restores_optionalStr.plain _, trivial⟩

theorem restores_unit : Restores UnitResult.toJson UnitResult.ofJson? where
  restored r := by
    simp only [UnitResult.toJson, UnitResult.ofJson?, restores_str.restored,
      restores_class.list.restored, restores_type.list.restored, restores_enum.list.restored,
      restores_error.list.restored]
    rfl
  plain r :=
    ⟨by simp, trivial, trivial, restores_class.list.plain _, restores_type.list.plain _,
      restores_type.list.plain _, restores_enum.list.plain _, restores_error.list.plain _, trivial⟩

end Restoring

namespace Output

open Utf8

def lineOf (result : UnitResult) : List UInt8 := encode (Json.compact result.toJson)

def resultIn? (line : List UInt8) : Option UnitResult := do
  let text ← decode? line
  let value ← Json.parse? text
  UnitResult.ofJson? value

theorem resultIn?_lineOf (result : UnitResult) : resultIn? (lineOf result) = some result := by
  have hvalue := Json.parse?_compact (restores_unit.plain result)
  simp [resultIn?, lineOf, decode?_encode, hvalue, restores_unit.restored]

theorem lineOf_injective : Function.Injective lineOf := by
  intro first second hline
  have hread := congrArg resultIn? hline
  rw [resultIn?_lineOf, resultIn?_lineOf] at hread
  exact Option.some.inj hread

/-- The results that a file of lines holds; what stands behind the last line break is no line. -/
def resultsIn? (octets : List UInt8) : Option (List UnitResult) :=
  (splitOn lineBreak octets).dropLast.mapM resultIn?

theorem encode_lines (results : List UnitResult) :
    encode (lines (results.map UnitResult.toJson)) =
      results.flatMap fun result => lineOf result ++ [lineBreak] := by
  induction results with
  | nil => rfl
  | cons result results ih =>
    rw [List.flatMap_cons, ← ih, List.map_cons, lines, List.flatMap_cons, encode_append,
      encode_append]
    rfl

theorem resultsIn?_encode_lines (results : List UnitResult) :
    resultsIn? (encode (lines (results.map UnitResult.toJson))) = some results := by
  rw [resultsIn?, splitOn_encode_lines, List.dropLast_concat, List.map_map]
  exact mapM_map_of_restored resultIn?_lineOf results

theorem lineBreak_not_mem_lineOf (result : UnitResult) : lineBreak ∉ lineOf result :=
  lineBreak_not_mem_encode (unbroken_compact result.toJson)

theorem count_lineBreak (results : List UnitResult) :
    (results.flatMap fun result => lineOf result ++ [lineBreak]).count lineBreak =
      results.length := by
  induction results with
  | nil => rfl
  | cons result results ih =>
    have hline := List.count_eq_zero.mpr (lineBreak_not_mem_lineOf result)
    simp [List.count_append, hline, ih]

/-- Writing results loses nothing: each is one line that ends with the only line break in it, the
results are read back from the lines in order, and different results have different lines. -/
theorem writeLines_lossless (store : Store) (file : Path) (results : List UnitResult)
    (hwritable : ∃ started, start store file = .ok started) :
    ∃ written octets, writeLines store file (results.map UnitResult.toJson) = .ok written ∧
      written.read file = .ok octets ∧
      octets = (results.flatMap fun result => lineOf result ++ [lineBreak]) ∧
      (∀ result, lineBreak ∉ lineOf result) ∧
      octets.count lineBreak = results.length ∧
      resultsIn? octets = some results ∧
      Function.Injective lineOf := by
  obtain ⟨started, hstart⟩ := hwritable
  obtain ⟨written, hfill, hread⟩ := exists_fill hstart (results.map UnitResult.toJson)
  have hwrite := (writeLines_of_start hstart _).trans hfill
  have hlines := encode_lines results
  exact ⟨written, _, hwrite, hread, hlines, lineBreak_not_mem_lineOf,
    hlines ▸ count_lineBreak results, resultsIn?_encode_lines results, lineOf_injective⟩

def withoutFields : UnitResult where
  unit := "A\n\"B\".cs"
  grammar := "csharp"
  classes := [{ name := "\\", summary := "\u2028\r\n\t", bases := [none, some ""] }]

def withNoFields : UnitResult :=
  { withoutFields with
    classes := withoutFields.classes.map fun record => { record with fields := some [] } }

theorem fieldless_lossless :
    ∃ written octets,
      writeLines ⟨.directory [], ['/']⟩ "out/units.jsonl".toList
        ([withoutFields, withNoFields].map UnitResult.toJson) = .ok written ∧
      written.read "out/units.jsonl".toList = .ok octets ∧
      octets.count lineBreak = 2 ∧
      resultsIn? octets = some [withoutFields, withNoFields] ∧
      lineOf withoutFields ≠ lineOf withNoFields := by
  obtain ⟨written, octets, hwrite, hread, -, -, hcount, hresults, hinjective⟩ :=
    writeLines_lossless ⟨.directory [], ['/']⟩ "out/units.jsonl".toList
      [withoutFields, withNoFields] ⟨_, rfl⟩
  exact ⟨written, octets, hwrite, hread, hcount, hresults, hinjective.ne (by decide)⟩

end Output

end DeclDocs
