import DeclDocs.Proofs.FileStore
import DeclDocs.Run.Output

/-!
The file of lines that a run leaves behind. The one-line form of a JSON value has no line break in
it, so cutting the octets of the file at line breaks gives back the values as they were written. A
file that could be started can be filled, and starting it changes nothing off the way to it.
-/
namespace DeclDocs

open Text

section Unbroken

open Decimal Json

theorem unbroken_toDigits (n : Nat) : '\n' ∉ Nat.toDigits 10 n := by
  intro hmem
  have hdigit := Nat.isDigit_of_mem_toDigits (by decide) (by decide) hmem
  exact absurd hdigit (by decide)

theorem unbroken_zeros (n : Nat) : '\n' ∉ zeros n := by
  intro hmem
  exact absurd (List.eq_of_mem_replicate hmem) (by decide)

theorem unbroken_positional {digits : List Char} (h : '\n' ∉ digits) (point : Int) :
    '\n' ∉ positional digits point := by
  have htake : ∀ n, '\n' ∉ digits.take n := fun n hmem => h (List.mem_of_mem_take hmem)
  have hdrop : ∀ n, '\n' ∉ digits.drop n := fun n hmem => h (List.mem_of_mem_drop hmem)
  simp only [positional]
  split_ifs
  · simp [h, unbroken_zeros]
  · simp [h, unbroken_zeros]
  · simp [htake, hdrop]

theorem unbroken_exponential {digits : List Char} (h : '\n' ∉ digits) (point : Int) :
    '\n' ∉ exponential digits point := by
  have htake : '\n' ∉ digits.take 1 := fun hmem => h (List.mem_of_mem_take hmem)
  have hdrop : '\n' ∉ digits.drop 1 := fun hmem => h (List.mem_of_mem_drop hmem)
  have hfraction : '\n' ∉ (if (digits.drop 1).isEmpty then [] else '.' :: digits.drop 1) := by
    split_ifs
    · simp
    · simpa using hdrop
  have hsign : '\n' ≠ (if point - 1 < 0 then '-' else '+') := by
    split_ifs
    · decide
    · decide
  simp only [exponential, List.mem_append, List.mem_cons, List.not_mem_nil, or_false, not_or]
  exact ⟨⟨⟨⟨htake, hfraction⟩, by decide, hsign⟩, unbroken_zeros _⟩, unbroken_toDigits _⟩

theorem unbroken_write (x : Float) : '\n' ∉ (Style.json.write x).toList := by
  have hsigned : ∀ negative text, '\n' ∉ text → '\n' ∉ signed negative text := by
    intro negative text htext
    cases negative with
    | false => exact htext
    | true => simpa [signed] using htext
  unfold Style.write
  split
  · decide
  · rw [String.toList_ofList]
    exact hsigned _ _ (by decide)
  · rw [String.toList_ofList]
    apply hsigned
    unfold Style.writeDecimal
    simp only
    split
    · exact unbroken_positional (unbroken_toDigits _) _
    · exact unbroken_exponential (unbroken_toDigits _) _

theorem unbroken_writeInt (n : Int) : '\n' ∉ writeInt n := by
  cases n with
  | ofNat n => simpa [writeInt, toString, Int.repr] using unbroken_toDigits n
  | negSucc n => simpa [writeInt, toString, Int.repr] using unbroken_toDigits (n + 1)

theorem unbroken_escapeChar (c : Char) : '\n' ∉ escapeChar c := by
  unfold escapeChar
  split
  · rename_i text htext
    unfold shortEscape? at htext
    split at htext <;> simp only [Option.some.injEq, reduceCtorEq] at htext <;> subst htext
    all_goals decide
  · rename_i hshort
    split
    · rename_i hlow
      have hescapes : ∀ n < 0x20, '\n' ∉ unitEscape n := by decide
      exact hescapes c.toNat hlow
    · intro hmem
      obtain rfl : '\n' = c := by simpa using hmem
      simp [shortEscape?] at hshort

theorem unbroken_quote (text : String) : '\n' ∉ quote escapeChar text := by
  simp [quote, unbroken_escapeChar]

mutual

/-- The one-line form is one line. -/
theorem unbroken_compact : (value : Json) → '\n' ∉ compact value
  | .null => by decide
  | .bool b => by cases b <;> decide
  | .int n => unbroken_writeInt n
  | .float x => unbroken_write x
  | .str text => unbroken_quote text
  | .arr [] => by decide
  | .arr (value :: rest) => by
      simp [compact, unbroken_compact value, unbroken_compactItems rest]
  | .obj [] => by decide
  | .obj ((name, value) :: rest) => by
      simp [compact, unbroken_quote name, unbroken_compact value, unbroken_compactFields rest]

theorem unbroken_compactItems : (items : List Json) → '\n' ∉ compactItems items
  | [] => by simp [compactItems]
  | value :: rest => by
      simp [compactItems, unbroken_compact value, unbroken_compactItems rest]

theorem unbroken_compactFields : (fields : List (String × Json)) → '\n' ∉ compactFields fields
  | [] => by simp [compactFields]
  | (name, value) :: rest => by
      simp [compactFields, unbroken_quote name, unbroken_compact value, unbroken_compactFields rest]

end

end Unbroken

namespace Output

open Utf8

def lineBreak : UInt8 := 10

theorem lineBreak_not_mem_encodeChar {c : Char} (h : c ≠ '\n') : lineBreak ∉ encodeChar c := by
  have hc : c.toNat ≠ 10 := fun heq => h (Char.toNat_inj.mp heq)
  have hoctet : ∀ n : Nat, n < 256 → n ≠ 10 → lineBreak ≠ UInt8.ofNat n := by
    intro n hn hne heq
    have hnat := congrArg UInt8.toNat heq
    simp [lineBreak] at hnat
    omega
  have hvalid : c.toNat < 0x110000 := by
    have hscalar := c.valid
    simp only [UInt32.isValidChar, Nat.isValidChar] at hscalar
    change c.val.toNat < 0x110000
    omega
  unfold encodeChar
  simp only
  split_ifs
  · simpa using hoctet c.toNat (by omega) hc
  · simp only [List.mem_cons, List.not_mem_nil, or_false, not_or]
    refine ⟨?_, ?_⟩ <;> exact hoctet _ (by omega) (by omega)
  · simp only [List.mem_cons, List.not_mem_nil, or_false, not_or]
    refine ⟨?_, ?_, ?_⟩ <;> exact hoctet _ (by omega) (by omega)
  · simp only [List.mem_cons, List.not_mem_nil, or_false, not_or]
    refine ⟨?_, ?_, ?_, ?_⟩ <;> exact hoctet _ (by omega) (by omega)

theorem lineBreak_not_mem_encode {text : List Char} (h : '\n' ∉ text) :
    lineBreak ∉ encode text := by
  intro hmem
  obtain ⟨c, hc, hoctet⟩ := List.mem_flatMap.mp hmem
  exact lineBreak_not_mem_encodeChar (fun heq => h (heq ▸ hc)) hoctet

theorem encode_append (left right : List Char) :
    encode (left ++ right) = encode left ++ encode right :=
  List.flatMap_append

/-- The lines of a file are the one-line forms of its records; behind the last one there is
nothing. -/
theorem splitOn_encode_lines (records : List Json) :
    splitOn lineBreak (encode (lines records)) =
      (records.map fun record => encode (Json.compact record)) ++ [[]] := by
  induction records with
  | nil => rfl
  | cons record records ih =>
    have hline : encode (lines (record :: records)) =
        encode (Json.compact record) ++ lineBreak :: encode (lines records) := by
      simp only [lines, List.flatMap_cons, encode_append, List.append_assoc]
      rfl
    have hrecord := lineBreak_not_mem_encode (unbroken_compact record)
    rw [hline, splitOn_append, splitOn_of_not_mem hrecord, ih]
    rfl

section Starting

variable {store started : Store} {file : Path}

theorem start_eq_ok (h : start store file = .ok started) :
    ∃ around, store.makeDirectories (Path.directory (store.absolute file)) = .ok around ∧
      around.write file [] = .ok started := by
  unfold start at h
  simp only [bind, Except.bind] at h
  split at h
  · simp at h
  · rename_i around haround
    exact ⟨around, haround, h⟩

theorem agreesOff_makeAround {around : Store}
    (hrooted : Path.isAbsolute store.workingDirectory = true)
    (h : store.makeDirectories (Path.directory (store.absolute file)) = .ok around) :
    Store.AgreesOff (store.names file) store around := by
  have habsolute := Store.isAbsolute_absolute hrooted file
  have hsteps : Path.steps (store.absolute file) = store.names file :=
    Path.steps_normalize (Path.isAbsolute_join hrooted file)
  have hway : Path.steps (Path.directory (store.absolute file)) <+: store.names file := by
    rw [← hsteps]
    exact Path.steps_directory_isPrefix _
  exact Store.agreesOff_makeDirectories (Path.isAbsolute_directory habsolute)
    Path.parentMark_not_mem_names hway h

/-- Starting a file changes nothing off the way to it. -/
theorem agreesOff_start (hrooted : Path.isAbsolute store.workingDirectory = true)
    (h : start store file = .ok started) : Store.AgreesOff (store.names file) store started := by
  obtain ⟨around, haround, hwrite⟩ := start_eq_ok h
  have hmade := agreesOff_makeAround hrooted haround
  have hnames : around.names file = store.names file := by
    simp [Store.names, hmade.workingDirectory]
  have hwritten := Store.agreesOff_write hwrite
  rw [hnames] at hwritten
  exact hmade.trans hwritten

theorem isDirectory_of_start (h : start store file = .ok started) :
    started.root.isDirectory = true := by
  obtain ⟨around, -, hwrite⟩ := start_eq_ok h
  obtain ⟨names, name, hplace, -⟩ := Store.place_of_write hwrite
  exact Store.isDirectory_of_place hplace

/-- A file that was started can be filled, and then holds its lines. -/
theorem exists_fill (h : start store file = .ok started) (records : List Json) :
    ∃ filled, fill started file records = .ok filled ∧
      filled.read file = .ok (encode (lines records)) := by
  obtain ⟨around, -, hwrite⟩ := start_eq_ok h
  obtain ⟨filled, hfill⟩ := Store.exists_write_again hwrite (encode (lines records))
  exact ⟨filled, hfill, Store.read_of_write hfill⟩

theorem writeLines_of_start (h : start store file = .ok started) (records : List Json) :
    writeLines store file records = fill started file records := by
  rw [writeLines, h]
  rfl

end Starting

end Output

end DeclDocs
