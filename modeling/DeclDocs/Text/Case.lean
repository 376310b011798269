import DeclDocs.Text.CaseTable
import DeclDocs.Text.Word

/-!
Full case mapping of texts. Most characters map on their own, some to several characters. A capital
sigma becomes the final form when it ends a word: a cased letter stands before it and none after it,
apostrophes, dots and similar characters passed over.
-/
namespace DeclDocs.Text

/-- The image of a code point under a table of runs. -/
def mapRun? (runs : List (Nat × Nat × Nat × Nat)) (n : Nat) : Option Nat :=
  (runs.find? fun (first, last, step, _) => first ≤ n && n ≤ last && (n - first) % step == 0).map
    fun (first, _, _, image) => image + (n - first)

def longImage? (images : List (Nat × List Nat)) (n : Nat) : Option (List Char) :=
  (images.find? fun entry => entry.1 == n).map fun entry => entry.2.map Char.ofNat

def lowerChar (c : Char) : List Char :=
  let n := c.toNat
  if n < 128 then [if 'A' ≤ c && c ≤ 'Z' then Char.ofNat (n + 32) else c]
  else
    match longImage? lowerLong n with
    | some image => image
    | none => [((mapRun? lowerRuns n).map Char.ofNat).getD c]

def upperChar (c : Char) : List Char :=
  let n := c.toNat
  if n < 128 then [if 'a' ≤ c && c ≤ 'z' then Char.ofNat (n - 32) else c]
  else
    match longImage? upperLong n with
    | some image => image
    | none => [((mapRun? upperRuns n).map Char.ofNat).getD c]

def isCaseIgnorable (c : Char) : Bool :=
  if c.toNat < 128 then ['\x27', '.', ':', '^', '\x60'].contains c
  else inIntervals caseIgnorableIntervals c.toNat

def isCased (c : Char) : Bool :=
  if c.toNat < 128 then isAsciiLetter c else inIntervals casedIntervals c.toNat

/-- Whether the first character that is not passed over is cased. -/
def startsCased (text : List Char) : Bool :=
  match text.dropWhile isCaseIgnorable with
  | [] => false
  | c :: _ => isCased c

def capitalSigma : Char := Char.ofNat 0x3A3
def smallSigma : Char := Char.ofNat 0x3C3
def finalSigma : Char := Char.ofNat 0x3C2

/-- Lower-case a text, given what stands before it, nearest character first. -/
def lowerAfter : List Char → List Char → List Char
  | _, [] => []
  | before, c :: rest =>
      let image :=
        if c = capitalSigma then
          [if startsCased before && !startsCased rest then finalSigma else smallSigma]
        else lowerChar c
      image ++ lowerAfter (c :: before) rest

def lower (text : List Char) : List Char := lowerAfter [] text

def upper (text : List Char) : List Char := text.flatMap upperChar

def lowerString (text : String) : String := String.ofList (lower text.toList)

def upperString (text : String) : String := String.ofList (upper text.toList)

end DeclDocs.Text
