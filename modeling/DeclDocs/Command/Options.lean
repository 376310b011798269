import DeclDocs.Grammar
import DeclDocs.Text.Numeral
import DeclDocs.Text.Quoted

/-!
The options of the command line. An option may be shortened as long as only one begins that way, and
its value may follow behind an equals sign or as the next word. First every word is classified, then
the words are taken in order; what belongs to no option is collected and refused at the end.
-/
namespace DeclDocs.Command

structure Options where
  sources : List String := []
  grammar : Option String := none
  config : Option String := none
  outputFile : Option String := none
  reportDirectory : Option String := none
  failFast : Bool := false
  logLevel : Option String := none
  strict : Bool := false
  deriving DecidableEq, Repr

inductive Flag where
  | help
  | source
  | grammar
  | config
  | outputFile
  | reportDirectory
  | failFast
  | logLevel
  | strict
  deriving DecidableEq, Repr

namespace Flag

def all : List Flag :=
  [help, source, grammar, config, outputFile, reportDirectory, failFast, logLevel, strict]

def spellings : Flag → List String
  | help => ["-h", "--help"]
  | source => ["--source"]
  | grammar => ["--grammar"]
  | config => ["--config"]
  | outputFile => ["--output-file"]
  | reportDirectory => ["--report-dir"]
  | failFast => ["--fail-fast"]
  | logLevel => ["--log-level"]
  | strict => ["--strict-config"]

def takesValue : Flag → Bool
  | help | failFast | strict => false
  | _ => true

/-- The values an option is limited to, if it is. -/
def choices? : Flag → Option (List String)
  | grammar => some Grammar.names
  | logLevel => some ["DEBUG", "INFO", "WARNING", "ERROR"]
  | _ => none

def title (flag : Flag) : String := String.intercalate "/" flag.spellings

/-- Every spelling with its option. -/
def spelled : List (String × Flag) :=
  all.flatMap fun flag => flag.spellings.map fun spelling => (spelling, flag)

end Flag

inductive UsageError where
  | ambiguous (word : String) (spellings : List String)
  | valueMissing (flag : Flag)
  | valueIgnored (flag : Flag) (value : String)
  | choiceInvalid (flag : Flag) (value : String) (choices : List String)
  | unrecognized (words : List String)
  deriving DecidableEq, Repr

namespace UsageError

def message : UsageError → String
  | ambiguous word spellings =>
      "ambiguous option: " ++ word ++ " could match " ++ String.intercalate ", " spellings
  | valueMissing flag => "argument " ++ flag.title ++ ": expected one argument"
  | valueIgnored flag value =>
      "argument " ++ flag.title ++ ": ignored explicit argument " ++ Text.quoted value
  | choiceInvalid flag value choices =>
      "argument " ++ flag.title ++ ": invalid choice: " ++ Text.quoted value ++ " (choose from " ++
        String.intercalate ", " (choices.map Text.quoted) ++ ")"
  | unrecognized words => "unrecognized arguments: " ++ String.intercalate " " words

end UsageError

/-- Why the command does not go on. -/
inductive Halt where
  | help
  | usage (error : UsageError)
  deriving DecidableEq, Repr

/-- A classified word. An option may come with a value of its own; `short` tells that it was given
by a single letter. -/
inductive Word where
  | option (flag : Flag) (short : Bool) (value : Option String)
  | unknown (text : String)
  | plain (text : String)
  | separator
  deriving DecidableEq, Repr

/-- Split at the first equals sign. -/
def splitEquals (word : List Char) : List Char × Option String :=
  let before := word.takeWhile fun c => c != '='
  match word.drop before.length with
  | [] => (before, none)
  | _ :: after => (before, some (String.ofList after))

def flag? (spelling : List Char) : Option Flag := Flag.spelled.lookup (String.ofList spelling)

/-- The options that a long word may be short for. -/
def expansions (start : List Char) : List (String × Flag) :=
  Flag.spelled.filter fun entry => start.isPrefixOf entry.1.toList

/-- A minus sign with digits, or with a point and digits behind it. -/
def isNegativeNumber : List Char → Bool
  | '-' :: rest =>
      let fraction := rest.dropWhile Text.isDecimalDigit
      match fraction with
      | [] => !rest.isEmpty
      | '.' :: digits => !digits.isEmpty && digits.all Text.isDecimalDigit
      | _ => false
  | _ => false

/-- A word that looks like an option and is none. Negative numbers and words with a blank are
taken as plain words. -/
def unmatched (word : List Char) : Word :=
  if isNegativeNumber word || word.contains ' ' then .plain (String.ofList word)
  else .unknown (String.ofList word)

/-- A word that begins with two dashes and is no spelling of an option. -/
def classifyLong (word : List Char) : Except Halt Word :=
  let (start, value) := splitEquals word
  match expansions start with
  | [] => .ok (unmatched word)
  | [(_, flag)] => .ok (.option flag false value)
  | several => .error (.usage (.ambiguous (String.ofList word) (several.map (·.1))))

/-- A word that begins with one dash and is no spelling of an option: a letter with a value behind
it. -/
def classifyShort (word : List Char) : Word :=
  match flag? (word.take 2) with
  | some flag => .option flag true (some (String.ofList (word.drop 2)))
  | none => unmatched word

def isShort (spelling : List Char) : Bool := (spelling.drop 1).head? != some '-'

def classify (word : List Char) : Except Halt Word :=
  let (start, value) := splitEquals word
  if word.head? != some '-' || word.length == 1 then .ok (.plain (String.ofList word))
  else
    match flag? word, (if value.isSome then flag? start else none) with
    | some flag, _ => .ok (.option flag (isShort word) none)
    | none, some flag => .ok (.option flag (isShort start) value)
    | none, none => if isShort word then .ok (classifyShort word) else classifyLong word

/-- Classify all words; behind two dashes every word is plain. -/
def classifyAll : List String → Except Halt (List Word)
  | [] => .ok []
  | word :: rest =>
      if word == "--" then .ok (.separator :: rest.map .plain)
      else do
        let first ← classify word.toList
        let later ← classifyAll rest
        return first :: later

namespace Options

def setSwitch (o : Options) : Flag → Except Halt Options
  | .help => .error .help
  | .failFast => .ok { o with failFast := true }
  | .strict => .ok { o with strict := true }
  | _ => .ok o

def store (o : Options) (flag : Flag) (value : String) : Options :=
  match flag with
  | .source => { o with sources := o.sources ++ [value] }
  | .grammar => { o with grammar := some value }
  | .config => { o with config := some value }
  | .outputFile => { o with outputFile := some value }
  | .reportDirectory => { o with reportDirectory := some value }
  | .logLevel => { o with logLevel := some value }
  | _ => o

/-- Give an option its value, if it may have it. -/
def setValue (o : Options) (flag : Flag) (value : String) : Except Halt Options :=
  match flag.choices? with
  | some choices =>
      if choices.contains value then .ok (o.store flag value)
      else .error (.usage (.choiceInvalid flag value choices))
  | none => .ok (o.store flag value)

/-- A switch with something attached. Behind a single letter more letters may follow, of which only
that for help is known. -/
def setAttached (o : Options) (flag : Flag) (short : Bool) (value : String) : Except Halt Options :=
  let rest := if short then String.ofList (value.toList.dropWhile fun c => c == 'h') else value
  if short && rest.isEmpty && !value.isEmpty then o.setSwitch flag
  else .error (.usage (.valueIgnored flag rest))

/-- Take the words in order. The second result holds the words that belong to no option. -/
def take (o : Options) : List Word → Except Halt (Options × List String)
  | [] => .ok (o, [])
  | .plain text :: rest => do
      let (o, extra) ← o.take rest
      return (o, text :: extra)
  | .unknown text :: rest => do
      let (o, extra) ← o.take rest
      return (o, text :: extra)
  | .separator :: rest => do
      let (o, extra) ← o.take rest
      return (o, "--" :: extra)
  | .option flag short (some value) :: rest => do
      let o ← (if flag.takesValue then o.setValue flag value else o.setAttached flag short value)
      o.take rest
  | .option flag _ none :: rest =>
      if flag.takesValue then
        match rest with
        | .plain value :: rest => do
            let o ← o.setValue flag value
            o.take rest
        | _ => .error (.usage (.valueMissing flag))
      else do
        let o ← o.setSwitch flag
        o.take rest

/-- The options that words give; `strict` tells whether reading is strict without the option. -/
def parse (strict : Bool) (words : List String) : Except Halt Options := do
  let classified ← classifyAll words
  let (options, extra) ← Options.take { strict } classified
  if extra.isEmpty then return options else throw (.usage (.unrecognized extra))

end Options
end DeclDocs.Command
