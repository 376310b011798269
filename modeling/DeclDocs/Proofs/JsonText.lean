import DeclDocs.Json.Reader
import DeclDocs.Json.Writer
import Mathlib.Tactic.IntervalCases

/-!
JSON texts read back. The one-line form of a value without numbers is cut into the tokens of the
value, whatever its texts hold, and from these tokens the reader builds the value again. Two fields
of one name would be one when read, so names have to differ.
-/
namespace DeclDocs.Json

open Text Decimal

/-- From the start of a text some tokens are read, up to the rest of it. -/
def Scans (text rest : List Char) (tokens : List Token) : Prop :=
  scanFrom .between text = (scanFrom .between rest).map (tokens ++ ·)

theorem Scans.append {text middle rest : List Char} {first second : List Token}
    (hfirst : Scans text middle first) (hsecond : Scans middle rest second) :
    Scans text rest (first ++ second) := by
  unfold Scans at *
  rw [hfirst, hsecond, Option.map_map]
  congr 1
  funext tokens
  exact (List.append_assoc first second tokens).symm

section Strings

variable (read : List Nat) (rest : List Char)

theorem scanFrom_escape {c : Char} {n : Nat} (hu : c ≠ 'u') (h : escapeValue? c = some n) :
    scanFrom (.string read) ('\\' :: c :: rest) = scanFrom (.string (n :: read)) rest := by
  simp [scanFrom, hu, h]

/-- A numeric escape of a character below the blank. -/
theorem scanFrom_unitEscape {n : Nat} (h : n < 0x20) :
    scanFrom (.string read) (unitEscape n ++ rest) = scanFrom (.string (n :: read)) rest := by
  interval_cases n <;> rfl

/-- However a character is written inside a string, it is read as itself. -/
theorem scanFrom_escapeChar (c : Char) :
    scanFrom (.string read) (escapeChar c ++ rest) =
      scanFrom (.string (c.toNat :: read)) rest := by
  unfold escapeChar
  cases hshort : shortEscape? c with
  | some text =>
    unfold shortEscape? at hshort
    split at hshort <;> simp only [Option.some.injEq, reduceCtorEq] at hshort <;> subst hshort
    all_goals exact scanFrom_escape read rest (by decide) rfl
  | none =>
    simp only
    split_ifs with hlow
    · exact scanFrom_unitEscape read rest hlow
    · have hquote : c ≠ '"' := by rintro rfl; simp [shortEscape?] at hshort
      have hslash : c ≠ '\\' := by rintro rfl; simp [shortEscape?] at hshort
      simp [scanFrom, hquote, hslash, hlow]

theorem scanFrom_escaped (text : List Char) :
    scanFrom (.string read) (text.flatMap escapeChar ++ rest) =
      scanFrom (.string ((text.map Char.toNat).reverse ++ read)) rest := by
  induction text generalizing read with
  | nil => rfl
  | cons c text ih =>
    rw [List.flatMap_cons, List.append_assoc, scanFrom_escapeChar, ih]
    simp

/-- Characters are no surrogates, so they stay as they are. -/
theorem joinUnits_toNat (text : List Char) : joinUnits (text.map Char.toNat) = text := by
  unfold joinUnits
  induction text with
  | nil => rfl
  | cons c text ih =>
    have hscalar : c.toNat < 0xD800 ∨ 0xDFFF < c.toNat ∧ c.toNat < 0x110000 := c.valid
    have hhigh : isHighSurrogate c.toNat = false := by
      simp only [isHighSurrogate, Bool.and_eq_false_iff, decide_eq_false_iff_not]
      omega
    have hlow : isLowSurrogate c.toNat = false := by
      simp only [isLowSurrogate, Bool.and_eq_false_iff, decide_eq_false_iff_not]
      omega
    simp only [List.map_cons, joinFrom, hhigh, hlow, Bool.false_eq_true, if_false, ih,
      Char.ofNat_toNat]

/-- A quoted text is one token, whatever follows. -/
theorem scans_quote (text : String) :
    Scans (quote escapeChar text ++ rest) rest [.scalar (.str text)] := by
  have hopen : scanFrom .between ('"' :: (text.toList.flatMap escapeChar ++ '"' :: rest)) =
      scanFrom (.string []) (text.toList.flatMap escapeChar ++ '"' :: rest) := rfl
  have hclose : ∀ read, scanFrom (.string read) ('"' :: rest) =
      (scanFrom .between rest).map (stringToken read :: ·) := fun _ => rfl
  have hquote : quote escapeChar text ++ rest =
      '"' :: (text.toList.flatMap escapeChar ++ '"' :: rest) := by simp [quote]
  unfold Scans
  rw [hquote, hopen, scanFrom_escaped, hclose]
  simp [stringToken, joinUnits_toNat]

end Strings

mutual

/-- Values without numbers in which no object has two fields of one name. -/
def IsPlain : Json → Prop
  | .null => True
  | .bool _ => True
  | .int _ => False
  | .float _ => False
  | .str _ => True
  | .arr items => ArePlain items
  | .obj fields => (fields.map Prod.fst).Nodup ∧ HavePlain fields

def ArePlain : List Json → Prop
  | [] => True
  | v :: rest => IsPlain v ∧ ArePlain rest

def HavePlain : List (String × Json) → Prop
  | [] => True
  | (_, v) :: rest => IsPlain v ∧ HavePlain rest

end

mutual

def tokensOf : Json → List Token
  | .arr [] => [.openBracket, .closeBracket]
  | .arr (v :: rest) => .openBracket :: (tokensOf v ++ itemTokens rest)
  | .obj [] => [.openBrace, .closeBrace]
  | .obj ((n, v) :: rest) =>
      .openBrace :: .scalar (.str n) :: .colon :: (tokensOf v ++ fieldTokens rest)
  | v => [.scalar v]

def itemTokens : List Json → List Token
  | [] => [.closeBracket]
  | v :: rest => .comma :: (tokensOf v ++ itemTokens rest)

def fieldTokens : List (String × Json) → List Token
  | [] => [.closeBrace]
  | (n, v) :: rest => .comma :: .scalar (.str n) :: .colon :: (tokensOf v ++ fieldTokens rest)

end

section Scanning

def EndsWord (rest : List Char) : Prop :=
  rest = [] ∨ ∃ c token more, rest = c :: more ∧ punctuation? c = some token

theorem scans_mark (c : Char) {token : Token} (h : punctuation? c = some token)
    (rest : List Char) : Scans (c :: rest) rest [token] := by
  unfold punctuation? at h
  split at h <;> simp only [Option.some.injEq, reduceCtorEq] at h <;> subst h
  all_goals rfl

theorem scans_blank (rest : List Char) : Scans (' ' :: rest) rest [] := by
  unfold Scans
  simp [scanFrom, isSpace]

/-- A word ends where a punctuation mark follows, or nothing. -/
theorem scanFrom_word {read rest : List Char} {v : Json} (hword : wordValue? read.reverse = some v)
    (hends : EndsWord rest) :
    scanFrom (.word read) rest = (scanFrom .between rest).map ([.scalar v] ++ ·) := by
  rcases hends with rfl | ⟨c, token, more, rfl, hmark⟩
  · simp [scanFrom, hword]
  · have hplain : isWordChar c = false ∧ isSpace c = false := by
      unfold punctuation? at hmark
      split at hmark
      case h_7 => simp at hmark
      all_goals decide
    rw [scans_mark c hmark more, Option.map_map]
    simp only [scanFrom, hplain, hword, hmark, Bool.false_eq_true, if_false]
    rfl

theorem endsWord_items (items : List Json) (rest : List Char) :
    EndsWord (compactItems items ++ ']' :: rest) := by
  cases items with
  | nil => exact .inr ⟨']', .closeBracket, rest, rfl, rfl⟩
  | cons v items => exact .inr ⟨',', .comma, _, by rw [compactItems]; rfl, rfl⟩

theorem endsWord_fields (fields : List (String × Json)) (rest : List Char) :
    EndsWord (compactFields fields ++ '\x7d' :: rest) := by
  cases fields with
  | nil => exact .inr ⟨'\x7d', .closeBrace, rest, rfl, rfl⟩
  | cons field fields =>
    exact .inr ⟨',', .comma, _, by rw [compactFields]; rfl, rfl⟩

/-- The name of a field with its colon. -/
theorem scans_name (name : String) (rest : List Char) :
    Scans (quote escapeChar name ++ ':' :: ' ' :: rest) rest [.scalar (.str name), .colon] :=
  (scans_quote _ name).append ((scans_mark ':' rfl _).append (scans_blank rest))

mutual

/-- The one-line form of a value is cut into its tokens. -/
theorem scans_compact : (v : Json) → IsPlain v → ∀ {rest}, EndsWord rest →
    Scans (compact v ++ rest) rest (tokensOf v)
  | .null, _, _, hends => scanFrom_word rfl hends
  | .bool true, _, _, hends => scanFrom_word rfl hends
  | .bool false, _, _, hends => scanFrom_word rfl hends
  | .str text, _, rest, _ => scans_quote rest text
  | .arr [], _, rest, _ => (scans_mark '[' rfl _).append (scans_mark ']' rfl rest)
  | .arr (v :: items), hplain, rest, _ => by
      have hv := scans_compact v hplain.1 (endsWord_items items rest)
      have hitems := scans_compactItems items hplain.2 rest
      have hall := (scans_mark '[' rfl _).append (hv.append hitems)
      simpa [compact, tokensOf] using hall
  | .obj [], _, rest, _ => (scans_mark '\x7b' rfl _).append (scans_mark '\x7d' rfl rest)
  | .obj ((name, v) :: fields), hplain, rest, _ => by
      have hv := scans_compact v hplain.2.1 (endsWord_fields fields rest)
      have hfields := scans_compactFields fields hplain.2.2 rest
      have hall := (scans_mark '\x7b' rfl _).append ((scans_name name _).append (hv.append hfields))
      simpa [compact, tokensOf] using hall

theorem scans_compactItems : (items : List Json) → ArePlain items → ∀ rest,
    Scans (compactItems items ++ ']' :: rest) rest (itemTokens items)
  | [], _, rest => scans_mark ']' rfl rest
  | v :: items, hplain, rest => by
      have hv := scans_compact v hplain.1 (endsWord_items items rest)
      have hitems := scans_compactItems items hplain.2 rest
      have hall := (scans_mark ',' rfl _).append ((scans_blank _).append (hv.append hitems))
      simpa [compactItems, itemTokens] using hall

theorem scans_compactFields : (fields : List (String × Json)) → HavePlain fields → ∀ rest,
    Scans (compactFields fields ++ '\x7d' :: rest) rest (fieldTokens fields)
  | [], _, rest => scans_mark '\x7d' rfl rest
  | (name, v) :: fields, hplain, rest => by
      have hv := scans_compact v hplain.1 (endsWord_fields fields rest)
      have hfields := scans_compactFields fields hplain.2 rest
      have hall := (scans_mark ',' rfl _).append ((scans_blank _).append
        ((scans_name name _).append (hv.append hfields)))
      simpa [compactFields, fieldTokens] using hall

end

theorem tokens?_compact {v : Json} (h : IsPlain v) : tokens? (compact v) = some (tokensOf v) := by
  have hscan := scans_compact v h (.inl rfl)
  rw [Scans, List.append_nil] at hscan
  simpa [tokens?, scanFrom] using hscan

end Scanning

section Reading

variable (frames : List Frame) (rest : List Token)

/-- Where a field is new, it comes last. -/
theorem putField_of_not_mem {name : String} {fields : List (String × Json)} (v : Json)
    (h : name ∉ fields.map Prod.fst) : putField name v fields = fields ++ [(name, v)] := by
  induction fields with
  | nil => rfl
  | cons field fields ih =>
    simp only [List.map_cons, List.mem_cons, not_or] at h
    simp only [putField, Ne.symm h.1, if_false, ih h.2, List.cons_append]

theorem putField_of_nodup {name : String} {v : Json} {held fields : List (String × Json)}
    (h : ((held ++ (name, v) :: fields).map Prod.fst).Nodup) :
    putField name v held = held ++ [(name, v)] := by
  rw [List.map_append, List.map_cons, List.nodup_append] at h
  apply putField_of_not_mem
  intro hmem
  exact h.2.2 name hmem name List.mem_cons_self rfl

/-- The first item of an array is read like any value. -/
theorem read_firstItem (v : Json) :
    read .firstItem frames (tokensOf v ++ rest) = read .value frames (tokensOf v ++ rest) := by
  cases v with
  | arr items => cases items <;> rfl
  | obj fields => cases fields <;> rfl
  | _ => rfl

mutual

/-- From the tokens of a value the value is built. -/
theorem read_tokensOf : (v : Json) → IsPlain v → ∀ frames rest,
    read .value frames (tokensOf v ++ rest) = read (.done v) frames rest
  | .null, _, _, _ => rfl
  | .bool _, _, _, _ => rfl
  | .str _, _, _, _ => rfl
  | .arr [], _, _, _ => rfl
  | .arr (v :: items), hplain, frames, rest => by
      have hopen : read .value frames (tokensOf (.arr (v :: items)) ++ rest) =
          read .firstItem (.array [] :: frames) (tokensOf v ++ (itemTokens items ++ rest)) := by
        rw [tokensOf, List.cons_append, List.append_assoc]
        rfl
      rw [hopen, read_firstItem, read_tokensOf v hplain.1, read_itemTokens items hplain.2]
      rfl
  | .obj [], _, _, _ => rfl
  | .obj ((name, v) :: fields), hplain, frames, rest => by
      have hopen : read .value frames (tokensOf (.obj ((name, v) :: fields)) ++ rest) =
          read .value (.member [] name :: frames) (tokensOf v ++ (fieldTokens fields ++ rest)) := by
        rw [tokensOf, List.cons_append, List.cons_append, List.cons_append, List.append_assoc]
        rfl
      rw [hopen, read_tokensOf v hplain.2.1, read_fieldTokens fields hplain.2.2 [] hplain.1]
      rfl

theorem read_itemTokens : (items : List Json) → ArePlain items → ∀ {v held frames rest},
    read (.done v) (.array held :: frames) (itemTokens items ++ rest) =
      read (.done (.arr (held.reverse ++ v :: items))) frames rest
  | [], _, v, held, frames, rest => by
      have hclose : read (.done v) (.array held :: frames) (.closeBracket :: rest) =
          read (.done (.arr (v :: held).reverse)) frames rest := rfl
      rw [List.reverse_cons] at hclose
      exact hclose
  | w :: items, hplain, v, held, frames, rest => by
      have hnext : read (.done v) (.array held :: frames) (itemTokens (w :: items) ++ rest) =
          read .value (.array (v :: held) :: frames)
            (tokensOf w ++ (itemTokens items ++ rest)) := by
        rw [itemTokens, List.cons_append, List.append_assoc]
        rfl
      rw [hnext, read_tokensOf w hplain.1, read_itemTokens items hplain.2, List.reverse_cons,
        List.append_assoc]
      rfl

theorem read_fieldTokens : (fields : List (String × Json)) → HavePlain fields → ∀ held {name v},
    ((held ++ (name, v) :: fields).map Prod.fst).Nodup → ∀ {frames rest},
    read (.done v) (.member held name :: frames) (fieldTokens fields ++ rest) =
      read (.done (.obj (held ++ (name, v) :: fields))) frames rest
  | [], _, held, name, v, hnames, frames, rest => by
      have hclose : read (.done v) (.member held name :: frames) (.closeBrace :: rest) =
          read (.done (.obj (putField name v held))) frames rest := rfl
      rw [putField_of_nodup hnames] at hclose
      exact hclose
  | (other, w) :: fields, hplain, held, name, v, hnames, frames, rest => by
      -- The fields held so far grow at their end only because all names differ.
      have hnew := putField_of_nodup hnames
      have hnext : read (.done v) (.member held name :: frames)
            (fieldTokens ((other, w) :: fields) ++ rest) =
          read .value (.member (putField name v held) other :: frames)
            (tokensOf w ++ (fieldTokens fields ++ rest)) := by
        rw [fieldTokens, List.cons_append, List.cons_append, List.cons_append, List.append_assoc]
        rfl
      have hall : held ++ (name, v) :: (other, w) :: fields =
          (held ++ [(name, v)]) ++ (other, w) :: fields := by simp
      rw [hall] at hnames ⊢
      rw [hnext, hnew, read_tokensOf w hplain.1, read_fieldTokens fields hplain.2 _ hnames]

end

/-- The one-line form of a value without numbers is read as that value. -/
theorem parse?_compact {v : Json} (h : IsPlain v) : parse? (compact v) = some v := by
  have hread := read_tokensOf v h [] []
  rw [List.append_nil] at hread
  rw [parse?, tokens?_compact h, Option.bind_some, hread]
  rfl

end Reading

end DeclDocs.Json
