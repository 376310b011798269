import DeclDocs.Proofs.SettingsPolicy
import Mathlib.Data.List.Forall2

/-!
The sources that settings name. Every entry of the list that gives a path becomes one source, in
the order of the list, and no other entry does. There is one exception: a path that is there but
null is taken for the text that stands for null, so that a source is made of an entry without a
path.
-/
namespace DeclDocs.Settings

open Text

def pathValue? : Value → Option Value
  | .text path => some (.text path)
  | .mapping entries => setting? "path" entries
  | _ => none

def grammarValue? : Value → Option Value
  | .mapping entries => setting? "grammar" entries
  | _ => none

def pathText? (value : Value) : Option String :=
  if trimString value.asText = "" then none else some (trimString value.asText)

/-- The path that an entry gives. What is absent, null or blank is no path. -/
def givenPath? (item : Value) : Option String :=
  match pathValue? item with
  | none => none
  | some .null => none
  | some value => pathText? value

/-- The path that is read from an entry, where null is a path like any other. -/
def takenPath? (item : Value) : Option String :=
  match pathValue? item with
  | some .null => some "None"
  | _ => givenPath? item

structure IsSourceOf (known : Option (List String)) (path? : Value → Option String) (item : Value)
    (spec : SourceSpec) : Prop where
  path : path? item = some spec.path
  grammar : ∀ name, spec.grammar = some name ↔
    (∃ value, grammarValue? item = some value ∧ value ≠ .null ∧
        name = lowerString (trimString value.asText)) ∧
      ∀ names, known = some names → name ∈ names

section Entries

variable {known : Option (List String)} {item : Value}

theorem takenPath?_eq_bind : takenPath? item = (pathValue? item).bind pathText? := by
  have hnull : trimString Value.null.asText = "None" := by decide +kernel
  unfold takenPath? givenPath?
  cases pathValue? item with
  | none => rfl
  | some value =>
    cases value with
    | null => simp [pathText?, hnull]
    | _ => rw [Option.bind_some]

theorem takenPath?_eq : takenPath? item = (sourceEntries? item).bind fun entries =>
    if writtenPath entries = "" then none else some (writtenPath entries) := by
  have hblank : trimString "" = "" := by decide +kernel
  rw [takenPath?_eq_bind]
  cases item with
  | mapping entries =>
    simp only [pathValue?, sourceEntries?, Option.bind_some]
    cases hpath : setting? "path" entries with
    | none => simp [writtenPath, hpath, hblank]
    | some value => simp [writtenPath, hpath, pathText?]
  | _ => rfl

/-- Both readings of a path agree unless it is null. -/
theorem takenPath?_of_ne_null (h : pathValue? item ≠ some .null) :
    takenPath? item = givenPath? item := by
  unfold takenPath?
  split
  · rename_i hnull
    exact absurd hnull h
  · rfl

theorem paths_of_null (h : pathValue? item = some .null) :
    takenPath? item = some "None" ∧ givenPath? item = none := by
  simp [takenPath?, givenPath?, h]

theorem isSome_takenPath? (h : (givenPath? item).isSome = true) :
    (takenPath? item).isSome = true := by
  by_cases hnull : pathValue? item = some .null
  · simp [(paths_of_null hnull).1]
  · rwa [takenPath?_of_ne_null hnull]

theorem sourceFrom_eq : sourceFrom known item = (takenPath? item).map fun path =>
    ⟨path, (writtenGrammar (grammarValue? item)).filter (isKnown known)⟩ := by
  rw [takenPath?_eq]
  cases item with
  | text path =>
    simp only [sourceFrom, sourceEntries?, Option.bind_eq_bind, Option.bind_some]
    split <;> rfl
  | mapping entries =>
    simp only [sourceFrom, sourceEntries?, Option.bind_eq_bind, Option.bind_some]
    split <;> rfl
  | _ => rfl

theorem writtenGrammar_eq_some_iff {value : Option Value} {name : String} :
    writtenGrammar value = some name ↔
      ∃ v, value = some v ∧ v ≠ .null ∧ name = lowerString (trimString v.asText) := by
  cases value with
  | none => simp [writtenGrammar]
  | some v => cases v <;> simp [writtenGrammar, eq_comm]

theorem isSourceOf_of_sourceFrom {spec : SourceSpec} (h : sourceFrom known item = some spec) :
    IsSourceOf known takenPath? item spec := by
  rw [sourceFrom_eq, Option.map_eq_some_iff] at h
  obtain ⟨path, hpath, rfl⟩ := h
  refine ⟨hpath, fun name => ?_⟩
  rw [Option.filter_eq_some_iff, writtenGrammar_eq_some_iff]
  cases known <;> simp [isKnown]

theorem takenPath?_ne_none (h : IsSoundSource known item) : takenPath? item ≠ none := by
  obtain ⟨entries, hentries, hpath, -⟩ := h
  simp [takenPath?_eq, hentries, hpath]

end Entries

/-- The sources made of a list match the entries with a path, one by one. -/
theorem forall₂_sourceFrom (known : Option (List String)) (items : List Value) :
    List.Forall₂ (IsSourceOf known takenPath?)
      (items.filter fun item => (takenPath? item).isSome) (items.filterMap (sourceFrom known)) := by
  induction items with
  | nil => exact .nil
  | cons item rest ih =>
    cases hpath : takenPath? item with
    | none =>
      have hsource : sourceFrom known item = none := by rw [sourceFrom_eq, hpath, Option.map_none]
      rwa [List.filter_cons_of_neg (by simp [hpath]), List.filterMap_cons_none hsource]
    | some path =>
      have hsource : sourceFrom known item =
          some ⟨path, (writtenGrammar (grammarValue? item)).filter (isKnown known)⟩ := by
        rw [sourceFrom_eq, hpath, Option.map_some]
      rw [List.filter_cons_of_pos (by simp [hpath]), List.filterMap_cons_some hsource]
      exact .cons (isSourceOf_of_sourceFrom hsource) ih

section Files

variable (reader : TextReader) (store : Store) (known : Option (List String)) (path : Path)

def writtenSources : List Value :=
  checkedOr "sources" Value.items? [] (entriesIn reader store path)

/-- Sources are kept by a reading of paths: settings have one source for every entry with a path,
in order. An entry without one is a problem for the strict reader, and the lenient one skips it. -/
structure KeepsSources (path? : Value → Option String) : Prop where
  sources : ∀ policy settings, (loadBy reader store policy known path).run.value = .ok settings →
    List.Forall₂ (IsSourceOf known path?)
      ((writtenSources reader store path).filter fun item => (path? item).isSome) settings.sources
  rejected : (∃ item ∈ writtenSources reader store path, path? item = none) →
    ∃ cause, (loadBy reader store .strict known path).run.value = .error (.problem cause)
  skipped : (∃ item ∈ writtenSources reader store path, path? item = none) →
    ∃ settings, (loadBy reader store .lenient known path).run.value = .ok settings

variable {reader store known path}

theorem writtenSources_of_unreadable {e : LoadError} (h : Unreadable reader store path e) :
    writtenSources reader store path = [] := by
  have hvalue : valueIn reader store path = none := by
    cases h with
    | refused hread _ => simp [valueIn, hread, Except.toOption]
    | notText hread htext => simp [valueIn, hread, htext, Except.toOption]
    | meaningless hread htext hvalue => simp [valueIn, hread, htext, hvalue, Except.toOption]
  rw [writtenSources, entriesIn, hvalue]
  rfl

theorem IsSound.writtenSources (h : IsSound known (entriesIn reader store path)) :
    ∀ item ∈ writtenSources reader store path, IsSoundSource known item :=
  (isSound_iff.mp h).1.2

theorem keepsSources_takenPath? : KeepsSources reader store known path takenPath? := by
  rcases readable_or_unreadable reader store path with ⟨e, he⟩ | ⟨content, hcontent⟩
  · have hnone := writtenSources_of_unreadable he
    constructor
    case sources => simp [loadBy_of_unreadable he]
    case rejected => simp [hnone]
    case skipped => simp [hnone]
  · have hsettles := settles_loadBy known hcontent
    constructor
    case sources =>
      intro policy settings hload
      rw [hsettles.eq_of_ok hload]
      exact forall₂_sourceFrom known _
    case rejected =>
      rintro ⟨item, hitem, hpath⟩
      have hunsound : ¬ (HoldsMapping reader store path ∧
          IsSound known (entriesIn reader store path)) := fun hsound =>
        takenPath?_ne_none (hsound.2.writtenSources item hitem) hpath
      obtain ⟨cause, -, -, hstrict⟩ := hsettles.unsound hunsound
      exact ⟨cause, hstrict⟩
    case skipped => exact fun _ => ⟨_, hsettles.lenient⟩

/-- Readings of paths that agree on the list keep the same sources. -/
theorem KeepsSources.congr {path? path?' : Value → Option String}
    (h : KeepsSources reader store known path path?)
    (hagree : ∀ item ∈ writtenSources reader store path, path? item = path?' item) :
    KeepsSources reader store known path path?' := by
  have hwithout : (∃ item ∈ writtenSources reader store path, path?' item = none) →
      ∃ item ∈ writtenSources reader store path, path? item = none := by
    rintro ⟨item, hitem, hpath⟩
    exact ⟨item, hitem, (hagree item hitem).trans hpath⟩
  constructor
  case sources =>
    intro policy settings hload
    have hfilter : (writtenSources reader store path).filter (fun item => (path?' item).isSome) =
        (writtenSources reader store path).filter fun item => (path? item).isSome :=
      List.filter_congr fun item hitem => by rw [hagree item hitem]
    rw [hfilter]
    have hboth := (List.forall₂_and_left (p := fun item => path? item = path?' item) _ _).mpr
      ⟨fun item hitem => hagree item (List.mem_filter.mp hitem).1, h.sources policy settings hload⟩
    refine hboth.imp fun item spec hspec => ?_
    exact ⟨hspec.1.symm.trans hspec.2.path, hspec.2.grammar⟩
  case rejected => exact fun hitem => h.rejected (hwithout hitem)
  case skipped => exact fun hitem => h.skipped (hwithout hitem)

/-- A null path gives no path, but the lenient reader makes a source of it: there is one source too
many. -/
theorem not_keepsSources_of_null {item : Value} (hitem : item ∈ writtenSources reader store path)
    (hnull : pathValue? item = some .null) : ¬ KeepsSources reader store known path givenPath? := by
  intro hkeeps
  obtain ⟨htaken, hgiven⟩ := paths_of_null hnull
  obtain ⟨settings, hload⟩ := hkeeps.skipped ⟨item, hitem, hgiven⟩
  have hlength := (hkeeps.sources .lenient settings hload).length_eq.trans
    (keepsSources_takenPath?.sources .lenient settings hload).length_eq.symm
  have hfilter : (writtenSources reader store path).filter (fun item => (givenPath? item).isSome) =
      ((writtenSources reader store path).filter fun item => (takenPath? item).isSome).filter
        fun item => (givenPath? item).isSome := by
    rw [List.filter_filter]
    refine List.filter_congr fun item _ => ?_
    cases hsome : (givenPath? item).isSome with
    | false => rfl
    | true => rw [isSome_takenPath? hsome]; rfl
  have hall := List.filter_eq_self.mp (List.filter_sublist.eq_of_length (hfilter ▸ hlength))
    item (List.mem_filter.mpr ⟨hitem, by simp [htaken]⟩)
  simp [hgiven] at hall

end Files

/-- Sources are kept exactly if no entry has a null path. In general they are kept by the reading
that takes such a path for a text. -/
theorem keepsSources_iff (reader : TextReader) (store : Store) (known : Option (List String))
    (path : Path) :
    (KeepsSources reader store known path givenPath? ↔
      ∀ item ∈ writtenSources reader store path, pathValue? item ≠ some .null) ∧
    KeepsSources reader store known path takenPath? := by
  refine ⟨⟨?_, ?_⟩, keepsSources_takenPath?⟩
  · exact fun hkeeps item hitem hnull => not_keepsSources_of_null hitem hnull hkeeps
  · intro hnonnull
    exact keepsSources_takenPath?.congr fun item hitem =>
      takenPath?_of_ne_null (hnonnull item hitem)

def emptyPath : List Char := "sources:\n  - path:\n".toList

theorem parseText_emptyPath : parseText "run.yml".toList emptyPath =
    .ok (.mapping [(.text "sources", .list [.mapping [(.text "path", .null)]])]) := by
  have hyaml : (lower (Path.suffix "run.yml".toList) == ".json".toList) = false := by
    decide +kernel
  have htokens : Yaml.tokens? emptyPath =
      some [.blockMapping, .key, .scalar "sources".toList true, .value, .blockSequence, .entry,
        .blockMapping, .key, .scalar "path".toList true, .value, .blockEnd, .blockEnd,
        .blockEnd] := by decide +kernel
  have hnode : Yaml.Node.ofTokens? [.blockMapping, .key, .scalar "sources".toList true, .value,
        .blockSequence, .entry, .blockMapping, .key, .scalar "path".toList true, .value, .blockEnd,
        .blockEnd, .blockEnd] =
      some (.mapping [(.scalar "sources".toList true,
        .sequence [.mapping [(.scalar "path".toList true, .scalar [] true)]])]) := rfl
  have hvalue : Yaml.Node.toValue (.mapping [(.scalar "sources".toList true,
        .sequence [.mapping [(.scalar "path".toList true, .scalar [] true)]])]) =
      .ok (.mapping [(.text "sources", .list [.mapping [(.text "path", .null)]])]) := by
    simp only [Yaml.Node.toValue, Yaml.Node.mappingEntries, Yaml.Node.mergedFrom,
      Yaml.Node.ownEntries, Yaml.Node.itemValues]
    rfl
  simp only [parseText, hyaml, Yaml.parse, htokens, Option.bind_some, hnode, hvalue]
  rfl

theorem contentOf_emptyPath :
    contentOf parseText (storeWith (.file (Utf8.encode emptyPath))) "run.yml".toList =
      .ok (.ok (.mapping [(.text "sources", .list [.mapping [(.text "path", .null)]])])) := by
  have hread : (storeWith (.file (Utf8.encode emptyPath))).read (Path.tidy "run.yml".toList) =
      .ok (Utf8.encode emptyPath) := rfl
  have hlines : unifyLineEnds emptyPath = emptyPath := by decide +kernel
  simp only [contentOf, hread, Utf8.decode?_encode, hlines, parseText_emptyPath]

/-- Nothing is wrong with an empty path for the strict reader: it makes a source of it. -/
theorem source_of_emptyPath :
    (load (storeWith (.file (Utf8.encode emptyPath))) .strict (some ["csharp", "vb"])
        "run.yml".toList).run.value =
      .ok { sources := [⟨"None", none⟩], baseDirectory := "/" } ∧
    ¬ KeepsSources parseText (storeWith (.file (Utf8.encode emptyPath))) (some ["csharp", "vb"])
      "run.yml".toList givenPath? := by
  have hvalue := valueIn_of_contentOf contentOf_emptyPath
  have hentries : entriesIn parseText (storeWith (.file (Utf8.encode emptyPath))) "run.yml".toList =
      [(.text "sources", .list [.mapping [(.text "path", .null)]])] := by
    rw [entriesIn, hvalue]
    rfl
  have hsettles := settles_loadBy (some ["csharp", "vb"]) contentOf_emptyPath
  have hsound : IsSound (some ["csharp", "vb"])
      [(.text "sources", .list [.mapping [(.text "path", .null)]])] := by
    have hsource : IsSoundSource (some ["csharp", "vb"]) (.mapping [(.text "path", .null)]) :=
      ⟨_, rfl, by decide +kernel, fun _ hgrammar => by cases hgrammar⟩
    constructor
    case sources => exact fun _ hvalue => ⟨_, (Option.some.inj hvalue).symm, by simpa using hsource⟩
    case excluded => exact fun _ hvalue => by cases hvalue
    case continueOnError => exact fun _ hvalue => by cases hvalue
    case logLevel => exact fun _ hvalue => by cases hvalue
  have hsettled : settled (some ["csharp", "vb"])
      [(.text "sources", .list [.mapping [(.text "path", .null)]])]
      (baseOf (storeWith (.file (Utf8.encode emptyPath))) "run.yml".toList) =
        { sources := [⟨"None", none⟩], baseDirectory := "/" } := by decide +kernel
  rw [hentries, hsettled] at hsettles
  have hitem : .mapping [(.text "path", .null)] ∈
      writtenSources parseText (storeWith (.file (Utf8.encode emptyPath))) "run.yml".toList := by
    rw [writtenSources, hentries]
    exact List.mem_singleton_self _
  exact ⟨(hsettles.sound ⟨⟨_, hvalue⟩, hsound⟩).2, not_keepsSources_of_null hitem rfl⟩

end DeclDocs.Settings
