import DeclDocs.Doc.Comment
import DeclDocs.Proofs.TagScan
import DeclDocs.Proofs.TextLaws

/-!
Taking the tags of a section off a line. A tag that is taken off has the name directly behind `<` and
the slash; a start tag then ends at once or goes on with a blank, and an end tag has blanks only. What
is left of a line is the text between the tags that were taken off, piece by piece, and no piece holds
a tag of that form.
-/
namespace DeclDocs.Doc

open Text

theorem isName_section (wanted : Section) : IsName wanted.name.toList := by
  have hchars : wanted.name.toList.all isNameChar = true := by cases wanted <;> decide
  cases wanted with
  | summary => exact ⟨⟨'s', "ummary".toList, rfl, by decide⟩, List.all_eq_true.mp hchars⟩
  | returns => exact ⟨⟨'r', "eturns".toList, rfl, by decide⟩, List.all_eq_true.mp hchars⟩

def IsTail : Bool → List Char → Prop
  | false, tail => tail = ['>'] ∨
      ∃ b attributes, isBlank b = true ∧ '>' ∉ attributes ∧ tail = b :: (attributes ++ ['>'])
  | true, tail => ∃ blanks, (∀ c ∈ blanks, isBlank c = true) ∧ tail = blanks ++ ['>']

theorem isBlank_angle : isBlank '>' = false := by decide

theorem written_startsInk (closing : Bool) (inner : List Char) : StartsInk (written closing inner) :=
  ⟨'<', _, rfl, by decide⟩

theorem written_endsInk (closing : Bool) (inner : List Char) : EndsInk (written closing inner) :=
  ⟨'<' :: (slash closing ++ inner), '>', rfl, isBlank_angle⟩

theorem throughAngle?_eq_some_iff {text : List Char} {k : Nat} :
    throughAngle? text = some k ↔
      ∃ inner rest, '>' ∉ inner ∧ text = inner ++ '>' :: rest ∧ k = (inner ++ ['>']).length := by
  constructor
  · intro h
    simp only [throughAngle?] at h
    split at h
    · rename_i hlt
      have hsplit := List.takeWhile_append_dropWhile (p := fun c => c != '>') (l := text)
      have hne : text.dropWhile (fun c => c != '>') ≠ [] := by
        intro hnil
        rw [hnil, List.append_nil] at hsplit
        rw [hsplit] at hlt
        omega
      obtain ⟨c, rest, hrest⟩ := List.exists_cons_of_ne_nil hne
      have hc : c = '>' := by
        have hhead := List.head_dropWhile_not (fun c => c != '>') hne
        simpa [hrest] using hhead
      refine ⟨text.takeWhile fun c => c != '>', rest, ?_, ?_, ?_⟩
      · intro hmem
        simpa using List.mem_takeWhile_imp hmem
      · rw [hc] at hrest
        rw [← hrest, hsplit]
      · simpa using (Option.some.inj h).symm
    · simp at h
  · rintro ⟨inner, rest, hfree, rfl, rfl⟩
    have hpass : ∀ c ∈ inner, (c != '>') = true := by
      intro c hc
      have hne : c ≠ '>' := by
        rintro rfl
        exact hfree hc
      simpa using hne
    have htake : (inner ++ '>' :: rest).takeWhile (fun c => c != '>') = inner := by
      rw [List.takeWhile_append_of_pos hpass, List.takeWhile_cons_of_neg (by simp),
        List.append_nil]
    simp [throughAngle?, htake]

theorem startTagRest?_eq_some_iff {text : List Char} {k : Nat} :
    startTagRest? text = some k ↔
      ∃ tail rest, IsTail false tail ∧ text = tail ++ rest ∧ k = tail.length := by
  cases text with
  | nil =>
    constructor
    · intro h
      simp [startTagRest?] at h
    · rintro ⟨tail, rest, htail, htext, -⟩
      obtain ⟨rfl, -⟩ := List.append_eq_nil_iff.mp htext.symm
      rcases htail with h | ⟨b, attributes, -, -, h⟩ <;> simp at h
  | cons c text =>
    by_cases hc : c = '>'
    · subst hc
      constructor
      · intro h
        exact ⟨['>'], text, Or.inl rfl, rfl, by simpa [startTagRest?] using h.symm⟩
      · rintro ⟨tail, rest, htail, htext, rfl⟩
        rcases htail with rfl | ⟨b, attributes, hb, -, rfl⟩
        · simp [startTagRest?]
        · obtain ⟨rfl, -⟩ := List.cons.inj htext
          simp [isBlank_angle] at hb
    · have hdef : startTagRest? (c :: text) =
          if isBlank c then (throughAngle? text).map (· + 1) else none := by
        simp [startTagRest?, hc]
      rw [hdef]
      constructor
      · intro h
        split at h
        · rename_i hb
          obtain ⟨k', hk', rfl⟩ := Option.map_eq_some_iff.mp h
          obtain ⟨inner, rest, hfree, rfl, rfl⟩ := throughAngle?_eq_some_iff.mp hk'
          exact ⟨c :: (inner ++ ['>']), rest, Or.inr ⟨c, inner, hb, hfree, rfl⟩, by simp, rfl⟩
        · simp at h
      · rintro ⟨tail, rest, htail, htext, rfl⟩
        rcases htail with rfl | ⟨b, attributes, hb, hfree, rfl⟩
        · exact absurd (List.cons.inj htext).1 hc
        · obtain ⟨rfl, rfl⟩ := List.cons.inj htext
          rw [if_pos hb]
          refine Option.map_eq_some_iff.mpr ⟨(attributes ++ ['>']).length, ?_, rfl⟩
          exact throughAngle?_eq_some_iff.mpr ⟨attributes, rest, hfree, by simp, rfl⟩

theorem endTagRest?_eq_some_iff {text : List Char} {k : Nat} :
    endTagRest? text = some k ↔
      ∃ tail rest, IsTail true tail ∧ text = tail ++ rest ∧ k = tail.length := by
  constructor
  · intro h
    unfold endTagRest? at h
    split at h
    · rename_i rest hdrop
      have hsplit := List.takeWhile_append_dropWhile (p := isBlank) (l := text)
      rw [hdrop] at hsplit
      refine ⟨text.takeWhile isBlank ++ ['>'], rest, ⟨_, ?_, rfl⟩, ?_, ?_⟩
      · exact fun c hc => List.mem_takeWhile_imp hc
      · simpa using hsplit.symm
      · simpa using (Option.some.inj h).symm
    · simp at h
  · rintro ⟨tail, rest, ⟨blanks, hblanks, rfl⟩, rfl, rfl⟩
    have htake : (blanks ++ ['>'] ++ rest).takeWhile isBlank = blanks := by
      rw [List.append_assoc, List.takeWhile_append_of_pos hblanks, List.singleton_append,
        List.takeWhile_cons_of_neg (by simp [isBlank_angle]), List.append_nil]
    have hdrop : (blanks ++ ['>'] ++ rest).dropWhile isBlank = '>' :: rest := by
      rw [List.append_assoc, List.dropWhile_append_of_pos hblanks, List.singleton_append,
        List.dropWhile_cons_of_neg (by simp [isBlank_angle])]
    simp only [endTagRest?, hdrop, htake, List.length_append, List.length_singleton]

def IsRemovable (name tag : List Char) : Prop :=
  ∃ closing tail, IsTail closing tail ∧ tag = '<' :: (slash closing ++ name ++ tail)

theorem isRemovable_written (closing : Bool) (name : List Char) :
    IsRemovable name (written closing name) := by
  refine ⟨closing, ['>'], ?_, by simp [written]⟩
  cases closing with
  | false => exact Or.inl rfl
  | true => exact ⟨[], by simp, rfl⟩

theorem sectionTagLength?_of_ne_slash {name rest : List Char} {c : Char} (h : c ≠ '/') :
    sectionTagLength? name ('<' :: c :: rest) =
      ((dropStart? name (c :: rest)).bind startTagRest?).map (· + name.length + 1) := by
  rw [sectionTagLength?]
  intro more heq
  exact h (List.cons.inj heq).1

theorem sectionTagLength?_eq_some_iff {name text : List Char} {k : Nat} (hname : IsName name) :
    sectionTagLength? name text = some k ↔
      ∃ tag rest, IsRemovable name tag ∧ text = tag ++ rest ∧ k = tag.length := by
  constructor
  · intro h
    unfold sectionTagLength? at h
    split at h
    · obtain ⟨k', hk', rfl⟩ := Option.map_eq_some_iff.mp h
      obtain ⟨after, hafter, hrest⟩ := Option.bind_eq_some_iff.mp hk'
      obtain rfl := dropStart?_eq_some_iff.mp hafter
      obtain ⟨tail, rest, htail, rfl, rfl⟩ := endTagRest?_eq_some_iff.mp hrest
      refine ⟨'<' :: (slash true ++ name ++ tail), rest, ⟨true, tail, htail, rfl⟩, ?_, ?_⟩
      · simp [slash]
      · simp [slash]
        omega
    · obtain ⟨k', hk', rfl⟩ := Option.map_eq_some_iff.mp h
      obtain ⟨after, hafter, hrest⟩ := Option.bind_eq_some_iff.mp hk'
      obtain rfl := dropStart?_eq_some_iff.mp hafter
      obtain ⟨tail, rest, htail, rfl, rfl⟩ := startTagRest?_eq_some_iff.mp hrest
      refine ⟨'<' :: (slash false ++ name ++ tail), rest, ⟨false, tail, htail, rfl⟩, ?_, ?_⟩
      · simp [slash]
      · simp [slash]
        omega
    · simp at h
  · rintro ⟨tag, rest, ⟨closing, tail, htail, rfl⟩, rfl, rfl⟩
    cases closing with
    | true =>
      have hrest := endTagRest?_eq_some_iff.mpr ⟨tail, rest, htail, rfl, rfl⟩
      simp only [slash, if_true, List.append_assoc, List.cons_append, List.nil_append,
        sectionTagLength?, dropStart?_append, Option.bind_some, hrest, Option.map_some,
        List.length_cons, List.length_append, Option.some.injEq]
      omega
    | false =>
      have hrest := startTagRest?_eq_some_iff.mpr ⟨tail, rest, htail, rfl, rfl⟩
      have hdrop := dropStart?_append name (tail ++ rest)
      -- The name does not start with a slash, so this is not read as an end tag.
      obtain ⟨c, more, hcons, hc⟩ := hname.start
      have hne := ne_slash_of_isNameStart hc
      have hlength := @sectionTagLength?_of_ne_slash name (more ++ (tail ++ rest)) c hne
      rw [← List.cons_append, ← hcons, hdrop, Option.bind_some, hrest, Option.map_some] at hlength
      simp only [slash, Bool.false_eq_true, if_false, List.append_assoc, List.cons_append,
        List.nil_append, hlength, List.length_cons, List.length_append, Option.some.injEq]
      omega

theorem IsTail.endsInk {closing : Bool} {tail : List Char} (h : IsTail closing tail) :
    EndsInk tail := by
  cases closing with
  | false =>
    rcases h with rfl | ⟨b, attributes, -, -, rfl⟩
    · exact ⟨[], '>', rfl, isBlank_angle⟩
    · exact ⟨b :: attributes, '>', rfl, isBlank_angle⟩
  | true =>
    obtain ⟨blanks, -, rfl⟩ := h
    exact ⟨blanks, '>', rfl, isBlank_angle⟩

section Removal

variable {name : List Char} (hname : IsName name)

theorem dropSectionTags_skip (name : List Char) (skip : Nat) (text : List Char) :
    dropSectionTags name skip text = dropSectionTags name 0 (text.drop skip) := by
  induction text generalizing skip with
  | nil => cases skip <;> simp [dropSectionTags]
  | cons c rest ih =>
    cases skip with
    | zero => rfl
    | succ skip => rw [dropSectionTags, ih, List.drop_succ_cons]

include hname

theorem sectionTagLength?_removable {tag : List Char} (h : IsRemovable name tag)
    (rest : List Char) : sectionTagLength? name (tag ++ rest) = some tag.length :=
  (sectionTagLength?_eq_some_iff hname).mpr ⟨tag, rest, h, rfl, rfl⟩

theorem dropSectionTags_removable {tag : List Char} (h : IsRemovable name tag)
    (rest : List Char) :
    dropSectionTags name 0 (tag ++ rest) = dropSectionTags name 0 rest := by
  have hlength := sectionTagLength?_removable hname h rest
  obtain ⟨closing, tail, -, rfl⟩ := h
  rw [List.cons_append] at hlength ⊢
  rw [dropSectionTags, hlength]
  simp only [List.length_cons, Nat.add_sub_cancel]
  rw [dropSectionTags_skip, List.drop_left]

theorem dropSectionTags_written (closing : Bool) :
    dropSectionTags name 0 (written closing name) = [] := by
  have hdrop := dropSectionTags_removable hname (isRemovable_written closing name) []
  rwa [List.append_nil] at hdrop

theorem dropSectionTags_eq_self {text : List Char}
    (h : ∀ tag, IsRemovable name tag → ¬ tag <:+: text) : dropSectionTags name 0 text = text := by
  induction text with
  | nil => rfl
  | cons c rest ih =>
    rw [dropSectionTags]
    cases hlength : sectionTagLength? name (c :: rest) with
    | none =>
      simp only
      rw [ih fun tag htag hin => h tag htag (List.infix_cons hin)]
    | some k =>
      obtain ⟨tag, after, htag, htext, -⟩ := (sectionTagLength?_eq_some_iff hname).mp hlength
      exact absurd (htext ▸ List.infix_append_left) (h tag htag)

end Removal

/-- The text between the tags that are taken off, in order; before the first piece, `skip`
characters of a tag are passed over. -/
def pieces (name : List Char) : Nat → List Char → List (List Char)
  | _, [] => [[]]
  | skip + 1, _ :: rest => pieces name skip rest
  | 0, c :: rest =>
      match sectionTagLength? name (c :: rest) with
      | some length => [] :: pieces name (length - 1) rest
      | none => (pieces name 0 rest).modifyHead (c :: ·)

theorem flatten_modifyHead (c : Char) {parts : List (List Char)} (h : parts ≠ []) :
    (parts.modifyHead (c :: ·)).flatten = c :: parts.flatten := by
  cases parts with
  | nil => exact absurd rfl h
  | cons part parts => simp

theorem pieces_ne_nil (name : List Char) (skip : Nat) (text : List Char) :
    pieces name skip text ≠ [] := by
  induction text generalizing skip with
  | nil => simp [pieces]
  | cons c rest ih =>
    cases skip with
    | succ skip => exact ih skip
    | zero =>
      rw [pieces]
      split
      · simp
      · simpa using ih 0

/-- What is left of a line is its pieces, one after the other. -/
theorem flatten_pieces (name : List Char) (skip : Nat) (text : List Char) :
    (pieces name skip text).flatten = dropSectionTags name skip text := by
  induction text generalizing skip with
  | nil => cases skip <;> rfl
  | cons c rest ih =>
    cases skip with
    | succ skip => exact ih skip
    | zero =>
      rw [pieces, dropSectionTags]
      cases sectionTagLength? name (c :: rest) with
      | some length => simpa using ih (length - 1)
      | none => simp only [flatten_modifyHead c (pieces_ne_nil name 0 rest), ih]

theorem head_pieces_prefix (name text : List Char) :
    ∃ piece others, pieces name 0 text = piece :: others ∧ piece <+: text := by
  induction text with
  | nil => exact ⟨[], [], rfl, List.prefix_rfl⟩
  | cons c rest ih =>
    obtain ⟨piece, others, hpieces, hprefix⟩ := ih
    rw [pieces]
    split
    · exact ⟨[], _, rfl, List.nil_prefix⟩
    · exact ⟨c :: piece, others, by rw [hpieces]; rfl, List.cons_prefix_cons.mpr ⟨rfl, hprefix⟩⟩

/-- No piece holds a tag that would have been taken off. -/
theorem not_infix_piece {name : List Char} (hname : IsName name) {skip : Nat}
    {text piece tag : List Char} (hpiece : piece ∈ pieces name skip text)
    (htag : IsRemovable name tag) : ¬ tag <:+: piece := by
  induction text generalizing skip piece with
  | nil =>
    have hnil : piece = [] := by cases skip <;> simpa [pieces] using hpiece
    obtain ⟨closing, tail, -, rfl⟩ := htag
    simp [hnil]
  | cons c rest ih =>
    cases skip with
    | succ skip => exact ih hpiece
    | zero =>
      rw [pieces] at hpiece
      cases hlength : sectionTagLength? name (c :: rest) with
      | some length =>
        rw [hlength] at hpiece
        rcases List.mem_cons.mp hpiece with rfl | hother
        · obtain ⟨closing, tail, -, rfl⟩ := htag
          simp
        · exact ih hother
      | none =>
        rw [hlength] at hpiece
        obtain ⟨first, others, hfirst, hprefix⟩ := head_pieces_prefix name rest
        simp only [hfirst, List.modifyHead_cons] at hpiece
        rcases List.mem_cons.mp hpiece with rfl | hother
        · intro hin
          -- A tag in the first piece stands at its head, where none was found, or further on.
          rcases List.infix_cons_iff.mp hin with hhead | hlater
          · obtain ⟨after, hafter⟩ := hhead.trans (List.cons_prefix_cons.mpr ⟨rfl, hprefix⟩)
            rw [← hafter, sectionTagLength?_removable hname htag] at hlength
            simp at hlength
          · exact @ih 0 first (by rw [hfirst]; exact List.mem_cons_self) hlater
        · exact @ih 0 piece (by rw [hfirst]; exact List.mem_cons_of_mem _ hother)

end DeclDocs.Doc
