import DeclDocs.Doc.Markup
import Mathlib.Data.List.TakeWhile

/-!
What the scan for tags finds. A tag is written as `<`, an optional slash, an inside without angles
that starts like a name, and `>`. No tag starts inside another one, so passing over the characters
of a tag loses nothing: the tags of a text are those that start at any of its positions. Hence the
scan splits at every `<`, whatever stands before it.
-/
namespace DeclDocs.Doc

open Text

def slash (closing : Bool) : List Char := if closing then ['/'] else []

def written (closing : Bool) (inner : List Char) : List Char :=
  '<' :: (slash closing ++ inner ++ ['>'])

structure IsInside (inner : List Char) : Prop where
  named : ∃ c rest, inner = c :: rest ∧ isNameStart c = true
  plain : ∀ c ∈ inner, isAngle c = false

def tagOf (start : Nat) (closing : Bool) (inner : List Char) : Tag where
  name := inner.takeWhile isNameChar
  closing := closing
  selfClosing := inner.getLast? == some '/'
  start := start
  stop := start + (written closing inner).length

/-- No character of a class is an angle if the class has neither of the two. -/
theorem isAngle_eq_false_of_class {p : Char → Bool} (hless : p '<' = false)
    (hgreater : p '>' = false) {c : Char} (h : p c = true) : isAngle c = false := by
  rw [Bool.eq_false_iff]
  intro hangle
  rcases (Bool.or_eq_true _ _).mp hangle with hc | hc
  · rw [beq_iff_eq.mp hc, hless] at h
    exact absurd h (by decide)
  · rw [beq_iff_eq.mp hc, hgreater] at h
    exact absurd h (by decide)

theorem isAngle_of_isNameStart {c : Char} (h : isNameStart c = true) : isAngle c = false :=
  isAngle_eq_false_of_class (by decide) (by decide) h

theorem isAngle_of_isNameChar {c : Char} (h : isNameChar c = true) : isAngle c = false :=
  isAngle_eq_false_of_class (by decide) (by decide) h

theorem lt_of_isAsciiLetter {c : Char} (h : isAsciiLetter c = true) : c.toNat < 128 := by
  simp only [isAsciiLetter, Bool.or_eq_true, Bool.and_eq_true, decide_eq_true_eq, Char.le_def,
    UInt32.le_iff_toNat_le] at h
  have hupper : 'Z'.val.toNat = 90 := rfl
  have hlower : 'z'.val.toNat = 122 := rfl
  have hc : c.toNat = c.val.toNat := rfl
  omega

theorem isNameChar_of_isNameStart {c : Char} (h : isNameStart c = true) : isNameChar c = true := by
  rcases (Bool.or_eq_true _ _).mp h with hletter | hscore
  · have hword : isWord c = true := by simp [isWord, lt_of_isAsciiLetter hletter, hletter]
    simp [isNameChar, hword]
  · rw [beq_iff_eq.mp hscore]
    decide

theorem ne_slash_of_isNameStart {c : Char} (h : isNameStart c = true) : c ≠ '/' := by
  rintro rfl
  exact absurd h (by decide)

structure IsName (name : List Char) : Prop where
  start : ∃ c rest, name = c :: rest ∧ isNameStart c = true
  chars : ∀ c ∈ name, isNameChar c = true

theorem IsName.not_mem {name : List Char} (h : IsName name) {c : Char} (hc : isNameChar c = false) :
    c ∉ name := by
  intro hmem
  simp [h.chars c hmem] at hc

theorem IsName.isInside {name : List Char} (h : IsName name) : IsInside name where
  named := h.start
  plain c hmem := isAngle_of_isNameChar (h.chars c hmem)

/-- The plain tag of a name. -/
theorem IsName.tagOf_eq {name : List Char} (h : IsName name) (start : Nat) (closing : Bool) :
    tagOf start closing name =
      ⟨name, closing, false, start, start + (written closing name).length⟩ := by
  have htake : name.takeWhile isNameChar = name := List.takeWhile_eq_self_iff.mpr h.chars
  have hlast : (name.getLast? == some '/') = false := by
    rw [beq_eq_false_iff_ne]
    intro hlast
    exact h.not_mem (c := '/') (by decide) (List.mem_of_getLast? hlast)
  rw [tagOf, htake, hlast]

theorem takeWhile_append_angle (p : Char → Bool) (inner rest : List Char) (h : p '>' = false) :
    (inner ++ '>' :: rest).takeWhile p = inner.takeWhile p := by
  induction inner with
  | nil => simp [h]
  | cons c inner ih =>
    rw [List.cons_append, List.takeWhile_cons, List.takeWhile_cons, ih]

theorem dropWhile_append_angle (p : Char → Bool) (inner rest : List Char) (h : p '>' = false) :
    (inner ++ '>' :: rest).dropWhile p = inner.dropWhile p ++ '>' :: rest := by
  induction inner with
  | nil => simp [h]
  | cons c inner ih =>
    rw [List.cons_append, List.dropWhile_cons, List.dropWhile_cons, ih]
    split <;> rfl

theorem written_length (closing : Bool) (inner : List Char) :
    (written closing inner).length = (if closing then 2 else 1) + inner.length + 1 := by
  cases closing <;> simp [written, slash] <;> omega

theorem tagOfBody?_inside {inner : List Char} (h : IsInside inner) (start : Nat) (closing : Bool)
    (rest : List Char) :
    tagOfBody? start closing (inner ++ '>' :: rest) = some (tagOf start closing inner) := by
  obtain ⟨⟨c, more, rfl, hc⟩, hplain⟩ := h
  have hpass : ∀ d ∈ c :: more, (!isAngle d) = true := by
    intro d hd
    rw [hplain d hd]
    rfl
  have htake : ((c :: more) ++ '>' :: rest).takeWhile (fun d => !isAngle d) = c :: more := by
    rw [List.takeWhile_append_of_pos hpass, List.takeWhile_cons_of_neg (by decide),
      List.append_nil]
  have hdrop : ((c :: more) ++ '>' :: rest).dropWhile (fun d => !isAngle d) = '>' :: rest := by
    rw [List.dropWhile_append_of_pos hpass, List.dropWhile_cons_of_neg (by decide)]
  have hname := takeWhile_append_angle isNameChar (c :: more) rest (by decide)
  rw [List.cons_append] at htake hdrop hname ⊢
  simp only [tagOfBody?, hc, if_true, htake, hdrop, hname, tagOf, written_length]
  simp only [Nat.add_assoc]

theorem exists_of_tagOfBody? {start : Nat} {closing : Bool} {body : List Char} {tag : Tag}
    (h : tagOfBody? start closing body = some tag) :
    ∃ inner rest, IsInside inner ∧ body = inner ++ '>' :: rest ∧ tag = tagOf start closing inner := by
  have hscan := h
  unfold tagOfBody? at h
  split at h
  · simp at h
  · rename_i c more
    split at h
    · rename_i hc
      simp only at h
      split at h
      · rename_i rest hdrop
        have hbody := List.takeWhile_append_dropWhile (p := fun d => !isAngle d) (l := c :: more)
        rw [hdrop] at hbody
        have hinside : IsInside ((c :: more).takeWhile fun d => !isAngle d) := by
          constructor
          · have hfirst : (!isAngle c) = true := by rw [isAngle_of_isNameStart hc]; rfl
            exact ⟨c, _, List.takeWhile_cons_of_pos hfirst, hc⟩
          · intro d hd
            simpa using List.mem_takeWhile_imp hd
        refine ⟨_, rest, hinside, hbody.symm, ?_⟩
        have htag := tagOfBody?_inside hinside start closing rest
        rw [hbody] at htag
        exact Option.some.inj (hscan.symm.trans htag)
      · simp at h
    · simp at h

theorem tagAt?_written {inner : List Char} (h : IsInside inner) (start : Nat) (closing : Bool)
    (rest : List Char) :
    tagAt? start (written closing inner ++ rest) = some (tagOf start closing inner) := by
  have hbody := tagOfBody?_inside h start closing rest
  obtain ⟨⟨c, more, rfl, hc⟩, -⟩ := h
  cases closing with
  | true => simpa [tagAt?, written, slash] using hbody
  | false =>
    have hne := ne_slash_of_isNameStart hc
    simpa [tagAt?, written, slash, hne] using hbody

theorem exists_of_tagAt? {start : Nat} {text : List Char} {tag : Tag}
    (h : tagAt? start text = some tag) :
    ∃ closing inner rest, IsInside inner ∧ text = written closing inner ++ rest ∧
      tag = tagOf start closing inner := by
  unfold tagAt? at h
  split at h
  · obtain ⟨inner, rest, hinside, rfl, htag⟩ := exists_of_tagOfBody? h
    exact ⟨true, inner, rest, hinside, by simp [written, slash], htag⟩
  · obtain ⟨inner, rest, hinside, rfl, htag⟩ := exists_of_tagOfBody? h
    exact ⟨false, inner, rest, hinside, by simp [written, slash], htag⟩
  · simp at h

theorem tagAt?_of_ne {start : Nat} {c : Char} {rest : List Char} (h : c ≠ '<') :
    tagAt? start (c :: rest) = none := by
  unfold tagAt?
  split
  · simp_all
  · simp_all
  · rfl

/-- The characters of a tag behind its first one hold no `<`. -/
theorem not_mem_tail_written {inner : List Char} (h : IsInside inner) (closing : Bool) :
    '<' ∉ slash closing ++ inner ++ ['>'] := by
  intro hmem
  rcases List.mem_append.mp hmem with hmem | hmem
  · rcases List.mem_append.mp hmem with hslash | hinner
    · cases closing <;> simp [slash] at hslash
    · exact absurd (h.plain '<' hinner) (by decide)
  · simp at hmem

def tagsFrom (position : Nat) : List Char → List Tag
  | [] => []
  | c :: rest => (tagAt? position (c :: rest)).toList ++ tagsFrom (position + 1) rest

/-- Passing over characters loses no tag if none of them is `<`. -/
theorem scanTags_eq_tagsFrom (position skip : Nat) (text : List Char)
    (h : '<' ∉ text.take skip) : scanTags position skip text = tagsFrom position text := by
  induction text generalizing position skip with
  | nil => rfl
  | cons c rest ih =>
    cases skip with
    | succ skip =>
      rw [List.take_succ_cons, List.mem_cons, not_or] at h
      rw [scanTags, tagsFrom, tagAt?_of_ne (Ne.symm h.1), ih _ _ h.2]
      rfl
    | zero =>
      rw [scanTags, tagsFrom]
      cases htag : tagAt? position (c :: rest) with
      | none => simp [ih (position + 1) 0 (by simp)]
      | some tag =>
        obtain ⟨closing, inner, after, hinside, htext, rfl⟩ := exists_of_tagAt? htag
        have hrest : rest = (slash closing ++ inner ++ ['>']) ++ after := by
          rw [written, List.cons_append] at htext
          exact (List.cons.inj htext).2
        have hskip : (tagOf position closing inner).stop - (tagOf position closing inner).start - 1 =
            (slash closing ++ inner ++ ['>']).length := by
          simp only [tagOf, written, List.length_cons]
          omega
        have hfree : '<' ∉ rest.take ((slash closing ++ inner ++ ['>']).length) := by
          rw [hrest, List.take_left]
          exact not_mem_tail_written hinside closing
        simp only [Option.toList_some, hskip, ih _ _ hfree, List.singleton_append]

theorem tags_eq_tagsFrom (text : List Char) : tags text = tagsFrom 0 text :=
  scanTags_eq_tagsFrom 0 0 text (by simp)

/-- Prose without `<` has no tags and only moves what follows. -/
theorem tagsFrom_append_of_not_mem (position : Nat) (left right : List Char) (h : '<' ∉ left) :
    tagsFrom position (left ++ right) = tagsFrom (position + left.length) right := by
  induction left generalizing position with
  | nil => rfl
  | cons c left ih =>
    rw [List.mem_cons, not_or] at h
    rw [List.cons_append, tagsFrom, tagAt?_of_ne (Ne.symm h.1), ih _ h.2]
    simp [Nat.add_assoc, Nat.add_comm 1]

theorem tagsFrom_written {inner : List Char} (h : IsInside inner) (position : Nat) (closing : Bool)
    (rest : List Char) :
    tagsFrom position (written closing inner ++ rest) =
      tagOf position closing inner :: tagsFrom (position + (written closing inner).length) rest := by
  have hat := tagAt?_written h position closing rest
  have htail := tagsFrom_append_of_not_mem (position + 1) _ rest (not_mem_tail_written h closing)
  rw [written, List.cons_append] at hat ⊢
  rw [tagsFrom, hat, htail]
  simp [Nat.add_assoc, Nat.add_comm 1]

/-- What follows a text has no say in whether a tag stands at its head, if no tag reaches over the
end of the text. -/
theorem tagAt?_append (position : Nat) (c : Char) {left right : List Char}
    (h : ∀ closing inner rest, IsInside inner →
      left ++ right = slash closing ++ inner ++ ['>'] ++ rest →
      slash closing ++ inner ++ ['>'] <+: left) :
    tagAt? position (c :: left ++ right) = tagAt? position (c :: left) := by
  cases hleft : tagAt? position (c :: left) with
  | some tag =>
    obtain ⟨closing, inner, rest, hinside, htext, rfl⟩ := exists_of_tagAt? hleft
    rw [htext, List.append_assoc]
    exact tagAt?_written hinside position closing _
  | none =>
    cases hboth : tagAt? position (c :: left ++ right) with
    | none => rfl
    | some tag =>
      obtain ⟨closing, inner, rest, hinside, htext, rfl⟩ := exists_of_tagAt? hboth
      obtain ⟨hhead, htail⟩ := List.cons.inj htext
      obtain ⟨extra, rfl⟩ := h closing inner rest hinside htail
      have hfound := tagAt?_written hinside position closing extra
      rw [written, List.cons_append, ← hhead, hleft] at hfound
      simp at hfound

/-- A tag at the head of a text does not reach over a later `<`. -/
theorem tagAt?_append_angle (position : Nat) (c : Char) (left right : List Char) :
    tagAt? position (c :: left ++ '<' :: right) = tagAt? position (c :: left) := by
  apply tagAt?_append
  intro closing inner rest hinside htail
  -- The `<` is not inside the tag, so the tag lies in the left part.
  rcases List.append_eq_append_iff.mp htail with ⟨extra, hextra, hright⟩ | ⟨extra, hextra, -⟩
  · cases extra with
    | nil => exact ⟨[], by rw [hextra, List.append_nil, List.append_nil]⟩
    | cons d extra =>
      have hd : d = '<' := (List.cons.inj hright).1.symm
      have hmem : '<' ∈ slash closing ++ inner ++ ['>'] := by
        rw [hextra, hd]
        simp
      exact absurd hmem (not_mem_tail_written hinside closing)
  · exact ⟨extra, hextra.symm⟩

/-- The scan splits at every `<`: what stands before it is scanned as if nothing followed. -/
theorem tagsFrom_append_angle (position : Nat) (left right : List Char) :
    tagsFrom position (left ++ '<' :: right) =
      tagsFrom position left ++ tagsFrom (position + left.length) ('<' :: right) := by
  induction left generalizing position with
  | nil => rfl
  | cons c left ih =>
    have hat := tagAt?_append_angle position c left right
    rw [List.cons_append] at hat ⊢
    rw [tagsFrom, tagsFrom, hat, ih, List.append_assoc, List.length_cons, Nat.add_assoc,
      Nat.add_comm 1]

theorem tagsFrom_append_written (position : Nat) (left : List Char) (closing : Bool)
    (inner rest : List Char) :
    tagsFrom position (left ++ (written closing inner ++ rest)) =
      tagsFrom position left ++
        tagsFrom (position + left.length) (written closing inner ++ rest) :=
  tagsFrom_append_angle position left (slash closing ++ inner ++ ['>'] ++ rest)

/-- Every tag of a text stands in it as it is written. -/
theorem exists_written_of_mem {position : Nat} {text : List Char} {tag : Tag}
    (h : tag ∈ tagsFrom position text) :
    ∃ before closing inner after, IsInside inner ∧ text = before ++ written closing inner ++ after ∧
      tag = tagOf (position + before.length) closing inner := by
  induction text generalizing position with
  | nil => simp [tagsFrom] at h
  | cons c rest ih =>
    rw [tagsFrom, List.mem_append, Option.mem_toList] at h
    rcases h with h | h
    · obtain ⟨closing, inner, after, hinside, htext, htag⟩ := exists_of_tagAt? h
      exact ⟨[], closing, inner, after, hinside, by simpa using htext, by simpa using htag⟩
    · obtain ⟨before, closing, inner, after, hinside, rfl, rfl⟩ := ih h
      refine ⟨c :: before, closing, inner, after, hinside, by simp, ?_⟩
      rw [List.length_cons, Nat.add_assoc, Nat.add_comm 1]

end DeclDocs.Doc
