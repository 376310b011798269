import DeclDocs.Proofs.MemberParts
import Mathlib.Data.List.Forall2

/-!
The types of the names in a Visual Basic field statement. The types are handed on from the last
declarator to the first; read from the front, a declarator has the type that is written on the first
declarator from its own place on that has one. Whether that declarator has a name does not matter.
The array bounds are those written on the name itself.
-/
namespace DeclDocs.Grammar.VisualBasic

open Syntax Extract

section Places

variable (t : Tree) (ds : List t.Node)

def nameAt? (place : Nat) : Option String := ds[place]?.bind (givenName? t)

def writtenTypeAt? (place : Nat) : Option String := ds[place]?.bind (asType t)

def namedPlaces : List Nat :=
  (List.range ds.length).filter fun place => (nameAt? t ds place).isSome

/-- The first type written at the place or behind it. -/
def IsNextType (place : Nat) (typeName : String) : Prop :=
  ∃ giver, place ≤ giver ∧ writtenTypeAt? t ds giver = some typeName ∧
    ∀ passed, place ≤ passed → passed < giver → writtenTypeAt? t ds passed = none

/-- The array bounds written on a name. Bounds without text are shown as absent. -/
def rankText (d : t.Node) : String :=
  match t.namedChildOfKind? d "array_rank_specifier" with
  | none => ""
  | some rank => (t.text? rank).getD "None"

def rankAt (place : Nat) : String := (ds[place]?.map (rankText t)).getD ""

structure IsVariableAt (place : Nat) (entry : String × Option String) : Prop where
  name : nameAt? t ds place = some entry.1
  typed : ∀ typeName, IsNextType t ds place typeName →
    entry.2 = some (typeName ++ rankAt t ds place)
  untyped : (¬ ∃ typeName, IsNextType t ds place typeName) → entry.2 = none

end Places

section Ahead

variable {t : Tree} {d : t.Node} {rest ds : List t.Node} {place : Nat}

@[simp] theorem nameAt?_zero : nameAt? t (d :: rest) 0 = givenName? t d := rfl

@[simp] theorem nameAt?_succ : nameAt? t (d :: rest) (place + 1) = nameAt? t rest place := rfl

theorem namedPlaces_cons :
    namedPlaces t (d :: rest) =
      (if (givenName? t d).isSome then [0] else []) ++ (namedPlaces t rest).map (· + 1) := by
  simp only [namedPlaces, List.length_cons, List.range_succ_eq_map, List.filter_cons, nameAt?_zero,
    List.filter_map, Function.comp_def, nameAt?_succ]
  split <;> rfl

/-- What stands before a place has no say in its type. -/
theorem isNextType_succ {typeName : String} :
    IsNextType t (d :: rest) (place + 1) typeName ↔ IsNextType t rest place typeName := by
  constructor
  · rintro ⟨giver, hplace, hgiver, hpassed⟩
    obtain ⟨giver, rfl⟩ : ∃ k, giver = k + 1 := ⟨giver - 1, by omega⟩
    exact ⟨giver, by omega, hgiver, fun k hk hk' => hpassed (k + 1) (by omega) (by omega)⟩
  · rintro ⟨giver, hplace, hgiver, hpassed⟩
    refine ⟨giver + 1, by omega, hgiver, fun k hk hk' => ?_⟩
    obtain ⟨k, rfl⟩ : ∃ i, k = i + 1 := ⟨k - 1, by omega⟩
    exact hpassed k (by omega) (by omega)

/-- At the front the type of the declarator itself comes first. -/
theorem isNextType_zero {typeName : String} :
    IsNextType t (d :: rest) 0 typeName ↔
      asType t d = some typeName ∨ asType t d = none ∧ IsNextType t rest 0 typeName := by
  constructor
  · rintro ⟨giver, -, hgiver, hpassed⟩
    cases giver with
    | zero => exact Or.inl hgiver
    | succ giver =>
      refine Or.inr ⟨hpassed 0 (by omega) (by omega), giver, by omega, hgiver, ?_⟩
      exact fun k _ hk => hpassed (k + 1) (by omega) (by omega)
  · rintro (hown | ⟨hnone, giver, -, hgiver, hpassed⟩)
    · exact ⟨0, by omega, hown, fun k _ hk => by omega⟩
    · refine ⟨giver + 1, by omega, hgiver, fun k _ hk => ?_⟩
      cases k with
      | zero => exact hnone
      | succ k => exact hpassed k (by omega) (by omega)

theorem declaratorTypes_cons :
    declaratorTypes t (d :: rest) =
      let shared := (asType t d).or (declaratorTypes t rest).2
      (((givenName? t d).map fun name => (name, withRank t d shared)).toList ++
        (declaratorTypes t rest).1, shared) := by
  rw [declaratorTypes, givenName?]
  cases t.declaredName? d with
  | none => rfl
  | some name =>
    by_cases hempty : name.isEmpty = true
    · simp [hempty, Option.filter_some]
    · simp [hempty, Option.filter_some]

/-- The type that is handed on to the front is the first one written. -/
theorem isNextType_zero_iff_shared {typeName : String} :
    IsNextType t ds 0 typeName ↔ (declaratorTypes t ds).2 = some typeName := by
  induction ds with
  | nil => simp [IsNextType, writtenTypeAt?, declaratorTypes]
  | cons d rest ih =>
    rw [isNextType_zero, ih, declaratorTypes_cons]
    cases asType t d with
    | none => simp
    | some own => simp

theorem withRank_eq (d : t.Node) (typeName : Option String) :
    withRank t d typeName = typeName.map (· ++ rankText t d) := by
  unfold withRank rankText
  cases typeName with
  | none => rfl
  | some name =>
    cases t.namedChildOfKind? d "array_rank_specifier" with
    | none => simp
    | some rank => rfl

theorem isVariableAt_zero {name : String} (hname : givenName? t d = some name)
    (rest : List t.Node) :
    IsVariableAt t (d :: rest) 0 (name, withRank t d (declaratorTypes t (d :: rest)).2) where
  name := hname
  typed typeName htype := by
    rw [isNextType_zero_iff_shared.mp htype, withRank_eq]
    rfl
  untyped hnone := by
    have hshared : (declaratorTypes t (d :: rest)).2 = none := by
      rw [Option.eq_none_iff_forall_ne_some]
      exact fun typeName htype => hnone ⟨typeName, isNextType_zero_iff_shared.mpr htype⟩
    rw [hshared, withRank_eq]
    rfl

theorem IsVariableAt.succ {entry : String × Option String} (h : IsVariableAt t rest place entry) :
    IsVariableAt t (d :: rest) (place + 1) entry where
  name := h.name
  typed typeName htype := h.typed typeName (isNextType_succ.mp htype)
  untyped hnone := by
    apply h.untyped
    rintro ⟨typeName, htype⟩
    exact hnone ⟨typeName, isNextType_succ.mpr htype⟩

/-- From the last declarator to the first, each that has a name adds its variable in front. -/
theorem forall₂_declaratorTypes (ds : List t.Node) :
    List.Forall₂ (IsVariableAt t ds) (namedPlaces t ds) (declaratorTypes t ds).1 := by
  induction ds with
  | nil => exact .nil
  | cons d rest ih =>
    have hlater : List.Forall₂ (IsVariableAt t (d :: rest)) ((namedPlaces t rest).map (· + 1))
        (declaratorTypes t rest).1 :=
      List.forall₂_map_left_iff.mpr (ih.imp fun _ _ h => h.succ)
    rw [namedPlaces_cons, declaratorTypes_cons]
    cases hname : givenName? t d with
    | none => exact hlater
    | some name =>
      have hfirst := isVariableAt_zero hname rest
      rw [declaratorTypes_cons] at hfirst
      exact .cons hfirst hlater

end Ahead

/-- A field statement declares the names of its declarators in order, each with the next type
written from its own place on and its own array bounds. -/
theorem fieldVariables_typed_ahead (t : Tree) (n : t.Node) :
    let ds := declarators .visualBasic t n
    List.Forall₂ (IsVariableAt t ds) (namedPlaces t ds) (Grammar.visualBasic.fieldVariables t n) :=
  forall₂_declaratorTypes _

end DeclDocs.Grammar.VisualBasic
