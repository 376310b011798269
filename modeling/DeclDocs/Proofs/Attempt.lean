import DeclDocs.Extract.TypeDeclaration

/-!
What an attempt to read a declaration comes to, its reports left aside: the record, or the error
that stopped it. Outcomes compose like the attempts themselves. An attempt is only ever stopped by
the fault of a node, and the error names the type around that node. It names no source unit, so the
unit can only be named by the walk that made the attempt.
-/
namespace DeclDocs.Extract

open Syntax Log

namespace Attempt

variable {α β : Type}

def outcome (attempt : Attempt α) : Except DeclarationError α := attempt.run.value

def record? (attempt : Attempt α) : Option α := (outcome attempt).toOption

def error? (attempt : Attempt α) : Option DeclarationError :=
  match outcome attempt with
  | .error e => some e
  | .ok _ => none

@[simp] theorem outcome_pure (a : α) : outcome (pure a : Attempt α) = .ok a := rfl

@[simp] theorem outcome_throw (e : DeclarationError) :
    outcome (throw e : Attempt α) = .error e := rfl

@[simp] theorem outcome_lift (x : Logged α) : outcome (liftM x : Attempt α) = .ok x.value := rfl

theorem outcome_bind (x : Attempt α) (f : α → Attempt β) :
    outcome (x >>= f) = (outcome x).bind fun a => outcome (f a) := by
  change (ExceptT.bindCont f x.run.value).value = x.run.value.bind fun a => outcome (f a)
  cases x.run.value with
  | error e => rfl
  | ok a => rfl

theorem outcome_bind_eq_error {x : Attempt α} {f : α → Attempt β} {e : DeclarationError}
    (h : outcome (x >>= f) = .error e) :
    outcome x = .error e ∨ ∃ a, outcome x = .ok a ∧ outcome (f a) = .error e := by
  rw [outcome_bind] at h
  cases hx : outcome x with
  | error e' =>
    rw [hx] at h
    exact Or.inl (congrArg Except.error (Except.error.inj h))
  | ok a =>
    rw [hx] at h
    exact Or.inr ⟨a, rfl, h⟩

theorem outcome_bind_eq_ok {x : Attempt α} {f : α → Attempt β} {b : β} :
    outcome (x >>= f) = .ok b ↔ ∃ a, outcome x = .ok a ∧ outcome (f a) = .ok b := by
  rw [outcome_bind]
  cases outcome x with
  | error e => simp [Except.bind]
  | ok a => simp [Except.bind]

def Unplaced (attempt : Attempt α) : Prop := ∀ e, outcome attempt = .error e → e.unit = none

/-- Whatever error stops the attempt, it is the fault of some node inside the given type. -/
def FailsIn (t : Tree) (owner : Option String) (attempt : Attempt α) : Prop :=
  ∀ e, outcome attempt = .error e → ∃ n fault, e = faultAt t owner n fault

section Failing

variable {t : Tree} {owner : Option String}

theorem FailsIn.unplaced {attempt : Attempt α} (h : FailsIn t owner attempt) :
    Unplaced attempt := by
  intro e he
  obtain ⟨n, fault, rfl⟩ := h e he
  rfl

theorem failsIn_pure (a : α) : FailsIn t owner (pure a : Attempt α) := by
  intro e h
  simp at h

theorem failsIn_lift (x : Logged α) : FailsIn t owner (liftM x : Attempt α) := by
  intro e h
  simp at h

theorem failsIn_faultAt (n : t.Node) (fault : Fault) :
    FailsIn t owner (throw (faultAt t owner n fault) : Attempt α) := by
  intro e h
  exact ⟨n, fault, by simpa using h.symm⟩

/-- Only what the first attempt gives has to be gone on with. -/
theorem FailsIn.bind {x : Attempt α} {f : α → Attempt β} (hx : FailsIn t owner x)
    (hf : ∀ a, outcome x = .ok a → FailsIn t owner (f a)) : FailsIn t owner (x >>= f) := by
  intro e h
  rcases outcome_bind_eq_error h with h | ⟨a, ha, h⟩
  · exact hx e h
  · exact hf a ha e h

end Failing

end Attempt

open Attempt

def givenName? (t : Tree) (n : t.Node) : Option String :=
  (t.declaredName? n).filter fun name => !name.isEmpty

theorem givenName?_ne_empty {t : Tree} {n : t.Node} {name : String}
    (h : givenName? t n = some name) : name ≠ "" := by
  simpa using (Option.filter_eq_some_iff.mp h).2

theorem outcome_requireName (t : Tree) (owner : Option String) (n : t.Node) :
    outcome (requireName t owner n) =
      match givenName? t n with
      | some name => .ok name
      | none => .error (faultAt t owner n .nameless) := by
  unfold requireName givenName?
  cases t.declaredName? n with
  | none => rfl
  | some name =>
    by_cases hempty : name.isEmpty = true
    · simp [hempty, Option.filter]
    · simp [hempty, Option.filter]

theorem requireName_eq_ok {t : Tree} {owner : Option String} {n : t.Node} {name : String} :
    outcome (requireName t owner n) = .ok name ↔ givenName? t n = some name := by
  rw [outcome_requireName]
  cases givenName? t n with
  | none => simp
  | some given => simp

variable (g : Grammar) (t : Tree)

theorem failsIn_requireName (owner : Option String) (n : t.Node) :
    FailsIn t owner (requireName t owner n) := by
  intro e h
  rw [outcome_requireName] at h
  cases hname : givenName? t n with
  | none =>
    rw [hname] at h
    exact ⟨n, .nameless, (Except.error.inj h).symm⟩
  | some name =>
    rw [hname] at h
    simp at h

theorem failsIn_buildFields (owner : Option String) (n : t.Node) :
    FailsIn t owner (buildFields g t owner n) := by
  simp only [buildFields]
  split
  · exact (failsIn_faultAt n .declaresNothing).bind fun _ _ =>
      (failsIn_lift _).bind fun _ _ => failsIn_pure _
  · exact (failsIn_lift _).bind fun _ _ => failsIn_pure _

theorem failsIn_buildMember (owner : Option String) (n : t.Node) (kind : MemberKind) :
    FailsIn t owner (buildMember g t owner n kind) := by
  have hname := failsIn_requireName t owner n
  cases kind with
  | property =>
    exact (hname.bind fun _ _ => (failsIn_lift _).bind fun _ _ => failsIn_pure _).bind
      fun _ _ => failsIn_pure _
  | field => exact failsIn_buildFields g t owner n
  | method =>
    exact (hname.bind fun _ _ => (failsIn_lift _).bind fun _ _ =>
      (failsIn_lift _).bind fun _ _ => failsIn_pure _).bind fun _ _ => failsIn_pure _
  | enumMember =>
    exact (hname.bind fun _ _ => (failsIn_lift _).bind fun _ _ => failsIn_pure _).bind
      fun _ _ => failsIn_pure _

theorem failsIn_collectFrom (owner : Option String) (wanted : List MemberKind)
    (members : Members) (nodes : List t.Node) :
    FailsIn t owner (collectFrom g t owner wanted members nodes) := by
  induction nodes generalizing members with
  | nil => exact failsIn_pure _
  | cons n rest ih =>
    unfold collectFrom
    split
    · exact ih members
    · split
      · exact (failsIn_buildMember g t owner n _).bind fun _ _ => ih _
      · exact ih members

/-- The error of a type names this type, or nothing if the type has no name. -/
theorem failsIn_named {α : Type} (n : t.Node) {f : String → Attempt α}
    (hf : ∀ name, FailsIn t (some name) (f name)) :
    FailsIn t (givenName? t n) (requireName t none n >>= f) := by
  cases hname : givenName? t n with
  | none =>
    refine (failsIn_requireName t none n).bind fun name hok => ?_
    rw [requireName_eq_ok, hname] at hok
    simp at hok
  | some name =>
    intro e h
    rw [outcome_bind, outcome_requireName, hname] at h
    exact hf name e h

theorem failsIn_typeRecord (wanted : List MemberKind) (n : t.Node) :
    FailsIn t (givenName? t n) (typeRecord g t wanted n) := by
  apply failsIn_named
  intro name
  apply (failsIn_collectFrom g t (some name) wanted {} (g.memberNodes t n)).bind
  intro members _
  exact (failsIn_lift _).bind fun _ _ => failsIn_pure _

theorem failsIn_classRecord (n : t.Node) : FailsIn t (givenName? t n) (classRecord g t n) :=
  (failsIn_typeRecord g t _ n).bind fun _ _ => failsIn_pure _

theorem failsIn_enumRecord (n : t.Node) : FailsIn t (givenName? t n) (enumRecord g t n) := by
  apply failsIn_named
  intro name
  apply (failsIn_collectFrom g t (some name) [.enumMember] {} (g.memberNodes t n)).bind
  intro members _
  exact (failsIn_lift _).bind fun _ _ => failsIn_pure _

end DeclDocs.Extract
