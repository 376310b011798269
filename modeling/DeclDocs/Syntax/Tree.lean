import DeclDocs.Text.Utf8

/-!
Concrete syntax trees as rows in preorder. Every row but the first names an earlier row as its
parent, so the children of a node come after it and every node is reached from the root. A node is
the index of its row. Positions are octet offsets into the source; the row of a position in the text
is the number of line ends before it.
-/
namespace DeclDocs.Syntax

structure Row where
  parent : Option Nat
  kind : String
  start : Nat
  stop : Nat
  named : Bool := true
  missing : Bool := false
  textless : Bool := false
  field : String := ""
  deriving DecidableEq, Repr

/-- The first row is the root, and the parent of any other row stands before it. -/
def Row.isPlaced (row : Row) (index : Nat) : Bool :=
  match row.parent with
  | none => index == 0
  | some p => p < index

structure Tree where
  source : List UInt8
  rows : Array Row
  hasError : Bool
  nonempty : 0 < rows.size
  placed : ∀ i : Fin rows.size, rows[i].isPlaced i = true

namespace Tree

def ofRows? (source : List UInt8) (rows : Array Row) (hasError : Bool) : Option Tree :=
  if h : 0 < rows.size ∧ ∀ i : Fin rows.size, rows[i].isPlaced i = true then
    some ⟨source, rows, hasError, h.1, h.2⟩
  else none

abbrev Node (t : Tree) : Type := Fin t.rows.size

def root (t : Tree) : t.Node := ⟨0, t.nonempty⟩

def node? (t : Tree) (index : Nat) : Option t.Node :=
  if h : index < t.rows.size then some ⟨index, h⟩ else none

def row (t : Tree) (n : t.Node) : Row := t.rows[n]

def kind (t : Tree) (n : t.Node) : String := (t.row n).kind

def children (t : Tree) (n : t.Node) : List t.Node :=
  (List.finRange t.rows.size).filter fun c => (t.row c).parent == some n.val

theorem mem_children {t : Tree} {n c : t.Node} :
    c ∈ t.children n ↔ (t.row c).parent = some n.val := by
  simp [children]

/-- A child stands behind its parent. -/
theorem lt_of_mem_children {t : Tree} {n c : t.Node} (h : c ∈ t.children n) : n.val < c.val := by
  have placed : (t.row c).isPlaced c.val = true := t.placed c
  rw [Row.isPlaced, mem_children.mp h] at placed
  simpa using placed

def namedChildren (t : Tree) (n : t.Node) : List t.Node :=
  (t.children n).filter fun c => (t.row c).named

def childrenByField (t : Tree) (n : t.Node) (field : String) : List t.Node :=
  (t.children n).filter fun c => (t.row c).field == field

def childByField? (t : Tree) (n : t.Node) (field : String) : Option t.Node :=
  (t.children n).find? fun c => (t.row c).field == field

def namedChildOfKind? (t : Tree) (n : t.Node) (kind : String) : Option t.Node :=
  (t.namedChildren n).find? fun c => t.kind c == kind

def parent? (t : Tree) (n : t.Node) : Option t.Node := (t.row n).parent.bind t.node?

/-- The siblings before a node, the nearest first. -/
def precedingSiblings (t : Tree) (n : t.Node) : List t.Node :=
  match t.parent? n with
  | none => []
  | some p => ((t.children p).takeWhile fun c => c != n).reverse

/-- The octets from one offset up to another. -/
def octets (t : Tree) (start stop : Nat) : List UInt8 := (t.source.take stop).drop start

def nodeOctets? (t : Tree) (n : t.Node) : Option (List UInt8) :=
  if (t.row n).textless then none else some (t.octets (t.row n).start (t.row n).stop)

def textChars? (t : Tree) (n : t.Node) : Option (List Char) :=
  (t.nodeOctets? n).map Text.Utf8.decode

def text? (t : Tree) (n : t.Node) : Option String := (t.textChars? n).map String.ofList

/-- The text of the first child with that field. -/
def fieldText? (t : Tree) (n : t.Node) (field : String) : Option String :=
  (t.childByField? n field).bind t.text?

/-- The name a declaration gives itself. -/
def declaredName? (t : Tree) (n : t.Node) : Option String := t.fieldText? n "name"

def rowOf (t : Tree) (offset : Nat) : Nat := (t.source.take offset).count 10

def firstRow (t : Tree) (n : t.Node) : Nat := t.rowOf (t.row n).start

def lastRow (t : Tree) (n : t.Node) : Nat := t.rowOf (t.row n).stop

/-- The line of a node, counted from one. -/
def line (t : Tree) (n : t.Node) : Nat := t.firstRow n + 1

def isComment (t : Tree) (n : t.Node) : Bool := t.kind n == "comment"

/-- A node that records a syntax error. -/
def isFault (t : Tree) (n : t.Node) : Bool := t.kind n == "ERROR" || (t.row n).missing

/-- The nodes at and below a node. -/
def subtree (t : Tree) (n : t.Node) : List t.Node :=
  n :: (t.children n).attach.flatMap fun c => t.subtree c.val
termination_by t.rows.size - n.val
decreasing_by
  have before := lt_of_mem_children c.property
  omega

theorem subtree_eq (t : Tree) (n : t.Node) :
    t.subtree n = n :: (t.children n).flatMap t.subtree := by
  rw [subtree, List.flatMap_subtype (g := t.subtree) fun _ _ => rfl, List.unattach_attach]

/-- The nodes that are still to be looked at when those on a stack are: they and all below them. -/
def pending (t : Tree) (stack : List t.Node) : List t.Node := stack.flatMap t.subtree

/-- Putting the children of a node in its place takes just this node off the pending ones. -/
theorem pending_perm (t : Tree) (n : t.Node) (rest : List t.Node) :
    (t.pending (n :: rest)).Perm (n :: t.pending ((t.children n).reverse ++ rest)) := by
  have turned := (List.reverse_perm (t.children n)).symm.flatMap_right t.subtree
  rw [pending, pending, List.flatMap_cons, List.flatMap_append, subtree_eq, List.cons_append]
  exact (turned.append_right _).cons n

/-- Count on from a number. The node on top of the stack is looked at, and its children take its
place, the last one on top. -/
def countFaults (t : Tree) (count : Nat) : List t.Node → Nat
  | [] => count
  | n :: rest =>
      t.countFaults (if t.isFault n then count + 1 else count) ((t.children n).reverse ++ rest)
termination_by stack => (t.pending stack).length
decreasing_by
  rw [(t.pending_perm n rest).length_eq]
  exact Nat.lt_succ_self _

/-- The number of faults in a tree. -/
def faultCount (t : Tree) : Nat := t.countFaults 0 [t.root]

/-- A place in a list of the given length; a negative bound counts from the end. -/
def boundWithin (bound : Int) (length : Nat) : Nat :=
  if bound < 0 then (length + bound).toNat else min bound.toNat length

/-- The text from the start of one node to the end of another, cut from the text of a node around
both. -/
def spanText (t : Tree) (around first last : t.Node) : String :=
  let octets := (t.nodeOctets? around).getD []
  let base : Int := (t.row around).start
  let start := boundWithin ((t.row first).start - base) octets.length
  let stop := boundWithin ((t.row last).stop - base) octets.length
  String.ofList (Text.Utf8.decode ((octets.take stop).drop start))

end Tree
end DeclDocs.Syntax
