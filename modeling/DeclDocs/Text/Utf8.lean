/-!
Reading octets as UTF-8. An octet either completes a character, keeps one pending, or cannot follow
what came before. The lenient reader writes one replacement character for every longest sequence
that starts a character and is not continued; the strict reader refuses such input.
-/
namespace DeclDocs.Text.Utf8

/-- A character of which some octets have been read: the octets still owed, the least and the
greatest octet that may come next, and the value of the bits read so far. -/
structure Pending where
  owed : Nat
  least : Nat
  greatest : Nat
  value : Nat
  deriving DecidableEq, Repr

/-- What an octet at the start of a character means. -/
inductive Lead where
  | complete (c : Char)
  | pending (p : Pending)
  | invalid
  deriving Repr

/-- The replacement character. -/
def replacement : Char := Char.ofNat 0xFFFD

def lead (octet : UInt8) : Lead :=
  let n := octet.toNat
  if n < 0x80 then .complete (Char.ofNat n)
  else if 0xC2 ≤ n && n ≤ 0xDF then .pending ⟨1, 0x80, 0xBF, n - 0xC0⟩
  else if n == 0xE0 then .pending ⟨2, 0xA0, 0xBF, 0⟩
  else if n == 0xED then .pending ⟨2, 0x80, 0x9F, 0xD⟩
  else if 0xE1 ≤ n && n ≤ 0xEF then .pending ⟨2, 0x80, 0xBF, n - 0xE0⟩
  else if n == 0xF0 then .pending ⟨3, 0x90, 0xBF, 0⟩
  else if n == 0xF4 then .pending ⟨3, 0x80, 0x8F, 4⟩
  else if 0xF1 ≤ n && n ≤ 0xF3 then .pending ⟨3, 0x80, 0xBF, n - 0xF0⟩
  else .invalid

def Pending.accepts (p : Pending) (octet : UInt8) : Bool :=
  p.least ≤ octet.toNat && octet.toNat ≤ p.greatest

def Pending.shift (p : Pending) (octet : UInt8) : Nat :=
  p.value * 64 + (octet.toNat - 0x80)

/-- The pending character after one more octet, or the character it completes. -/
def Pending.next (p : Pending) (octet : UInt8) : Char ⊕ Pending :=
  if p.owed ≤ 1 then .inl (Char.ofNat (p.shift octet))
  else .inr ⟨p.owed - 1, 0x80, 0xBF, p.shift octet⟩

/-- Read octets from a state. A pending character that the next octet cannot continue is replaced,
and that octet starts afresh. -/
def decodeFrom : Option Pending → List UInt8 → List Char
  | none, [] => []
  | some _, [] => [replacement]
  | none, octet :: rest =>
      match lead octet with
      | .complete c => c :: decodeFrom none rest
      | .pending p => decodeFrom (some p) rest
      | .invalid => replacement :: decodeFrom none rest
  | some p, octet :: rest =>
      if p.accepts octet then
        match p.next octet with
        | .inl c => c :: decodeFrom none rest
        | .inr q => decodeFrom (some q) rest
      else
        match lead octet with
        | .complete c => replacement :: c :: decodeFrom none rest
        | .pending q => replacement :: decodeFrom (some q) rest
        | .invalid => replacement :: replacement :: decodeFrom none rest

def decode (octets : List UInt8) : List Char := decodeFrom none octets

/-- Read octets from a state, refusing any that do not form characters. -/
def strictFrom : Option Pending → List UInt8 → Option (List Char)
  | none, [] => some []
  | some _, [] => none
  | none, octet :: rest =>
      match lead octet with
      | .complete c => (strictFrom none rest).map (c :: ·)
      | .pending p => strictFrom (some p) rest
      | .invalid => none
  | some p, octet :: rest =>
      if p.accepts octet then
        match p.next octet with
        | .inl c => (strictFrom none rest).map (c :: ·)
        | .inr q => strictFrom (some q) rest
      else none

def decode? (octets : List UInt8) : Option (List Char) := strictFrom none octets

/-- The octets of one character. -/
def encodeChar (c : Char) : List UInt8 :=
  let n := c.toNat
  if n < 0x80 then [UInt8.ofNat n]
  else if n < 0x800 then [UInt8.ofNat (0xC0 + n / 64), UInt8.ofNat (0x80 + n % 64)]
  else if n < 0x10000 then
    [UInt8.ofNat (0xE0 + n / 4096), UInt8.ofNat (0x80 + n / 64 % 64), UInt8.ofNat (0x80 + n % 64)]
  else
    [UInt8.ofNat (0xF0 + n / 262144), UInt8.ofNat (0x80 + n / 4096 % 64),
      UInt8.ofNat (0x80 + n / 64 % 64), UInt8.ofNat (0x80 + n % 64)]

def encode (text : List Char) : List UInt8 := text.flatMap encodeChar

end DeclDocs.Text.Utf8
