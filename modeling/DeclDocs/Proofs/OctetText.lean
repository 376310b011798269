import DeclDocs.Text.Utf8
import Mathlib.Tactic.IntervalCases

/-!
Text as octets and back. The octets of a character are a first one, which says how many follow and
what the next one may be, and following ones of six bits each. The strict reader takes them one by
one and gives the character back, so no two texts have the same octets.
-/
namespace DeclDocs.Text.Utf8

/-- A following octet: a mark and six bits. -/
def following (bits : Nat) : UInt8 := UInt8.ofNat (0x80 + bits)

section Reading

variable {p : Pending} {bits : Nat} (hbits : bits < 64) (hleast : p.least ≤ 0x80 + bits)
  (hgreatest : 0x80 + bits ≤ p.greatest) (rest : List UInt8)

include hbits

theorem toNat_following : (following bits).toNat = 0x80 + bits := by
  have hoctet : 0x80 + bits < 256 := by omega
  exact UInt8.toNat_ofNat_of_lt' hoctet

theorem shift_following : p.shift (following bits) = p.value * 64 + bits := by
  unfold Pending.shift
  rw [toNat_following hbits]
  omega

include hleast hgreatest

theorem accepts_following : p.accepts (following bits) = true := by
  simp [Pending.accepts, toNat_following hbits, hleast, hgreatest]

/-- An octet in the middle of a character is kept. -/
theorem strictFrom_following (howed : 1 < p.owed) :
    strictFrom (some p) (following bits :: rest) =
      strictFrom (some ⟨p.owed - 1, 0x80, 0xBF, p.value * 64 + bits⟩) rest := by
  have hmore : ¬ p.owed ≤ 1 := by omega
  simp only [strictFrom, accepts_following hbits hleast hgreatest, if_true, Pending.next, hmore,
    if_false, shift_following hbits]

/-- The last octet of a character completes it. -/
theorem strictFrom_last (howed : p.owed = 1) :
    strictFrom (some p) (following bits :: rest) =
      (strictFrom none rest).map (Char.ofNat (p.value * 64 + bits) :: ·) := by
  have hdone : p.owed ≤ 1 := by omega
  simp only [strictFrom, accepts_following hbits hleast hgreatest, if_true, Pending.next, hdone,
    shift_following hbits]

end Reading

section Leading

variable {bits : Nat} (rest : List UInt8)

theorem strictFrom_single (h : bits < 0x80) :
    strictFrom none (UInt8.ofNat bits :: rest) =
      (strictFrom none rest).map (Char.ofNat bits :: ·) := by
  have hoctet : bits < 256 := by omega
  have hvalue : (UInt8.ofNat bits).toNat = bits := UInt8.toNat_ofNat_of_lt' hoctet
  simp [strictFrom, lead, hvalue, h]

theorem lead_of_two (h : 2 ≤ bits) (h' : bits < 32) :
    lead (UInt8.ofNat (0xC0 + bits)) = .pending ⟨1, 0x80, 0xBF, bits⟩ := by
  interval_cases bits <;> rfl

theorem lead_of_three (h : bits < 16) :
    lead (UInt8.ofNat (0xE0 + bits)) =
      .pending ⟨2, if bits = 0 then 0xA0 else 0x80, if bits = 13 then 0x9F else 0xBF, bits⟩ := by
  interval_cases bits <;> rfl

theorem lead_of_four (h : bits ≤ 4) :
    lead (UInt8.ofNat (0xF0 + bits)) =
      .pending ⟨3, if bits = 0 then 0x90 else 0x80, if bits = 4 then 0x8F else 0xBF, bits⟩ := by
  interval_cases bits <;> rfl

theorem strictFrom_pending {octet : UInt8} {p : Pending} (h : lead octet = .pending p) :
    strictFrom none (octet :: rest) = strictFrom (some p) rest := by
  simp [strictFrom, h]

end Leading

section Characters

variable (c : Char) (rest : List UInt8)

theorem not_surrogate : c.toNat < 0xD800 ∨ 0xDFFF < c.toNat ∧ c.toNat < 0x110000 := c.valid

/-- The octets of a character give the character. -/
theorem strictFrom_encodeChar :
    strictFrom none (encodeChar c ++ rest) = (strictFrom none rest).map (c :: ·) := by
  have hscalar := not_surrogate c
  have hchar : Char.ofNat c.toNat = c := Char.ofNat_toNat c
  generalize hn : c.toNat = n at hscalar hchar
  simp only [encodeChar, hn]
  split_ifs with hone htwo hthree
  · rw [List.cons_append, List.nil_append, strictFrom_single rest hone, hchar]
  · have hvalue : n / 64 * 64 + n % 64 = n := by omega
    change strictFrom none (UInt8.ofNat (0xC0 + n / 64) :: following (n % 64) :: rest) = _
    rw [strictFrom_pending _ (lead_of_two (by omega) (by omega)),
      strictFrom_last (by omega) (by simp) (by simp; omega) rest rfl, hvalue, hchar]
  · have hvalue : (n / 4096 * 64 + n / 64 % 64) * 64 + n % 64 = n := by omega
    change strictFrom none (UInt8.ofNat (0xE0 + n / 4096) :: following (n / 64 % 64) ::
      following (n % 64) :: rest) = _
    rw [strictFrom_pending _ (lead_of_three (by omega)),
      strictFrom_following (by omega) (by simp only; split_ifs <;> omega)
        (by simp only; split_ifs <;> omega) _ (by simp),
      strictFrom_last (by omega) (by simp) (by simp; omega) rest rfl, hvalue, hchar]
  · have hvalue : ((n / 262144 * 64 + n / 4096 % 64) * 64 + n / 64 % 64) * 64 + n % 64 = n := by
      omega
    change strictFrom none (UInt8.ofNat (0xF0 + n / 262144) :: following (n / 4096 % 64) ::
      following (n / 64 % 64) :: following (n % 64) :: rest) = _
    rw [strictFrom_pending _ (lead_of_four (by omega)),
      strictFrom_following (by omega) (by simp only; split_ifs <;> omega)
        (by simp only; split_ifs <;> omega) _ (by simp),
      strictFrom_following (by omega) (by simp) (by simp; omega) _ (by simp),
      strictFrom_last (by omega) (by simp) (by simp; omega) rest rfl, hvalue, hchar]

end Characters

/-- Reading the octets of a text gives the text. -/
theorem decode?_encode (text : List Char) : decode? (encode text) = some text := by
  unfold decode?
  induction text with
  | nil => rfl
  | cons c text ih =>
    have hcons : encode (c :: text) = encodeChar c ++ encode text := List.flatMap_cons
    rw [hcons, strictFrom_encodeChar, ih, Option.map_some]

end DeclDocs.Text.Utf8
