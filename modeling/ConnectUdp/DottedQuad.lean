import Mathlib.Data.List.Basic

/-!
# Dotted quads

The text form `d.d.d.d` of an IPv4 address: four decimal numbers of one to three digits, none of
them above 255.
-/

structure DottedQuad where
  a : UInt8
  b : UInt8
  c : UInt8
  d : UInt8
  deriving DecidableEq, Repr

namespace DottedQuad

def decimal (digits : List UInt8) : Nat :=
  digits.foldl (fun n digit => 10 * n + (digit.toNat - 48)) 0

def IsOctet (digits : List UInt8) : Prop :=
  1 ≤ digits.length ∧ digits.length ≤ 3 ∧ digits.all (fun digit => 48 ≤ digit ∧ digit ≤ 57) ∧
    decimal digits ≤ 255

instance IsOctet.decidable (digits : List UInt8) : Decidable (IsOctet digits) :=
  inferInstanceAs (Decidable (_ ∧ _ ∧ _ ∧ _))

def octet (digits : List UInt8) : Option UInt8 :=
  if IsOctet digits then some (UInt8.ofNat (decimal digits)) else none

-- The parts between the dots.
def parse (text : List UInt8) : Option DottedQuad :=
  match text.splitOn 46 with
  | [p, q, r, s] => do return ⟨← octet p, ← octet q, ← octet r, ← octet s⟩
  | _ => none

theorem octet_length_le {digits : List UInt8} {n : UInt8} (h : octet digits = some n) :
    digits.length ≤ 3 := by
  unfold octet at h
  split at h
  · next hoctet => exact hoctet.2.1
  · cases h

/-- A dotted quad is never longer than `255.255.255.255`. -/
theorem parse_length_le {text : List UInt8} {quad : DottedQuad} (h : parse text = some quad) :
    text.length ≤ 15 := by
  unfold parse at h
  split at h
  · next p q r s hsplit =>
    simp only [Option.bind_eq_bind, Option.bind_eq_some_iff] at h
    obtain ⟨a, ha, b, hb, c, hc, d, hd, -⟩ := h
    have hjoin : [46].intercalate (text.splitOn 46) = text := List.intercalate_splitOn 46
    have hlength := congrArg List.length hjoin
    rw [hsplit] at hlength
    simp only [List.intercalate, List.intersperse, List.flatten_cons, List.flatten_nil,
      List.length_append, List.length_cons, List.length_nil] at hlength
    have := octet_length_le ha
    have := octet_length_le hb
    have := octet_length_le hc
    have := octet_length_le hd
    omega
  · cases h

end DottedQuad
