import Mathlib.Data.List.Infix

/-!
# One direction of a reliable byte stream

Bytes arrive in the order they were written, in pieces of any size, and are read once.  The
counters of a stream carry their own bounds, so what was read is always a beginning of what was
written.
-/

structure ByteStream where
  written : List UInt8
  -- The number of bytes that have reached the reading end.
  arrived : Nat
  taken : Nat
  taken_le : taken ≤ arrived
  arrived_le : arrived ≤ written.length
  deriving DecidableEq, Repr

namespace ByteStream

variable (s : ByteStream)

def empty : ByteStream :=
  ⟨[], 0, 0, le_rfl, le_rfl⟩

def received : List UInt8 :=
  s.written.take s.taken

-- The number of bytes that a read finds.
def readable : Nat :=
  s.arrived - s.taken

def write (bytes : List UInt8) : ByteStream where
  written := s.written ++ bytes
  arrived := s.arrived
  taken := s.taken
  taken_le := s.taken_le
  arrived_le := by
    have h := s.arrived_le
    rw [List.length_append]
    omega

-- `count` more bytes arrive, or all that are on their way.
def deliver (count : Nat) : ByteStream where
  written := s.written
  arrived := min (s.arrived + count) s.written.length
  taken := s.taken
  taken_le := by
    have h := s.taken_le
    have h' := s.arrived_le
    omega
  arrived_le := Nat.min_le_right _ _

-- Read what has arrived, at most `limit` bytes.
def read (limit : Nat) : ByteStream where
  written := s.written
  arrived := s.arrived
  taken := s.taken + min limit s.readable
  taken_le := by
    have h := s.taken_le
    unfold readable
    omega
  arrived_le := s.arrived_le

theorem received_isPrefix : s.received <+: s.written :=
  List.take_prefix _ _

theorem received_length : s.received.length = s.taken := by
  have h := s.taken_le
  have h' := s.arrived_le
  rw [received, List.length_take]
  omega

theorem readable_le : s.readable ≤ s.written.length := by
  have h := s.arrived_le
  unfold readable
  omega

theorem written_ne_nil (h : 0 < s.taken) : s.written ≠ [] := by
  intro hnil
  have hle := Nat.le_trans s.taken_le s.arrived_le
  rw [hnil, List.length_nil] at hle
  omega

/-- A read whose limit exceeds the stream takes everything it finds. -/
theorem le_taken_read {limit count : Nat} (hlimit : s.written.length ≤ limit)
    (hcount : count ≤ s.readable) : count ≤ (s.read limit).taken := by
  have h := s.readable_le
  change count ≤ s.taken + min limit s.readable
  omega

end ByteStream
