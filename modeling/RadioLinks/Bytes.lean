/-!
# Payload bytes

Everything that crosses a socket or a secure session is a finite sequence of
bytes. Offsets into a payload are counts of leading bytes already dealt with.
-/

namespace RadioLinks

/-- A payload, first byte first. -/
abbrev Bytes := List UInt8

/-- A buffer nobody has written to. -/
def Bytes.zeros (count : Nat) : Bytes := List.replicate count 0

@[simp] theorem Bytes.length_zeros (count : Nat) : (Bytes.zeros count).length = count :=
  List.length_replicate

end RadioLinks
