import RadioLinks.Text.Decimal
import RadioLinks.Text.Pieces
/-!
# Internet addresses

Version-4 addresses, endpoints, and the strict dotted form in which an address
is read: four decimal parts up to 255, none with a leading zero, and nothing
before, between or after them.
-/

namespace RadioLinks

/-- A version-4 address, most significant part first. -/
structure Ipv4 where
  first : UInt8
  second : UInt8
  third : UInt8
  fourth : UInt8
  deriving DecidableEq, Repr, Inhabited

namespace Ipv4

/-- The address that stands for every local interface. -/
def unspecified : Ipv4 := ⟨0, 0, 0, 0⟩

/-- The dotted decimal form. -/
def text (ip : Ipv4) : String :=
  ".".intercalate ([ip.first, ip.second, ip.third, ip.fourth].map fun part =>
    toString part.toNat)

/-- One part of the dotted form. A part longer than one digit may not start
with a zero. -/
def part? (digits : List Char) : Option UInt8 :=
  if digits.head? = some '0' && digits.length != 1 then none
  else ((Text.decimal? digits).filter (· < 256)).map Nat.toUInt8

def ofText? (text : String) : Option Ipv4 :=
  match Text.pieces '.' text.toList with
  | [a, b, c, d] => do pure ⟨← part? a, ← part? b, ← part? c, ← part? d⟩
  | _ => none

end Ipv4

/-- A version-4 address and a port. -/
structure Endpoint where
  ip : Ipv4
  port : UInt16
  deriving DecidableEq, Repr, Inhabited

namespace Endpoint

/-- The address and the port with a colon between them. -/
def text (endpoint : Endpoint) : String :=
  endpoint.ip.text ++ ":" ++ toString endpoint.port.toNat

/-- Every local interface on one port. -/
def anyLocal (port : UInt16) : Endpoint := ⟨.unspecified, port⟩

/-- Two endpoints are the same peer when address and port agree. -/
def same (a b : Endpoint) : Bool := a.ip = b.ip && a.port = b.port

theorem same_iff {a b : Endpoint} : a.same b = true ↔ a = b := by
  cases a; cases b; simp [same]

end Endpoint

end RadioLinks
