import RadioLinks.Radio.Socket
/-!
# Protocol selectors

A selector names a transport, an address family and whether the traffic is
secured. Its byte form has one bit for each choice and one that marks the byte
as a selector at all. Reading accepts exactly the bytes that writing produces.
-/

namespace RadioLinks

inductive Transport where
  | udp
  | tcp
  deriving DecidableEq, Repr, Inhabited

/-- The address family. Only version 4 can be connected to. -/
inductive Family where
  | v4
  | v6
  deriving DecidableEq, Repr, Inhabited

/-- Whether traffic goes through a secure session. -/
inductive Security where
  | plain
  | secured
  deriving DecidableEq, Repr, Inhabited

/-- What a connection speaks. -/
structure Selector where
  transport : Transport
  family : Family
  security : Security
  deriving DecidableEq, Repr, Inhabited

namespace Selector

/-- The selector mark, set in every selector byte. -/
def markBit : UInt8 := 1
def udpBit : UInt8 := 2
def tcpBit : UInt8 := 4
def ipv6Bit : UInt8 := 8
def securedBit : UInt8 := 16

def isSecured (selector : Selector) : Bool := selector.security = .secured

def socketKind (selector : Selector) : SocketKind :=
  match selector.transport with
  | .udp => .datagram
  | .tcp => .stream

def bits (selector : Selector) : UInt8 :=
  markBit
    ||| (match selector.transport with | .udp => udpBit | .tcp => tcpBit)
    ||| (match selector.family with | .v4 => 0 | .v6 => ipv6Bit)
    ||| (match selector.security with | .plain => 0 | .secured => securedBit)

/-- Read the byte form. The mark must be set, exactly one transport must be
set, and no bit outside the five known ones. -/
def ofBits? (byte : UInt8) : Option Selector :=
  let has (bit : UInt8) : Bool := byte &&& bit != 0
  if has (~~~(markBit ||| udpBit ||| tcpBit ||| ipv6Bit ||| securedBit)) || !has markBit then
    none
  else
    let family : Family := if has ipv6Bit then .v6 else .v4
    let security : Security := if has securedBit then .secured else .plain
    match has udpBit, has tcpBit with
    | true, false => some ⟨.udp, family, security⟩
    | false, true => some ⟨.tcp, family, security⟩
    | _, _ => none

theorem ofBits?_bits (selector : Selector) : ofBits? selector.bits = some selector := by
  rcases selector with ⟨transport, family, security⟩
  cases transport <;> cases family <;> cases security <;> decide

/-- The name of the transport as it is secured, without the family. -/
def transportName (selector : Selector) : String :=
  match selector.transport, selector.security with
  | .udp, .plain => "udp"
  | .tcp, .plain => "tcp"
  | .udp, .secured => "dtls"
  | .tcp, .secured => "tls"

/-- The form shown to users, such as `dtls/ip4`. -/
def text (selector : Selector) : String :=
  selector.transportName ++ "/" ++ match selector.family with
    | .v4 => "ip4"
    | .v6 => "ip6"

/-- The version-4 selectors, which are the ones that have a name of their own. -/
def named : List Selector :=
  [⟨.udp, .v4, .plain⟩, ⟨.tcp, .v4, .plain⟩, ⟨.udp, .v4, .secured⟩, ⟨.tcp, .v4, .secured⟩]

/-- The selector of a name in a configuration file. -/
def ofName? (name : String) : Option Selector :=
  named.find? fun selector => selector.transportName == name

/-- What is said of a name that no selector has. -/
def unknownName (name : String) : String := "unknown protocol '" ++ name ++ "'"

end Selector

/-- The four ways in which a connection moves bytes. -/
inductive Variant where
  | udp
  | tcp
  | dtls
  | tls
  deriving DecidableEq, Repr, Inhabited

namespace Variant

/-- The variant of a selector. The address family plays no part. -/
def ofSelector (selector : Selector) : Variant :=
  match selector.transport, selector.security with
  | .udp, .plain => .udp
  | .tcp, .plain => .tcp
  | .udp, .secured => .dtls
  | .tcp, .secured => .tls

def isSecured : Variant → Bool
  | .dtls | .tls => true
  | .udp | .tcp => false

def isStream : Variant → Bool
  | .tcp | .tls => true
  | .udp | .dtls => false

def socketKind (variant : Variant) : SocketKind :=
  if variant.isStream then .stream else .datagram

def name : Variant → String
  | udp => "udp"
  | tcp => "tcp"
  | dtls => "dtls"
  | tls => "tls"

theorem isSecured_ofSelector (selector : Selector) :
    (ofSelector selector).isSecured = selector.isSecured := by
  rcases selector with ⟨transport, _, security⟩
  cases transport <;> cases security <;> rfl

theorem socketKind_ofSelector (selector : Selector) :
    (ofSelector selector).socketKind = selector.socketKind := by
  rcases selector with ⟨transport, _, security⟩
  cases transport <;> cases security <;> rfl

end Variant

end RadioLinks
