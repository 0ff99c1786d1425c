import RadioLinks.Bytes
/-!
# Bytes as text

Bytes are read as UTF-8. What is not well formed becomes replacement
characters: one for each longest piece that could have begun a character, and
one for each byte that begins none.
-/

namespace RadioLinks.Text

def bytes (text : String) : Bytes := text.toUTF8.data.toList

/-- Stands for what cannot be read. -/
def replacement : Char := '\ufffd'

/-- What a first byte promises: how many bytes follow it, the bounds of the
next one, and the bits it contributes. Bounds exclude needlessly long forms,
surrogates and code points that do not exist. -/
structure Lead where
  following : Nat
  low : UInt8
  high : UInt8
  bits : Nat
  deriving DecidableEq, Repr

/-- What a byte promises as the first of a character of several bytes. -/
def lead? (b : UInt8) : Option Lead :=
  if 0xC2 ≤ b ∧ b ≤ 0xDF then some ⟨1, 0x80, 0xBF, b.toNat - 0xC0⟩
  else if b = 0xE0 then some ⟨2, 0xA0, 0xBF, 0⟩
  else if b = 0xED then some ⟨2, 0x80, 0x9F, 0xD⟩
  else if 0xE1 ≤ b ∧ b ≤ 0xEF then some ⟨2, 0x80, 0xBF, b.toNat - 0xE0⟩
  else if b = 0xF0 then some ⟨3, 0x90, 0xBF, 0⟩
  else if 0xF1 ≤ b ∧ b ≤ 0xF3 then some ⟨3, 0x80, 0xBF, b.toNat - 0xF0⟩
  else if b = 0xF4 then some ⟨3, 0x80, 0x8F, 4⟩
  else none

/-- Read the bytes that follow a first one. The answer is the code point if all
of them are there, and the bytes after those that fit. -/
def follow : Nat → UInt8 → UInt8 → Nat → Bytes → Option Nat × Bytes
  | 0, _, _, code, rest => (some code, rest)
  | _ + 1, _, _, _, [] => (none, [])
  | following + 1, low, high, code, b :: rest =>
      if low ≤ b ∧ b ≤ high then
        follow following 0x80 0xBF (code * 64 + (b.toNat - 0x80)) rest
      else (none, b :: rest)

/-- Read characters. Each round takes a byte at least, so `rounds` never runs
out when it starts at the number of bytes. -/
def charsFor : Nat → Bytes → List Char
  | 0, _ => []
  | _, [] => []
  | rounds + 1, b :: rest =>
      if b < 0x80 then Char.ofNat b.toNat :: charsFor rounds rest
      else
        match lead? b with
        | none => replacement :: charsFor rounds rest
        | some lead =>
            match follow lead.following lead.low lead.high lead.bits rest with
            | (some code, rest) => Char.ofNat code :: charsFor rounds rest
            | (none, rest) => replacement :: charsFor rounds rest

def ofBytes (data : Bytes) : String := String.ofList (charsFor data.length data)

end RadioLinks.Text
