import TermKeys.Text.Basic

/-!
UTF-8. Reading goes byte by byte: between characters there is nothing to remember, and
inside one the bits collected so far, the number of bytes still due and the range in which
the next of them must lie. A byte outside that range ends the character as broken and is
read again as a first byte, so each maximal broken piece counts once.
-/

set_option autoImplicit false

namespace TermKeys.Utf8

/-- A character of which the first bytes have been read. -/
structure Pending where
  value : Nat
  due : Nat
  low : Nat
  high : Nat

/-- What has been read so far of the character at hand. -/
abbrev State := Option Pending

/-- Reads the first byte of a character: what comes out at once, with `none` for a byte
that begins no character, and what is left to wait for. -/
def first (byte : Nat) : List (Option Char) × State :=
  if byte < 0x80 then ([some (Char.ofNat byte)], none)
  else if byte < 0xC2 then ([none], none)
  else if byte < 0xE0 then ([], some ⟨byte - 0xC0, 1, 0x80, 0xBF⟩)
  else if byte = 0xE0 then ([], some ⟨0, 2, 0xA0, 0xBF⟩)
  else if byte = 0xED then ([], some ⟨0xD, 2, 0x80, 0x9F⟩)
  else if byte < 0xF0 then ([], some ⟨byte - 0xE0, 2, 0x80, 0xBF⟩)
  else if byte = 0xF0 then ([], some ⟨0, 3, 0x90, 0xBF⟩)
  else if byte < 0xF4 then ([], some ⟨byte - 0xF0, 3, 0x80, 0xBF⟩)
  else if byte = 0xF4 then ([], some ⟨4, 3, 0x80, 0x8F⟩)
  else ([none], none)

/-- Reads one byte. -/
def step (state : State) (byte : Nat) : List (Option Char) × State :=
  match state with
  | none => first byte
  | some p =>
    if p.low ≤ byte ∧ byte ≤ p.high then
      let value := p.value * 64 + (byte - 0x80)
      if p.due = 1 then ([some (Char.ofNat value)], none)
      else ([], some ⟨value, p.due - 1, 0x80, 0xBF⟩)
    else
      let (out, next) := first byte
      (none :: out, next)

/-- The characters of a byte string from a state on, with `none` for each broken piece. -/
def scanFrom : State → Bytes → List (Option Char)
  | none, [] => []
  | some _, [] => [none]
  | state, byte :: rest =>
    let (out, next) := step state byte.toNat
    out ++ scanFrom next rest

/-- The characters of a byte string, with `none` for each broken piece. -/
def scan (bytes : Bytes) : List (Option Char) := scanFrom none bytes

/-- The bytes of a character. -/
def encodeChar (c : Char) : Bytes :=
  let n := c.toNat
  if n < 0x80 then [UInt8.ofNat n]
  else if n < 0x800 then [UInt8.ofNat (0xC0 + n / 64), UInt8.ofNat (0x80 + n % 64)]
  else if n < 0x10000 then
    [UInt8.ofNat (0xE0 + n / 4096), UInt8.ofNat (0x80 + n / 64 % 64), UInt8.ofNat (0x80 + n % 64)]
  else
    [UInt8.ofNat (0xF0 + n / 262144), UInt8.ofNat (0x80 + n / 4096 % 64),
      UInt8.ofNat (0x80 + n / 64 % 64), UInt8.ofNat (0x80 + n % 64)]

/-- The bytes of a text. -/
def encode (text : Text) : Bytes := text.flatMap encodeChar

end TermKeys.Utf8
