import TermKeys.Text.Numeral

/-!
Escapes in output text. A backslash and a letter stand for a control byte, and `\x` with one or
two hexadecimal digits for any byte; a backslash before anything else stands for itself. In the
other direction every byte outside printable ASCII is written as an escape, and a backslash is
not.
-/

set_option autoImplicit false

namespace TermKeys.Escape

/-- The byte of a backslash. -/
def backslash : UInt8 := 0x5C

/-- The byte of the letter that begins a hexadecimal escape. -/
def hexMark : UInt8 := 0x78

/-- The letters of the control bytes that have one. -/
def letters : List (UInt8 × UInt8) :=
  [(0x45, 27), (0x62, 8), (0x66, 12), (0x74, 9), (0x72, 13), (0x6E, 10)]

/-- The control byte of a letter. -/
def control? (letter : UInt8) : Option UInt8 := letters.lookup letter

/-- The letter of a control byte. -/
def letter? (control : UInt8) : Option UInt8 :=
  (letters.find? fun entry ↦ entry.2 = control).map Prod.fst

/-- The value of the byte of a hexadecimal digit. -/
def hexValue? (digit : UInt8) : Option UInt8 :=
  if 0x30 ≤ digit ∧ digit ≤ 0x39 then some (digit - 0x30)
  else if 0x41 ≤ digit ∧ digit ≤ 0x46 then some (digit - 0x41 + 10)
  else if 0x61 ≤ digit ∧ digit ≤ 0x66 then some (digit - 0x61 + 10)
  else none

/-- The byte that an escape stands for, given what follows its backslash, and how many of
those bytes belong to it. -/
def escape? : Bytes → Option (UInt8 × Nat)
  | [] => none
  | mark :: rest =>
    match control? mark with
    | some byte => some (byte, 1)
    | none =>
      if mark = hexMark then
        (rest.head?.bind hexValue?).map fun high ↦
          match rest.tail.head?.bind hexValue? with
          | some low => (high * 16 + low, 3)
          | none => (high, 2)
      else none

/-- The bytes that a text with escapes stands for, after leaving out some at its front. -/
def expandFrom : Nat → Bytes → Bytes
  | _, [] => []
  | skip + 1, _ :: rest => expandFrom skip rest
  | 0, byte :: rest =>
    match if byte = backslash then escape? rest else none with
    | some (value, length) => value :: expandFrom length rest
    | none => byte :: expandFrom 0 rest

/-- The bytes that a text with escapes stands for. -/
def expand (bytes : Bytes) : Bytes := expandFrom 0 bytes

/-- The byte of a hexadecimal digit in lower case. -/
def hexDigit (value : UInt8) : UInt8 := if value < 10 then 0x30 + value else 0x61 + (value - 10)

/-- A byte as it is written. -/
def writeByte (byte : UInt8) : Bytes :=
  match letter? byte with
  | some letter => [backslash, letter]
  | none =>
    if byte < 0x20 ∨ 0x7F ≤ byte then
      [backslash, hexMark, hexDigit (byte / 16), hexDigit (byte % 16)]
    else [byte]

/-- A byte string as it is written, in printable ASCII alone. -/
def write (bytes : Bytes) : Bytes := bytes.flatMap writeByte

theorem printable_of_mem_writeByte : ∀ byte : UInt8, ∀ written ∈ writeByte byte,
    0x20 ≤ written ∧ written < 0x7F := by
  intro byte
  have h : ∀ n : Nat, n < 256 → (writeByte (UInt8.ofNat n)).all (fun written ↦
    decide (0x20 ≤ written ∧ written < 0x7F)) = true := by decide +kernel
  simpa using h byte.toNat byte.toNat_lt

/-- What is written is printable ASCII. -/
theorem printable_of_mem_write {bytes : Bytes} {written : UInt8} (h : written ∈ write bytes) :
    0x20 ≤ written ∧ written < 0x7F := by
  obtain ⟨byte, -, hb⟩ := List.mem_flatMap.1 h
  exact printable_of_mem_writeByte byte written hb

end TermKeys.Escape
