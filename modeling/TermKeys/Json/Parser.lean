import TermKeys.Encoding.Utf16
import TermKeys.Json.Basic

/-!
Reading JSON. Besides the standard the words `NaN`, `Infinity` and `-Infinity` are numbers. Of
several fields of one name the last value counts. A whole number may have 4300 digits at most,
containers may stand inside each other up to a limit that the caller sets, and an escaped surrogate
without its partner becomes U+FFFD.
-/

set_option autoImplicit false

namespace TermKeys.Json

/-- Whether a character may stand between the parts of a document. -/
def isSpace (c : Char) : Bool := c == ' ' || c == '\t' || c == '\n' || c == '\r'

/-- The text after the blanks at its front. -/
def skipSpace (text : Text) : Text := text.dropWhile isSpace

/-- The value of four hexadecimal digits. -/
def hexUnit? (a b c d : Char) : Option Nat := do
  let a ← Text.hexValue? a
  let b ← Text.hexValue? b
  let c ← Text.hexValue? c
  let d ← Text.hexValue? d
  return ((a * 16 + b) * 16 + c) * 16 + d

/-- The character that a letter after a backslash stands for. -/
def escaped? : Char → Option Char
  | '"' => some '"'
  | '\\' => some '\\'
  | '/' => some '/'
  | 'b' => some (Char.ofNat 8)
  | 'f' => some (Char.ofNat 12)
  | 'n' => some '\n'
  | 'r' => some '\r'
  | 't' => some '\t'
  | _ => none

/-- The character of a unit that has no partner. -/
def unitChar (unit : Nat) : Char :=
  if Utf16.isLeading unit || Utf16.isTrailing unit then Char.ofNat 0xFFFD else Char.ofNat unit

/-- A piece of a string: a character, or the code unit of an escape. -/
inductive Piece
  | char (c : Char)
  | unit (value : Nat)
deriving DecidableEq, Repr

/-- Reads the pieces of a string up to its closing quote. -/
def pieces? : Text → Option (List Piece × Text)
  | [] => none
  | c :: rest =>
    if c = '"' then some ([], rest)
    else if c = '\\' then
      match rest with
      | 'u' :: h₁ :: h₂ :: h₃ :: h₄ :: rest =>
        (hexUnit? h₁ h₂ h₃ h₄).bind fun unit ↦
          (pieces? rest).map fun parts ↦ (.unit unit :: parts.1, parts.2)
      | mark :: rest =>
        (escaped? mark).bind fun c ↦
          (pieces? rest).map fun parts ↦ (.char c :: parts.1, parts.2)
      | [] => none
    else if c.toNat < 0x20 then none
    else (pieces? rest).map fun parts ↦ (.char c :: parts.1, parts.2)

/-- The text of the pieces of a string, the two units of a pair being one character. -/
def joinPieces : List Piece → Text
  | [] => []
  | .char c :: rest => c :: joinPieces rest
  | [.unit a] => [unitChar a]
  | .unit a :: .char c :: rest => unitChar a :: c :: joinPieces rest
  | .unit a :: .unit b :: rest =>
    if Utf16.isLeading a && Utf16.isTrailing b then Utf16.pair a b :: joinPieces rest
    else unitChar a :: joinPieces (.unit b :: rest)

/-- Reads a string after its opening quote. -/
def string? (text : Text) : Option (Text × Text) :=
  (pieces? text).map fun parts ↦ (joinPieces parts.1, parts.2)

/-- Whether a character is a decimal digit. -/
def isDigit (c : Char) : Bool := (Text.digitValue? c).isSome

/-- The number that decimal digits stand for. -/
def digitsValue (digits : Text) : Nat :=
  digits.foldl (fun n c ↦ n * 10 + (Text.digitValue? c).getD 0) 0

/-- The whole part at the front of a number: a zero, or digits that do not begin with one. -/
def wholePart? : Text → Option (Text × Text)
  | [] => none
  | c :: rest =>
    if c = '0' then some ([c], rest)
    else if isDigit c then some (c :: rest.takeWhile isDigit, rest.dropWhile isDigit)
    else none

/-- The fraction at the front of a text, without its point; empty if there is none. -/
def fractionPart : Text → Text × Text
  | '.' :: rest =>
    match rest.takeWhile isDigit with
    | [] => ([], '.' :: rest)
    | digits => (digits, rest.dropWhile isDigit)
  | other => ([], other)

/-- The exponent at the front of a text, if there is one. -/
def exponentPart (text : Text) : Option Int × Text :=
  match text with
  | mark :: rest =>
    if mark = 'e' ∨ mark = 'E' then
      let (negative, digits) :=
        match rest with
        | '-' :: more => (true, more)
        | '+' :: more => (false, more)
        | more => (false, more)
      match digits.takeWhile isDigit with
      | [] => (none, text)
      | size =>
        let n : Int := digitsValue size
        (some (if negative then -n else n), digits.dropWhile isDigit)
    else (none, text)
  | [] => (none, [])

/-- The most digits that a whole number may have. -/
def digitLimit : Nat := 4300

/-- Reads a number whose sign has been read. -/
def number? (negative : Bool) (text : Text) : Option (Json × Text) := do
  let (wholeDigits, rest) ← wholePart? text
  let (fraction, rest) := fractionPart rest
  let (exponent, rest) := exponentPart rest
  if fraction.isEmpty && exponent.isNone then
    if digitLimit < wholeDigits.length then none
    else
      let n : Int := digitsValue wholeDigits
      some (.whole (if negative then -n else n), rest)
  else
    let place := exponent.getD 0 - fraction.length
    some (.number (Binary.ofDecimal negative (digitsValue (wholeDigits ++ fraction)) place), rest)

/-- The words that stand for values. -/
def words : List (Text × Json) :=
  [("null".toList, .null), ("true".toList, .bool true), ("false".toList, .bool false),
   ("NaN".toList, .number .notANumber), ("Infinity".toList, .number (.infinite false)),
   ("-Infinity".toList, .number (.infinite true))]

/-- Reads a word that stands for a value. -/
def word? (text : Text) : Option (Json × Text) :=
  (words.find? fun entry ↦ entry.1.isPrefixOf text).map fun entry ↦
    (entry.2, text.drop entry.1.length)

/-- Why a text is no document. -/
inductive Flaw
  | malformed
  /-- A container inside as many others as there may be. -/
  | tooDeep (container : Container)
deriving DecidableEq, Repr

/-- What was read, if anything was. -/
def ifRead {α : Type} (result : Option α) : Except Flaw α :=
  match result with
  | some value => .ok value
  | none => .error .malformed

mutual

/-- Reads a value, at most so many values and items deep and long as the first argument says and
so many containers deep as the second. -/
def value : Nat → Nat → Text → Except Flaw (Json × Text)
  | 0, _, _ => .error .malformed
  | _, _, [] => .error .malformed
  | fuel + 1, levels, c :: rest =>
    if c = '"' then ifRead ((string? rest).map fun parts ↦ (.string parts.1, parts.2))
    else if c = '[' then
      match levels with
      | 0 => .error (.tooDeep .list)
      | levels + 1 =>
        match skipSpace rest with
        | ']' :: rest => .ok (.list [], rest)
        | rest => (items fuel levels rest).map fun parts ↦ (.list parts.1, parts.2)
    else if c = '\x7b' then
      match levels with
      | 0 => .error (.tooDeep .object)
      | levels + 1 =>
        match skipSpace rest with
        | '\x7d' :: rest => .ok (.object [], rest)
        | rest => (fields fuel levels [] rest).map fun parts ↦ (.object parts.1, parts.2)
    else
      match word? (c :: rest) with
      | some result => .ok result
      | none => ifRead (if c = '-' then number? true rest else number? false (c :: rest))

/-- Reads the items of a list that has some, up to its end. -/
def items : Nat → Nat → Text → Except Flaw (List Json × Text)
  | 0, _, _ => .error .malformed
  | fuel + 1, levels, text => do
    let (item, rest) ← value fuel levels text
    match skipSpace rest with
    | ']' :: rest => return ([item], rest)
    | ',' :: rest =>
      let (others, rest) ← items fuel levels (skipSpace rest)
      return (item :: others, rest)
    | _ => throw .malformed

/-- Reads the fields of an object that has some, up to its end, given those before them. -/
def fields :
    Nat → Nat → List (Text × Json) → Text → Except Flaw (List (Text × Json) × Text)
  | 0, _, _, _ => .error .malformed
  | fuel + 1, levels, before, text =>
    match text with
    | '"' :: rest => do
      let (name, rest) ← ifRead (string? rest)
      match skipSpace rest with
      | ':' :: rest =>
        let (item, rest) ← value fuel levels (skipSpace rest)
        let soFar := setField name item before
        match skipSpace rest with
        | '\x7d' :: rest => return (soFar, rest)
        | ',' :: rest => fields fuel levels soFar (skipSpace rest)
        | _ => throw .malformed
      | _ => throw .malformed
    | _ => .error .malformed

end

/-- Reads a document with at most so many containers inside each other: one value with nothing but
blanks around it. Each value and each item takes a character at least, so the length of the text
bounds their number. -/
def parse (levels : Nat) (text : Text) : Except Flaw Json := do
  let (document, rest) ← value (2 * text.length + 2) levels (skipSpace text)
  if (skipSpace rest).isEmpty then return document else throw .malformed

end TermKeys.Json
