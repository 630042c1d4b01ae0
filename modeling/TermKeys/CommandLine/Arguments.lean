import TermKeys.Text.Quoted
import TermKeys.Unicode.Decimal

/-!
The words of a command line. A word that begins with a dash is an option, unless it is a dash
alone, a number, or holds a space without being one; after two dashes every word is an operand.
A long option may be shortened as long as one option fits, and may have its value after an
equals sign. Short options may share one dash, and an equals sign after the first of them
is passed over. Two dashes for a value are a mark without a value.
-/

set_option autoImplicit false

namespace TermKeys.CommandLine

/-- An option, with all its spellings. -/
structure Choice where
  spellings : List Text
  takesValue : Bool
deriving DecidableEq, Repr

/-- The option that asks for help. -/
def Choice.help : Choice := ⟨["-h".toList, "--help".toList], false⟩

/-- The name of an option in messages. -/
def Choice.name (choice : Choice) : Text := List.intercalate ['/'] choice.spellings

/-- A word that stands on its own. -/
structure Operand where
  name : Text
  required : Bool
deriving DecidableEq, Repr

/-- What a command line may hold. Operands that are not required come last. -/
structure Form where
  choices : List Choice
  operands : List Operand

/-- The spellings of all options, help first. -/
def Form.spellings (form : Form) : List (Text × Choice) :=
  (Choice.help :: form.choices).flatMap fun choice ↦
    choice.spellings.map fun spelling ↦ (spelling, choice)

/-- Why a command line cannot be used. -/
inductive Misuse
  | ambiguous (word : Text) (spellings : List Text)
  | valueMissing (choice : Choice)
  | valueUnwanted (choice : Choice) (value : Text)
  | required (names : List Text)
  | unrecognized (words : List Text)
deriving DecidableEq, Repr

/-- The message of a misuse. -/
def Misuse.message : Misuse → Text
  | ambiguous word spellings =>
    "ambiguous option: ".toList ++ word ++ " could match ".toList
      ++ List.intercalate ", ".toList spellings
  | valueMissing choice =>
    "argument ".toList ++ choice.name ++ ": expected one argument".toList
  | valueUnwanted choice value =>
    "argument ".toList ++ choice.name ++ ": ignored explicit argument ".toList
      ++ Text.quoted value
  | required names =>
    "the following arguments are required: ".toList ++ List.intercalate ", ".toList names
  | unrecognized words =>
    "unrecognized arguments: ".toList ++ List.intercalate [' '] words

/-- An option as it is spelled in a word, and the text that follows the spelling there: what
is after the equals sign, or directly after a short option. -/
structure Spelled where
  choice : Choice
  spelling : Text
  value : Option Text
deriving DecidableEq, Repr

/-- What a word is. -/
inductive Word
  | operand (word : Text)
  | option (word : Text) (spelled : Option Spelled)
  | separator
deriving DecidableEq, Repr

/-- The word as it was given. -/
def Word.text : Word → Text
  | operand word => word
  | option word _ => word
  | separator => ['-', '-']

/-- Whether a word is an option. -/
def Word.isOption : Word → Bool
  | option _ _ => true
  | _ => false

/-- A word before its first equals sign, and what follows that. -/
def splitEquals (word : Text) : Text × Option Text :=
  match word.dropWhile (· != '=') with
  | [] => (word, none)
  | _ :: value => (word.takeWhile (· != '='), some value)

/-- The options that a word may be short for. -/
def Form.candidates (form : Form) (word : Text) : List Spelled :=
  match word with
  | _ :: '-' :: _ =>
    let (start, value) := splitEquals word
    form.spellings.filterMap fun (spelling, choice) ↦
      if start.isPrefixOf spelling then some ⟨choice, spelling, value⟩ else none
  | _ =>
    form.spellings.filterMap fun (spelling, choice) ↦
      if spelling = word.take 2 then some ⟨choice, spelling, some (word.drop 2)⟩
      else if word.isPrefixOf spelling then some ⟨choice, spelling, none⟩
      else none

/-- Whether a word is a negative number; a line end after it does not count. -/
def isNegativeNumber (word : Text) : Bool :=
  let body := if word.getLast? = some '\n' then word.dropLast else word
  match body with
  | '-' :: digits =>
    let fraction := digits.dropWhile Unicode.isDecimal
    match fraction with
    | [] => !digits.isEmpty
    | '.' :: places => !places.isEmpty && places.all Unicode.isDecimal
    | _ => false
  | _ => false

/-- What a word before the separator is. -/
def Form.classify (form : Form) (word : Text) : Except Misuse Word :=
  let (start, value) := splitEquals word
  match word with
  | '-' :: _ :: _ =>
    match form.spellings.lookup word, form.spellings.lookup start with
    | some choice, _ => .ok (.option word (some ⟨choice, word, none⟩))
    | none, some choice => .ok (.option word (some ⟨choice, start, value⟩))
    | none, none =>
      match form.candidates word with
      | [spelled] => .ok (.option word (some spelled))
      | _ :: _ :: _ => .error (.ambiguous word ((form.candidates word).map Spelled.spelling))
      | [] =>
        if isNegativeNumber word || word.contains ' ' then .ok (.operand word)
        else .ok (.option word none)
  | _ => .ok (.operand word)

/-- What the words of a command line are. -/
def Form.classifyAll (form : Form) : List Text → Except Misuse (List Word)
  | [] => .ok []
  | word :: rest =>
    if word = ['-', '-'] then .ok (.separator :: rest.map .operand)
    else do
      let first ← form.classify word
      let others ← form.classifyAll rest
      return first :: others

/-- What has been read of a command line. -/
structure Progress where
  /-- The options given, in order, with their values. -/
  given : List (Choice × Option Text)
  /-- The values of the operands read; a mark alone gives none. -/
  operands : List (Option Text)
  pending : List Operand
  /-- The words that fit nowhere. -/
  extra : List Text

/-- Reads operands from the front of a row of words without options. -/
def takeOperands : List Operand → List Word → List (Option Text) × List Operand × List Word
  | [], words => ([], [], words)
  | operand :: pending, words =>
    let marked := words.head? = some .separator
    match words.dropWhile (· = .separator) with
    | .operand word :: rest =>
      let value := if word = ['-', '-'] ∧ ¬marked then none else some word
      let (values, pending, rest) := takeOperands pending (rest.dropWhile (· = .separator))
      (value :: values, pending, rest)
    | rest =>
      if operand.required then ([], operand :: pending, words)
      else
        let (values, pending, rest) := takeOperands pending rest
        (none :: values, pending, rest)

/-- The value that a text gives; two dashes give none. -/
def givenValue (text : Text) : Option Text := if text = ['-', '-'] then none else some text

/-- The options of a word with their values, and the words after it. -/
abbrev Chain := List (Choice × Option Text) × List Word

/-- An option with nothing after it in its word. -/
def optionAlone (choice : Choice) (rest : List Word) : Except Misuse Chain :=
  if choice.takesValue then
    match rest with
    | .operand word :: rest => .ok ([(choice, givenValue word)], rest)
    | _ => .error (.valueMissing choice)
  else .ok ([(choice, none)], rest)

/-- A short option without a value and the text that follows it in its word, which has to begin
with the letter of another short option. -/
def shortOptions (form : Form) (choice : Choice) : Text → List Word → Except Misuse Chain
  | [], _ => .error (.valueUnwanted choice [])
  | c :: more, rest =>
    match form.spellings.lookup ['-', c] with
    | none => .error (.valueUnwanted choice (c :: more))
    | some next => do
      let (given, rest) ←
        if more.isEmpty then optionAlone next rest
        else if next.takesValue then .ok ([(next, givenValue more)], rest)
        else shortOptions form next more rest
      return ((choice, none) :: given, rest)

/-- Whether a spelling is a long one, with two dashes. -/
def isLong (spelling : Text) : Bool := ['-', '-'].isPrefixOf spelling

/-- The options of a word that begins with the given one. -/
def optionsOf (form : Form) (spelled : Spelled) (rest : List Word) : Except Misuse Chain :=
  match spelled.value with
  | none => optionAlone spelled.choice rest
  | some value =>
    if spelled.choice.takesValue then .ok ([(spelled.choice, givenValue value)], rest)
    else if isLong spelled.spelling then .error (.valueUnwanted spelled.choice value)
    else shortOptions form spelled.choice value rest

/-- Reads the words, at most so many steps. Help ends the reading at once. -/
def readWords (form : Form) : Nat → List Word → Progress → Except Misuse Progress
  | 0, _, progress => .ok progress
  | fuel + 1, words, progress =>
    if words.any Word.isOption then
      match words with
      | .option word none :: rest =>
        readWords form fuel rest { progress with extra := progress.extra ++ [word] }
      | .option _ (some spelled) :: rest => do
        let (given, rest) ← optionsOf form spelled rest
        let progress := { progress with given := progress.given ++ given }
        if given.any fun option ↦ option.1 = Choice.help then return progress
        else readWords form fuel rest progress
      | _ =>
        let row := words.takeWhile fun word ↦ !word.isOption
        let (values, pending, left) := takeOperands progress.pending row
        if values.isEmpty then
          readWords form fuel (words.drop row.length)
            { progress with extra := progress.extra ++ row.map Word.text }
        else
          readWords form fuel (left ++ words.drop row.length)
            { progress with operands := progress.operands ++ values, pending := pending }
    else
      let (values, pending, left) := takeOperands progress.pending words
      .ok { progress with
        operands := progress.operands ++ values
        pending := pending
        extra := progress.extra ++ left.map Word.text }

/-- The words of a command line in their parts. -/
structure Arguments where
  given : List (Choice × Option Text)
  operands : List (Option Text)
deriving DecidableEq, Repr

namespace Arguments

/-- Whether an option was given. -/
def has (arguments : Arguments) (choice : Choice) : Bool :=
  arguments.given.any fun option ↦ option.1 = choice

/-- What an option was last given for a value, if it was given at all. -/
def value? (arguments : Arguments) (choice : Choice) : Option (Option Text) :=
  (arguments.given.reverse.find? fun option ↦ option.1 = choice).map Prod.snd

/-- The value of the operand at a position. -/
def operand? (arguments : Arguments) (position : Nat) : Option Text :=
  (arguments.operands[position]?).join

end Arguments

/-- Reads a command line. -/
def Form.read (form : Form) (words : List Text) : Except Misuse Arguments := do
  let classified ← form.classifyAll words
  let progress ← readWords form (2 * classified.length + 2) classified
    ⟨[], [], form.operands, []⟩
  if progress.given.any fun option ↦ option.1 = Choice.help then
    return ⟨progress.given, progress.operands⟩
  let missing := progress.pending.filter Operand.required
  if !missing.isEmpty then throw (.required (missing.map Operand.name))
  if !progress.extra.isEmpty then throw (.unrecognized progress.extra)
  return ⟨progress.given, progress.operands⟩

end TermKeys.CommandLine
