import TermKeys.Diagnostic
import TermKeys.Text.Words
import TermKeys.Unicode.Alphanumeric

/-!
The lines of a layout file. A line is read after its comment is dropped and its words are
brought one space apart; it is then a title, a key line, nothing, or unreadable.

A key line has a descriptor and an action with a colon between them. The descriptor may hold
colons itself: the one that counts is the first, after at least one character, with an action
behind it.
-/

set_option autoImplicit false

namespace TermKeys

/-- What a key line asks for. -/
inductive Action
  /-- To send the text between the first quote and the last. -/
  | send (text : Text)
  /-- To do what the word names. -/
  | command (word : Text)
deriving DecidableEq, Repr

/-- A line of a layout file. -/
inductive Line
  /-- A line that says nothing: blank, a comment, or a title without a text. -/
  | nothing
  | title (text : Text)
  | key (descriptor : Text) (action : Action)
  /-- A line of no known form, with its words. -/
  | unreadable (text : Text)
deriving DecidableEq, Repr

namespace Line

open Unicode

/-- The line without its comment. A comment starts at the first number sign with an even
number of quotes after it: one between quotes is part of a text. -/
def dropComment : Text → Text
  | [] => []
  | c :: rest => if c = '#' ∧ rest.count '"' % 2 = 0 then [] else c :: dropComment rest

/-- The word that a title line begins with; nothing need stand between it and the title. -/
def titleWord : Text := "keyboard".toList

/-- The word that a key line begins with, and the space after it. -/
def keyWord : Text := "key ".toList

/-- The action at the front of the text after a colon. -/
def action? (text : Text) : Option Action :=
  match (if text.head? = some ' ' then text.tail else text) with
  | [] => none
  | c :: rest =>
    if c = '"' then (Text.splitLast? '"' rest).map fun parts ↦ .send parts.1
    else if isWordChar c then some (.command (c :: rest.takeWhile isWordChar))
    else none

/-- The text before the first colon with an action behind it, and that action. -/
def splitAction? : Text → Option (Text × Action)
  | [] => none
  | c :: rest =>
    match if c = ':' then action? rest else none with
    | some action => some ([], action)
    | none => (splitAction? rest).map fun parts ↦ (c :: parts.1, parts.2)

/-- Reads the words of a line that is not blank, one space apart. -/
def ofPlain (text : Text) : Line :=
  if titleWord.isPrefixOf text then
    match Text.plain ((text.drop titleWord.length).filter (· != '"')) with
    | [] => .nothing
    | words => .title words
  else if keyWord.isPrefixOf text then
    match text.drop keyWord.length with
    | [] => .unreadable text
    | c :: rest =>
      match splitAction? rest with
      | some (before, action) => .key ((c :: before).filter (· != ' ')) action
      | none => .unreadable text
  else .unreadable text

/-- Reads a line. -/
def read (line : Text) : Line :=
  match Text.plain (dropComment line) with
  | [] => .nothing
  | words => ofPlain words

/-- The remarks about a line. -/
def notes : Line → List Diagnostic
  | unreadable text => [.unreadableLine text]
  | _ => []

end Line

/-- The kinds of token. -/
inductive TokenKind
  | titleKeyword
  | titleText
  | keyKeyword
  | keySequence
  | command
  | outputText
deriving DecidableEq, Repr

/-- A piece of a line. A keyword has no text of its own. -/
structure Token where
  kind : TokenKind
  text : Text
deriving DecidableEq, Repr

/-- The token of an action. -/
def Action.token : Action → Token
  | send text => ⟨.outputText, text⟩
  | command word => ⟨.command, word⟩

/-- The tokens of a line; none for a line that says nothing or cannot be read. -/
def Line.tokens : Line → List Token
  | nothing | unreadable _ => []
  | title text => [⟨.titleKeyword, []⟩, ⟨.titleText, text⟩]
  | key descriptor action => [⟨.keyKeyword, []⟩, ⟨.keySequence, descriptor⟩, action.token]

end TermKeys
