import TermKeys.Encoding.Codec
import TermKeys.FileTree
import TermKeys.Layout

/-!
Layouts in files. A layout is written line by line, and a line that cannot be written ends the work:
what was put out for the lines before it stays in the file, and nothing of it does. What an encoder
still holds back at the end is not asked for.
-/

set_option autoImplicit false

namespace TermKeys.Layout

/-- Loads a layout from a file. -/
def load (tree : FileTree) (path : Path) (settings : Settings) : Outcome Layout :=
  match tree.read path with
  | .error fault => ⟨.error fault, []⟩
  | .ok content => ofLines path (RawLine.ofBytes content) settings

/-- The line of a binding in a layout file, output text being read in the encoding of a name. -/
def linePoints (others : Codecs) (encoding : Text) (binding : Binding) : Except Fault Points :=
  (binding.linePoints (Codec.decodeAs others encoding)).map (· ++ [.char '\n'])

/-- The lines of a layout file, some of which may have no written form. -/
def fileLines (others : Codecs) (layout : Layout) (encoding : Text) :
    List (Except Fault Points) :=
  .ok (Text.points (titleLine layout.description))
    :: layout.bindings.map (linePoints others encoding)

/-- The text of a layout file. -/
def document (others : Codecs) (layout : Layout) (encoding : Text) : Except Fault Points :=
  ((fileLines others layout encoding).mapM id).map List.flatten

/-- The bytes that are put out for lines before the first that cannot be written, and the fault of
that one, given the lines before them. -/
def encodeLines (codec : Codec) (before : List Points) :
    List (Except Fault Points) → Bytes × Except Fault Unit
  | [] => ([], .ok ())
  | line :: rest =>
    match line with
    | .error fault => ([], .error fault)
    | .ok points =>
      match codec.encode before points with
      | .error fault => ([], .error fault)
      | .ok bytes =>
        let (content, result) := encodeLines codec (before ++ [points]) rest
        (bytes ++ content, result)

/-- Saves a layout to a file in the encoding of a name. The file is emptied before the name is
looked up. -/
def save (others : Codecs) (tree : FileTree) (layout : Layout) (path : Path) (encoding : Text) :
    FileTree × Except Fault Unit :=
  if encoding.contains (Char.ofNat 0) then (tree, .error .nullInEncoding)
  else match tree.target path with
    | .error fault => (tree, .error fault)
    | .ok location =>
      match Codec.find others .openFile encoding with
      | .error fault => (tree.put location (.file []), .error fault)
      | .ok codec =>
        let (content, result) := encodeLines codec [] (fileLines others layout encoding)
        (tree.put location (.file content), result)

end TermKeys.Layout
