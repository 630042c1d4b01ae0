import Mathlib.Data.List.Basic
import TermKeys.Encoding.Utf8.Lemmas
import TermKeys.Proofs.FileTree
import TermKeys.Proofs.Json.Values
import TermKeys.Settings.Stored

/-!
Settings that are saved and loaded again. The document of any settings is read back from its file,
and the directories in it are taken as they stand unless one begins with a tilde, so all four
settings come back (`exists_load_save`). The path they are loaded from is treated like a directory:
a tilde in front of it stands for a home directory, although the file was opened without that.
-/

set_option autoImplicit false

namespace TermKeys

/-- A path without a tilde in front is in no home directory. -/
theorem Path.expandHome?_of_head {path : Path} (h : path.text.head? ≠ some '~') (homes : Homes) :
    path.expandHome? homes = some path := by
  unfold Path.expandHome?
  split
  · next user rest hanchor hparts =>
    refine absurd ?_ h
    rw [Path.text, hanchor, hparts, if_neg (by simp)]
    cases rest <;> simp [Anchor.text, List.intercalate_cons_cons]
  · rfl

theorem mapM_map_eq_some {α β : Type} {f : β → Option α} {g : α → β} {values : List α}
    (h : ∀ a ∈ values, f (g a) = some a) : (values.map g).mapM f = some values := by
  induction values with
  | nil => rfl
  | cons a rest ih =>
    rw [List.map_cons, List.mapM_cons, h a List.mem_cons_self,
      ih fun b hb ↦ h b (List.mem_cons_of_mem _ hb)]
    rfl

/-- The bytes of a text are read as that text, with nothing broken in them. -/
theorem decodeStrict?_encode (text : Text) :
    Encoding.utf8.decodeStrict? (Utf8.encode text) = some text := by
  rw [Encoding.decodeStrict?, Encoding.scan, Utf8.scan_encode]
  exact mapM_map_eq_some fun _ _ ↦ rfl

namespace Settings

variable {settings : Settings}

/-! ### The document of settings -/

theorem textual_document (settings : Settings) : Json.Textual 2 settings.document := by
  refine Json.Textual.object ?_ fun field hfield ↦ ?_
  · show List.Nodup ["keytab_dirs".toList, "default_layout".toList, "input_encoding".toList,
      "output_encoding".toList]
    decide
  · simp only [List.mem_cons, List.not_mem_nil, or_false] at hfield
    rcases hfield with rfl | rfl | rfl | rfl
    · refine Json.Textual.list fun item hitem ↦ ?_
      obtain ⟨directory, -, rfl⟩ := List.mem_map.mp hitem
      exact Json.Textual.string 0 directory.text
    · exact Json.Textual.string 1 settings.defaultLayout
    · exact Json.Textual.string 1 settings.inputEncoding
    · exact Json.Textual.string 1 settings.outputEncoding

/-- The fields of the document. -/
theorem exists_document_eq (settings : Settings) :
    ∃ fields, settings.document = .object fields ∧
      Json.field? "keytab_dirs".toList fields =
        some (.list (settings.directories.map fun path ↦ .string path.text)) ∧
      Json.field? "default_layout".toList fields = some (.string settings.defaultLayout) ∧
      Json.field? "input_encoding".toList fields = some (.string settings.inputEncoding) ∧
      Json.field? "output_encoding".toList fields = some (.string settings.outputEncoding) :=
  ⟨_, rfl, rfl, rfl, rfl, rfl⟩

variable {loader : Loader}

theorem Loader.textField?_of_field? (hlawful : loader.converter.Lawful)
    {fields : List (Text × Json)} {name text : Text}
    (h : Json.field? name fields = some (.string text)) (usual : Text) :
    loader.textField? fields name usual = some text := by
  rw [textField?, h]
  exact hlawful.text?_string text

/-- The settings of a document are those that it was made from, but for their origin. -/
theorem ofDocument_document (hlawful : loader.converter.Lawful)
    (hdirs : ∀ directory ∈ settings.directories, directory.text.head? ≠ some '~') (path : Path) :
    ofDocument loader path settings.document =
      (path.expandHome? loader.homes).elim (.error (.settingsInvalid path))
        fun origin ↦ .ok { settings with path := some origin } := by
  have hdirectories : ((settings.directories.map fun path ↦ Json.string path.text).mapM
      loader.directory?) = some settings.directories := by
    refine mapM_map_eq_some fun directory hdirectory ↦ ?_
    rw [Loader.directory?, Path.ofText_text]
    exact Path.expandHome?_of_head (hdirs directory hdirectory) loader.homes
  obtain ⟨fields, hdocument, hitems, hlayout, hinput, houtput⟩ := settings.exists_document_eq
  rw [hdocument, ofDocument, ofFields?, hitems, Option.bind_some, hlawful.items?_list]
  simp only [bind, Option.bind, hdirectories]
  cases path.expandHome? loader.homes with
  | none => rfl
  | some origin =>
    simp only [Loader.textField?_of_field? hlawful hlayout,
      Loader.textField?_of_field? hlawful hinput, Loader.textField?_of_field? hlawful houtput]
    rfl

/-! ### Saving and loading -/

theorem save_of_target {tree : FileTree} {destination : Option Path} {path : Path}
    {location : Location} (hdestination : destination.or settings.path = some path)
    (htarget : tree.target path = .ok location) :
    save tree settings destination = .ok (tree.put location (.file settings.content)) := by
  rw [save, hdestination]
  dsimp only
  rw [FileTree.write, htarget]
  rfl

/-- Loading gives back what was saved, but for the origin. -/
theorem load_put (hlawful : loader.converter.Lawful) (hlevels : 2 ≤ loader.levels)
    (hdirs : ∀ directory ∈ settings.directories, directory.text.head? ≠ some '~')
    {tree : FileTree} {path : Path} {location : Location}
    (htarget : tree.target path = .ok location) :
    load loader (tree.put location (.file settings.content)) path =
      (path.expandHome? loader.homes).elim (.error (.settingsInvalid path))
        fun origin ↦ .ok { settings with path := some origin } := by
  rw [load, FileTree.read_put htarget]
  dsimp only
  rw [ofContent, content, decodeStrict?_encode]
  dsimp only
  rw [Json.parse_print settings.textual_document Json.Style.settings hlevels]
  exact ofDocument_document hlawful hdirs path

/-- Settings that are saved to a path that can be written are loaded from it again, all four of
them as they were, and with the path as their origin if it does not begin with a tilde. One that
does is looked up among the home directories first: the origin is what comes of that, and nothing
is loaded if there is no such home directory. The stack has to have room for a list in an object. -/
theorem exists_load_save (hlawful : loader.converter.Lawful) (hlevels : 2 ≤ loader.levels)
    (hdirs : ∀ directory ∈ settings.directories, directory.text.head? ≠ some '~')
    {tree : FileTree} {path : Path} {location : Location}
    (htarget : tree.target path = .ok location) {destination : Option Path}
    (hdestination : destination.or settings.path = some path) :
    ∃ saved, save tree settings destination = .ok saved ∧
      (path.text.head? ≠ some '~' →
        load loader saved path = .ok { settings with path := some path }) ∧
      load loader saved path =
        (path.expandHome? loader.homes).elim (.error (.settingsInvalid path))
          fun origin ↦ .ok { settings with path := some origin } := by
  have hload := load_put hlawful hlevels hdirs htarget
  refine ⟨_, save_of_target hdestination htarget, fun hpath ↦ ?_, hload⟩
  rw [hload, Path.expandHome?_of_head hpath]
  rfl

/-- One home directory, and room for a hundred containers. -/
def Loader.trial : Loader := ⟨⟨"/home/oracle".toList, []⟩, 100, .usual⟩

/-- Settings with quotation marks, backslashes, control characters and characters outside the Basic
Multilingual Plane in their names. -/
def varied : Settings where
  path := none
  directories := [.ofText "test keytabs/\u00dc".toList, .ofText "..//\\\"/".toList, .ofText [],
    .ofText "/".toList]
  defaultLayout := "a\"\\u0041\n\x01\x7f".toList ++ [Char.ofNat 0x1F600, '/']
  inputEncoding := []
  outputEncoding := "latin-1".toList

theorem exists_load_save_varied :
    ∃ saved, save (FileTree.bare (.ofText "/".toList)) varied (some (.ofText "/s.json".toList)) =
        .ok saved ∧
      load .trial saved (.ofText "/s.json".toList) =
        .ok { varied with path := some (.ofText "/s.json".toList) } := by
  have htarget : (FileTree.bare (.ofText "/".toList)).target (.ofText "/s.json".toList) =
      .ok [⟨"s.json".toList, by decide⟩] := by
    decide +kernel
  have hdirs : ∀ directory ∈ varied.directories, directory.text.head? ≠ some '~' := by
    decide +kernel
  have hdestination : (some (Path.ofText "/s.json".toList)).or varied.path =
      some (.ofText "/s.json".toList) := rfl
  obtain ⟨saved, hsave, hload, -⟩ :=
    @exists_load_save varied .trial Converter.lawful_usual (by decide) hdirs _ _ _ htarget _
      hdestination
  exact ⟨saved, hsave, hload (by decide +kernel)⟩

/-- A file in the working directory whose name begins with a tilde is saved, but not loaded. -/
theorem load_save_tilde :
    (∀ directory ∈ trial.directories, directory.text.head? ≠ some '~') ∧
    ∃ saved, save (FileTree.bare (.ofText "/".toList)) trial (some (.ofText "~s.json".toList)) =
        .ok saved ∧
      load .trial saved (.ofText "~s.json".toList) =
        .error (.settingsInvalid (.ofText "~s.json".toList)) := by
  have hdirs : ∀ directory ∈ trial.directories, directory.text.head? ≠ some '~' := by
    decide +kernel
  have htarget : (FileTree.bare (.ofText "/".toList)).target (.ofText "~s.json".toList) =
      .ok [⟨"~s.json".toList, by decide⟩] := by
    decide +kernel
  exact ⟨hdirs, _, save_of_target rfl htarget,
    @load_put _ .trial Converter.lawful_usual (by decide) hdirs _ _ _ htarget⟩

end Settings

end TermKeys
