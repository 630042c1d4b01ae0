import TermKeys.Path

/-!
Settings: where layouts are looked for, which one is used when none is named, and the encodings
for reading lines and for turning output text into bytes.
-/

set_option autoImplicit false

namespace TermKeys

/-- The settings. Encodings are held by name, whether or not anything goes by that name. -/
structure Settings where
  /-- The file that the settings were loaded from. -/
  path : Option Path
  directories : List Path
  defaultLayout : Text
  inputEncoding : Text
  outputEncoding : Text
deriving DecidableEq, Repr

namespace Settings

/-- Settings with the given search directories and otherwise the usual values. -/
def ofDirectories (directories : List Path) : Settings where
  path := none
  directories := directories
  defaultLayout := "default".toList
  inputEncoding := "utf-8".toList
  outputEncoding := "utf-8".toList

/-- The directories that are searched where no settings are given. -/
def usualDirectories : List Path :=
  [.ofText "~/.local/share/konsole".toList, .ofText "/usr/local/share/konsole".toList,
   .ofText "/usr/share/konsole".toList]

/-- The settings where none are given. -/
def usual (homes : Homes) : Settings :=
  ofDirectories (usualDirectories.map fun path ↦ (path.expandHome? homes).getD path)

/-- The settings of a trial, with one search directory in the working directory. -/
def trial : Settings := ofDirectories [.ofText "test_keytabs".toList]

end Settings

end TermKeys
