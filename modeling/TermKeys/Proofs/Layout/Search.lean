import Mathlib.Data.List.Infix
import TermKeys.Layout.Search
import TermKeys.Proofs.FileTree.Directory
import TermKeys.Proofs.Line

/-!
Layouts that are listed and layouts that are found. The listing has the name of every entry with the
layout suffix in a search directory, whatever that entry is (`mem_available`), while a search asks
for a regular file whose name is the layout name and the suffix (`findIn_cases`). The two agree on a
listed name just when one of its entries is a regular file and is not named by the suffix alone
(`locate_of_available`).
-/

set_option autoImplicit false

namespace TermKeys.Layout

/-! ### Names with the suffix -/

theorem stemOf_append_suffix {name : Text} (h : name ≠ []) :
    Path.stemOf (name ++ suffix) = name := by
  have hsplit : Text.splitLast? '.' (name ++ suffix) = some (name, "keytab".toList) :=
    Text.splitLast?_append_cons (by decide) name
  rw [Path.stemOf, hsplit]
  simp [h]

theorem stemOf_suffix : Path.stemOf suffix = suffix := by decide

/-- The stem of an entry with the suffix is what stands in front of it, unless nothing does. -/
theorem stemOf_of_isSuffix {entry : Text} (h : suffix <:+ entry) :
    entry = suffix ∧ Path.stemOf entry = suffix ∨
      entry ≠ suffix ∧ entry = Path.stemOf entry ++ suffix := by
  obtain ⟨name, rfl⟩ := h
  by_cases hname : name = []
  · subst hname
    exact Or.inl ⟨rfl, stemOf_suffix⟩
  · refine Or.inr ⟨by simpa using hname, ?_⟩
    rw [stemOf_append_suffix hname]

/-! ### The listing -/

section

variable {α β : Type} {f : α → Except Fault (List β)}

/-- Results of steps that all succeed. -/
theorem mem_flatten_of_mapM {values : List α} {results : List (List β)}
    (h : values.mapM f = .ok results) :
    (∀ a ∈ values, ∃ result, f a = .ok result) ∧
      ∀ b, b ∈ results.flatten ↔ ∃ a ∈ values, ∃ result, f a = .ok result ∧ b ∈ result := by
  induction values generalizing results with
  | nil =>
    obtain rfl : [] = results := Except.ok.inj h
    simp
  | cons a rest ih =>
    rw [List.mapM_cons] at h
    obtain ⟨first, hfirst, h⟩ := bind_eq_ok_iff.mp h
    obtain ⟨others, hothers, h⟩ := bind_eq_ok_iff.mp h
    obtain rfl : first :: others = results := Except.ok.inj h
    obtain ⟨hall, hmem⟩ := ih hothers
    refine ⟨List.forall_mem_cons.mpr ⟨⟨first, hfirst⟩, hall⟩, fun b ↦ ?_⟩
    simp [hfirst, hmem]

end

variable {tree : FileTree} {settings : Settings}

theorem namesIn_eq_ok {directory : Path} {names : List Text}
    (h : namesIn tree directory = .ok names) :
    ∃ entries, tree.namesIn directory = .ok entries ∧
      ∀ name, name ∈ names ↔ ∃ entry ∈ entries, suffix <:+ entry ∧ Path.stemOf entry = name := by
  obtain ⟨entries, hentries, rfl⟩ := map_eq_ok_iff.mp h
  exact ⟨entries, hentries, fun name ↦ by simp [and_assoc]⟩

/-- Whether an entry of a directory makes a layout name be listed. -/
def ListedFor (tree : FileTree) (directory : Path) (name entry : Text) : Prop :=
  suffix <:+ entry ∧ Path.stemOf entry = name ∧
    ∃ entries, tree.namesIn directory = .ok entries ∧ entry ∈ entries

/-- The listing has the names of all entries with the suffix in the search directories. -/
theorem mem_available {names : List Text} (h : available tree settings = .ok names) :
    (∀ directory ∈ settings.directories, ∃ entries, tree.namesIn directory = .ok entries) ∧
      ∀ name, name ∈ names ↔
        ∃ directory ∈ settings.directories, ∃ entry, ListedFor tree directory name entry := by
  obtain ⟨lists, hlists, rfl⟩ := map_eq_ok_iff.mp h
  obtain ⟨hall, hmem⟩ := mem_flatten_of_mapM hlists
  refine ⟨fun directory hdirectory ↦ ?_, fun name ↦ ?_⟩
  · obtain ⟨names, hnames⟩ := hall directory hdirectory
    obtain ⟨entries, hentries, -⟩ := namesIn_eq_ok hnames
    exact ⟨entries, hentries⟩
  · rw [List.mem_mergeSort, List.mem_eraseDups, hmem]
    constructor
    · rintro ⟨directory, hdirectory, names, hnames, hname⟩
      obtain ⟨entries, hentries, hlisted⟩ := namesIn_eq_ok hnames
      obtain ⟨entry, hentry, hsuffix, hstem⟩ := (hlisted name).mp hname
      exact ⟨directory, hdirectory, entry, hsuffix, hstem, entries, hentries, hentry⟩
    · rintro ⟨directory, hdirectory, entry, hsuffix, hstem, entries, hentries, hentry⟩
      obtain ⟨names, hnames⟩ := hall directory hdirectory
      obtain ⟨others, hothers, hlisted⟩ := namesIn_eq_ok hnames
      obtain rfl : entries = others := Except.ok.inj (hentries.symm.trans hothers)
      exact ⟨directory, hdirectory, names, hnames,
        (hlisted name).mpr ⟨entry, hentry, hsuffix, hstem⟩⟩

/-! ### The search -/

/-- A search looks for a regular file in one directory after another. It ends with the first one
that has it, or at the first one whose path is refused. -/
theorem findIn_cases (tree : FileTree) (name : Text) (directories : List Path) :
    findIn tree name directories = .ok none ∧
        (∀ directory ∈ directories, tree.isFile (pathIn name directory) = .ok false) ∨
      ∃ before directory after, directories = before ++ directory :: after ∧
        (∀ earlier ∈ before, tree.isFile (pathIn name earlier) = .ok false) ∧
        (tree.isFile (pathIn name directory) = .ok true ∧
            findIn tree name directories = .ok (some (pathIn name directory)) ∨
          ∃ fault, tree.isFile (pathIn name directory) = .error fault ∧
            findIn tree name directories = .error fault) := by
  induction directories with
  | nil => exact Or.inl ⟨rfl, fun directory h ↦ absurd h List.not_mem_nil⟩
  | cons first rest ih =>
    rw [findIn]
    cases hfirst : tree.isFile (pathIn name first) with
    | error fault =>
      exact Or.inr ⟨[], first, rest, rfl, by simp, Or.inr ⟨fault, hfirst, rfl⟩⟩
    | ok found =>
      cases found with
      | true => exact Or.inr ⟨[], first, rest, rfl, by simp, Or.inl ⟨hfirst, rfl⟩⟩
      | false =>
        rcases ih with ⟨hnone, hall⟩ | ⟨before, directory, after, heq, hearlier, hfound⟩
        · exact Or.inl ⟨hnone, List.forall_mem_cons.mpr ⟨hfirst, hall⟩⟩
        · exact Or.inr ⟨first :: before, directory, after, by rw [heq]; rfl,
            List.forall_mem_cons.mpr ⟨hfirst, hearlier⟩, hfound⟩

/-- What is found is a regular file. -/
theorem isFile_of_locate {tree : FileTree} {name : Text} {settings : Settings} {path : Path}
    (h : locate tree name settings = .ok path) : tree.isFile path = .ok true := by
  unfold locate at h
  rcases findIn_cases tree name settings.directories with
    ⟨hnone, -⟩ | ⟨-, directory, -, -, -, ⟨hfile, hfound⟩ | ⟨fault, -, hfault⟩⟩
  · rw [hnone] at h
    exact nomatch h
  · rw [hfound] at h
    exact Except.ok.inj h ▸ hfile
  · rw [hfault] at h
    exact nomatch h

/-! ### Listed names -/

/-- Whether one of the entries that a layout name is listed for is a regular file, and not that with
nothing in front of the suffix, which is listed under its whole name. -/
def IsOfFile (tree : FileTree) (directories : List Path) (name : Text) : Prop :=
  ∃ directory ∈ directories, ∃ file : FileName,
    ListedFor tree directory name file.val ∧ file.val ≠ suffix ∧ tree.HasFile directory file

theorem ListedFor.eq_append {directory : Path} {name entry : Text}
    (h : ListedFor tree directory name entry) (hne : entry ≠ suffix) : entry = name ++ suffix := by
  obtain ⟨hsuffix, rfl, -⟩ := h
  rcases stemOf_of_isSuffix hsuffix with ⟨heq, -⟩ | ⟨-, heq⟩
  · exact absurd heq hne
  · exact heq

/-- A listed name and the suffix are the name of a file. -/
theorem ListedFor.exists_file {directory : Path} {name entry : Text}
    (h : ListedFor tree directory name entry) :
    name ≠ [] ∧ ∃ file : FileName, file.val = name ++ suffix := by
  by_cases hentry : entry = suffix
  · obtain ⟨-, rfl, -⟩ := h
    rw [hentry, stemOf_suffix]
    exact ⟨by decide, ⟨suffix ++ suffix, by decide⟩, rfl⟩
  · have heq := h.eq_append hentry
    obtain ⟨-, -, entries, hentries, hmem⟩ := h
    obtain ⟨-, -, -, file, hfile, -⟩ := (FileTree.mem_namesIn hentries).mp hmem
    refine ⟨?_, file, hfile.trans heq⟩
    rintro rfl
    exact hentry heq

theorem pathIn_eq {name : Text} {file : FileName} (h : file.val = name ++ suffix)
    (directory : Path) : pathIn name directory = directory.join (Path.ofName file) := by
  rw [pathIn, ← h, Path.ofText_name]

/-- Whether a search finds a file in a directory whose names can be asked for is told by the
directory, and it is refused there only if the path of the file is too long. -/
theorem isFile_pathIn {directory : Path} {entries : List Text}
    (h : tree.namesIn directory = .ok entries) {name : Text} {file : FileName}
    (hfile : file.val = name ++ suffix) :
    (∀ found, tree.isFile (pathIn name directory) = .ok found →
        (found = true ↔ tree.HasFile directory file)) ∧
      ∀ fault, tree.isFile (pathIn name directory) = .error fault →
        fault = .file .nameTooLong (pathIn name directory) ∧
          ¬ FileTree.Fits (pathIn name directory) := by
  obtain ⟨place, hplace⟩ := FileTree.exists_place_of_namesIn h
  have hjoin := FileTree.isFile_join hplace file
  rw [← pathIn_eq hfile] at hjoin
  rcases hjoin with ⟨found, hfound, hiff⟩ | ⟨hrefused, hlong⟩
  · rw [hfound]
    exact ⟨fun _ hok ↦ Except.ok.inj hok ▸ hiff, fun _ herror ↦ nomatch herror⟩
  · rw [hrefused]
    exact ⟨fun _ hok ↦ (nomatch hok), fun _ herror ↦ ⟨(Except.error.inj herror).symm, hlong⟩⟩

/-- A listed name is that of a file just when a search directory has the file that a search asks
for. -/
theorem isOfFile_iff {names : List Text} (h : available tree settings = .ok names) {name : Text}
    (hne : name ≠ []) {file : FileName} (hfile : file.val = name ++ suffix) :
    IsOfFile tree settings.directories name ↔
      ∃ directory ∈ settings.directories, tree.HasFile directory file := by
  constructor
  · rintro ⟨directory, hdirectory, other, hlisted, hsuffix, hhas⟩
    have heq : other = file := Subtype.ext ((hlisted.eq_append hsuffix).trans hfile.symm)
    exact ⟨directory, hdirectory, heq ▸ hhas⟩
  · rintro ⟨directory, hdirectory, hhas⟩
    obtain ⟨entries, hentries⟩ := (mem_available h).1 directory hdirectory
    refine ⟨directory, hdirectory, file, ⟨?_, ?_, entries, hentries, hhas.mem_namesIn hentries⟩,
      ?_, hhas⟩
    · exact hfile ▸ List.suffix_append name suffix
    · rw [hfile, stemOf_append_suffix hne]
    · rw [hfile]
      simpa using hne

/-- A name that is listed is found as a regular file in one of the search directories if one of the
entries that it is listed for is such a file and is not named by the suffix alone, and otherwise no
layout of that name is found. A search may also end at a path that is too long. -/
theorem locate_of_available {names : List Text} (h : available tree settings = .ok names)
    {name : Text} (hname : name ∈ names) :
    (∃ directory ∈ settings.directories, ∃ content,
        locate tree name settings = .ok (pathIn name directory) ∧
          tree.read (pathIn name directory) = .ok content ∧
          IsOfFile tree settings.directories name) ∨
      (locate tree name settings = .error (.layoutNotFound name settings.directories) ∧
        ¬ IsOfFile tree settings.directories name) ∨
      ∃ directory ∈ settings.directories,
        locate tree name settings = .error (.file .nameTooLong (pathIn name directory)) ∧
          ¬ FileTree.Fits (pathIn name directory) := by
  obtain ⟨hall, hmem⟩ := mem_available h
  obtain ⟨_, -, entry, hlisted⟩ := (hmem name).mp hname
  obtain ⟨hne, file, hfile⟩ := hlisted.exists_file
  rw [isOfFile_iff h hne hfile]
  rcases findIn_cases tree name settings.directories with
    ⟨hnone, hfalse⟩ | ⟨before, directory, after, hsplit, -, hend⟩
  · refine Or.inr (Or.inl ⟨by rw [locate, hnone]; rfl, ?_⟩)
    rintro ⟨directory, hdirectory, hhas⟩
    obtain ⟨entries, hentries⟩ := hall directory hdirectory
    have hfound := (isFile_pathIn hentries hfile).1 false (hfalse directory hdirectory)
    exact Bool.false_ne_true (hfound.mpr hhas)
  · have hdirectory : directory ∈ settings.directories := by simp [hsplit]
    obtain ⟨entries, hentries⟩ := hall directory hdirectory
    obtain ⟨hfound, hrefused⟩ := isFile_pathIn hentries hfile
    rcases hend with ⟨htrue, hsome⟩ | ⟨fault, herror, hstop⟩
    · obtain ⟨content, hcontent⟩ := FileTree.isFile_eq_true_iff.mp htrue
      exact Or.inl ⟨directory, hdirectory, content, by rw [locate, hsome]; rfl, hcontent,
        directory, hdirectory, (hfound true htrue).mp rfl⟩
    · obtain ⟨rfl, hlong⟩ := hrefused fault herror
      exact Or.inr (Or.inr ⟨directory, hdirectory, by rw [locate, hstop]; rfl, hlong⟩)

/-! ### Entries that are no layout files -/

/-- Two directories. The first has a directory and a file with nothing in front of the suffix among
its entries with the suffix; the second has a file of the same name as that directory. -/
def twoDirectories : FileTree :=
  (((FileTree.bare (.ofText "/".toList)).addDirectory (.ofText "/d/a.b.keytab".toList)).addFile
    (.ofText "/d/.keytab".toList) []).addFile (.ofText "/e/a.b.keytab".toList) []

/-- The settings that search some directories. -/
def searching (directories : List Text) : Settings :=
  .ofDirectories (directories.map Path.ofText)

/-- A name with a dot in it that is a directory in the first search directory is found in the
second. -/
theorem locate_of_available_second :
    ∃ names, available twoDirectories (searching ["/d".toList, "/e".toList]) = .ok names ∧
      "a.b".toList ∈ names ∧
      locate twoDirectories "a.b".toList (searching ["/d".toList, "/e".toList]) =
        .ok (.ofText "/e/a.b.keytab".toList) ∧
      IsOfFile twoDirectories (searching ["/d".toList, "/e".toList]).directories "a.b".toList := by
  have hlist : (available twoDirectories (searching ["/d".toList, "/e".toList])).map
      (fun _ ↦ ()) = .ok () := by
    decide +kernel
  have hlocate : locate twoDirectories "a.b".toList (searching ["/d".toList, "/e".toList]) =
      .ok (.ofText "/e/a.b.keytab".toList) := by
    decide +kernel
  cases hnames : available twoDirectories (searching ["/d".toList, "/e".toList]) with
  | error fault =>
    rw [hnames] at hlist
    exact nomatch hlist
  | ok names =>
    have hname : "a.b".toList ∈ names :=
      ((mem_available hnames).2 _).mpr ⟨.ofText "/e".toList, by decide +kernel,
        "a.b.keytab".toList, by decide, by decide, ["a.b.keytab".toList], by decide +kernel,
        by decide⟩
    refine ⟨names, rfl, hname, hlocate, ?_⟩
    rcases locate_of_available hnames hname with
      ⟨_, -, _, -, -, hfile⟩ | ⟨herror, -⟩ | ⟨_, -, herror, -⟩
    · exact hfile
    · rw [hlocate] at herror
      exact nomatch herror
    · rw [hlocate] at herror
      exact nomatch herror

/-- Neither a directory with the suffix nor a file with nothing in front of it is found under the
name it is listed with. -/
theorem locate_of_available_none :
    ∃ names, available twoDirectories (searching ["/d".toList]) = .ok names ∧
      ("a.b".toList ∈ names ∧
        locate twoDirectories "a.b".toList (searching ["/d".toList]) =
          .error (.layoutNotFound "a.b".toList [.ofText "/d".toList])) ∧
      ".keytab".toList ∈ names ∧
      locate twoDirectories ".keytab".toList (searching ["/d".toList]) =
        .error (.layoutNotFound ".keytab".toList [.ofText "/d".toList]) := by
  have hlist : (available twoDirectories (searching ["/d".toList])).map (fun _ ↦ ()) = .ok () := by
    decide +kernel
  have hentries : twoDirectories.namesIn (.ofText "/d".toList) =
      .ok [".keytab".toList, "a.b.keytab".toList] := by
    decide +kernel
  cases hnames : available twoDirectories (searching ["/d".toList]) with
  | error fault =>
    rw [hnames] at hlist
    exact nomatch hlist
  | ok names =>
    obtain ⟨-, hmem⟩ := mem_available hnames
    refine ⟨names, rfl, ⟨(hmem _).mpr ?_, by decide +kernel⟩, (hmem _).mpr ?_, by decide +kernel⟩
    · exact ⟨_, List.mem_cons_self, "a.b.keytab".toList, by decide, by decide, _, hentries,
        by decide⟩
    · exact ⟨_, List.mem_cons_self, suffix, by decide, by decide, _, hentries, by decide⟩

end TermKeys.Layout
