import TermKeys.Proofs.Json.Nesting
import TermKeys.Proofs.Settings.Reload

/-!
How loading settings ends. From a path without a tilde in front, whose file is missing, or holds no
text, or holds an object with brackets no deeper than reading allows, loading gives settings with
that path as their origin or one of the two faults of a settings file (`load_isSettled_iff`). It
ends in another way just if the text is a document but no object, if it is too deep, or if the path
that settings keep is another one because of its tilde.
-/

set_option autoImplicit false

namespace TermKeys.Settings

/-- The ways in which loading from a path is meant to end: with settings that have the path as their
origin, or with one of the faults of a settings file. -/
def IsSettled (path : Path) (result : Except Fault Settings) : Prop :=
  (∃ settings, result = .ok settings ∧ settings.path = some path) ∨
    result = .error (.settingsUnreadable path) ∨ result = .error (.settingsInvalid path)

@[simp] theorem isSettled_ok {path : Path} {settings : Settings} :
    IsSettled path (.ok settings) ↔ settings.path = some path := by
  simp [IsSettled]

@[simp] theorem isSettled_error {path : Path} {fault : Fault} :
    IsSettled path (.error fault) ↔
      fault = .settingsUnreadable path ∨ fault = .settingsInvalid path := by
  simp [IsSettled]

/-- A text that is an object if it is a document at all, and that is not given up as too deep. -/
structure IsObjectIfAny (levels : Nat) (text : Text) : Prop where
  begins : ∀ document, Json.parse levels text = .ok document →
    (Json.skipSpace text).head? = some '\x7b'
  notTooDeep : ∀ container, Json.parse levels text ≠ .error (.tooDeep container)

/-- Brackets that do not stand too deep are not too deep for the reader. -/
theorem IsObjectIfAny.of_nesting {levels : Nat} {text : Text}
    (hbegins : ∀ document, Json.parse levels text = .ok document →
      (Json.skipSpace text).head? = some '\x7b')
    (hnesting : Json.nesting 0 .outside text ≤ levels) : IsObjectIfAny levels text where
  begins := hbegins
  notTooDeep _ hparse := absurd (Json.lt_nesting_of_parse hparse) (Nat.not_lt.mpr hnesting)

variable {loader : Loader} {path : Path}

/-- Settings keep the path they were read from with its tilde replaced. -/
theorem path_of_ofFields? {fields : List (Text × Json)} {settings : Settings}
    (h : ofFields? loader path fields = some settings) :
    settings.path = path.expandHome? loader.homes := by
  obtain ⟨_, -, h⟩ := Option.bind_eq_some_iff.mp h
  obtain ⟨_, -, h⟩ := Option.bind_eq_some_iff.mp h
  obtain ⟨origin, horigin, h⟩ := Option.bind_eq_some_iff.mp h
  obtain ⟨_, -, h⟩ := Option.bind_eq_some_iff.mp h
  obtain ⟨_, -, h⟩ := Option.bind_eq_some_iff.mp h
  obtain ⟨_, -, h⟩ := Option.bind_eq_some_iff.mp h
  rw [horigin, ← Option.some.inj h]

theorem path_of_ofDocument {document : Json} {settings : Settings}
    (h : ofDocument loader path document = .ok settings) :
    settings.path = path.expandHome? loader.homes := by
  unfold ofDocument at h
  split at h
  · split at h
    · next hfields => exact Except.ok.inj h ▸ path_of_ofFields? hfields
    · exact nomatch h
  · exact nomatch h

theorem ofDocument_of_not_object {document : Json} (h : document.isObject = false) :
    ofDocument loader path document =
      .error (.settingsNotObject (document.kind?.getD .nothing)) := by
  cases document with
  | object fields => exact nomatch h
  | _ => rfl

theorem fault_of_object {document : Json} {fault : Fault} (h : document.isObject = true)
    (hfault : ofDocument loader path document = .error fault) : fault = .settingsInvalid path := by
  cases document with
  | object fields =>
    rw [ofDocument] at hfault
    cases hfields : ofFields? loader path fields with
    | some settings =>
      rw [hfields] at hfault
      cases hfault
    | none =>
      rw [hfields] at hfault
      exact (Except.error.inj hfault).symm
  | _ => cases h

theorem ofDocument_isSettled_iff (loader : Loader) (path : Path) (document : Json) :
    IsSettled path (ofDocument loader path document) ↔
      document.isObject = true ∧
        ∀ settings, ofDocument loader path document = .ok settings →
          path.expandHome? loader.homes = some path := by
  cases hobject : document.isObject with
  | false =>
    rw [ofDocument_of_not_object hobject]
    simp
  | true =>
    rw [eq_self_iff_true, true_and]
    cases hresult : ofDocument loader path document with
    | ok settings =>
      have horigin := path_of_ofDocument hresult
      refine ⟨fun hsettled _ _ ↦ horigin.symm.trans (isSettled_ok.mp hsettled), fun hpath ↦ ?_⟩
      exact isSettled_ok.mpr (horigin.trans (hpath settings rfl))
    | error fault =>
      refine ⟨fun _ _ hok ↦ (nomatch hok), fun _ ↦ ?_⟩
      exact isSettled_error.mpr (Or.inr (fault_of_object hobject hresult))

theorem ofContent_isSettled_iff (loader : Loader) (path : Path) (content : Bytes) :
    IsSettled path (ofContent loader path content) ↔
      (∀ text, Encoding.utf8.decodeStrict? content = some text → IsObjectIfAny loader.levels text) ∧
      ∀ settings, ofContent loader path content = .ok settings →
        path.expandHome? loader.homes = some path := by
  unfold ofContent
  cases Encoding.utf8.decodeStrict? content with
  | none => simp
  | some text =>
    dsimp only
    cases hparse : Json.parse loader.levels text with
    | error flaw =>
      cases flaw with
      | malformed =>
        have hany : IsObjectIfAny loader.levels text := ⟨by simp [hparse], by simp [hparse]⟩
        simp [hany]
      | tooDeep container =>
        have hany : ¬IsObjectIfAny loader.levels text := fun h ↦ h.notTooDeep container hparse
        simp [hany]
    | ok document =>
      have hobject := Json.isObject_of_parse hparse
      have hany : IsObjectIfAny loader.levels text ↔ document.isObject = true := by
        rw [hobject, decide_eq_true_iff]
        exact ⟨fun h ↦ h.begins document hparse, fun h ↦ ⟨fun _ _ ↦ h, by simp [hparse]⟩⟩
      simp [ofDocument_isSettled_iff, hany]

/-- What goes wrong with a file's content otherwise. -/
theorem fault_of_ofContent {content : Bytes} {fault : Fault}
    (h : ofContent loader path content = .error fault) :
    IsSettled path (.error fault) ∨ (∃ kind, fault = .settingsNotObject kind) ∨
      ∃ container, fault = .settingsTooDeep container := by
  unfold ofContent at h
  split at h
  · exact Or.inl (isSettled_error.mpr (Or.inl (Except.error.inj h).symm))
  · split at h
    · next document _ =>
      cases hobject : document.isObject with
      | true => exact Or.inl (isSettled_error.mpr (Or.inr (fault_of_object hobject h)))
      | false =>
        rw [ofDocument_of_not_object hobject] at h
        exact Or.inr (Or.inl ⟨_, (Except.error.inj h).symm⟩)
    · exact Or.inl (isSettled_error.mpr (Or.inl (Except.error.inj h).symm))
    · exact Or.inr (Or.inr ⟨_, (Except.error.inj h).symm⟩)

theorem isSettled_iff (loader : Loader) (tree : FileTree) (path : Path) :
    IsSettled path (load loader tree path) ↔
      (∀ content text, tree.read path = .ok content →
        Encoding.utf8.decodeStrict? content = some text → IsObjectIfAny loader.levels text) ∧
      ∀ settings, load loader tree path = .ok settings →
        path.expandHome? loader.homes = some path := by
  unfold load
  cases hread : tree.read path with
  | error fault => simp
  | ok content =>
    dsimp only
    rw [ofContent_isSettled_iff]
    refine and_congr_left fun _ ↦ ⟨fun h content' text hcontent ↦ ?_,
      fun h text ↦ h content text rfl⟩
    rw [← Except.ok.inj hcontent]
    exact h text

/-- Loading settings from a path ends as it is meant to, unless the file holds a document that is no
object or a text that is too deep, or the tilde in front of the path stands for another one. In
particular it does so where there is no tilde, and brackets in the file do not stand too deep, and
no document in it begins otherwise than with a brace. There are two faults for the first two cases,
and no others. -/
theorem load_isSettled_iff (loader : Loader) (tree : FileTree) (path : Path) :
    (IsSettled path (load loader tree path) ↔
      (∀ content text, tree.read path = .ok content →
        Encoding.utf8.decodeStrict? content = some text → IsObjectIfAny loader.levels text) ∧
      ∀ settings, load loader tree path = .ok settings →
        path.expandHome? loader.homes = some path) ∧
    (path.text.head? ≠ some '~' →
      (∀ content text, tree.read path = .ok content →
        Encoding.utf8.decodeStrict? content = some text →
        (∀ document, Json.parse loader.levels text = .ok document →
          (Json.skipSpace text).head? = some '\x7b') ∧
        Json.nesting 0 .outside text ≤ loader.levels) →
      IsSettled path (load loader tree path)) ∧
    ∀ fault, load loader tree path = .error fault →
      IsSettled path (.error fault) ∨ (∃ kind, fault = .settingsNotObject kind) ∨
        ∃ container, fault = .settingsTooDeep container := by
  have hiff := isSettled_iff loader tree path
  refine ⟨hiff, fun hpath htexts ↦ hiff.mpr ⟨fun content text hread htext ↦ ?_, fun _ _ ↦ ?_⟩,
    fun fault hfault ↦ ?_⟩
  · obtain ⟨hbegins, hnesting⟩ := htexts content text hread htext
    exact .of_nesting hbegins hnesting
  · exact Path.expandHome?_of_head hpath loader.homes
  · unfold load at hfault
    split at hfault
    · exact fault_of_ofContent hfault
    · exact Or.inl (isSettled_error.mpr (Or.inl (Except.error.inj hfault).symm))

/-- A root directory with nothing but a file `s.json` in it. -/
def treeOf (text : Text) : FileTree :=
  (FileTree.bare (.ofText "/".toList)).put [⟨"s.json".toList, by decide⟩] (.file (Utf8.encode text))

theorem read_treeOf (text : Text) :
    (treeOf text).read (.ofText "/s.json".toList) = .ok (Utf8.encode text) := by
  have htarget : (FileTree.bare (.ofText "/".toList)).target (.ofText "/s.json".toList) =
      .ok [⟨"s.json".toList, by decide⟩] := by
    decide +kernel
  exact FileTree.read_put htarget _

/-- A document with a directory that has brackets and a quotation mark in its name. -/
def bracketed : Text := "\n\x7b\"keytab_dirs\": [\"[[\\\"[\", \"a\"]\x7d".toList

theorem load_isSettled_iff_bracketed :
    (treeOf bracketed).read (.ofText "/s.json".toList) = .ok (Utf8.encode bracketed) ∧
    Json.nesting 0 .outside bracketed = 2 ∧
    IsSettled (.ofText "/s.json".toList)
      (load .trial (treeOf bracketed) (.ofText "/s.json".toList)) := by
  have hpath : (Path.ofText "/s.json".toList).text.head? ≠ some '~' := by decide +kernel
  have hread := read_treeOf bracketed
  have hnesting : Json.nesting 0 .outside bracketed = 2 := by decide
  have hsettled := (load_isSettled_iff .trial (treeOf bracketed)
    (.ofText "/s.json".toList)).2.1 hpath fun content text hcontent htext ↦ by
      rw [hread] at hcontent
      rw [← Except.ok.inj hcontent, decodeStrict?_encode] at htext
      rw [← Option.some.inj htext]
      exact ⟨fun _ _ ↦ by decide, hnesting ▸ (by decide)⟩
  exact ⟨hread, hnesting, hsettled⟩

theorem load_treeOf (loader : Loader) (text : Text) :
    load loader (treeOf text) (.ofText "/s.json".toList) =
      ofContent loader (.ofText "/s.json".toList) (Utf8.encode text) := by
  rw [load, read_treeOf]

theorem ofContent_of_parse {text : Text} {document : Json}
    (h : Json.parse loader.levels text = .ok document) :
    ofContent loader path (Utf8.encode text) = ofDocument loader path document := by
  simp only [ofContent, decodeStrict?_encode, h]

theorem ofContent_of_tooDeep {text : Text} {container : Container}
    (h : Json.parse loader.levels text = .error (.tooDeep container)) :
    ofContent loader path (Utf8.encode text) = .error (.settingsTooDeep container) := by
  simp only [ofContent, decodeStrict?_encode, h]

/-- The usual settings of a trial in a directory that is named by a tilde. -/
def tildeTree : FileTree :=
  ((FileTree.bare (.ofText "/".toList)).put [⟨"~".toList, by decide⟩] .directory).put
    [⟨"~".toList, by decide⟩, ⟨"s.json".toList, by decide⟩] (.file trial.content)

/-- A list is refused with another fault, and so are too many brackets, however many the stack has
room for; and settings that are read from a directory named by a tilde are taken for those of a home
directory. -/
theorem not_isSettled_load :
    ¬IsSettled (.ofText "/s.json".toList)
        (load .trial (treeOf "[]".toList) (.ofText "/s.json".toList)) ∧
      (∀ levels, ¬IsSettled (.ofText "/s.json".toList)
        (load { Loader.trial with levels := levels } (treeOf (List.replicate (levels + 1) '['))
          (.ofText "/s.json".toList))) ∧
      ¬IsSettled (.ofText "~/s.json".toList)
        (load .trial tildeTree (.ofText "~/s.json".toList)) := by
  have hlist : Json.parse Loader.trial.levels "[]".toList = .ok (.list []) := rfl
  have hdirs : ∀ directory ∈ trial.directories, directory.text.head? ≠ some '~' := by
    decide +kernel
  have htarget : ((FileTree.bare (.ofText "/".toList)).put [⟨"~".toList, by decide⟩]
      .directory).target (.ofText "~/s.json".toList) =
        .ok [⟨"~".toList, by decide⟩, ⟨"s.json".toList, by decide⟩] := by
    decide +kernel
  have hhome : (Path.ofText "~/s.json".toList).expandHome? Loader.trial.homes =
      some (.ofText "/home/oracle/s.json".toList) := by
    decide +kernel
  refine ⟨?_, fun levels ↦ ?_, ?_⟩
  · rw [load_treeOf, ofContent_of_parse hlist]
    simp [ofDocument]
  · have hdeep := Json.parse_replicate levels []
    rw [List.append_nil] at hdeep
    rw [load_treeOf, ofContent_of_tooDeep hdeep]
    simp
  · rw [tildeTree, load_put Converter.lawful_usual (by decide) hdirs htarget, hhome,
      Option.elim_some, isSettled_ok]
    decide +kernel

end TermKeys.Settings
