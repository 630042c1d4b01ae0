import TermKeys.Proofs.Layout.Search

/-!
What a listing and a search owe to the order of the search directories. A listing has its names in
the order of code points, each once, and is the same for any directories that are the same as a set
(`available_eq_of_mem_iff`). It has every name that a search resolves (`mem_available_of_locate`). A
search gives the path in the earliest directory that has the file (`locate_eq_ok_iff`), so it is not
changed by directories behind that one. Both ask the tree for paths that may be too long, and end
with a fault at the first of these even where another directory would do: `available_and_locate` is
what holds, and `available_tooLong` a search path on which both end so.
-/

set_option autoImplicit false

namespace TermKeys

/-! ### The order of code points -/

namespace Layout

/-- Whether a text comes before another one: it is the beginning of the other, or has the lower code
point at the first place where they differ. -/
def Precedes (first second : Text) : Prop :=
  List.Lex (fun c d : Char ↦ c.toNat < d.toNat) first second

theorem textLe_cons {c d : Char} {first second : Text} :
    textLe (c :: first) (d :: second) = true ↔
      c.toNat < d.toNat ∨ c = d ∧ textLe first second = true := by
  simp [textLe, Char.toNat_inj]

theorem textLe_trans (first second third : Text) (h : textLe first second = true)
    (h' : textLe second third = true) : textLe first third = true := by
  induction first generalizing second third with
  | nil => rfl
  | cons c rest ih =>
    rcases second with - | ⟨d, more⟩
    · exact nomatch h
    rcases third with - | ⟨e, others⟩
    · exact nomatch h'
    rw [textLe_cons] at h h' ⊢
    rcases h with hlt | ⟨rfl, hrest⟩
    · rcases h' with hlt' | ⟨rfl, -⟩
      · exact Or.inl (hlt.trans hlt')
      · exact Or.inl hlt
    · exact h'.imp_right fun hand ↦ ⟨hand.1, ih _ _ hrest hand.2⟩

theorem textLe_total (first second : Text) :
    (textLe first second || textLe second first) = true := by
  rw [Bool.or_eq_true]
  induction first generalizing second with
  | nil => exact Or.inl rfl
  | cons c rest ih =>
    rcases second with - | ⟨d, more⟩
    · exact Or.inr rfl
    rw [textLe_cons, textLe_cons]
    rcases Nat.lt_trichotomy c.toNat d.toNat with hlt | heq | hlt
    · exact Or.inl (Or.inl hlt)
    · obtain rfl := Char.toNat_inj.mp heq
      exact (ih more).imp (fun h ↦ Or.inr ⟨rfl, h⟩) fun h ↦ Or.inr ⟨rfl, h⟩
    · exact Or.inr (Or.inl hlt)

theorem precedes_of_textLe {first second : Text} (h : textLe first second = true)
    (hne : first ≠ second) : Precedes first second := by
  induction first generalizing second with
  | nil =>
    obtain ⟨d, more, rfl⟩ := List.exists_cons_of_ne_nil hne.symm
    exact List.Lex.nil
  | cons c rest ih =>
    rcases second with - | ⟨d, more⟩
    · exact nomatch h
    rcases textLe_cons.mp h with hlt | ⟨rfl, hrest⟩
    · exact List.Lex.rel hlt
    · exact List.Lex.cons (ih hrest fun heq ↦ hne (congrArg (c :: ·) heq))

theorem textLe_antisymm {first second : Text} (h : textLe first second = true)
    (h' : textLe second first = true) : first = second := by
  induction first generalizing second with
  | nil =>
    rcases second with - | ⟨d, more⟩
    · rfl
    · exact nomatch h'
  | cons c rest ih =>
    rcases second with - | ⟨d, more⟩
    · exact nomatch h
    rw [textLe_cons] at h h'
    rcases h with hlt | ⟨rfl, hrest⟩
    · have hle : d.toNat ≤ c.toNat := h'.elim Nat.le_of_lt fun hand ↦ hand.1 ▸ Nat.le_refl _
      exact absurd hlt (Nat.not_lt_of_le hle)
    · exact congrArg (c :: ·) (ih hrest (h'.resolve_left (Nat.lt_irrefl _)).2)

end Layout

theorem nodup_eraseDups {α : Type} [BEq α] [LawfulBEq α] (list : List α) :
    list.eraseDups.Nodup := by
  induction hlength : list.length using Nat.strongRecOn generalizing list with
  | ind length ih =>
    cases list with
    | nil => exact List.nodup_nil
    | cons a rest =>
      rw [List.eraseDups_cons]
      refine List.nodup_cons.mpr ⟨fun hmem ↦ ?_, ih _ ?_ _ rfl⟩
      · simpa using (List.mem_filter.mp (List.mem_eraseDups.mp hmem)).2
      · rw [← hlength]
        exact Nat.lt_succ_of_le (List.length_filter_le _ rest)

/-! ### Paths that are too long -/

namespace FileTree

variable {tree : FileTree} {path : Path}

/-- Whether the tree can be asked what stands at a path. -/
def Answers (tree : FileTree) (path : Path) : Prop := ∃ place, tree.place? path = .ok place

theorem exists_part_of_walk {here : Location} {parts : List Text}
    (h : tree.walk here parts = .error .nameTooLong) :
    ∃ part ∈ parts, nameLimit < (Utf8.encode part).length := by
  induction parts generalizing here with
  | nil => cases h
  | cons part rest ih =>
    rw [walk] at h
    split at h
    · cases h
    · cases h
    · split_ifs at h with hlong
      · exact ⟨part, List.mem_cons_self, hlong⟩
      · obtain ⟨other, hother, hlimit⟩ := ih h
        exact ⟨other, List.mem_cons_of_mem _ hother, hlimit⟩

/-- Only a path that is too long, or has such a name in it, is refused. -/
theorem fault_of_place? {fault : Fault} (h : tree.place? path = .error fault) :
    fault = .file .nameTooLong path ∧ ¬ Fits path := by
  unfold place? at h
  split_ifs at h
  cases hlocate : tree.locate path with
  | ok location =>
    rw [hlocate] at h
    exact nomatch h
  | error cause =>
    rw [hlocate] at h
    cases cause with
    | missing | notDirectory | isDirectory => exact nomatch h
    | nameTooLong =>
      refine ⟨(Except.error.inj h).symm, fun hfits ↦ ?_⟩
      unfold locate at hlocate
      split_ifs at hlocate with hlimit
      · exact absurd hfits.path_le (Nat.not_le_of_lt hlimit)
      · obtain ⟨part, hpart, hlong⟩ := exists_part_of_walk hlocate
        exact absurd (hfits.name_le part hpart) (Nat.not_le_of_lt hlong)

theorem answers_of_fits (h : Fits path) : tree.Answers path := by
  cases hplace : tree.place? path with
  | ok place => exact ⟨place, hplace⟩
  | error fault => exact absurd h (fault_of_place? hplace).2

theorem answers_iff_namesIn : tree.Answers path ↔ ∃ names, tree.namesIn path = .ok names := by
  unfold Answers namesIn
  cases tree.place? path <;> simp [Except.map]

theorem answers_iff_isFile : tree.Answers path ↔ ∃ found, tree.isFile path = .ok found := by
  unfold Answers isFile
  cases tree.place? path <;> simp [Except.map]

end FileTree

namespace Layout

variable {tree : FileTree} {settings : Settings}

/-! ### The listing -/

theorem exists_mapM_of_forall {α β : Type} {f : α → Except Fault β} {values : List α}
    (h : ∀ a ∈ values, ∃ b, f a = .ok b) : ∃ results, values.mapM f = .ok results := by
  induction values with
  | nil => exact ⟨[], rfl⟩
  | cons a rest ih =>
    obtain ⟨b, hb⟩ := h a List.mem_cons_self
    obtain ⟨others, hothers⟩ := ih fun other hother ↦ h other (List.mem_cons_of_mem _ hother)
    exact ⟨b :: others, by rw [List.mapM_cons, hb, hothers]; rfl⟩

/-- There is a listing just if none of the search directories has a path that is refused. -/
theorem exists_available_iff :
    (∃ names, available tree settings = .ok names) ↔
      ∀ directory ∈ settings.directories, tree.Answers directory := by
  constructor
  · rintro ⟨names, hnames⟩ directory hdirectory
    exact FileTree.answers_iff_namesIn.mpr ((mem_available hnames).1 directory hdirectory)
  · intro h
    have hlists : ∀ directory ∈ settings.directories,
        ∃ names, namesIn tree directory = .ok names := by
      intro directory hdirectory
      obtain ⟨entries, hentries⟩ := FileTree.answers_iff_namesIn.mp (h directory hdirectory)
      exact ⟨_, by rw [namesIn, hentries]; rfl⟩
    obtain ⟨lists, hmap⟩ := exists_mapM_of_forall hlists
    exact ⟨_, by rw [available, hmap]; rfl⟩

/-- The names of a listing stand in their order, and each of them once. -/
theorem sorted_available {names : List Text} (h : available tree settings = .ok names) :
    names.Pairwise (fun first second ↦ textLe first second = true) ∧ names.Nodup := by
  obtain ⟨lists, -, rfl⟩ := map_eq_ok_iff.mp h
  refine ⟨List.pairwise_mergeSort textLe_trans textLe_total _, ?_⟩
  exact (List.mergeSort_perm _ _).nodup_iff.mpr (nodup_eraseDups _)

theorem pairwise_precedes_available {names : List Text} (h : available tree settings = .ok names) :
    names.Pairwise Precedes := by
  obtain ⟨hsorted, hnodup⟩ := sorted_available h
  exact (hsorted.and hnodup).imp fun hand ↦ precedes_of_textLe hand.1 hand.2

/-- Neither the order of the search directories nor their repetitions matter to the listing. -/
theorem available_eq_of_mem_iff {other : Settings}
    (hmem : ∀ directory, directory ∈ other.directories ↔ directory ∈ settings.directories)
    {names : List Text} (h : available tree settings = .ok names) :
    available tree other = .ok names := by
  have hanswers := exists_available_iff.mp ⟨names, h⟩
  obtain ⟨others, hothers⟩ := exists_available_iff.mpr fun directory hdirectory ↦
    hanswers directory ((hmem directory).mp hdirectory)
  obtain ⟨hsorted, hnodup⟩ := sorted_available h
  obtain ⟨hsorted', hnodup'⟩ := sorted_available hothers
  have hperm : others.Perm names := (List.perm_ext_iff_of_nodup hnodup' hnodup).mpr fun name ↦ by
    rw [(mem_available hothers).2, (mem_available h).2]
    simp only [hmem]
  rw [hothers, hperm.eq_of_pairwise (fun _ _ _ _ ↦ textLe_antisymm) hsorted' hsorted]

/-! ### Names that are resolved -/

/-- A name that is not in the way of a path is read as the path of that one name. -/
theorem ofText_of_isPathName {text : Text} (h : isPathName text = true) :
    Path.ofText text = ⟨.relative, [text], by simpa using h⟩ := by
  have htext : (⟨.relative, [text], by simpa using h⟩ : Path).text = text := by
    simp [Path.text, Anchor.text]
  conv_lhs => rw [← htext, Path.ofText_text]

/-- A name that is resolved without slashes is, with the suffix, the name of a file. -/
theorem exists_fileName {name : Text} (hslash : '/' ∉ name) {directory : Path}
    (h : tree.isFile (pathIn name directory) = .ok true) :
    ∃ file : FileName, file.val = name ++ suffix := by
  have hlong : 2 < (name ++ suffix).length := by
    rw [List.length_append]
    exact Nat.lt_of_lt_of_le (by decide) (Nat.le_add_left _ _)
  have hname : isPathName (name ++ suffix) = true := by
    refine Path.isPathName_iff.mpr ⟨?_, ?_, ?_⟩
    · rintro heq
      simp [heq] at hlong
    · rintro heq
      simp [heq] at hlong
    · rw [List.mem_append, not_or]
      exact ⟨hslash, by decide⟩
  have hnull : Char.ofNat 0 ∉ name ++ suffix := by
    intro hmem
    have hhas : FileTree.hasNull (pathIn name directory) = true := by
      rw [FileTree.hasNull, List.contains_iff_mem, Path.mem_text (by decide) (by decide), pathIn,
        ofText_of_isPathName hname]
      exact ⟨_, List.mem_append_right _ List.mem_cons_self, hmem⟩
    rw [FileTree.isFile, FileTree.place?, if_pos hhas] at h
    cases h
  refine ⟨⟨name ++ suffix, ?_⟩, rfl⟩
  have hdots : name ++ suffix ≠ ['.', '.'] := by
    rintro heq
    simp [heq] at hlong
  simp [isFileName, hname, hdots, hnull]

/-! ### The earliest directory -/

/-- Whether a directory is the first one, behind some others, in which a layout name is that of a
regular file. -/
structure IsEarliest (tree : FileTree) (name : Text) (before : List Path) (directory : Path) :
    Prop where
  exists_content : ∃ content, tree.read (pathIn name directory) = .ok content
  not_before : ∀ earlier ∈ before, ∀ content, tree.read (pathIn name earlier) ≠ .ok content

theorem isFile_eq_false_iff {path : Path} :
    tree.isFile path = .ok false ↔
      tree.Answers path ∧ ∀ content, tree.read path ≠ .ok content := by
  constructor
  · refine fun h ↦ ⟨FileTree.answers_iff_isFile.mpr ⟨false, h⟩, fun content hread ↦ ?_⟩
    have htrue := FileTree.isFile_eq_true_iff.mpr ⟨content, hread⟩
    exact Bool.false_ne_true (Except.ok.inj (h.symm.trans htrue))
  · rintro ⟨hanswers, hnone⟩
    obtain ⟨found, hfound⟩ := FileTree.answers_iff_isFile.mp hanswers
    cases found with
    | false => exact hfound
    | true =>
      obtain ⟨content, hread⟩ := FileTree.isFile_eq_true_iff.mp hfound
      exact absurd hread (hnone content)

/-- Directories without the file are passed over. -/
theorem findIn_append {name : Text} {before : List Path}
    (h : ∀ earlier ∈ before, tree.isFile (pathIn name earlier) = .ok false) (rest : List Path) :
    findIn tree name (before ++ rest) = findIn tree name rest := by
  induction before with
  | nil => rfl
  | cons first others ih =>
    rw [List.cons_append, findIn, h first List.mem_cons_self,
      ← ih fun earlier hearlier ↦ h earlier (List.mem_cons_of_mem _ hearlier)]
    rfl

/-- A search resolves a name to its path in the earliest directory that has the file, if it is
refused no path before that, and to nothing else. -/
theorem locate_eq_ok_iff {name : Text} {path : Path} :
    locate tree name settings = .ok path ↔
      ∃ before directory after, settings.directories = before ++ directory :: after ∧
        path = pathIn name directory ∧ IsEarliest tree name before directory ∧
        ∀ earlier ∈ before, tree.Answers (pathIn name earlier) := by
  unfold locate
  constructor
  · intro h
    rcases findIn_cases tree name settings.directories with
      ⟨hnone, -⟩ | ⟨before, directory, after, hsplit, hbefore, ⟨htrue, hfound⟩ | ⟨fault, -, hfault⟩⟩
    · rw [hnone] at h
      exact nomatch h
    · rw [hfound] at h
      refine ⟨before, directory, after, hsplit, (Except.ok.inj h).symm,
        ⟨FileTree.isFile_eq_true_iff.mp htrue, fun earlier hearlier ↦ ?_⟩, fun earlier hearlier ↦ ?_⟩
      · exact (isFile_eq_false_iff.mp (hbefore earlier hearlier)).2
      · exact (isFile_eq_false_iff.mp (hbefore earlier hearlier)).1
    · rw [hfault] at h
      exact nomatch h
  · rintro ⟨before, directory, after, hsplit, rfl, hearliest, hanswers⟩
    have hbefore : ∀ earlier ∈ before, tree.isFile (pathIn name earlier) = .ok false :=
      fun earlier hearlier ↦ isFile_eq_false_iff.mpr
        ⟨hanswers earlier hearlier, hearliest.not_before earlier hearlier⟩
    rw [hsplit, findIn_append hbefore, findIn,
      FileTree.isFile_eq_true_iff.mpr hearliest.exists_content]
    rfl

/-- The listing has every name without slashes that a search resolves. -/
theorem mem_available_of_locate {names : List Text} (h : available tree settings = .ok names)
    {name : Text} (hne : name ≠ []) (hslash : '/' ∉ name) {path : Path}
    (hlocate : locate tree name settings = .ok path) : name ∈ names := by
  obtain ⟨hall, hmem⟩ := mem_available h
  obtain ⟨before, directory, after, hsplit, -, hearliest, -⟩ := locate_eq_ok_iff.mp hlocate
  have hdirectory : directory ∈ settings.directories := by simp [hsplit]
  have htrue := FileTree.isFile_eq_true_iff.mpr hearliest.exists_content
  obtain ⟨file, hfile⟩ := exists_fileName hslash htrue
  obtain ⟨entries, hentries⟩ := hall directory hdirectory
  have hhas := ((isFile_pathIn hentries hfile).1 true htrue).mp rfl
  obtain ⟨other, hother, entry, hlisted, -⟩ :=
    (isOfFile_iff h hne hfile).mpr ⟨directory, hdirectory, hhas⟩
  exact (hmem name).mpr ⟨other, hother, entry.val, hlisted⟩

/-- A listing exists just if no search directory is refused, and none is if their paths are short
enough. It is in strict order, has every name without slashes that a search resolves, and is the
same for other search directories that are the same as a set. A search gives the path in the
earliest directory that has the file, unless it is refused a path before that, and gives the same
whatever directories are added behind. -/
theorem available_and_locate (tree : FileTree) (settings : Settings) :
    ((∃ names, available tree settings = .ok names) ↔
        ∀ directory ∈ settings.directories, tree.Answers directory) ∧
      (∀ path, FileTree.Fits path → tree.Answers path) ∧
      (∀ names, available tree settings = .ok names →
        names.Pairwise Precedes ∧
          (∀ name path, name ≠ [] → '/' ∉ name → locate tree name settings = .ok path →
            name ∈ names) ∧
          ∀ other : Settings,
            (∀ directory, directory ∈ other.directories ↔ directory ∈ settings.directories) →
              available tree other = .ok names) ∧
      ∀ name path,
        (locate tree name settings = .ok path ↔
          ∃ before directory after, settings.directories = before ++ directory :: after ∧
            path = pathIn name directory ∧ IsEarliest tree name before directory ∧
            ∀ earlier ∈ before, tree.Answers (pathIn name earlier)) ∧
          (locate tree name settings = .ok path → ∀ more,
            locate tree name { settings with directories := settings.directories ++ more } =
              .ok path) := by
  refine ⟨exists_available_iff, fun path ↦ FileTree.answers_of_fits, fun names hnames ↦ ⟨?_, ?_, ?_⟩,
    fun name path ↦ ⟨locate_eq_ok_iff, fun hlocate more ↦ ?_⟩⟩
  · exact pairwise_precedes_available hnames
  · exact fun name path hne hslash ↦ mem_available_of_locate hnames hne hslash
  · exact fun other hmem ↦ available_eq_of_mem_iff hmem hnames
  · obtain ⟨before, directory, after, hsplit, hpath⟩ := locate_eq_ok_iff.mp hlocate
    refine locate_eq_ok_iff.mpr ⟨before, directory, after ++ more, ?_, hpath⟩
    rw [hsplit, List.append_assoc]
    rfl

/-- The path of a name that is one byte too long. -/
def longDirectory : Text := '/' :: List.replicate 256 'x'

/-- Two directories in either order, one of them twice. -/
theorem available_and_locate_repeated :
    ∃ names,
      available twoDirectories (searching ["/d".toList, "/e".toList]) = .ok names ∧
        available twoDirectories (searching ["/e".toList, "/d".toList, "/e".toList]) = .ok names ∧
        names.Pairwise Precedes ∧ "a.b".toList ∈ names ∧
        locate twoDirectories "a.b".toList
          (searching ["/d".toList, "/e".toList, longDirectory]) =
            .ok (.ofText "/e/a.b.keytab".toList) := by
  have hlocate : locate twoDirectories "a.b".toList (searching ["/d".toList, "/e".toList]) =
      .ok (.ofText "/e/a.b.keytab".toList) := by
    decide +kernel
  obtain ⟨hiff, hfits, hlisting, hsearch⟩ :=
    available_and_locate twoDirectories (searching ["/d".toList, "/e".toList])
  have hanswers : ∀ directory ∈ (searching ["/d".toList, "/e".toList]).directories,
      twoDirectories.Answers directory := by
    intro directory hdirectory
    rcases List.mem_cons.mp hdirectory with rfl | hlast
    · exact hfits _ ⟨by decide +kernel, by decide +kernel⟩
    · obtain rfl := List.mem_singleton.mp hlast
      exact hfits _ ⟨by decide +kernel, by decide +kernel⟩
  obtain ⟨names, hnames⟩ := hiff.mpr hanswers
  obtain ⟨hsorted, hcomplete, hsame⟩ := hlisting names hnames
  refine ⟨names, hnames, hsame _ ?_, hsorted, hcomplete _ _ (by decide) (by decide) hlocate,
    (hsearch _ _).2 hlocate [.ofText longDirectory]⟩
  intro directory
  simp only [searching, Settings.ofDirectories, List.map_cons, List.map_nil, List.mem_cons,
    List.not_mem_nil, or_false]
  exact ⟨fun h ↦ h.elim Or.inr id, Or.inr⟩

/-- Behind a directory whose name is too long another one with the file is not looked into, and
neither order of the two has a listing. -/
theorem available_tooLong :
    (∃ content, twoDirectories.read (.ofText "/e/a.b.keytab".toList) = .ok content) ∧
      locate twoDirectories "a.b".toList (searching [longDirectory, "/e".toList]) =
        .error (.file .nameTooLong (pathIn "a.b".toList (.ofText longDirectory))) ∧
      locate twoDirectories "a.b".toList (searching ["/e".toList, longDirectory]) =
        .ok (.ofText "/e/a.b.keytab".toList) ∧
      available twoDirectories (searching ["/e".toList, longDirectory]) =
        .error (.file .nameTooLong (.ofText longDirectory)) := by
  refine ⟨⟨[], ?_⟩, ?_, ?_, ?_⟩ <;> decide +kernel

end Layout

end TermKeys
