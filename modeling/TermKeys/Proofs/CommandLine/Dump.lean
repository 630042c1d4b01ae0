import TermKeys.CommandLine.Run
import TermKeys.Proofs.Layout.Encodings
import TermKeys.Proofs.Layout.Order
import TermKeys.Proofs.Layout.Reload
import TermKeys.Proofs.Layout.Search
import TermKeys.Proofs.Reader.Named

/-!
What is printed of a layout file, and what is saved of it. Printing goes through the file in one
pass, and loading puts its bindings into groups; both give the same lines, one for each binding
below the title. They are saved grouped by their keys and printed in the order of the file, and
where the bindings of each key stand together the two texts are the same (`exists_dump_save`).
-/

set_option autoImplicit false

namespace TermKeys

/-! ### Printing bindings -/

namespace Reader

/-- If there is a binding and nothing else stands in the way, it is taken. -/
theorem View.take_of_ok {view : View} {binding : Binding} {rest : List Binding}
    (h : view.outstanding.map Prod.snd = (binding :: rest).map .ok) :
    view.take.1 = .ok binding ∧ view.take.2.outstanding.map Prod.snd = rest.map .ok := by
  obtain ⟨description, next, pending, asked, total⟩ := view
  cases next with
  | none => exact nomatch h
  | some held =>
    obtain ⟨hheld, hpending⟩ := List.cons.inj h
    obtain rfl := Except.ok.inj hheld
    rcases pending with _ | ⟨⟨number, fault | coming⟩, later⟩
    · exact ⟨rfl, hpending⟩
    · cases rest with
      | nil => exact nomatch hpending
      | cons second others => exact nomatch (List.cons.inj hpending).1
    · exact ⟨rfl, hpending⟩

theorem take_of_ok {reader : Reader} {binding : Binding} {rest : List Binding}
    (h : reader.view.outstanding.map Prod.snd = (binding :: rest).map .ok) :
    reader.hasNext = true ∧ reader.take.1.value = .ok binding ∧
      reader.take.2.view.outstanding.map Prod.snd = rest.map .ok := by
  have htake := Prod.mk.inj (view_take reader)
  obtain ⟨hvalue, hrest⟩ := View.take_of_ok h
  refine ⟨?_, htake.1.trans hvalue, htake.2 ▸ hrest⟩
  rw [hasNext_eq]
  cases houtstanding : reader.view.outstanding with
  | nil =>
    rw [houtstanding] at h
    exact nomatch h
  | cons entry others => rfl

end Reader

namespace CommandLine

/-- What is printed of some bindings: their lines, up to the first that has none. -/
def printed (json : Bool) (encoding : Text) : List Binding → Run
  | [] => ⟨[], .done⟩
  | binding :: rest =>
    match bindingLine json encoding binding with
    | .error fault => ⟨[], .fault fault⟩
    | .ok line =>
      { printed json encoding rest with
        output := line ++ '\n' :: (printed json encoding rest).output }

/-- All bindings that are outstanding are printed. -/
theorem value_printBindings (json : Bool) (encoding : Text) {bindings : List Binding}
    {reader : Reader} (h : reader.view.outstanding.map Prod.snd = bindings.map .ok) {n : Nat}
    (hn : bindings.length ≤ n) :
    (printBindings json encoding n reader).value = printed json encoding bindings := by
  induction bindings generalizing reader n with
  | nil =>
    have hnext : reader.hasNext = false := by
      rw [Reader.hasNext_eq, List.map_eq_nil_iff.mp h]
      rfl
    cases n with
    | zero => rfl
    | succ n =>
      rw [printBindings, hnext]
      rfl
  | cons binding rest ih =>
    obtain ⟨hnext, hvalue, hrest⟩ := Reader.take_of_ok h
    obtain ⟨n, rfl⟩ := Nat.exists_eq_add_of_le' (Nat.le_of_add_left_le hn)
    have hothers := ih hrest (Nat.le_of_succ_le_succ hn)
    rw [printBindings, if_pos hnext]
    dsimp only
    rw [hvalue, printed]
    simp only [Except.bind]
    cases bindingLine json encoding binding with
    | error fault => rfl
    | ok line =>
      simp only [Noted.after, Noted.map, hothers]

/-- Bindings with a line each are printed as these lines. -/
theorem printed_of_line {encoding : Text} {bindings : List Binding} {line : Binding → Text}
    (h : ∀ b ∈ bindings, Layout.bindingLine b encoding = .ok (line b)) :
    printed false encoding bindings = ⟨(bindings.map line).flatten, .done⟩ := by
  induction bindings with
  | nil => rfl
  | cons binding rest ih =>
    obtain ⟨body, hbody, hend⟩ := map_eq_ok_iff.mp (h binding List.mem_cons_self)
    rw [printed, bindingLine, if_neg Bool.false_ne_true, hbody]
    dsimp only
    rw [ih fun b hb ↦ h b (List.mem_cons_of_mem _ hb), List.map_cons, List.flatten_cons, ← hend]
    simp

/-- Printing a layout file in which every binding has a line. -/
theorem value_printLayout {tree : FileTree} {path : Path} {settings : Settings} {content : Bytes}
    (hread : tree.read path = .ok content) {reader : Reader}
    (hstart : (Reader.start settings (RawLine.ofBytes content)).1.value = .ok reader)
    {bindings : List Binding}
    (hbindings : reader.view.outstanding.map Prod.snd = bindings.map .ok) {line : Binding → Text}
    (hline : ∀ b ∈ bindings, Layout.bindingLine b settings.outputEncoding = .ok (line b)) :
    (printLayout tree false path settings).value =
      ⟨(Layout.titleLine reader.description :: bindings.map line).flatten, .done⟩ := by
  have hlength : bindings.length ≤ reader.source.lines.length + 1 := by
    have hentries := congrArg List.length hbindings
    rw [List.length_map, List.length_map] at hentries
    exact hentries ▸ Reader.length_outstanding_le reader
  have hprinted := value_printBindings false settings.outputEncoding hbindings hlength
  rw [printed_of_line hline] at hprinted
  rw [printLayout, hread]
  dsimp only
  rw [hstart]
  simp only [Noted.after, Noted.map, hprinted]
  rfl

/-- Where words name a file that can be printed, that file is printed. -/
theorem dump_eq_printLayout {around : Surroundings} {words : List Text} {arguments : Arguments}
    {settings : Settings} {path : Path} (hwords : dumpForm.read words = .ok arguments)
    (hhelp : arguments.has Choice.help = false)
    (hsettings : settingsFor around arguments = .ok settings)
    (hfile : layoutFile around.tree ((arguments.operand? 0).getD settings.defaultLayout) settings =
      .ok path) :
    dump around words =
      printLayout around.tree (arguments.has jsonChoice) path settings := by
  rw [dump, withArguments, hwords]
  dsimp only
  rw [hhelp, if_neg Bool.false_ne_true, hsettings]
  dsimp only
  rw [hfile]

/-- The file of a layout can be read. -/
theorem exists_read_of_layoutFile {tree : FileTree} {layout : Text} {settings : Settings}
    {path : Path} (h : layoutFile tree layout settings = .ok path) :
    ∃ content, tree.read path = .ok content := by
  refine FileTree.isFile_eq_true_iff.mp ?_
  unfold layoutFile at h
  cases hfile : tree.isFile (.ofText layout) with
  | error fault =>
    rw [hfile] at h
    exact nomatch h
  | ok found =>
    rw [hfile] at h
    cases found with
    | true => exact Except.ok.inj h ▸ hfile
    | false => exact Layout.isFile_of_locate h

end CommandLine

/-! ### Printed and saved text -/

namespace Layout

/-- A line in UTF-8 is the same under any of its names. -/
theorem bindingLine_of_find {use : EncodingUse} {name : Text}
    (h : Encoding.find use name = .ok .utf8) (binding : Binding) :
    bindingLine binding name = bindingLine binding "utf-8".toList :=
  bindingLine_of_ne h (by decide) binding

/-- Loading a file in UTF-8 groups the bindings of its lines. -/
theorem value_load_named {tree : FileTree} {path : Path} {settings : Settings}
    (hutf8 : settings.NamesUtf8) {content : Bytes} (hread : tree.read path = .ok content) :
    (load tree path settings).value =
      .ok ((empty path.stem (Reader.descriptionOf
          ((RawLine.upToEnd (RawLine.ofBytes content)).map RawLine.utf8Text))).addAll
        (Reader.bindingsOf
          ((RawLine.upToEnd (RawLine.ofBytes content)).map RawLine.utf8Text))) := by
  rw [load, hread]
  dsimp only
  rw [value_ofLines, Reader.filterMap_entryOf?_named hutf8, Reader.allBindings_map_ok,
    Reader.titleOf_plain hutf8, Reader.titleOf_utf8 settings.utf8_plain]
  rfl

/-- How the text that is saved of a file with some bindings stands to what is printed of it: below
the same title it has the same lines, grouped by the keys of the bindings. -/
structure SavedGrouped (title : Text) (bindings : List Binding) (line : Binding → Text)
    (printed saved : Text) : Prop where
  printed_lines : Text.linesBy '\n' printed = titleLine title :: bindings.map line
  saved_lines : Text.linesBy '\n' saved =
    titleLine title :: (groupedBy (fun b ↦ b.keyCode) bindings).map line
  perm : (Text.linesBy '\n' saved).tail.Perm (Text.linesBy '\n' printed).tail
  eq_of_standTogether : StandTogether (fun b ↦ b.keyCode) bindings → saved = printed

theorem linesBy_titleLine {title : Text} (htitle : Line.IsTitle title) {bindings : List Binding}
    {line : Binding → Text} (hline : ∀ b ∈ bindings, b.HasLine (line b)) :
    Text.linesBy '\n' (titleLine title :: bindings.map line).flatten =
      titleLine title :: bindings.map line := by
  refine Text.linesBy_flatten fun text htext ↦ ?_
  rcases List.mem_cons.mp htext with rfl | htext
  · exact exists_body_titleLine htitle
  · obtain ⟨b, hb, rfl⟩ := List.mem_map.mp htext
    exact (hline b hb).exists_body

theorem savedGrouped {title : Text} (htitle : Line.IsTitle title) {bindings : List Binding}
    {line : Binding → Text} (hline : ∀ b ∈ bindings, b.HasLine (line b)) :
    SavedGrouped title bindings line (titleLine title :: bindings.map line).flatten
      (titleLine title :: (groupedBy (fun b ↦ b.keyCode) bindings).map line).flatten := by
  have hperm := perm_groupedBy (fun b : Binding ↦ b.keyCode) bindings
  have hprinted := linesBy_titleLine htitle hline
  have hsaved := linesBy_titleLine htitle fun b hb ↦ hline b (hperm.subset hb)
  refine ⟨hprinted, hsaved, ?_, fun htogether ↦ ?_⟩
  · rw [hprinted, hsaved]
    exact hperm.map line
  · rw [groupedBy_eq_self htogether]

end Layout

namespace CommandLine

/-- Printing a layout file whose encodings are UTF-8 gives its title and the lines of its bindings
in the order of the file. Loading it and saving the layout gives the same title and the same lines,
grouped by the keys of the bindings, with the groups in the order in which the keys first occur. -/
theorem exists_dump_save (others : Codecs) {around : Surroundings} {words : List Text}
    {arguments : Arguments} {settings : Settings} {path dest : Path} {location : Location}
    (hwords : dumpForm.read words = .ok arguments) (hhelp : arguments.has Choice.help = false)
    (hjson : arguments.has jsonChoice = false)
    (hsettings : settingsFor around arguments = .ok settings) (hutf8 : settings.NamesUtf8)
    (hfile : layoutFile around.tree ((arguments.operand? 0).getD settings.defaultLayout) settings =
      .ok path)
    (htarget : around.tree.target dest = .ok location) :
    ∃ content reader bindings line layout printed saved,
      around.tree.read path = .ok content ∧
        (Reader.start settings (RawLine.ofBytes content)).1.value = .ok reader ∧
        reader.takeAll.1.value = .ok bindings ∧
        (∀ b ∈ bindings, Layout.bindingLine b "utf-8".toList = .ok (line b)) ∧
        (dump around words).value = ⟨printed, .done⟩ ∧
        (Layout.load around.tree path settings).value = .ok layout ∧
        Layout.save others around.tree layout dest "utf-8".toList =
          (around.tree.put location (.file (Utf8.encode saved)), .ok ()) ∧
        Layout.SavedGrouped reader.description bindings line printed saved := by
  obtain ⟨content, hread⟩ := exists_read_of_layoutFile hfile
  obtain ⟨reader, hstart, hdescription, houtstanding, htaken⟩ :=
    Reader.exists_start_named hutf8 (RawLine.ofBytes content)
  have hload := Layout.value_load_named hutf8 hread
  generalize (RawLine.upToEnd (RawLine.ofBytes content)).map RawLine.utf8Text = texts at *
  have htitle : Line.IsTitle reader.description := hdescription ▸ Layout.isTitle_descriptionOf texts
  have hlines : ∀ b ∈ Reader.bindingsOf texts, ∃ line, b.HasLine line := by
    intro b hb
    obtain ⟨text, -, hfound⟩ := List.mem_filterMap.mp hb
    obtain ⟨line, hline, -⟩ := Layout.exists_line_of_bindingOf? hfound
    exact ⟨line, hline⟩
  choose! line hline using hlines
  have hprinted := value_printLayout hread hstart houtstanding fun b hb ↦
    (Layout.bindingLine_of_find hutf8.output b).trans (hline b hb).eq
  rw [← hjson, ← dump_eq_printLayout hwords hhelp hsettings hfile] at hprinted
  generalize hlayout : (Layout.empty path.stem (Reader.descriptionOf texts)).addAll
    (Reader.bindingsOf texts) = layout at hload
  have hgrouped : layout.bindings =
      groupedBy (fun b ↦ b.keyCode) (Reader.bindingsOf texts) := by
    rw [← hlayout, Layout.bindings_addAll_eq_groupedBy]
  have hsame : layout.description = reader.description := by
    rw [← hlayout, Layout.description_addAll, hdescription]
    rfl
  have hsave := Layout.save_utf8 others htarget fun b hb ↦
    hline b ((perm_groupedBy _ _).subset (hgrouped ▸ hb))
  rw [hgrouped, hsame] at hsave
  exact ⟨content, reader, _, line, layout, _, _, hread, hstart, htaken, fun b hb ↦ (hline b hb).eq,
    hprinted, hload, hsave, Layout.savedGrouped htitle hline⟩

/-- A layout file for the commands to look at, a home, and room for a hundred containers. -/
def aroundFile (content : Text) : Surroundings :=
  ⟨⟨⟨"/root".toList, []⟩, 100, .usual⟩, Layout.treeOf content⟩

/-- A layout file in which the bindings of one key stand apart. -/
def apart : Text :=
  "keyboard \"Own\"\nkey B : erase\nkey A : \"a\"\nkey B+Ansi-Shift : \"\\x1b\"\n".toList

def apartPrinted : Text :=
  "keyboard \"Own\"\nkey B : erase\nkey A : \"a\"\nkey B-Shift+Ansi : \"\\E\"\n".toList

theorem exists_dump_save_apart :
    ∃ bindings line layout saved,
      (dump (aroundFile apart) ["-v".toList, "/a.keytab".toList]).value =
          ⟨apartPrinted, .done⟩ ∧
        (Layout.load (Layout.treeOf apart) (.ofText "/a.keytab".toList)
          (Settings.usual ⟨"/root".toList, []⟩)).value = .ok layout ∧
        Layout.save Codec.others (Layout.treeOf apart) layout (.ofText "/b.keytab".toList)
            "utf-8".toList =
          ((Layout.treeOf apart).put [⟨"b.keytab".toList, by decide⟩]
            (.file (Utf8.encode saved)), .ok ()) ∧
        bindings.map (fun b ↦ b.keyCode) = [0x42, 0x41, 0x42] ∧
        Layout.SavedGrouped "Own".toList bindings line apartPrinted saved := by
  have hwords : dumpForm.read ["-v".toList, "/a.keytab".toList] =
      .ok ⟨[(verboseChoice, none)], [some "/a.keytab".toList]⟩ := by
    decide +kernel
  have hfile : layoutFile (Layout.treeOf apart) "/a.keytab".toList
      (Settings.usual ⟨"/root".toList, []⟩) = .ok (.ofText "/a.keytab".toList) := by
    decide +kernel
  have htarget : (Layout.treeOf apart).target (.ofText "/b.keytab".toList) =
      .ok [⟨"b.keytab".toList, by decide⟩] := by
    decide +kernel
  obtain ⟨content, reader, bindings, line, layout, printed, saved, hread, hstart, htaken, -, hdump,
    hload, hsave, hgrouped⟩ := @exists_dump_save Codec.others (aroundFile apart)
      ["-v".toList, "/a.keytab".toList] ⟨[(verboseChoice, none)], [some "/a.keytab".toList]⟩
      (Settings.usual ⟨"/root".toList, []⟩)
      (.ofText "/a.keytab".toList) (.ofText "/b.keytab".toList) [⟨"b.keytab".toList, by decide⟩]
      hwords rfl rfl rfl ⟨rfl, rfl⟩ hfile htarget
  have hcontent : (Layout.treeOf apart).read (.ofText "/a.keytab".toList) =
      .ok (Utf8.encode apart) := by
    decide +kernel
  have hprinted : (dump (aroundFile apart) ["-v".toList, "/a.keytab".toList]).value =
      ⟨apartPrinted, .done⟩ := by
    decide +kernel
  have hdescription : (Reader.start (Settings.usual ⟨"/root".toList, []⟩)
      (RawLine.ofBytes (Utf8.encode apart))).1.value.map Reader.description = .ok "Own".toList := by
    decide +kernel
  have hcodes : (Reader.start (Settings.usual ⟨"/root".toList, []⟩)
      (RawLine.ofBytes (Utf8.encode apart))).1.value.bind (fun reader ↦
        reader.takeAll.1.value.map fun bindings ↦ bindings.map fun b ↦ b.keyCode) =
          .ok [0x42, 0x41, 0x42] := by
    decide +kernel
  obtain rfl := Except.ok.inj (hcontent.symm.trans hread)
  obtain rfl := congrArg Run.output (hprinted.symm.trans hdump)
  rw [hstart] at hdescription hcodes
  rw [Except.bind, htaken] at hcodes
  rw [Except.ok.inj hdescription] at hgrouped
  exact ⟨bindings, line, layout, saved, hprinted, hload, hsave, Except.ok.inj hcodes, hgrouped⟩

end CommandLine

end TermKeys
