import Mathlib.Tactic.SplitIfs
import TermKeys.Proofs.Reader.Alike

/-!
Sources of bytes and sources of text. A line end in UTF-8 is the byte 0x0A and nothing else: no
longer character decodes to it, broken or whole (`lineEnd_not_mem_scanFrom`), and a piece that is
broken off by it leaves nothing to wait for. So a byte string may be cut into lines before it is
decoded or after, whatever it holds (`map_decode_linesBy`), and a reader of its bytes cannot be told
from one of its text (`transcript_ofBytes`).
-/

set_option autoImplicit false

namespace TermKeys

namespace Utf8

/-! ### Characters of more than one byte -/

/-- The bits of a character collected so far, with those that the next byte adds at least, lead
outside ASCII. -/
def State.Beyond (state : State) : Prop :=
  ∀ p, state = some p → 2 ≤ p.value ∨ p.due ≠ 1 ∧ 2 ≤ p.value * 64 + (p.low - 0x80)

theorem beyond_none : State.Beyond none := fun _ h ↦ nomatch h

theorem beyond_first (byte : Nat) : State.Beyond (first byte).2 := by
  intro p hp
  unfold first at hp
  split_ifs at hp
  all_goals
    obtain rfl := Option.some.inj hp
    dsimp only
    omega

theorem beyond_step {state : State} (h : state.Beyond) (byte : Nat) :
    State.Beyond (step state byte).2 := by
  cases state with
  | none => exact beyond_first byte
  | some p =>
    have hp := h p rfl
    unfold step
    dsimp only
    split_ifs with hrange hdue
    · exact beyond_none
    · intro next hnext
      obtain rfl := Option.some.inj hnext
      dsimp only
      omega
    · exact beyond_first byte

/-! ### Line ends -/

theorem ofNat_ne_lineEnd {n : Nat} (h : n ≠ 0x0A) : Char.ofNat n ≠ '\n' := by
  intro heq
  by_cases hvalid : n.isValidChar
  · rw [Char.ofNat, dif_pos hvalid] at heq
    exact h (congrArg Char.toNat heq)
  · rw [Char.ofNat, dif_neg hvalid] at heq
    exact absurd heq (by decide)

theorem lineEnd_not_mem_first {byte : Nat} (h : byte ≠ 0x0A) : some '\n' ∉ (first byte).1 := by
  unfold first
  split_ifs <;> simp [Ne.symm (ofNat_ne_lineEnd h)]

/-- No byte but 0x0A makes a line end. -/
theorem lineEnd_not_mem_step {state : State} (hstate : state.Beyond) {byte : Nat}
    (h : byte ≠ 0x0A) : some '\n' ∉ (step state byte).1 := by
  cases state with
  | none => exact lineEnd_not_mem_first h
  | some p =>
    have hp := hstate p rfl
    unfold step
    dsimp only
    split_ifs with hrange hdue
    · have hcode : p.value * 64 + (byte - 0x80) ≠ 0x0A := by omega
      simp [Ne.symm (ofNat_ne_lineEnd hcode)]
    · simp
    · simp [lineEnd_not_mem_first h]

theorem lineEnd_not_mem_scanFrom {state : State} (hstate : state.Beyond) {bytes : Bytes}
    (h : 0x0A ∉ bytes) : some '\n' ∉ scanFrom state bytes := by
  induction bytes generalizing state with
  | nil => cases state <;> simp [scanFrom]
  | cons byte rest ih =>
    rw [List.mem_cons, not_or] at h
    have hbyte : byte.toNat ≠ 0x0A := fun heq ↦ h.1 (UInt8.toNat_inj.mp heq.symm)
    rw [scanFrom_cons, List.mem_append, not_or]
    exact ⟨lineEnd_not_mem_step hstate hbyte, ih (beyond_step hstate _) h.2⟩

/-- A byte gives something at once or leaves something to wait for. -/
theorem step_ne (state : State) (byte : Nat) :
    (step state byte).1 ≠ [] ∨ (step state byte).2 ≠ none := by
  have hfirst : (first byte).1 ≠ [] ∨ (first byte).2 ≠ none := by
    unfold first
    split_ifs <;> simp
  cases state with
  | none => exact hfirst
  | some p =>
    unfold step
    dsimp only
    split_ifs <;> simp

theorem scanFrom_ne_nil {state : State} {bytes : Bytes} (h : state ≠ none ∨ bytes ≠ []) :
    scanFrom state bytes ≠ [] := by
  induction bytes generalizing state with
  | nil =>
    cases state with
    | none => simp at h
    | some p => simp [scanFrom]
  | cons byte rest ih =>
    rw [scanFrom_cons]
    rcases step_ne state byte.toNat with hout | hnext
    · exact List.append_ne_nil_of_left_ne_nil hout _
    · exact List.append_ne_nil_of_right_ne_nil _ (ih (Or.inl hnext))

end Utf8

/-! ### Documents -/

theorem decode_ne_nil {content : Bytes} (h : content ≠ []) : Encoding.utf8.decode content ≠ [] :=
  fun hnil ↦ Utf8.scanFrom_ne_nil (Or.inr h) (List.map_eq_nil_iff.mp hnil)

theorem lineEnd_not_mem_decode {content : Bytes} (h : 0x0A ∉ content) :
    '\n' ∉ Encoding.utf8.decode content := by
  intro hmem
  obtain ⟨piece, hpiece, heq⟩ := List.mem_map.mp hmem
  cases piece with
  | none => exact absurd heq (by decide)
  | some c =>
    obtain rfl : c = '\n' := heq
    exact Utf8.lineEnd_not_mem_scanFrom Utf8.beyond_none h hpiece

theorem decode_append_lineEnd (front rest : Bytes) :
    Encoding.utf8.decode (front ++ 0x0A :: rest) =
      Encoding.utf8.decode front ++ '\n' :: Encoding.utf8.decode rest := by
  unfold Encoding.decode Encoding.scan
  dsimp only
  rw [Utf8.scan_append_ascii front (by decide), List.map_append, List.map_cons]
  rfl

/-- A byte string is cut into the same lines before it is decoded and after, broken or not. -/
theorem map_decode_linesBy (content : Bytes) :
    (Text.linesBy 0x0A content).map Encoding.utf8.decode =
      Text.linesBy '\n' (Encoding.utf8.decode content) := by
  induction hlength : content.length using Nat.strongRecOn generalizing content with
  | ind length ih =>
    by_cases hmem : 0x0A ∈ content
    · obtain ⟨line, rest, rfl, hfree⟩ := List.eq_append_cons_of_mem hmem
      have hrest : rest.length < length := by
        rw [← hlength, List.length_append, List.length_cons]
        omega
      rw [Text.linesBy_append_terminator hfree, decode_append_lineEnd,
        Text.linesBy_append_terminator (lineEnd_not_mem_decode hfree), List.map_cons,
        ih _ hrest rest rfl, decode_append_lineEnd line []]
      rfl
    · by_cases hne : content = []
      · subst hne
        rfl
      · rw [Text.linesBy_of_not_mem hne hmem,
          Text.linesBy_of_not_mem (decode_ne_nil hne) (lineEnd_not_mem_decode hmem)]
        rfl

/-! ### Sources -/

namespace Reader

theorem decodeAs_of_find {name : Text} {encoding : Encoding}
    (h : Encoding.find .decode name = .ok encoding) {bytes : Bytes} (hne : bytes ≠ []) :
    Encoding.decodeAs name bytes = .ok (encoding.decode bytes) := by
  have hnull : name.contains (Char.ofNat 0) = false := by
    unfold Encoding.find at h
    split_ifs at h with hnull
    exact Bool.eq_false_iff.mpr hnull
  unfold Encoding.decodeAs
  rw [hnull, List.isEmpty_eq_false_iff.mpr hne, h]
  rfl

/-- A reader of bytes in UTF-8 cannot be told from a reader of the text that they are, whatever the
encoding for output: both give the same title, bindings and faults. -/
theorem transcript_ofBytes {settings other : Settings}
    (hinput : Encoding.find .decode settings.inputEncoding = .ok .utf8)
    (houtput : settings.outputEncoding = other.outputEncoding) (content : Bytes) (cs : List Call) :
    transcript settings (RawLine.ofBytes content) cs =
      transcript other (RawLine.ofText (Encoding.utf8.decode content)) cs := by
  refine transcript_congr houtput ?_ cs
  rw [RawLine.ofBytes, RawLine.ofText, ← map_decode_linesBy, List.map_map,
    List.forall₂_map_left_iff, List.forall₂_map_right_iff, List.forall₂_same]
  intro line hline
  have hne : line ≠ [] := Text.ne_nil_of_mem_linesBy hline
  constructor
  · exact (List.isEmpty_eq_false_iff.mpr hne).trans
      (List.isEmpty_eq_false_iff.mpr (decode_ne_nil hne)).symm
  · have hdecode : RawLine.decode settings.inputEncoding (.bytes line) =
        .ok (Encoding.utf8.decode line) := decodeAs_of_find hinput hne
    rw [hdecode]
    rfl

/-- Bytes with a piece broken off by a line end, one too long for its character, a surrogate, and
one broken off by the end, under an encoding for output that nothing goes by. -/
theorem transcript_ofBytes_broken :
    transcript { Settings.trial with outputEncoding := "none".toList }
        (RawLine.ofBytes ([0xE2, 0x82] ++ Utf8.encode "\nkey A : erase\nkey B : \"".toList ++
          [0xC0, 0x8A, 0xED, 0xA0, 0x80, 0x22, 0x0A, 0xF0, 0x9F])) [.take, .look, .take] =
      .ok ([], [.fault (.unknownEncoding "none".toList), .flag true,
        .binding { keyCode := 0x41, command := .erase, text := [] }]) :=
  (@transcript_ofBytes { Settings.trial with outputEncoding := "none".toList }
    { Settings.trial with outputEncoding := "none".toList } (by decide +kernel) rfl _ _).trans
    (by decide +kernel)

end Reader

end TermKeys
