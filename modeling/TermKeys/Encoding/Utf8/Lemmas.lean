import TermKeys.Encoding.Utf8

/-!
What reading UTF-8 gives back. A byte below 0x80 stands for itself wherever it is and leaves
nothing pending, so a text may be cut there before it is read or after. The bytes of a text
are read as that text.
-/

set_option autoImplicit false

namespace TermKeys.Utf8

/-- Only bytes from 0x80 on are waited for. -/
def State.Inside (state : State) : Prop := ∀ p, state = some p → 0x80 ≤ p.low

@[simp]
theorem inside_none : State.Inside none := by simp [State.Inside]

@[simp]
theorem inside_some {p : Pending} : State.Inside (some p) ↔ 0x80 ≤ p.low := by simp [State.Inside]

theorem inside_first (byte : Nat) : State.Inside (first byte).2 := by
  unfold first
  repeat' split
  all_goals simp

theorem inside_step (state : State) (byte : Nat) : State.Inside (step state byte).2 := by
  cases state with
  | none => exact inside_first byte
  | some p =>
    unfold step
    dsimp only
    split
    · split <;> simp
    · exact inside_first byte

theorem scanFrom_cons (state : State) (byte : UInt8) (rest : Bytes) :
    scanFrom state (byte :: rest) =
      (step state byte.toNat).1 ++ scanFrom (step state byte.toNat).2 rest := by
  cases state <;> simp [scanFrom]

theorem scanFrom_append_ascii {state : State} (hs : state.Inside) (front : Bytes) {byte : UInt8}
    (h : byte.toNat < 0x80) (rest : Bytes) :
    scanFrom state (front ++ byte :: rest) =
      scanFrom state front ++ some (Char.ofNat byte.toNat) :: scanFrom none rest := by
  induction front generalizing state with
  | nil =>
    cases state with
    | none => simp [scanFrom, step, first, h]
    | some p =>
      have hp := hs p rfl
      have : ¬(p.low ≤ byte.toNat ∧ byte.toNat ≤ p.high) := by omega
      simp [scanFrom, step, this, first, h]
  | cons b front ih =>
    rw [List.cons_append, scanFrom_cons, scanFrom_cons, ih (inside_step _ _), List.append_assoc]

/-- A byte below 0x80 stands for itself wherever it is, and reading starts afresh after it. -/
theorem scan_append_ascii (front : Bytes) {byte : UInt8} (h : byte.toNat < 0x80) (rest : Bytes) :
    scan (front ++ byte :: rest) = scan front ++ some (Char.ofNat byte.toNat) :: scan rest :=
  scanFrom_append_ascii inside_none front h rest

/-- The first byte of a character of three bytes, and the range that its second byte keeps to. -/
theorem first_of_three {n : Nat} (hlow : 0x800 ≤ n) (hhigh : n < 0x10000)
    (hvalid : n < 0xD800 ∨ 0xDFFF < n) :
    ∃ low high, first (0xE0 + n / 4096) = ([], some ⟨n / 4096, 2, low, high⟩) ∧
      low ≤ 0x80 + n / 64 % 64 ∧ 0x80 + n / 64 % 64 ≤ high := by
  rcases (show n / 4096 = 0 ∨ n / 4096 = 0xD ∨ (n / 4096 ≠ 0 ∧ n / 4096 ≠ 0xD) by omega)
    with h | h | ⟨h0, hD⟩
  · exact ⟨0xA0, 0xBF, by simp [first, h], by omega, by omega⟩
  · exact ⟨0x80, 0x9F, by simp [first, h], by omega, by omega⟩
  · refine ⟨0x80, 0xBF, ?_, by omega, by omega⟩
    unfold first
    rw [if_neg (by omega), if_neg (by omega), if_neg (by omega), if_neg (by omega),
      if_neg (by omega), if_pos (by omega), Nat.add_sub_cancel_left]

/-- The first byte of a character of four bytes, and the range that its second byte keeps to. -/
theorem first_of_four {n : Nat} (hlow : 0x10000 ≤ n) (hhigh : n < 0x110000) :
    ∃ low high, first (0xF0 + n / 262144) = ([], some ⟨n / 262144, 3, low, high⟩) ∧
      low ≤ 0x80 + n / 4096 % 64 ∧ 0x80 + n / 4096 % 64 ≤ high := by
  rcases (show n / 262144 = 0 ∨ n / 262144 = 4 ∨ (n / 262144 ≠ 0 ∧ n / 262144 < 4) by omega)
    with h | h | ⟨h0, h4⟩
  · exact ⟨0x90, 0xBF, by simp [first, h], by omega, by omega⟩
  · exact ⟨0x80, 0x8F, by simp [first, h], by omega, by omega⟩
  · refine ⟨0x80, 0xBF, ?_, by omega, by omega⟩
    unfold first
    rw [if_neg (by omega), if_neg (by omega), if_neg (by omega), if_neg (by omega),
      if_neg (by omega), if_neg (by omega), if_neg (by omega), if_pos (by omega),
      Nat.add_sub_cancel_left]

/-- A further byte of a character that is not its last. -/
theorem step_more {value due low high bits : Nat} (hlow : low ≤ 0x80 + bits)
    (hhigh : 0x80 + bits ≤ high) (hdue : due ≠ 1) :
    step (some ⟨value, due, low, high⟩) (0x80 + bits) =
      ([], some ⟨value * 64 + bits, due - 1, 0x80, 0xBF⟩) := by
  simp [step, hlow, hhigh, hdue]

/-- The last byte of a character. -/
theorem step_last {value low high bits : Nat} (hlow : low ≤ 0x80 + bits)
    (hhigh : 0x80 + bits ≤ high) :
    step (some ⟨value, 1, low, high⟩) (0x80 + bits) =
      ([some (Char.ofNat (value * 64 + bits))], none) := by
  simp [step, hlow, hhigh]

/-- The bytes of a character are read as that character. -/
theorem scanFrom_encodeChar (c : Char) (rest : Bytes) :
    scanFrom none (encodeChar c ++ rest) = some c :: scanFrom none rest := by
  have hvalid : c.toNat < 0xD800 ∨ 0xDFFF < c.toNat ∧ c.toNat < 0x110000 := c.valid
  have hc : Char.ofNat c.toNat = c := Char.ofNat_toNat c
  unfold encodeChar
  generalize c.toNat = n at *
  dsimp only
  have toNat_ofNat (m : Nat) (h : m < 256) : (UInt8.ofNat m).toNat = m := by
    simp [Nat.mod_eq_of_lt h]
  split
  · next h =>
    rw [List.singleton_append, scanFrom_cons, toNat_ofNat _ (by omega)]
    simp [step, first, h, hc]
  split
  · next h1 h2 =>
    have hfirst : first (0xC0 + n / 64) = ([], some ⟨n / 64, 1, 0x80, 0xBF⟩) := by
      unfold first
      rw [if_neg (by omega), if_neg (by omega), if_pos (by omega), Nat.add_sub_cancel_left]
    simp only [List.cons_append, List.nil_append, scanFrom_cons]
    rw [toNat_ofNat _ (by omega), toNat_ofNat _ (by omega), show step none _ = first _ from rfl,
      hfirst, step_last (by omega) (by omega), show n / 64 * 64 + n % 64 = n by omega, hc]
    simp
  split
  · next h1 h2 h3 =>
    obtain ⟨low, high, hfirst, hlow, hhigh⟩ :=
      first_of_three (n := n) (by omega) (by omega) (by omega)
    simp only [List.cons_append, List.nil_append, scanFrom_cons]
    rw [toNat_ofNat _ (by omega), toNat_ofNat _ (by omega), toNat_ofNat _ (by omega),
      show step none _ = first _ from rfl, hfirst, step_more hlow hhigh (by omega),
      step_last (by omega) (by omega), show (n / 4096 * 64 + n / 64 % 64) * 64 + n % 64 = n by omega,
      hc]
    simp
  · next h1 h2 h3 =>
    obtain ⟨low, high, hfirst, hlow, hhigh⟩ := first_of_four (n := n) (by omega) (by omega)
    simp only [List.cons_append, List.nil_append, scanFrom_cons]
    rw [toNat_ofNat _ (by omega), toNat_ofNat _ (by omega), toNat_ofNat _ (by omega),
      toNat_ofNat _ (by omega), show step none _ = first _ from rfl, hfirst,
      step_more hlow hhigh (by omega), step_more (by omega) (by omega) (by omega),
      step_last (by omega) (by omega),
      show ((n / 262144 * 64 + n / 4096 % 64) * 64 + n / 64 % 64) * 64 + n % 64 = n by omega, hc]
    simp

/-- The bytes of a text are read as that text, with nothing broken in it. -/
theorem scan_encode (text : Text) : scan (encode text) = text.map some := by
  induction text with
  | nil => simp [scan, encode, scanFrom]
  | cons c rest ih =>
    rw [encode, List.flatMap_cons, scan, scanFrom_encodeChar, List.map_cons]
    exact congrArg (some c :: ·) ih

end TermKeys.Utf8
