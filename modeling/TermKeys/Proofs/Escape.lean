import Mathlib.Tactic.SplitIfs
import TermKeys.Escape

/-!
Expanding and writing escapes. What is written is expanded as if it had not been written at all
(`expand_write`): the escapes that writing brings in give their bytes back, and a backslash, which
is written as it is, goes on to make an escape with whatever followed it before. So a byte string
is written without loss just when expanding leaves it alone, and that is when no backslash in it is
followed by the rest of an escape (`expand_write_eq_self_iff`). Otherwise the expansion is shorter
(`length_expand_lt`).
-/

set_option autoImplicit false

namespace TermKeys.Escape

/-! ### What makes an escape -/

/-- Whether a byte is a hexadecimal digit. -/
def isHexDigit (byte : UInt8) : Bool :=
  (0x30 ≤ byte && byte ≤ 0x39) || (0x41 ≤ byte && byte ≤ 0x46) || (0x61 ≤ byte && byte ≤ 0x66)

/-- Whether bytes after a backslash make an escape with it: one of the letters `E`, `b`, `f`, `t`,
`r` and `n`, or an `x` and a hexadecimal digit. -/
def opens : Bytes → Bool
  | [] => false
  | mark :: rest =>
    [0x45, 0x62, 0x66, 0x74, 0x72, 0x6E].contains mark ||
      (mark == 0x78 && rest.head?.any isHexDigit)

/-- A property of bytes that holds of all numbers below 256 holds of all bytes. -/
theorem forall_byte {p : UInt8 → Prop} (h : ∀ n < 256, p (UInt8.ofNat n)) (byte : UInt8) :
    p byte := by
  simpa using h byte.toNat byte.toNat_lt

theorem isSome_hexValue? (byte : UInt8) : (hexValue? byte).isSome = isHexDigit byte := by
  revert byte
  exact forall_byte (by decide +kernel)

theorem isSome_control? (byte : UInt8) :
    (control? byte).isSome = [0x45, 0x62, 0x66, 0x74, 0x72, 0x6E].contains byte := by
  revert byte
  exact forall_byte (by decide +kernel)

theorem isSome_escape? (bytes : Bytes) : (escape? bytes).isSome = opens bytes := by
  cases bytes with
  | nil => rfl
  | cons mark rest =>
    rw [escape?, opens, ← isSome_control?]
    cases hcontrol : control? mark with
    | some value => rfl
    | none =>
      by_cases hmark : mark = hexMark
      · subst hmark
        cases rest with
        | nil => rfl
        | cons digit more => simp [hexMark, ← isSome_hexValue?]
      · have hx : (mark == 0x78) = false := beq_eq_false_iff_ne.mpr hmark
        simp [hmark, hx]

/-- The three forms of an escape after its backslash: a letter, or an `x` with one or two
hexadecimal digits. -/
theorem escape?_cases {bytes : Bytes} {value : UInt8} {length : Nat}
    (h : escape? bytes = some (value, length)) :
    (∃ mark rest, bytes = [mark] ++ rest ∧ length = 1 ∧ (control? mark).isSome) ∨
    (∃ high rest, bytes = [hexMark, high] ++ rest ∧ length = 2 ∧ (hexValue? high).isSome) ∨
    ∃ high low rest, bytes = [hexMark, high, low] ++ rest ∧ length = 3 ∧
      (hexValue? high).isSome ∧ (hexValue? low).isSome := by
  rcases bytes with - | ⟨mark, rest⟩
  · simp [escape?] at h
  rw [escape?] at h
  cases hcontrol : control? mark with
  | some byte =>
    simp only [hcontrol, Option.some.injEq, Prod.mk.injEq] at h
    exact Or.inl ⟨mark, rest, rfl, h.2.symm, by simp [hcontrol]⟩
  | none =>
    simp only [hcontrol] at h
    split_ifs at h with hmark
    subst hmark
    rcases rest with - | ⟨high, rest⟩
    · simp at h
    cases hhigh : hexValue? high with
    | none => simp [hhigh] at h
    | some highValue =>
      simp only [List.head?_cons, Option.bind_some, hhigh, Option.map_some, List.tail_cons,
        Option.some.injEq] at h
      cases hlow : rest.head?.bind hexValue? with
      | none =>
        simp only [hlow, Prod.mk.injEq] at h
        exact Or.inr (Or.inl ⟨high, rest, rfl, h.2.symm, by simp [hhigh]⟩)
      | some lowValue =>
        simp only [hlow, Prod.mk.injEq] at h
        obtain ⟨low, hhead, hvalue⟩ := Option.bind_eq_some_iff.mp hlow
        obtain ⟨more, rfl⟩ := List.head?_eq_some_iff.mp hhead
        exact Or.inr (Or.inr ⟨high, low, more, rfl, h.2.symm, by simp [hhigh], by simp [hvalue]⟩)

/-! ### What is written as it is -/

/-- A byte is written as it is, or begins with a backslash and takes no part in an escape. -/
theorem writeByte_cases (byte : UInt8) :
    writeByte byte = [byte] ∨
      (writeByte byte).head? = some backslash ∧ control? byte = none ∧ byte ≠ hexMark ∧
        hexValue? byte = none := by
  revert byte
  exact forall_byte (by decide +kernel)

theorem writeByte_of_control? {byte : UInt8} (h : (control? byte).isSome) :
    writeByte byte = [byte] := by
  rcases writeByte_cases byte with hself | ⟨-, hnone, -, -⟩
  · exact hself
  · simp [hnone] at h

theorem writeByte_of_hexValue? {byte : UInt8} (h : (hexValue? byte).isSome) :
    writeByte byte = [byte] := by
  rcases writeByte_cases byte with hself | ⟨-, -, -, hnone⟩
  · exact hself
  · simp [hnone] at h

theorem write_cons (byte : UInt8) (rest : Bytes) :
    write (byte :: rest) = writeByte byte ++ write rest := rfl

theorem write_append (first second : Bytes) :
    write (first ++ second) = write first ++ write second := List.flatMap_append

/-- The bytes of an escape after its backslash, of which there is at least one, are written as
they are. -/
theorem escape?_eq_some {bytes : Bytes} {value : UInt8} {length : Nat}
    (h : escape? bytes = some (value, length)) :
    ∃ own rest, bytes = own ++ rest ∧ own.length = length ∧ own ≠ [] ∧ write own = own := by
  have hmark : writeByte hexMark = [hexMark] := by decide
  rcases escape?_cases h with ⟨mark, rest, rfl, rfl, hm⟩ | ⟨high, rest, rfl, rfl, hh⟩ |
    ⟨high, low, rest, rfl, rfl, hh, hl⟩
  · exact ⟨_, rest, rfl, rfl, List.cons_ne_nil _ _, by simp [write, writeByte_of_control? hm]⟩
  · exact ⟨_, rest, rfl, rfl, List.cons_ne_nil _ _,
      by simp [write, hmark, writeByte_of_hexValue? hh]⟩
  · exact ⟨_, rest, rfl, rfl, List.cons_ne_nil _ _,
      by simp [write, hmark, writeByte_of_hexValue? hh, writeByte_of_hexValue? hl]⟩

/-- Writing keeps whether a text begins with a hexadecimal digit, and which. -/
theorem head?_write_bind (bytes : Bytes) :
    (write bytes).head?.bind hexValue? = bytes.head?.bind hexValue? := by
  cases bytes with
  | nil => rfl
  | cons byte rest =>
    rw [write_cons]
    rcases writeByte_cases byte with hself | ⟨hhead, -, -, hvalue⟩
    · rw [hself]
      rfl
    · obtain ⟨tail, htail⟩ := List.head?_eq_some_iff.mp hhead
      rw [htail, List.cons_append, List.head?_cons, List.head?_cons, Option.bind_some,
        Option.bind_some, hvalue]
      decide

/-- What follows a backslash makes the same escape with it after writing as before. -/
theorem escape?_write (bytes : Bytes) : escape? (write bytes) = escape? bytes := by
  cases bytes with
  | nil => rfl
  | cons mark rest =>
    rw [write_cons]
    rcases writeByte_cases mark with hself | ⟨hhead, hcontrol, hmark, -⟩
    · rw [hself, List.singleton_append, escape?, escape?, head?_write_bind]
      cases rest with
      | nil => rfl
      | cons digit more =>
        rw [List.head?_cons, Option.bind_some]
        cases hdigit : hexValue? digit with
        | none => rfl
        | some high =>
          have hsome : (hexValue? digit).isSome := by simp [hdigit]
          have hwritten := writeByte_of_hexValue? hsome
          rw [write_cons, hwritten, List.singleton_append, List.tail_cons, head?_write_bind,
            List.tail_cons]
    · obtain ⟨tail, htail⟩ := List.head?_eq_some_iff.mp hhead
      have hslash : control? backslash = none := by decide
      rw [htail, List.cons_append, escape?, escape?, hcontrol, hslash]
      simp [hmark, show backslash ≠ hexMark by decide]

/-! ### Expanding -/

theorem expand_cons_of_ne {byte : UInt8} (h : byte ≠ backslash) (rest : Bytes) :
    expand (byte :: rest) = byte :: expand rest := by
  simp [expand, expandFrom, h]

/-- Expanding goes on behind the bytes that belong to an escape. -/
theorem expandFrom_eq_expand_drop (skip : Nat) (bytes : Bytes) :
    expandFrom skip bytes = expand (bytes.drop skip) := by
  induction bytes generalizing skip with
  | nil => cases skip <;> rfl
  | cons byte rest ih =>
    cases skip with
    | zero => rfl
    | succ skip => rw [expandFrom, ih, List.drop_succ_cons]

theorem expand_backslash_of_none {rest : Bytes} (h : escape? rest = none) :
    expand (backslash :: rest) = backslash :: expand rest := by
  simp [expand, expandFrom, h]

theorem expand_backslash_of_some {rest : Bytes} {value : UInt8} {length : Nat}
    (h : escape? rest = some (value, length)) :
    expand (backslash :: rest) = value :: expand (rest.drop length) := by
  rw [expand, expandFrom, if_pos rfl, h]
  exact congrArg (value :: ·) (expandFrom_eq_expand_drop length rest)

/-- A written byte expands to that byte, if it is not a backslash. -/
theorem expand_writeByte_append {byte : UInt8} (h : byte ≠ backslash) (rest : Bytes) :
    expand (writeByte byte ++ rest) = byte :: expand rest := by
  have hletter : ∀ byte, (letter? byte).all (fun letter ↦ control? letter == some byte) = true :=
    forall_byte (by decide +kernel)
  have hdigits : ∀ byte : UInt8, hexValue? (hexDigit (byte / 16)) = some (byte / 16) ∧
      hexValue? (hexDigit (byte % 16)) = some (byte % 16) ∧ byte / 16 * 16 + byte % 16 = byte :=
    forall_byte (by decide +kernel)
  unfold writeByte
  split
  · next letter heq =>
    have hcontrol := hletter byte
    rw [heq, Option.all_some, beq_iff_eq] at hcontrol
    have hescape : escape? (letter :: rest) = some (byte, 1) := by rw [escape?, hcontrol]
    exact expand_backslash_of_some hescape
  · split_ifs with hrange
    · obtain ⟨hhigh, hlow, hsum⟩ := hdigits byte
      have hescape : escape? (hexMark :: hexDigit (byte / 16) :: hexDigit (byte % 16) :: rest) =
          some (byte, 3) := by
        rw [escape?, show control? hexMark = none by decide, if_pos rfl, List.head?_cons,
          Option.bind_some, hhigh, List.tail_cons, List.head?_cons, Option.bind_some, hlow]
        simp [hsum]
      exact expand_backslash_of_some hescape
    · exact expand_cons_of_ne h rest

/-- What is written expands as if it had not been written. -/
theorem expand_write (bytes : Bytes) : expand (write bytes) = expand bytes := by
  induction hn : bytes.length using Nat.strongRecOn generalizing bytes with
  | ind n ih =>
    cases bytes with
    | nil => rfl
    | cons byte rest =>
      rw [List.length_cons] at hn
      rw [write_cons]
      by_cases hbyte : byte = backslash
      · subst hbyte
        have hslash : writeByte backslash = [backslash] := by decide
        rw [hslash, List.singleton_append]
        cases hescape : escape? rest with
        | none =>
          have hwritten := (escape?_write rest).trans hescape
          rw [expand_backslash_of_none hwritten, expand_backslash_of_none hescape,
            ih rest.length (by omega) rest rfl]
        | some found =>
          obtain ⟨value, length⟩ := found
          have hwritten := (escape?_write rest).trans hescape
          obtain ⟨own, more, rfl, rfl, -, hown⟩ := escape?_eq_some hescape
          rw [expand_backslash_of_some hwritten, expand_backslash_of_some hescape, write_append,
            hown, List.drop_left, List.drop_left,
            ih more.length (by simp at hn; omega) more rfl]
      · rw [expand_writeByte_append hbyte, expand_cons_of_ne hbyte,
          ih rest.length (by omega) rest rfl]

theorem length_expand_le (bytes : Bytes) : (expand bytes).length ≤ bytes.length := by
  suffices h : ∀ skip, (expandFrom skip bytes).length ≤ bytes.length from h 0
  induction bytes with
  | nil => intro skip; cases skip <;> exact Nat.le_refl _
  | cons byte rest ih =>
    intro skip
    cases skip with
    | zero =>
      rw [expandFrom]
      split
      · next value length heq => exact Nat.succ_le_succ (ih length)
      · exact Nat.succ_le_succ (ih 0)
    | succ skip => exact Nat.le_succ_of_le (ih skip)

theorem length_expand_lt {rest : Bytes} (h : opens rest = true) :
    (expand (backslash :: rest)).length < (backslash :: rest).length := by
  obtain ⟨⟨value, length⟩, hescape⟩ :=
    Option.isSome_iff_exists.mp ((isSome_escape? rest).trans h)
  obtain ⟨own, more, rfl, rfl, hown, -⟩ := escape?_eq_some hescape
  have hshort := length_expand_le more
  have hpos := List.length_pos_iff.mpr hown
  rw [expand_backslash_of_some hescape, List.drop_left]
  simp only [List.length_cons, List.length_append]
  omega

theorem expand_backslash_of_not_opens {rest : Bytes} (h : opens rest = false) :
    expand (backslash :: rest) = backslash :: expand rest :=
  expand_backslash_of_none (Option.isNone_iff_eq_none.mp (by
    rw [← Option.not_isSome, isSome_escape?, h]
    rfl))

/-- A byte string in which no backslash makes an escape with what follows stands for itself. -/
theorem expand_eq_self {bytes : Bytes}
    (h : ∀ after, backslash :: after <:+ bytes → opens after = false) : expand bytes = bytes := by
  induction bytes with
  | nil => rfl
  | cons byte rest ih =>
    have hrest := ih fun after hsuffix ↦ h after (hsuffix.trans (List.suffix_cons byte rest))
    by_cases hbyte : byte = backslash
    · subst hbyte
      rw [expand_backslash_of_not_opens (h rest (List.suffix_refl _)), hrest]
    · rw [expand_cons_of_ne hbyte, hrest]

/-- Every escape makes a byte string shorter. -/
theorem opens_of_length_expand {bytes : Bytes} (hlength : (expand bytes).length = bytes.length)
    {after : Bytes} (hsuffix : backslash :: after <:+ bytes) : opens after = false := by
  induction bytes with
  | nil => simp at hsuffix
  | cons byte rest ih =>
    rcases List.suffix_cons_iff.mp hsuffix with heq | hrest
    · obtain ⟨rfl, rfl⟩ := List.cons.inj heq
      cases hopens : opens after with
      | false => rfl
      | true => exact absurd hlength (Nat.ne_of_lt (length_expand_lt hopens))
    · by_cases hbyte : byte = backslash
      · subst hbyte
        cases hopens : opens rest with
        | false =>
          rw [expand_backslash_of_not_opens hopens, List.length_cons, List.length_cons] at hlength
          exact ih (Nat.succ.inj hlength) hrest
        | true => exact absurd hlength (Nat.ne_of_lt (length_expand_lt hopens))
      · rw [expand_cons_of_ne hbyte, List.length_cons, List.length_cons] at hlength
        exact ih (Nat.succ.inj hlength) hrest

/-! ### What comes back -/

theorem cons_infix_iff {byte : UInt8} {own bytes : Bytes} :
    byte :: own <:+: bytes ↔ ∃ after, byte :: after <:+ bytes ∧ own <+: after := by
  constructor
  · rintro ⟨front, back, rfl⟩
    exact ⟨own ++ back, ⟨front, by simp⟩, List.prefix_append own back⟩
  · rintro ⟨after, ⟨front, rfl⟩, back, rfl⟩
    exact ⟨front, back, by simp⟩

theorem opens_eq_true_iff {bytes : Bytes} :
    opens bytes = true ↔
      (∃ letter ∈ [0x45, 0x62, 0x66, 0x74, 0x72, 0x6E], [letter] <+: bytes) ∨
        ∃ digit, isHexDigit digit = true ∧ [hexMark, digit] <+: bytes := by
  cases bytes with
  | nil => simp [opens]
  | cons mark rest =>
    rw [opens, Bool.or_eq_true, List.contains_iff_mem, Bool.and_eq_true, beq_iff_eq]
    refine or_congr (by simp [List.cons_prefix_cons]) ?_
    cases rest with
    | nil => simp [List.cons_prefix_cons]
    | cons first more =>
      simp only [List.head?_cons, Option.any_some, List.cons_prefix_cons, List.nil_prefix, and_true]
      constructor
      · rintro ⟨rfl, hfirst⟩
        exact ⟨first, hfirst, rfl, rfl⟩
      · rintro ⟨digit, hdigit, rfl, rfl⟩
        exact ⟨rfl, hdigit⟩

/-- Writing and expanding give a byte string back just when no backslash in it is followed by a
letter of a control byte or by an `x` and a hexadecimal digit. -/
theorem expand_write_eq_self_iff (bytes : Bytes) :
    expand (write bytes) = bytes ↔
      (∀ letter ∈ [0x45, 0x62, 0x66, 0x74, 0x72, 0x6E], ¬ [backslash, letter] <:+: bytes) ∧
        ∀ digit, isHexDigit digit = true → ¬ [backslash, hexMark, digit] <:+: bytes := by
  rw [expand_write]
  constructor
  · intro hself
    have hclosed : ∀ after, backslash :: after <:+ bytes → opens after = false := fun _ ↦
      opens_of_length_expand (congrArg List.length hself)
    refine ⟨fun letter hletter hinfix ↦ ?_, fun digit hdigit hinfix ↦ ?_⟩
    · obtain ⟨after, hsuffix, hprefix⟩ := cons_infix_iff.mp hinfix
      have hopens := opens_eq_true_iff.mpr (Or.inl ⟨letter, hletter, hprefix⟩)
      exact Bool.false_ne_true ((hclosed after hsuffix).symm.trans hopens)
    · obtain ⟨after, hsuffix, hprefix⟩ := cons_infix_iff.mp hinfix
      have hopens := opens_eq_true_iff.mpr (Or.inr ⟨digit, hdigit, hprefix⟩)
      exact Bool.false_ne_true ((hclosed after hsuffix).symm.trans hopens)
  · rintro ⟨hletters, hdigits⟩
    refine expand_eq_self fun after hsuffix ↦ Bool.eq_false_iff.mpr fun hopens ↦ ?_
    rcases opens_eq_true_iff.mp hopens with ⟨letter, hletter, hprefix⟩ | ⟨digit, hdigit, hprefix⟩
    · exact hletters letter hletter (cons_infix_iff.mpr ⟨after, hsuffix, hprefix⟩)
    · exact hdigits digit hdigit (cons_infix_iff.mpr ⟨after, hsuffix, hprefix⟩)

end TermKeys.Escape
