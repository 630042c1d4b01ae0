import TermKeys.Proofs.Line

/-!
Where a comment begins, looked for from either end. The search from the end goes over the line once
with a flag for an open quote (`dropComment_eq_searchBack`), so what counts for a number sign are
the quotes behind it; for a search from the front it is those in front of it. On a line with an even
number of quotes that comes to the same. On any other line the two disagree about every number sign,
the first one above all, so they keep the same of it only if it has none
(`dropComment_eq_keptFromFront_iff`).
-/

set_option autoImplicit false

namespace TermKeys.Line

/-! ### Open quotes -/

/-- Whether the number of quotes in a text is odd, so that one of them is left open. -/
def oddQuotes (text : Text) : Bool := text.count '"' % 2 == 1

theorem oddQuotes_cons (c : Char) (rest : Text) :
    oddQuotes (c :: rest) = (oddQuotes rest ^^ c == '"') := by
  rw [oddQuotes, oddQuotes, List.count_cons]
  cases c == '"' with
  | false => simp
  | true =>
    rw [Bool.eq_iff_iff]
    simp only [if_true, beq_iff_eq, Bool.xor_true, Bool.not_eq_true', beq_eq_false_iff_ne]
    omega

theorem oddQuotes_eq_false_iff {text : Text} : oddQuotes text = false ↔ text.count '"' % 2 = 0 := by
  rw [oddQuotes, beq_eq_false_iff_ne]
  omega

theorem dropComment_cons (c : Char) (rest : Text) :
    dropComment (c :: rest) =
      if c = '#' ∧ oddQuotes rest = false then [] else c :: dropComment rest := by
  simp only [dropComment, oddQuotes_eq_false_iff]

theorem dropComment_dropComment (line : Text) :
    dropComment (dropComment line) = dropComment line := by
  induction line with
  | nil => rfl
  | cons c rest ih =>
    rw [dropComment]
    split_ifs with hcut
    · rfl
    · rw [dropComment, count_quote_dropComment, if_neg hcut, ih]

/-! ### From the end -/

/-- The search for a comment from the end of a line: whether a quote is open, and what is in front
of the last number sign that it met while none was. -/
def searchBack : Text → Bool × Option Text
  | [] => (false, none)
  | c :: rest =>
    let (quoted, kept) := searchBack rest
    (quoted ^^ c == '"', if c = '#' ∧ quoted = false then some [] else kept.map (c :: ·))

theorem searchBack_fst (line : Text) : (searchBack line).1 = oddQuotes line := by
  induction line with
  | nil => rfl
  | cons c rest ih => rw [oddQuotes_cons, ← ih, searchBack]

/-- The search from the end keeps what stands in front of the comment. -/
theorem dropComment_eq_searchBack (line : Text) :
    dropComment line = (searchBack line).2.getD line := by
  induction line with
  | nil => rfl
  | cons c rest ih =>
    rw [dropComment_cons, searchBack, ← searchBack_fst, ih]
    dsimp only
    split_ifs
    · rfl
    · exact (Option.getD_map _ _ _).symm

/-! ### From the front -/

/-- What a search from the front keeps of a line, given whether a quote is open: all that is in
front of the first number sign that it meets while none is. -/
def keptFromFront : Bool → Text → Text
  | _, [] => []
  | quoted, c :: rest =>
    if c = '#' ∧ quoted = false then [] else c :: keptFromFront (quoted ^^ c == '"') rest

/-- The part of a line in front of the first number sign with an even number of quotes in front of
it, or all of the line if there is none. -/
structure IsFrontPart (line kept : Text) : Prop where
  quoted : ∀ front after, kept = front ++ '#' :: after → front.count '"' % 2 = 1
  ends : kept = line ∨ kept.count '"' % 2 = 0 ∧ ∃ comment, line = kept ++ '#' :: comment

theorem keptFromFront_spec (quoted : Bool) (line : Text) :
    (∀ front after, keptFromFront quoted line = front ++ '#' :: after →
        (quoted ^^ oddQuotes front) = true) ∧
      (keptFromFront quoted line = line ∨
        (quoted ^^ oddQuotes (keptFromFront quoted line)) = false ∧
          ∃ comment, line = keptFromFront quoted line ++ '#' :: comment) := by
  induction line generalizing quoted with
  | nil => exact ⟨fun front after h ↦ by simp [keptFromFront] at h, Or.inl rfl⟩
  | cons c rest ih =>
    have hflag : ∀ text, (quoted ^^ oddQuotes (c :: text)) =
        ((quoted ^^ c == '"') ^^ oddQuotes text) := fun text ↦ by
      rw [oddQuotes_cons, Bool.xor_comm (oddQuotes text), Bool.xor_assoc]
    obtain ⟨hinside, hends⟩ := ih (quoted ^^ c == '"')
    rw [keptFromFront]
    split_ifs with hcut
    · obtain ⟨rfl, rfl⟩ := hcut
      exact ⟨fun front after h ↦ by simp at h, Or.inr ⟨rfl, rest, rfl⟩⟩
    · constructor
      · intro front after h
        cases front with
        | nil =>
          obtain ⟨rfl, -⟩ := List.cons.inj h
          simpa [oddQuotes] using hcut
        | cons d more =>
          obtain ⟨rfl, hmore⟩ := List.cons.inj h
          rw [hflag]
          exact hinside more after hmore
      · rw [hflag]
        refine hends.imp (congrArg (c :: ·)) ?_
        rintro ⟨heven, comment, hcomment⟩
        exact ⟨heven, comment, congrArg (c :: ·) hcomment⟩

theorem isFrontPart_keptFromFront (line : Text) : IsFrontPart line (keptFromFront false line) := by
  obtain ⟨hinside, hends⟩ := keptFromFront_spec false line
  simp only [Bool.false_xor] at hinside hends
  refine ⟨fun front after h ↦ beq_iff_eq.mp (hinside front after h), ?_⟩
  exact hends.imp_right (And.imp_left oddQuotes_eq_false_iff.mp)

theorem keptFromFront_of_not_mem {line : Text} (h : '#' ∉ line) (quoted : Bool) :
    keptFromFront quoted line = line := by
  rcases (keptFromFront_spec quoted line).2 with hall | ⟨-, comment, hcomment⟩
  · exact hall
  · rw [hcomment] at h
    simp at h

/-! ### Both ends -/

/-- A number sign with as many quotes in front of it as behind, up to an even number, is the same
from both ends. -/
theorem keptFromFront_oddQuotes (line : Text) :
    keptFromFront (oddQuotes line) line = dropComment line := by
  induction line with
  | nil => rfl
  | cons c rest ih =>
    rw [keptFromFront, dropComment_cons, oddQuotes_cons, Bool.xor_assoc, Bool.xor_self,
      Bool.xor_false, ih]
    by_cases hc : c = '#'
    · subst hc
      simp
    · simp [hc]

/-- With one more quote on one side, the first number sign ends the line from one of the ends
alone. -/
theorem keptFromFront_not_oddQuotes_ne {line : Text} (h : '#' ∈ line) :
    keptFromFront (!oddQuotes line) line ≠ dropComment line := by
  induction line with
  | nil => simp at h
  | cons c rest ih =>
    rw [keptFromFront, dropComment_cons, oddQuotes_cons]
    by_cases hc : c = '#'
    · subst hc
      cases oddQuotes rest <;> simp
    · have hrest : '#' ∈ rest := (List.mem_cons.mp h).resolve_left (Ne.symm hc)
      have hflag : (!(oddQuotes rest ^^ c == '"') ^^ c == '"') = !oddQuotes rest := by
        cases oddQuotes rest <;> cases c == '"' <;> rfl
      rw [if_neg fun hand ↦ hc hand.1, if_neg fun hand ↦ hc hand.1, hflag]
      exact fun heq ↦ ih hrest (List.cons.inj heq).2

/-- The comment of a line is looked for from its end, with the quotes behind a number sign. A search
from the front, with those in front of it, keeps the same just if the number of quotes is even or
there is no number sign. Whatever that number is, what is kept has no comment left in it. -/
theorem dropComment_eq_keptFromFront_iff (line : Text) :
    dropComment line = (searchBack line).2.getD line ∧
      IsFrontPart line (keptFromFront false line) ∧
      (dropComment line = keptFromFront false line ↔ line.count '"' % 2 = 0 ∨ '#' ∉ line) ∧
      dropComment (dropComment line) = dropComment line := by
  refine ⟨dropComment_eq_searchBack line, isFrontPart_keptFromFront line, ?_,
    dropComment_dropComment line⟩
  have hkept := keptFromFront_oddQuotes line
  rw [← oddQuotes_eq_false_iff]
  cases hodd : oddQuotes line with
  | false =>
    rw [hodd] at hkept
    exact iff_of_true hkept.symm (Or.inl rfl)
  | true =>
    by_cases hhash : '#' ∈ line
    · have hne := keptFromFront_not_oddQuotes_ne hhash
      rw [hodd] at hne
      exact iff_of_false hne.symm (by simp [hhash])
    · rw [← hkept, hodd, keptFromFront_of_not_mem hhash, keptFromFront_of_not_mem hhash]
      simp [hhash]

/-- An odd quote in the comment hides its number sign from the end, and not from the front. -/
example :
    dropComment "key A : up # 5\" key".toList = "key A : up # 5\" key".toList ∧
      keptFromFront false "key A : up # 5\" key".toList = "key A : up ".toList := by
  decide

end TermKeys.Line
