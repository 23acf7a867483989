import MeshOnboard.Proofs.Yaml.Scalar

/-!
# Lines of a scalar

A scalar that is no literal block stays on one line (`exists_line_eq`).  The lines of a literal
block that end with `'\n'` are those of its text (`blockLines_append_newline`), each of them
indented behind the separators that it starts with (`exists_blockBody_eq`): a line or paragraph
separator is a break too, but a reader that only knows `'\n'` takes it for a character of the line.
-/

namespace MeshOnboard.Yaml

/-- Whether a character is the line separator or the paragraph separator. -/
def isSeparator (c : Char) : Bool := c = '\u2028' || c = '\u2029'

theorem isBreak_of_isSeparator {c : Char} (h : isSeparator c = true) :
  isBreak c = true
  := by
  simp only [isSeparator, Bool.or_eq_true, decide_eq_true_eq] at h
  rcases h with rfl | rfl <;> decide

/-- The breaks that can be printed are the separators and `'\n'`. -/
theorem isSeparator_eq {c : Char} (printable : isPrintable c = true) (other : c ≠ '\n') :
  isSeparator c = isBreak c
  := by
  have ne {d : Char} (special : isPrintable d = false) : c ≠ d := by
    rintro rfl
    simp [special] at printable
  simp [isSeparator, isBreak, other, ne (d := '\r') (by decide), ne (d := '\x85') (by decide)]

namespace Scalar

variable {k : Nat} {fresh : Bool} {cs ds : List Char}

/-! ### One line -/

theorem newline_not_mem_escape (c : Char) :
  '\n' ∉ escape c
  := by
  have letters : ∀ e ∈ shortEscapes, '\n' ≠ e.2 := by decide
  have marks : ∀ m ∈ longEscapes, '\n' ≠ m.1 := by decide
  cases short : shortEscape? c with
  | some letter => simp [escape, short, letters _ (mem_shortEscapes short)]
  | none =>
    obtain ⟨mark, width, listed, -, written⟩ := escape_of_eq_none short
    have digits : '\n' ∉ hex width c.toNat := fun mem =>
      absurd (Numeral.isSome_digit?_of_readFrom? (readFrom?_hex width c.toNat) mem) (by decide)
    simp [written, digits, marks _ listed]

theorem newline_not_mem_doubleQuoted (cs : List Char) :
  '\n' ∉ doubleQuoted cs
  := by
  have code (c : Char) : '\n' ∉ if needsEscape c then escape c else [c] := by
    split
    · exact newline_not_mem_escape c
    · next plain =>
      rw [List.mem_singleton]
      rintro rfl
      exact plain (by decide)
  simp only [doubleQuoted, List.cons_append, List.mem_cons, List.mem_append, List.mem_flatMap]
  rintro (quote | ⟨c, -, inside⟩ | quote)
  · exact absurd quote (by decide)
  · exact code c inside
  · simp at quote

theorem newline_not_mem_quotedLines (single : '\n' ∉ cs) :
  '\n' ∉ quotedLines k fresh cs
  := by
  induction cs generalizing fresh with
  | nil => cases fresh <;> simp [quotedLines]
  | cons c cs ih =>
    obtain ⟨other, later⟩ := not_or.1 (List.mem_cons.not.1 single)
    have code : '\n' ∉ doubled c := by
      unfold doubled
      split
      · decide
      · rwa [List.mem_singleton]
    unfold quotedLines
    split
    · simp [other, ih later]
    · split
      · simp [code, ih later]
      · simp [code, ih later]

/-- A text of several lines is a literal block or between double quotes. -/
theorem newline_not_mem_of_style {s : Style} (h : style cs = s) (notLiteral : s ≠ .literal)
    (notDouble : s ≠ .doubleQuoted) :
  '\n' ∉ cs
  := by
  intro several
  have want : wanted cs = .literal := by simp [wanted, several]
  rw [style, want, settle] at h
  split at h
  · exact notLiteral h.symm
  · exact notDouble h.symm

/-- A scalar that is no block stays on its line. -/
theorem exists_line_eq (notLiteral : style cs ≠ .literal) :
  ∃ word, '\n' ∉ word ∧ line k cs = word ++ ['\n']
  := by
  unfold line
  cases styled : style cs with
  | plain => exact ⟨_, newline_not_mem_of_style styled (by decide) (by decide), rfl⟩
  | singleQuoted =>
    have single := newline_not_mem_of_style styled (by decide) (by decide)
    have oneLine : '\n' ∉ singleQuoted k cs := by
      simp [singleQuoted, newline_not_mem_quotedLines single]
    exact ⟨_, oneLine, rfl⟩
  | doubleQuoted => exact ⟨_, newline_not_mem_doubleQuoted cs, rfl⟩
  | literal => exact absurd styled notLiteral

/-! ### Lines of a block -/

theorem settle_eq_literal {s : Style} (h : settle cs s = .literal) :
  s = .literal ∧ literalAllowed cs = true
  := by
  cases s with
  | literal =>
    simp only [settle] at h
    split at h
    · next allowed => exact ⟨rfl, allowed⟩
    · contradiction
  | plain =>
    simp only [settle] at h
    split at h
    · contradiction
    · split at h <;> contradiction
  | singleQuoted =>
    simp only [settle] at h
    split at h <;> contradiction
  | doubleQuoted => contradiction

/-- A literal block can only hold what can be printed. -/
theorem isPrintable_of_style_eq_literal (h : style cs = .literal) :
  ∀ c ∈ cs, isPrintable c = true
  := by
  have allowed := (settle_eq_literal h).2
  simp only [literalAllowed, hasSpecial, Bool.not_eq_true', Bool.or_eq_false_iff] at allowed
  simpa using allowed.2

/-- The header of a block stands on one line. -/
theorem exists_literal_eq (k : Nat) (cs : List Char) :
  ∃ header, '\n' ∉ header ∧ literal k cs = header ++ '\n' :: blockLines k true cs
  := by
  refine ⟨'|' :: indentationIndicator cs ++ chompingIndicator cs, ?_, rfl⟩
  have headers : ∀ i ∈ [['2'], []], ∀ m ∈ [['-'], ['+'], []], '\n' ∉ '|' :: i ++ m := by decide
  exact headers _ (indentationIndicator_mem cs) _ (chompingIndicator_mem cs)

/-- The lines of a block without the end that the last of them may need. -/
def blockBody (k : Nat) (fresh : Bool) : List Char → List Char
  | [] => []
  | c :: cs =>
    (if fresh && !isBreak c then Node.spaces k else []) ++ c :: blockBody k (isBreak c) cs

/-- The lines of a text are written one after the other. -/
theorem blockLines_append (k : Nat) (fresh : Bool) (cs ds : List Char) :
  blockLines k fresh (cs ++ ds) = blockBody k fresh cs ++ blockLines k (endsFresh fresh cs) ds
  := by
  induction cs generalizing fresh with
  | nil => rfl
  | cons c cs ih =>
    rw [List.cons_append, blockLines_cons, ih, blockBody, endsFresh_cons, List.append_assoc,
      List.cons_append, Node.spaces]

/-- The lines of a block that end with `'\n'` are those of its text. -/
theorem blockLines_append_newline (k : Nat) (cs ds : List Char) :
  blockLines k true (cs ++ '\n' :: ds) = blockBody k true cs ++ '\n' :: blockLines k true ds
  := by
  rw [blockLines_append]
  rfl

/-- The last line of a block is ended if its text does not end it. -/
theorem blockLines_eq (k : Nat) (cs : List Char) :
  blockLines k true cs = blockBody k true cs ++ if endsFresh true cs then [] else ['\n']
  := by
  have lines := blockLines_append k true cs []
  rwa [List.append_nil] at lines

theorem newline_not_mem_blockBody (single : '\n' ∉ cs) :
  '\n' ∉ blockBody k fresh cs
  := by
  induction cs generalizing fresh with
  | nil => exact List.not_mem_nil
  | cons c cs ih =>
    obtain ⟨other, later⟩ := not_or.1 (List.mem_cons.not.1 single)
    rw [blockBody, List.mem_append, List.mem_cons, not_or, not_or]
    refine ⟨?_, other, ih later⟩
    split
    · simp [Node.spaces]
    · exact List.not_mem_nil

/-- Breaks at the beginning of a text are not indented. -/
theorem blockBody_append_of_isBreak (breaks : ∀ c ∈ cs, isBreak c = true) (ds : List Char) :
  blockBody k true (cs ++ ds) = cs ++ blockBody k true ds
  := by
  induction cs with
  | nil => rfl
  | cons c cs ih =>
    obtain ⟨broken, later⟩ := List.forall_mem_cons.1 breaks
    simp [blockBody, broken, ih later]

end Scalar

end MeshOnboard.Yaml
