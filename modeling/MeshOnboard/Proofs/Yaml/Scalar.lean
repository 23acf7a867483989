import MeshOnboard.Proofs.Text.Numeral
import MeshOnboard.Yaml.Node
import Mathlib.Data.List.Basic

/-!
# Where a scalar ends

A scalar can be told apart from whatever follows it in a document, provided that what follows is
not indented as far as the lines of a block.  Words, keys and quoted scalars are written character
by character, and `IsPrefixCode` says when the characters, and the end after them, can be told apart
(`flatMap_append_inj`); between single quotes some of them stand behind a margin
(`quotedLines_append_inj`).  The lines of a literal block end where the indentation does
(`blockLines_append_inj`), and the first character of a scalar gives its style away.  The main
statement is `line_append_inj`.
-/

namespace MeshOnboard.Yaml

/-! ### Codes of characters -/

/-- The codes of the characters satisfying `p` can be told apart whatever follows them, from each
other and from `stop`. -/
structure IsPrefixCode (p : Char → Prop) (code : Char → List Char) (stop : List Char) : Prop where
  code_inj : ∀ c d x y, p c → p d → code c ++ x = code d ++ y → c = d
  code_ne_stop : ∀ c x y, p c → code c ++ x ≠ stop ++ y

namespace IsPrefixCode

variable {p : Char → Prop} {code : Char → List Char} {stop : List Char}

/-- A text in a prefix code, with the end after it, says where it ends. -/
theorem flatMap_append_inj (h : IsPrefixCode p code stop) {cs ds rest rest' : List Char}
    (hcs : ∀ c ∈ cs, p c) (hds : ∀ d ∈ ds, p d)
    (same : cs.flatMap code ++ (stop ++ rest) = ds.flatMap code ++ (stop ++ rest')) :
  cs = ds ∧ rest = rest'
  := by
  induction cs generalizing ds with
  | nil =>
    cases ds with
    | nil => exact ⟨rfl, List.append_cancel_left same⟩
    | cons d ds =>
      rw [List.flatMap_cons, List.append_assoc] at same
      exact absurd same.symm (h.code_ne_stop d _ _ (List.forall_mem_cons.1 hds).1)
  | cons c cs ih =>
    obtain ⟨hc, later⟩ := List.forall_mem_cons.1 hcs
    rw [List.flatMap_cons, List.append_assoc] at same
    cases ds with
    | nil => exact absurd same (h.code_ne_stop c _ _ hc)
    | cons d ds =>
      obtain ⟨hd, later'⟩ := List.forall_mem_cons.1 hds
      rw [List.flatMap_cons, List.append_assoc] at same
      obtain rfl := h.code_inj c d _ _ hc hd same
      obtain ⟨rfl, rest_eq⟩ := ih later later' (List.append_cancel_left same)
      exact ⟨rfl, rest_eq⟩

/-- Characters that stand for themselves are told from the end if it is none of them. -/
theorem verbatim (stop : Char) :
  IsPrefixCode (· ≠ stop) (fun c => [c]) [stop]
  where
  code_inj _ _ _ _ _ _ same := (List.cons.inj same).1
  code_ne_stop _ _ _ hc same := hc (List.cons.inj same).1

end IsPrefixCode

/-- A text up to the first `stop`, which is none of its characters, says where it ends. -/
theorem verbatim_append_inj {stop : Char} {cs ds rest rest' : List Char} (hcs : stop ∉ cs)
    (hds : stop ∉ ds) (same : cs ++ stop :: rest = ds ++ stop :: rest') :
  cs = ds ∧ rest = rest'
  := by
  apply (IsPrefixCode.verbatim stop).flatMap_append_inj
  · rintro c hc rfl
    exact hcs hc
  · rintro d hd rfl
    exact hds hd
  · simpa using same

namespace Scalar

/-! ### Margins -/

/-- The spaces before what follows; there are none where a line goes on and before a break. -/
def margin (k : Nat) (fresh : Bool) (following : List Char) : List Char :=
  if fresh && !startsWith isBreak following then List.replicate k ' ' else []

/-- What follows can be told apart behind its margin. -/
theorem margin_append_inj {k : Nat} (hk : 0 < k) {fresh : Bool} {x y : List Char}
    (same : margin k fresh x ++ x = margin k fresh y ++ y) :
  x = y
  := by
  obtain ⟨m, rfl⟩ : ∃ m, k = m + 1 := ⟨k - 1, by omega⟩
  -- a text that starts with a break is none that starts with spaces
  have space (z : List Char) : startsWith isBreak (List.replicate (m + 1) ' ' ++ z) = false := by
    rw [List.replicate_succ]
    rfl
  cases fresh with
  | false => exact same
  | true =>
    cases broken : startsWith isBreak x with
    | true =>
      cases broken' : startsWith isBreak y with
      | true => simpa [margin, broken, broken'] using same
      | false =>
        obtain rfl : x = List.replicate (m + 1) ' ' ++ y := by
          simpa [margin, broken, broken'] using same
        rw [space] at broken
        contradiction
    | false =>
      cases broken' : startsWith isBreak y with
      | true =>
        obtain rfl : List.replicate (m + 1) ' ' ++ x = y := by
          simpa [margin, broken, broken'] using same
        rw [space] at broken'
        contradiction
      | false => simpa [margin, broken, broken'] using same

/-! ### Quoted scalars -/

/-- A quote inside single quotes is doubled and the one at the end stands before the end of the
line. -/
theorem isPrefixCode_doubled :
  IsPrefixCode (fun _ => True) doubled ['\'', '\n']
  where
  code_inj c d x y _ _ same := by
    unfold doubled at same
    split at same <;> split at same <;> grind
  code_ne_stop c x y _ same := by
    unfold doubled at same
    split at same <;> simp_all

theorem quotedLines_nil_append (k : Nat) (fresh : Bool) (after : List Char) :
  quotedLines k fresh [] ++ after = margin k fresh ('\'' :: after) ++ '\'' :: after
  := by
  have unbroken : startsWith isBreak ('\'' :: after) = false := rfl
  cases fresh <;> simp [quotedLines, margin, unbroken]

theorem quotedLines_cons_append (k : Nat) (fresh : Bool) (c : Char) (cs after : List Char) :
  quotedLines k fresh (c :: cs) ++ after =
    margin k fresh (doubled c ++ (quotedLines k (isBreak c) cs ++ after)) ++
      (doubled c ++ (quotedLines k (isBreak c) cs ++ after))
  := by
  have first (rest : List Char) : startsWith isBreak (doubled c ++ rest) = isBreak c := by
    unfold doubled
    split
    · next quote => simp [startsWith, quote]
    · simp [startsWith]
  rw [margin, first]
  cases broken : isBreak c with
  | true =>
    have verbatim : doubled c = [c] := by
      apply if_neg
      rintro rfl
      contradiction
    simp [quotedLines, broken, verbatim]
  | false => cases fresh <;> simp [quotedLines, broken]

/-- A text between single quotes says where it ends. -/
theorem quotedLines_append_inj {k : Nat} (hk : 0 < k) {fresh : Bool}
    {cs ds rest rest' : List Char}
    (same : quotedLines k fresh cs ++ '\n' :: rest = quotedLines k fresh ds ++ '\n' :: rest') :
  cs = ds ∧ rest = rest'
  := by
  induction cs generalizing fresh ds with
  | nil =>
    cases ds with
    | nil => simpa using List.append_cancel_left same
    | cons d ds =>
      rw [quotedLines_nil_append, quotedLines_cons_append] at same
      have behind := margin_append_inj hk same
      exact absurd behind.symm (isPrefixCode_doubled.code_ne_stop d _ _ trivial)
  | cons c cs ih =>
    rw [quotedLines_cons_append] at same
    cases ds with
    | nil =>
      rw [quotedLines_nil_append] at same
      have behind := margin_append_inj hk same
      exact absurd behind (isPrefixCode_doubled.code_ne_stop c _ _ trivial)
    | cons d ds =>
      rw [quotedLines_cons_append] at same
      have behind := margin_append_inj hk same
      obtain rfl := isPrefixCode_doubled.code_inj c d _ _ trivial trivial behind
      obtain ⟨rfl, rest_eq⟩ := ih (List.append_cancel_left behind)
      exact ⟨rfl, rest_eq⟩

/-- The characters with short escapes, each with the letter of its escape. -/
def shortEscapes : List (Nat × Char) :=
  [(0x00, '0'), (0x07, 'a'), (0x08, 'b'), (0x09, 't'), (0x0A, 'n'), (0x0B, 'v'), (0x0C, 'f'),
    (0x0D, 'r'), (0x1B, 'e'), (0x22, '"'), (0x5C, '\\'), (0x85, 'N'), (0xA0, '_'), (0x2028, 'L'),
    (0x2029, 'P')]

theorem mem_shortEscapes {c letter : Char} (h : shortEscape? c = some letter) :
  (c.toNat, letter) ∈ shortEscapes
  := by
  unfold shortEscape? at h
  split at h <;> cases h <;> simp [shortEscapes, *]

theorem shortEscape?_inj {c d letter : Char} (hc : shortEscape? c = some letter)
    (hd : shortEscape? d = some letter) :
  c = d
  := by
  have distinct : ∀ e ∈ shortEscapes, ∀ f ∈ shortEscapes, e.2 = f.2 → e.1 = f.1 := by decide
  apply Char.toNat_inj.1
  exact distinct _ (mem_shortEscapes hc) _ (mem_shortEscapes hd) rfl

theorem length_hex {width n : Nat} (hw : 0 < width) (h : n < 16 ^ width) :
  (hex width n).length = width
  := by
  have := (Nat.length_toDigits_le_iff (by decide) hw).2 h
  simp [hex, Numeral.hexadecimal]
  omega

/-- A hexadecimal escape has the value it was made from. -/
theorem readFrom?_hex (width n : Nat) :
  Numeral.readFrom? 16 0 (hex width n) = some n
  := by
  simp only [hex, Numeral.hexadecimal]
  rw [Numeral.readFrom?_replicate_zero (by decide)]
  apply Numeral.readFrom?_map_toDigits (by decide)
  decide

/-- The marks of the hexadecimal escapes, each with the number of digits after it. -/
def longEscapes : List (Char × Nat) := [('x', 2), ('u', 4), ('U', 8)]

/-- A character without a short escape is written by its number. -/
theorem escape_of_eq_none {c : Char} (h : shortEscape? c = none) :
  ∃ mark width, (mark, width) ∈ longEscapes ∧ c.toNat < 16 ^ width ∧
    escape c = '\\' :: mark :: hex width c.toNat
  := by
  simp only [escape, h]
  split
  · use 'x', 2, by decide, by omega
  split
  · use 'u', 4, by decide, by omega
  · have : c.toNat < 2 ^ 32 := c.val.toNat_lt
    use 'U', 8, by decide, by omega

/-- Two escapes that begin alike are the same. -/
theorem escape_append_inj {c d : Char} {x y : List Char} (same : escape c ++ x = escape d ++ y) :
  c = d
  := by
  have marks : ∀ e ∈ shortEscapes, ∀ m ∈ longEscapes, e.2 ≠ m.1 := by decide
  have widths : ∀ m ∈ longEscapes, ∀ n ∈ longEscapes, m.1 = n.1 → m.2 = n.2 ∧ 0 < m.2 := by decide
  have short {c letter} (h : shortEscape? c = some letter) : escape c = ['\\', letter] := by
    simp only [escape, h]
  cases hc : shortEscape? c with
  | some letter =>
    cases hd : shortEscape? d with
    | some letter' =>
      rw [short hc, short hd] at same
      obtain rfl : letter = letter' := by simpa using (List.cons.inj (List.cons.inj same).2).1
      exact shortEscape?_inj hc hd
    | none =>
      obtain ⟨mark, width, listed, -, written⟩ := escape_of_eq_none hd
      rw [short hc, written] at same
      obtain rfl : letter = mark := (List.cons.inj (List.cons.inj same).2).1
      exact absurd rfl (marks _ (mem_shortEscapes hc) _ listed)
  | none =>
    obtain ⟨mark, width, listed, small, written⟩ := escape_of_eq_none hc
    cases hd : shortEscape? d with
    | some letter =>
      rw [short hd, written] at same
      obtain rfl : mark = letter := (List.cons.inj (List.cons.inj same).2).1
      exact absurd rfl (marks _ (mem_shortEscapes hd) _ listed)
    | none =>
      obtain ⟨mark', width', listed', small', written'⟩ := escape_of_eq_none hd
      rw [written, written'] at same
      obtain ⟨rfl, tails⟩ := List.cons.inj (List.cons.inj same).2
      obtain ⟨rfl, positive⟩ := widths _ listed _ listed' rfl
      have digits : hex width c.toNat = hex width d.toNat := by
        apply (List.append_inj tails _).1
        rw [length_hex positive small, length_hex positive small']
      apply Char.toNat_inj.1
      apply Option.some.inj
      rw [← readFrom?_hex width, digits, readFrom?_hex]

theorem head?_escape (c : Char) :
  (escape c).head? = some '\\'
  := by
  cases h : shortEscape? c with
  | some letter => simp [escape, h]
  | none =>
    obtain ⟨mark, width, -, -, written⟩ := escape_of_eq_none h
    rw [written, List.head?_cons]

/-- A character between double quotes is told from every other one and from the quote at the
end. -/
theorem isPrefixCode_doubleQuoted :
  IsPrefixCode (fun _ => True) (fun c => if needsEscape c then escape c else [c]) ['"', '\n']
  where
  code_inj c d x y _ _ same := by
    have verbatim_ne {c d : Char} {x y : List Char} (plain : ¬needsEscape c = true) :
        [c] ++ x ≠ escape d ++ y := by
      intro same
      have slash : c = '\\' := by
        simpa [head?_escape] using congrArg List.head? same
      exact plain (by simp [needsEscape, slash])
    split at same
    · split at same
      · exact escape_append_inj same
      · next plain => exact absurd same.symm (verbatim_ne plain)
    · next plain =>
      split at same
      · exact absurd same (verbatim_ne plain)
      · exact (List.cons.inj same).1
  code_ne_stop c x y _ same := by
    split at same
    · simpa [head?_escape] using congrArg List.head? same
    · next plain =>
      have quote : c = '"' := (List.cons.inj same).1
      exact plain (by simp [needsEscape, quote])

/-! ### Literal blocks -/

/-- A character of a block is indented where it begins a line that is not empty. -/
theorem blockLines_cons (k : Nat) (fresh : Bool) (c : Char) (cs : List Char) :
  blockLines k fresh (c :: cs) =
    (if fresh && !isBreak c then List.replicate k ' ' else []) ++
      c :: blockLines k (isBreak c) cs
  := by
  cases broken : isBreak c
  · cases fresh <;> simp [blockLines, broken]
  · simp [blockLines, broken]

/-- The text starts, after at most `indent` spaces, with neither a space nor a break. -/
def StartsWithin (indent : Nat) (cs : List Char) : Prop :=
  ∃ n ≤ indent, ∃ tail, cs = Node.spaces n ++ tail ∧
    startsWith (fun c => c = ' ' || isBreak c) tail = false

theorem StartsWithin.mono {indent indent' : Nat} {cs : List Char} (h : StartsWithin indent cs)
    (hle : indent ≤ indent') :
  StartsWithin indent' cs
  := by
  obtain ⟨n, hn, rest⟩ := h
  use n, Nat.le_trans hn hle

/-- What is not indented as far as a block does not go on with the block. -/
theorem StartsWithin.ne_blockLines {indent k : Nat} {rest : List Char}
    (h : StartsWithin indent rest) (hk : indent < k) (c : Char) (cs after : List Char) :
  blockLines k true (c :: cs) ++ after ≠ rest
  := by
  obtain ⟨n, hn, tail, rfl, starts⟩ := h
  intro same
  rw [blockLines_cons, Bool.true_and] at same
  cases broken : isBreak c with
  | true =>
    rw [broken] at same
    cases n with
    | zero =>
      obtain rfl : _ = tail := same
      simp [startsWith, broken] at starts
    | succ n =>
      obtain rfl : c = ' ' := (List.cons.inj same).1
      exact absurd broken (by decide)
  | false =>
    obtain ⟨m, rfl⟩ : ∃ m, k = n + (m + 1) := ⟨k - n - 1, by omega⟩
    rw [broken, Bool.not_false, if_pos rfl, Node.spaces, ← List.replicate_append_replicate,
      List.append_assoc, List.append_assoc] at same
    obtain rfl := List.append_cancel_left same
    simp [startsWith, List.replicate_succ] at starts

/-- Whether a text that is written on a fresh line, or on one that is not, ends on a fresh line. -/
def endsFresh (fresh : Bool) (cs : List Char) : Bool := (cs.map isBreak).getLastD fresh

@[simp]
theorem endsFresh_nil (fresh : Bool) :
  endsFresh fresh [] = fresh
  := rfl

@[simp]
theorem endsFresh_cons (fresh : Bool) (c : Char) (cs : List Char) :
  endsFresh fresh (c :: cs) = endsFresh (isBreak c) cs
  := by
  rw [endsFresh, List.map_cons, List.getLastD_cons]
  rfl

/-- A block whose text ends on a fresh line as often as the empty text does not stop where the block
of the empty text stops. -/
theorem StartsWithin.blockLines_ne_nil {indent k : Nat} {rest : List Char}
    (h : StartsWithin indent rest) (hk : indent < k) {fresh : Bool} {c : Char} {cs : List Char}
    (ends : endsFresh fresh (c :: cs) = fresh) (after : List Char) :
  blockLines k fresh (c :: cs) ++ after ≠ blockLines k fresh [] ++ rest
  := by
  cases fresh with
  | true => exact h.ne_blockLines hk c cs after
  | false =>
    intro same
    rw [blockLines_cons] at same
    obtain ⟨rfl, tails⟩ := List.cons.inj same
    -- the break that ends the line of the empty text is a character here, so the text goes on
    cases cs with
    | nil => exact absurd ends (by decide)
    | cons d ds => exact h.ne_blockLines hk d ds after tails

theorem blockLines_cons_append (k : Nat) (fresh : Bool) (c : Char) (cs after : List Char) :
  blockLines k fresh (c :: cs) ++ after =
    margin k fresh (c :: (blockLines k (isBreak c) cs ++ after)) ++
      c :: (blockLines k (isBreak c) cs ++ after)
  := by
  rw [blockLines_cons, List.append_assoc, List.cons_append]
  rfl

/-- Two blocks that begin alike have texts that begin alike. -/
theorem blockLines_cons_append_inj {k : Nat} (hk : 0 < k) {fresh : Bool} {c d : Char}
    {cs ds x y : List Char}
    (same : blockLines k fresh (c :: cs) ++ x = blockLines k fresh (d :: ds) ++ y) :
  c = d ∧ blockLines k (isBreak c) cs ++ x = blockLines k (isBreak c) ds ++ y
  := by
  rw [blockLines_cons_append, blockLines_cons_append] at same
  obtain ⟨rfl, tails⟩ := List.cons.inj (margin_append_inj hk same)
  exact ⟨rfl, tails⟩

/-- The lines of a block say where they end, if it is known whether a break had to be added to the
last of them. -/
theorem blockLines_append_inj {indent k : Nat} (hk : indent < k) {rest rest' : List Char}
    (h : StartsWithin indent rest) (h' : StartsWithin indent rest') {fresh : Bool}
    {cs ds : List Char} (ends : endsFresh fresh cs = endsFresh fresh ds)
    (same : blockLines k fresh cs ++ rest = blockLines k fresh ds ++ rest') :
  cs = ds ∧ rest = rest'
  := by
  induction cs generalizing fresh ds with
  | nil =>
    cases ds with
    | nil => exact ⟨rfl, List.append_cancel_left same⟩
    | cons d ds => exact absurd same.symm (h.blockLines_ne_nil hk ends.symm rest')
  | cons c cs ih =>
    cases ds with
    | nil => exact absurd same (h'.blockLines_ne_nil hk ends rest)
    | cons d ds =>
      obtain ⟨rfl, tails⟩ := blockLines_cons_append_inj (Nat.zero_lt_of_lt hk) same
      rw [endsFresh_cons, endsFresh_cons] at ends
      obtain ⟨rfl, rest_eq⟩ := ih ends tails
      exact ⟨rfl, rest_eq⟩

/-- The marks of a block tell whether its text ends on a fresh line. -/
theorem endsFresh_eq {cs : List Char} (some : cs ≠ []) :
  endsFresh true cs = !decide (chompingIndicator cs = ['-'])
  := by
  obtain ⟨before, c, rfl⟩ := (List.eq_nil_or_concat' cs).resolve_left some
  have last : endsFresh true (before ++ [c]) = isBreak c := by simp [endsFresh]
  rw [last]
  simp only [chompingIndicator, List.reverse_append, List.reverse_singleton, List.singleton_append]
  cases isBreak c with
  | false => rfl
  | true =>
    simp only [Bool.not_true, Bool.false_eq_true, if_false]
    split
    · rfl
    · split <;> rfl

theorem indentationIndicator_mem (cs : List Char) :
  indentationIndicator cs ∈ [['2'], []]
  := by
  unfold indentationIndicator
  split <;> decide

theorem chompingIndicator_mem (cs : List Char) :
  chompingIndicator cs ∈ [['-'], ['+'], []]
  := by
  unfold chompingIndicator
  split
  · decide
  · split
    · decide
    · split
      · decide
      · split <;> decide

/-- The header of a block says where it ends and what becomes of the breaks at the end. -/
theorem header_append_inj {cs ds x y : List Char}
    (same : indentationIndicator cs ++ (chompingIndicator cs ++ '\n' :: x) =
      indentationIndicator ds ++ (chompingIndicator ds ++ '\n' :: y)) :
  chompingIndicator cs = chompingIndicator ds ∧ x = y
  := by
  have headers : ∀ i ∈ [['2'], []], ∀ j ∈ [['2'], []],
      ∀ m ∈ [['-'], ['+'], []], ∀ n ∈ [['-'], ['+'], []],
      i ++ (m ++ '\n' :: x) = j ++ (n ++ '\n' :: y) → m = n ∧ x = y := by
    simp
  exact headers _ (indentationIndicator_mem cs) _ (indentationIndicator_mem ds)
    _ (chompingIndicator_mem cs) _ (chompingIndicator_mem ds) same

/-- A literal block says where it ends. -/
theorem literal_append_inj {indent k : Nat} (hk : indent < k) {rest rest' : List Char}
    (h : StartsWithin indent rest) (h' : StartsWithin indent rest') {cs ds : List Char}
    (hcs : cs ≠ []) (hds : ds ≠ []) (same : literal k cs ++ rest = literal k ds ++ rest') :
  cs = ds ∧ rest = rest'
  := by
  simp only [literal, List.cons_append, List.append_assoc, List.cons.injEq, true_and] at same
  obtain ⟨marks, lines⟩ := header_append_inj same
  apply blockLines_append_inj hk h h' _ lines
  rw [endsFresh_eq hcs, endsFresh_eq hds, marks]

/-! ### Scalars of any style -/

/-- The style that a scalar with the given first character has. -/
def styleOfFirst (c : Char) : Style :=
  if c = '\'' then .singleQuoted
  else if c = '"' then .doubleQuoted
  else if c = '|' then .literal
  else .plain

theorem settle_eq_plain {cs : List Char} {s : Style} (h : settle cs s = .plain) :
  s = .plain ∧ plainAllowed cs = true
  := by
  cases s with
  | plain =>
    simp only [settle] at h
    split at h
    · next allowed => exact ⟨rfl, allowed⟩
    · split at h <;> contradiction
  | singleQuoted =>
    simp only [settle] at h
    split at h <;> contradiction
  | doubleQuoted => contradiction
  | literal =>
    simp only [settle] at h
    split at h <;> contradiction

theorem wanted_eq_plain {cs : List Char} (h : wanted cs = .plain) :
  '\n' ∉ cs ∧ cs ≠ []
  := by
  unfold wanted at h
  split at h
  · contradiction
  · next single =>
    split at h
    · contradiction
    · next proper =>
      use by simpa using single
      rintro rfl
      exact proper (by decide)

/-- A plain text has a first character, which begins no scalar of another style. -/
theorem styleOfFirst_of_plainAllowed {cs : List Char} (some : cs ≠ [])
    (h : plainAllowed cs = true) :
  ∃ c, cs.head? = .some c ∧ styleOfFirst c = .plain
  := by
  cases cs with
  | nil => exact absurd rfl some
  | cons c cs =>
    use c, rfl
    have other : c ∉ leadingIndicators := by
      intro listed
      have indicator : startsIndicator (c :: cs) = true := by
        simp [startsIndicator, listed]
      simp [plainAllowed, hasIndicator, indicator] at h
    have ne {d : Char} (listed : d ∈ leadingIndicators) : c ≠ d := by
      rintro rfl
      exact other listed
    rw [styleOfFirst, if_neg (ne (by decide)), if_neg (ne (by decide)), if_neg (ne (by decide))]

/-- A text in a literal block is not empty. -/
theorem of_style_eq_literal {cs : List Char} (h : style cs = .literal) :
  cs ≠ []
  := by
  rintro rfl
  exact absurd h (by decide)

/-- The first character of a scalar says which style it has. -/
theorem styleOfFirst_line (k : Nat) (cs : List Char) :
  ∃ c, (line k cs).head? = some c ∧ styleOfFirst c = style cs
  := by
  unfold line
  split
  · next plain =>
    obtain ⟨want, allowed⟩ := settle_eq_plain plain
    obtain ⟨c, first, hc⟩ := styleOfFirst_of_plainAllowed (wanted_eq_plain want).2 allowed
    use c
    rw [List.head?_append, first, plain]
    use rfl, hc
  · next quoted =>
    use '\'', rfl
    rw [quoted]
    decide
  · next quoted =>
    use '"', rfl
    rw [quoted]
    decide
  · next block =>
    use '|', rfl
    rw [block]
    decide

/-- A scalar says where it ends, if what follows is not indented as far as its blocks. -/
theorem line_append_inj {indent k : Nat} (hk : indent < k) {rest rest' : List Char}
    (h : StartsWithin indent rest) (h' : StartsWithin indent rest') {cs ds : List Char}
    (same : line k cs ++ rest = line k ds ++ rest') :
  cs = ds ∧ rest = rest'
  := by
  obtain ⟨c, first, hc⟩ := styleOfFirst_line k cs
  obtain ⟨d, first', hd⟩ := styleOfFirst_line k ds
  have styles : style cs = style ds := by
    have firsts := congrArg List.head? same
    rw [List.head?_append, List.head?_append, first, first'] at firsts
    obtain rfl := Option.some.inj firsts
    rw [← hc, hd]
  unfold line at same
  rw [← styles] at same
  cases style_eq : style cs with
  | plain =>
    have single {cs : List Char} (h : style cs = .plain) : '\n' ∉ cs :=
      (wanted_eq_plain (settle_eq_plain h).1).1
    apply verbatim_append_inj (single style_eq) (single (styles ▸ style_eq))
    simpa [style_eq] using same
  | singleQuoted =>
    apply quotedLines_append_inj (Nat.zero_lt_of_lt hk)
    simpa [style_eq, singleQuoted] using same
  | doubleQuoted =>
    apply isPrefixCode_doubleQuoted.flatMap_append_inj (by simp) (by simp)
    simpa [style_eq, doubleQuoted] using same
  | literal =>
    rw [style_eq] at same
    exact literal_append_inj hk h h' (of_style_eq_literal style_eq)
      (of_style_eq_literal (styles ▸ style_eq)) same

end Scalar

end MeshOnboard.Yaml
