/-!
# Cutting texts

`pieces sep cs` are the parts of a text between the characters equal to `sep`, and `joined sep`
puts parts together again; joining the pieces gives the text back.  `cutAt? sep cs` splits at the
first `sep` alone.  `strip p cs` drops the characters satisfying `p` from both ends.
-/

namespace MeshOnboard.Text

/-- The parts of a text between the characters equal to `sep`; there is always at least one. -/
def pieces (sep : Char) : List Char → List (List Char)
  | [] => [[]]
  | c :: cs =>
    if c = sep then [] :: pieces sep cs
    else
      match pieces sep cs with
      | [] => [[c]]
      | p :: ps => (c :: p) :: ps

/-- The parts written one after the other with `sep` between neighbours. -/
def joined (sep : Char) : List (List Char) → List Char
  | [] => []
  | [p] => p
  | p :: q :: ps => p ++ sep :: joined sep (q :: ps)

/-- The text before and the text after the first `sep`. -/
def cutAt? (sep : Char) : List Char → Option (List Char × List Char)
  | [] => none
  | c :: cs =>
    if c = sep then some ([], cs)
    else (cutAt? sep cs).map fun (before, after) => (c :: before, after)

/-- The text without the characters satisfying `p` at its end. -/
def stripEnd (p : Char → Bool) (cs : List Char) : List Char :=
  (cs.reverse.dropWhile p).reverse

/-- The text without the characters satisfying `p` at either end. -/
def strip (p : Char → Bool) (cs : List Char) : List Char :=
  stripEnd p (cs.dropWhile p)

theorem pieces_ne_nil (sep : Char) (cs : List Char) :
  pieces sep cs ≠ []
  := by
  induction cs with
  | nil => simp [pieces]
  | cons c cs ih =>
    unfold pieces
    split
    · simp
    · split
      · simp
      · simp

/-- A text without the separator is its only piece. -/
theorem pieces_of_not_mem {sep : Char} {cs : List Char} (h : sep ∉ cs) :
  pieces sep cs = [cs]
  := by
  induction cs with
  | nil => rfl
  | cons c cs ih =>
    have other : c ≠ sep := (List.ne_of_not_mem_cons h).symm
    rw [pieces, if_neg other, ih (List.not_mem_of_not_mem_cons h)]

/-- No piece has the separator. -/
theorem not_mem_of_mem_pieces {sep : Char} {cs p : List Char} (h : p ∈ pieces sep cs) :
  sep ∉ p
  := by
  induction cs generalizing p with
  | nil =>
    obtain rfl := List.mem_singleton.1 h
    exact List.not_mem_nil
  | cons c cs ih =>
    unfold pieces at h
    split at h
    · next isSep =>
      rcases List.mem_cons.1 h with rfl | later
      · exact List.not_mem_nil
      · exact ih later
    · next other =>
      cases rest : pieces sep cs with
      | nil => exact absurd rest (pieces_ne_nil sep cs)
      | cons q qs =>
        rw [rest] at h ih
        rcases List.mem_cons.1 h with rfl | later
        · rw [List.mem_cons, not_or]
          exact ⟨fun same => other same.symm, ih List.mem_cons_self⟩
        · exact ih (List.mem_cons_of_mem q later)

/-- A separator cuts the pieces before it from those after it. -/
theorem pieces_append_cons (sep : Char) (before after : List Char) :
  pieces sep (before ++ sep :: after) = pieces sep before ++ pieces sep after
  := by
  induction before with
  | nil => simp [pieces]
  | cons c cs ih =>
    rw [List.cons_append, pieces, pieces, ih]
    split
    · rfl
    · cases h : pieces sep cs with
      | nil => exact absurd h (pieces_ne_nil sep cs)
      | cons p ps => rfl

/-- A text without the separator is the beginning of the first piece of what it stands before. -/
theorem pieces_append_of_not_mem {sep : Char} {before : List Char} (h : sep ∉ before)
    {after p : List Char} {ps : List (List Char)} (cut : pieces sep after = p :: ps) :
  pieces sep (before ++ after) = (before ++ p) :: ps
  := by
  induction before with
  | nil => exact cut
  | cons c cs ih =>
    have other : c ≠ sep := (List.ne_of_not_mem_cons h).symm
    rw [List.cons_append, pieces, if_neg other, ih (List.not_mem_of_not_mem_cons h)]
    rfl

/-- Joining the pieces of a text gives the text back. -/
theorem joined_pieces (sep : Char) (cs : List Char) :
  joined sep (pieces sep cs) = cs
  := by
  induction cs with
  | nil => rfl
  | cons c cs ih =>
    unfold pieces
    split
    · next h =>
      subst h
      cases hp : pieces c cs with
      | nil => exact absurd hp (pieces_ne_nil c cs)
      | cons p ps => rw [hp] at ih; simp [joined, ih]
    · cases hp : pieces sep cs with
      | nil => exact absurd hp (pieces_ne_nil sep cs)
      | cons p ps =>
        rw [hp] at ih
        cases ps with
        | nil => simpa [joined] using ih
        | cons q qs => simpa [joined] using ih

/-- The pieces of parts without the separator that were joined are these parts. -/
theorem pieces_joined {sep : Char} {ps : List (List Char)} (some : ps ≠ [])
    (h : ∀ p ∈ ps, sep ∉ p) :
  pieces sep (joined sep ps) = ps
  := by
  induction ps with
  | nil => exact absurd rfl some
  | cons p ps ih =>
    obtain ⟨hp, hps⟩ := List.forall_mem_cons.1 h
    cases ps with
    | nil => exact pieces_of_not_mem hp
    | cons q qs =>
      rw [joined, pieces_append_cons, pieces_of_not_mem hp, ih (List.cons_ne_nil q qs) hps]
      rfl

theorem mem_of_mem_joined {sep c : Char} {ps : List (List Char)} (h : c ∈ joined sep ps) :
  c = sep ∨ ∃ p ∈ ps, c ∈ p
  := by
  induction ps with
  | nil => contradiction
  | cons p ps ih =>
    cases ps with
    | nil => exact .inr ⟨p, List.mem_cons_self, h⟩
    | cons q qs =>
      rw [joined, List.mem_append, List.mem_cons] at h
      rcases h with here | rfl | later
      · exact .inr ⟨p, List.mem_cons_self, here⟩
      · exact .inl rfl
      · rcases ih later with isSep | ⟨q, hq, hc⟩
        · exact .inl isSep
        · exact .inr ⟨q, List.mem_cons_of_mem p hq, hc⟩

theorem mem_joined {sep c : Char} {ps : List (List Char)} {p : List Char} (h : p ∈ ps)
    (hc : c ∈ p) :
  c ∈ joined sep ps
  := by
  induction ps with
  | nil => contradiction
  | cons q ps ih =>
    cases ps with
    | nil => exact List.mem_singleton.1 h ▸ hc
    | cons r rs =>
      rw [joined, List.mem_append, List.mem_cons]
      rcases List.mem_cons.1 h with rfl | later
      · exact .inl hc
      · exact .inr (.inr (ih later))

theorem mem_of_mem_pieces {sep c : Char} {cs p : List Char} (h : p ∈ pieces sep cs) (hc : c ∈ p) :
  c ∈ cs
  := by
  rw [← joined_pieces sep cs]
  exact mem_joined h hc

theorem cutAt?_eq_none {sep : Char} {cs : List Char} (h : sep ∉ cs) :
  cutAt? sep cs = none
  := by
  induction cs with
  | nil => rfl
  | cons c cs ih =>
    have other : c ≠ sep := (List.ne_of_not_mem_cons h).symm
    rw [cutAt?, if_neg other, ih (List.not_mem_of_not_mem_cons h)]
    rfl

theorem cutAt?_append_cons {sep : Char} {before : List Char} (h : sep ∉ before)
    (after : List Char) :
  cutAt? sep (before ++ sep :: after) = some (before, after)
  := by
  induction before with
  | nil => simp [cutAt?]
  | cons c cs ih =>
    have other : c ≠ sep := (List.ne_of_not_mem_cons h).symm
    rw [List.cons_append, cutAt?, if_neg other, ih (List.not_mem_of_not_mem_cons h)]
    rfl

theorem cutAt?_eq_some {sep : Char} {cs before after : List Char}
    (h : cutAt? sep cs = some (before, after)) :
  cs = before ++ sep :: after ∧ sep ∉ before
  := by
  induction cs generalizing before with
  | nil => simp [cutAt?] at h
  | cons c cs ih =>
    unfold cutAt? at h
    split at h
    · next hc =>
      obtain ⟨rfl, rfl⟩ := by simpa using h
      simp [hc]
    · next hc =>
      obtain ⟨⟨b, a⟩, hba, heq⟩ := Option.map_eq_some_iff.1 h
      obtain ⟨rfl, rfl⟩ := by simpa using heq
      obtain ⟨rfl, hnot⟩ := ih hba
      refine ⟨rfl, ?_⟩
      simp only [List.mem_cons, not_or]
      exact ⟨fun e => hc e.symm, hnot⟩

/-! ### Dropping characters at the ends -/

section Strip

variable {p : Char → Bool} {before cs after : List Char}

theorem dropWhile_eq_self (first : ∀ c ∈ cs.head?, p c = false) :
  cs.dropWhile p = cs
  := by
  cases cs with
  | nil => rfl
  | cons c cs => rw [List.dropWhile_cons, if_neg (by simp [first c rfl])]

theorem stripEnd_eq_self (last : ∀ c ∈ cs.getLast?, p c = false) :
  stripEnd p cs = cs
  := by
  rw [stripEnd, dropWhile_eq_self, List.reverse_reverse]
  rwa [List.head?_reverse]

theorem stripEnd_append (cs : List Char) (dropped : ∀ c ∈ after, p c) :
  stripEnd p (cs ++ after) = stripEnd p cs
  := by
  rw [stripEnd, List.reverse_append, List.dropWhile_append_of_pos, stripEnd]
  intro c mem
  exact dropped c (List.mem_reverse.1 mem)

/-- A text that neither starts nor ends with a character to drop is what is left of it among such
characters. -/
theorem strip_append_append (droppedBefore : ∀ c ∈ before, p c) (droppedAfter : ∀ c ∈ after, p c)
    (first : ∀ c ∈ cs.head?, p c = false) (last : ∀ c ∈ cs.getLast?, p c = false) :
  strip p (before ++ cs ++ after) = cs
  := by
  rw [strip, List.append_assoc, List.dropWhile_append_of_pos droppedBefore]
  cases cs with
  | nil =>
    have nothing : (after ++ []).dropWhile p = [] := List.dropWhile_append_of_pos droppedAfter
    rw [List.append_nil] at nothing
    rw [List.nil_append, nothing]
    rfl
  | cons c cs =>
    rw [dropWhile_eq_self (by simpa using first), stripEnd_append _ droppedAfter,
      stripEnd_eq_self last]

end Strip

end MeshOnboard.Text
