import MeshOnboard.Metrics.Exposition

/-!
# Series

A series has a name and labels, and its lines begin with its `Series.header`.  The values of labels
are escaped and stand between quotes, so that a text begins with the header of one series at most,
whatever the values of its labels are.
-/

namespace MeshOnboard.Exposition

/-! ### Unambiguous texts -/

variable {r r' : List Char}

/-- Two texts that go on behind the first sign of some kind are the same up to there. -/
theorem eq_of_cut {P : Char → Prop} {a a' : List Char} {c c' : Char} (ha : ∀ x ∈ a, ¬ P x)
    (ha' : ∀ x ∈ a', ¬ P x) (hc : P c) (hc' : P c') (h : a ++ c :: r = a' ++ c' :: r') :
  a = a' ∧ c = c' ∧ r = r'
  := by
  induction a generalizing a' with
  | nil =>
    cases a' with
    | nil =>
      obtain ⟨same, rest⟩ := List.cons.inj h
      exact ⟨rfl, same, rest⟩
    | cons x' a' =>
      obtain ⟨rfl, -⟩ := List.cons.inj h
      exact absurd hc (ha' c List.mem_cons_self)
  | cons x a ih =>
    cases a' with
    | nil =>
      obtain ⟨rfl, -⟩ := List.cons.inj h
      exact absurd hc' (ha x List.mem_cons_self)
    | cons x' a' =>
      obtain ⟨rfl, rest⟩ := List.cons.inj h
      obtain ⟨rfl, same, rest⟩ := ih (fun y hy => ha y (List.mem_cons_of_mem x hy))
        (fun y hy => ha' y (List.mem_cons_of_mem x hy)) rest
      exact ⟨rfl, same, rest⟩

/-- The signs that stand for one sign between quotes. -/
def code : Char → List Char
  | '\\' => ['\\', '\\']
  | '\n' => ['\\', 'n']
  | '"' => ['\\', '"']
  | c => [c]

theorem toList_escape (s : String) :
  (escape s).toList = s.toList.flatMap code
  := by
  rw [escape, String.toList_ofList]
  rfl

theorem eq_of_code {c d : Char} (h : code c ++ r = code d ++ r') :
  c = d ∧ r = r'
  := by
  unfold code at h
  split at h
  all_goals split at h
  all_goals simp_all [eq_comm]

theorem quote_ne_code (c : Char) (r r' : List Char) :
  '"' :: r ≠ code c ++ r'
  := by
  unfold code
  split <;> simp_all [eq_comm]

/-- Two texts that go on behind a quoted text are the same up to there. -/
theorem eq_of_quoted {s t : List Char}
    (h : s.flatMap code ++ '"' :: r = t.flatMap code ++ '"' :: r') :
  s = t ∧ r = r'
  := by
  induction s generalizing t with
  | nil =>
    cases t with
    | nil => exact ⟨rfl, (List.cons.inj h).2⟩
    | cons d t =>
      rw [List.flatMap_cons, List.append_assoc] at h
      exact absurd h (quote_ne_code d _ _)
  | cons c s ih =>
    cases t with
    | nil =>
      rw [List.flatMap_cons, List.append_assoc] at h
      exact absurd h.symm (quote_ne_code c _ _)
    | cons d t =>
      rw [List.flatMap_cons, List.flatMap_cons, List.append_assoc, List.append_assoc] at h
      obtain ⟨rfl, later⟩ := eq_of_code h
      obtain ⟨rfl, after⟩ := ih later
      exact ⟨rfl, after⟩

/-! ### Series -/

/-- What has a value in a text. -/
structure Series where
  name : String
  labels : List Label
  deriving DecidableEq

/-- A value that a text shows. -/
structure Sample where
  series : Series
  value : Rat

/-- Whether a sign may stand in a name. -/
def isNameSign (c : Char) : Bool := c.isAlphanum || c == '_'

/-- Whether a text consists of the signs of names. -/
def isName (n : String) : Bool := n.toList.all isNameSign

theorem isName_iff {n : String} :
  isName n ↔ ∀ c ∈ n.toList, isNameSign c
  := List.all_eq_true

theorem isName_append (n m : String) :
  isName (n ++ m) = (isName n && isName m)
  := by
  rw [isName, String.toList_append, List.all_append]
  rfl

namespace Series

/-- The name of the series and those of its labels are names. -/
structure Proper (s : Series) : Prop where
  name : isName s.name
  labels : ∀ l ∈ s.labels, isName l.1

/-- What the lines of a series begin with. -/
def header (s : Series) : String := s.name ++ labelText s.labels ++ " "

end Series

/-- The line of a sample. -/
def Sample.line (x : Sample) : String := sample x.series.name x.series.labels x.value

theorem Sample.line_eq (x : Sample) :
  x.line = x.series.header ++ Shortest.text x.value
  := rfl

/-- A label as it stands in braces. -/
def pairSigns (l : Label) : List Char :=
  l.1.toList ++ '=' :: '"' :: (l.2.toList.flatMap code ++ ['"'])

/-- What stands behind the first label. -/
def furtherSigns : List Label → List Char
  | [] => ['}', ' ']
  | l :: ls => ',' :: (pairSigns l ++ furtherSigns ls)

theorem toList_labelText_cons (l : Label) (ls : List Label) :
  (labelText (l :: ls)).toList ++ [' '] = '{' :: (pairSigns l ++ furtherSigns ls)
  := by
  let pair (l : Label) : String := l.1 ++ "=\"" ++ escape l.2 ++ "\""
  have signs (l : Label) : (pair l).toList = pairSigns l := by
    simp [pair, pairSigns, toList_escape]
  have between : (",".intercalate ((l :: ls).map pair)).toList ++ ['}', ' '] =
      pairSigns l ++ furtherSigns ls := by
    induction ls generalizing l with
    | nil => simp [furtherSigns, signs]
    | cons l' ls ih =>
      specialize ih l'
      rw [List.map_cons] at ih
      rw [List.map_cons, List.map_cons, String.intercalate_cons_cons, String.toList_append,
        List.append_assoc, ih, String.toList_append, signs]
      simp [furtherSigns]
  rw [← between]
  simp [labelText, pair]

theorem Series.toList_header (s : Series) :
  s.header.toList =
    match s.labels with
    | [] => s.name.toList ++ [' ']
    | l :: ls => s.name.toList ++ '{' :: (pairSigns l ++ furtherSigns ls)
  := by
  obtain ⟨name, _ | ⟨l, ls⟩⟩ := s
  · simp [header, labelText]
  · dsimp only
    rw [← toList_labelText_cons]
    simp [header]

/-- Texts that go on behind a name are the same up to there. -/
theorem eq_of_name {n n' : String} (hn : isName n) (hn' : isName n') {c c' : Char}
    (hc : ¬ isNameSign c) (hc' : ¬ isNameSign c')
    (h : n.toList ++ c :: r = n'.toList ++ c' :: r') :
  n = n' ∧ c = c' ∧ r = r'
  := by
  rw [isName_iff] at hn hn'
  obtain ⟨names, rest⟩ := eq_of_cut (P := fun c => ¬ isNameSign c) (by simpa using hn)
    (by simpa using hn') hc hc' h
  exact ⟨String.toList_inj.1 names, rest⟩

theorem eq_of_pairSigns {l l' : Label} (hl : isName l.1) (hl' : isName l'.1)
    (h : pairSigns l ++ r = pairSigns l' ++ r') :
  l = l' ∧ r = r'
  := by
  simp only [pairSigns, List.append_assoc, List.cons_append, List.nil_append] at h
  obtain ⟨names, -, later⟩ := eq_of_name hl hl' (by decide) (by decide) h
  obtain ⟨values, rest⟩ := eq_of_quoted (List.cons.inj later).2
  exact ⟨Prod.ext names (String.toList_inj.1 values), rest⟩

theorem eq_of_furtherSigns {ls ls' : List Label} (hls : ∀ l ∈ ls, isName l.1)
    (hls' : ∀ l ∈ ls', isName l.1)
    (h : furtherSigns ls ++ r = furtherSigns ls' ++ r') :
  ls = ls' ∧ r = r'
  := by
  induction ls generalizing ls' with
  | nil =>
    cases ls' with
    | nil => exact ⟨rfl, List.append_cancel_left h⟩
    | cons l' ls' => simp [furtherSigns] at h
  | cons l ls ih =>
    cases ls' with
    | nil => simp [furtherSigns] at h
    | cons l' ls' =>
      simp only [furtherSigns, List.cons_append, List.append_assoc, List.cons.injEq, true_and] at h
      obtain ⟨hl, others⟩ := List.forall_mem_cons.1 hls
      obtain ⟨hl', others'⟩ := List.forall_mem_cons.1 hls'
      obtain ⟨rfl, later⟩ := eq_of_pairSigns hl hl' h
      obtain ⟨rfl, after⟩ := ih others others' later
      exact ⟨rfl, after⟩

namespace Series

/-- Texts that begin with the headers of series begin with that of the same. -/
theorem eq_of_header {s s' : Series} (hs : s.Proper) (hs' : s'.Proper)
    (h : s.header.toList ++ r = s'.header.toList ++ r') :
  s = s' ∧ r = r'
  := by
  obtain ⟨name, labels⟩ := s
  obtain ⟨name', labels'⟩ := s'
  rw [toList_header, toList_header] at h
  -- the sign behind the name tells whether there are labels
  rcases labels with _ | ⟨l, ls⟩ <;> rcases labels' with _ | ⟨l', ls'⟩ <;>
    simp only [List.append_assoc, List.cons_append, List.nil_append] at h <;>
    obtain ⟨rfl, signs, later⟩ := eq_of_name hs.name hs'.name (by decide) (by decide) h
  · exact ⟨rfl, later⟩
  · simp at signs
  · simp at signs
  · obtain ⟨hl, hls⟩ := List.forall_mem_cons.1 hs.labels
    obtain ⟨hl', hls'⟩ := List.forall_mem_cons.1 hs'.labels
    obtain ⟨rfl, further⟩ := eq_of_pairSigns hl hl' later
    obtain ⟨rfl, rest⟩ := eq_of_furtherSigns hls hls' further
    exact ⟨rfl, rest⟩

end Series

end MeshOnboard.Exposition
