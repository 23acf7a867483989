import MeshOnboard.Overlay.Config
import MeshOnboard.Proofs.Yaml.Lines
import Mathlib.Data.List.TakeWhile

/-!
# No certificate adds a line

The outline of a configuration consists of its lines that are not indented as far as the blocks in
it, those of the parts of the certificate without what follows their keys.  Whatever the parts of
the certificate look like, they are written on the lines of their keys and on lines that are
concealed (`exists_outline_part`), so that they add nothing to the outline (`outline_config`).  Only
a separator at the beginning of a line of a block, which is not indented, is in the way of a reader
that does not take it for the end of a line.
-/

namespace MeshOnboard.Overlay

open MeshOnboard.Text (pieces joined pieces_ne_nil pieces_of_not_mem pieces_append_cons
  pieces_append_of_not_mem joined_pieces not_mem_of_mem_pieces
  mem_of_mem_pieces dropWhile_eq_self)
open MeshOnboard.Yaml

/-! ### Outlines -/

/-- The keys of the parts of the certificate. -/
def partKeys : List String := ["  ca:", "  cert:", "  key:"]

/-- Whether a line is neither empty nor indented as far as a block. -/
def isShown (line : List Char) : Bool := !(line.isEmpty || (Node.spaces 4).isPrefixOf line)

/-- A line without what follows the key of a part of the certificate. -/
def bare (line : List Char) : List Char :=
  ((partKeys.map String.toList).find? (·.isPrefixOf line)).getD line

/-- What is shown of a line, from the beginning of which the characters satisfying `p` are
dropped. -/
def shown? (p : Char → Bool) (line : List Char) : Option (List Char) :=
  if isShown (line.dropWhile p) then some (bare (line.dropWhile p)) else none

/-- What is shown of the lines of a text. -/
def outline (p : Char → Bool) (text : List Char) : List (List Char) :=
  (pieces '\n' text).filterMap (shown? p)

variable {p : Char → Bool} {cs rest : List Char}

theorem outline_append_newline (p : Char → Bool) (before after : List Char) :
  outline p (before ++ '\n' :: after) = outline p before ++ outline p after
  := by
  rw [outline, pieces_append_cons, List.filterMap_append, outline, outline]

/-- Of a line that begins with the spaces of a block nothing is shown. -/
theorem isShown_of_spaces (line : List Char) :
  isShown (Node.spaces 4 ++ line) = false
  := by
  simp [isShown]

/-- The beginning of a line of which nothing is shown so far: all of it is dropped, or what is left
begins with the spaces of a block. -/
structure Concealed (p : Char → Bool) (line : List Char) : Prop where
  single : '\n' ∉ line
  left : line.dropWhile p = [] ∨ ∃ tail, line.dropWhile p = Node.spaces 4 ++ tail

theorem concealed_nil : Concealed p [] := ⟨List.not_mem_nil, .inl rfl⟩

/-- A concealed line that ends is not seen. -/
theorem Concealed.outline_append_newline (h : Concealed p cs) (rest : List Char) :
  outline p (cs ++ '\n' :: rest) = outline p rest
  := by
  have nothing : isShown (cs.dropWhile p) = false := by
    rcases h.left with blank | ⟨tail, indented⟩
    · rw [blank]
      rfl
    · rw [indented, isShown_of_spaces]
  rw [Overlay.outline_append_newline]
  simp [outline, pieces_of_not_mem h.single, shown?, nothing]

/-- A concealed line that goes on may hide the line it goes on with. -/
theorem Concealed.outline_append_sublist (h : Concealed p cs) (rest : List Char) :
  (outline p (cs ++ rest)).Sublist (outline p rest)
  := by
  obtain ⟨first, later, cut⟩ := List.exists_cons_of_ne_nil (pieces_ne_nil '\n' rest)
  rw [outline, outline, pieces_append_of_not_mem h.single cut, cut]
  rcases h.left with blank | ⟨tail, indented⟩
  · have same : shown? p (cs ++ first) = shown? p first := by
      simp [shown?, List.dropWhile_append, blank]
    rw [List.filterMap_cons, List.filterMap_cons, same]
  · have goesOn : (cs ++ first).dropWhile p = Node.spaces 4 ++ (tail ++ first) := by
      rw [List.dropWhile_append, indented]
      rfl
    have nothing : shown? p (cs ++ first) = none := by
      simp [shown?, goesOn, isShown_of_spaces]
    rw [List.filterMap_cons_none nothing]
    apply (List.sublist_cons_self first later).filterMap

/-! ### Parts of the certificate -/

/-- A part of the certificate with its key. -/
def part (key : String) (cs : List Char) : List Char := key.toList ++ ' ' :: Scalar.line 4 cs

/-- No line of the text begins with a separator, when the characters satisfying `p` are dropped. -/
def BeginsProperly (p : Char → Bool) (cs : List Char) : Prop :=
  ∀ line ∈ pieces '\n' cs, startsWith isSeparator (line.dropWhile p) = false

/-- A line of a text that a block can hold; what is left of it does not begin with a separator. -/
structure IsLine (p : Char → Bool) (line : List Char) : Prop where
  single : '\n' ∉ line
  printable : ∀ c ∈ line, isPrintable c = true
  starts : startsWith isSeparator (line.dropWhile p) = false

/-- The breaks in such a line are separators. -/
theorem IsLine.isSeparator_eq (h : IsLine p cs) {c : Char} (mem : c ∈ cs) :
  isSeparator c = isBreak c
  := by
  apply Yaml.isSeparator_eq (h.printable c mem)
  rintro rfl
  exact h.single mem

section Dropping

variable (separators : ∀ c, p c = true → isSeparator c = true)

include separators

theorem space_kept :
  p ' ' = false
  := by
  cases dropped : p ' ' with
  | false => rfl
  | true => exact absurd (separators ' ' dropped) (by decide)

/-- What is dropped from a line of a block is dropped from the text as well, and the rest is
indented. -/
theorem IsLine.concealed (h : IsLine p cs) :
  Concealed p (Scalar.blockBody 4 true cs)
  := by
  have dropped : ∀ c ∈ cs.takeWhile p, p c = true := fun c => List.mem_takeWhile_imp
  have body : Scalar.blockBody 4 true cs =
      cs.takeWhile p ++ Scalar.blockBody 4 true (cs.dropWhile p) := by
    rw [← Scalar.blockBody_append_of_isBreak, List.takeWhile_append_dropWhile]
    intro c mem
    exact isBreak_of_isSeparator (separators c (dropped c mem))
  constructor
  · exact Scalar.newline_not_mem_blockBody h.single
  · rw [body, List.dropWhile_append_of_pos dropped]
    cases left : cs.dropWhile p with
    | nil => exact .inl rfl
    | cons c ds =>
      have mem : c ∈ cs := (List.dropWhile_sublist p).subset (left ▸ List.mem_cons_self)
      have starts : isSeparator c = false := by
        simpa [left, startsWith] using h.starts
      have unbroken : isBreak c = false := h.isSeparator_eq mem ▸ starts
      refine .inr ⟨c :: Scalar.blockBody 4 false ds, ?_⟩
      rw [Scalar.blockBody, unbroken]
      apply dropWhile_eq_self
      simp [Node.spaces, List.replicate, space_kept separators]

/-- What is left of a block when its lines have ended: the beginning of a line, which is empty
unless the text has a separator. -/
theorem exists_outline_blockLines {lines : List (List Char)} (some : lines ≠ [])
    (h : ∀ line ∈ lines, IsLine p line) :
  ∃ begun, Concealed p begun ∧
    ((∀ line ∈ lines, ∀ c ∈ line, isSeparator c = false) → begun = []) ∧
    ∀ rest, outline p (Scalar.blockLines 4 true (joined '\n' lines) ++ rest) =
      outline p (begun ++ rest)
  := by
  induction lines with
  | nil => exact absurd rfl some
  | cons line lines ih =>
    obtain ⟨isLine, later⟩ := List.forall_mem_cons.1 h
    have concealed := isLine.concealed separators
    cases lines with
    | nil =>
      simp only [joined, Scalar.blockLines_eq]
      cases ended : Scalar.endsFresh true line with
      | false =>
        refine ⟨[], concealed_nil, fun _ => rfl, ?_⟩
        intro rest
        simp [concealed.outline_append_newline]
      | true =>
        refine ⟨Scalar.blockBody 4 true line, concealed, ?_, by simp⟩
        intro none
        -- a last line that ends with a break and has neither a newline nor a separator is empty
        obtain rfl | ⟨before, c, rfl⟩ := List.eq_nil_or_concat' line
        · rfl
        · have mem : c ∈ before ++ [c] := by simp
          have broken : isBreak c = true := by simpa [Scalar.endsFresh] using ended
          rw [← isLine.isSeparator_eq mem, none _ List.mem_cons_self c mem] at broken
          contradiction
    | cons next lines =>
      obtain ⟨begun, begins, empty, goesOn⟩ := ih (List.cons_ne_nil next lines) later
      refine ⟨begun, begins, fun none => empty (List.forall_mem_cons.1 none).2, ?_⟩
      intro rest
      rw [joined, Scalar.blockLines_append_newline, List.append_assoc, List.cons_append,
        concealed.outline_append_newline, goesOn]

/-- The line of a key is shown up to the key. -/
theorem outline_key {key : String} (listed : key ∈ partKeys) (single : '\n' ∉ cs)
    (rest : List Char) :
  outline p (key.toList ++ ' ' :: cs ++ '\n' :: rest) = key.toList :: outline p rest
  := by
  have oneLine : '\n' ∉ key.toList ++ ' ' :: cs := by
    have keys : ∀ key ∈ partKeys, '\n' ∉ key.toList := by decide
    simp [keys key listed, single]
  have shows : shown? p (key.toList ++ ' ' :: cs) = some key.toList := by
    simp only [partKeys, List.mem_cons, List.not_mem_nil, or_false] at listed
    rcases listed with rfl | rfl | rfl
    all_goals
      rw [shown?, dropWhile_eq_self (by simp [space_kept separators])]
      rfl
  rw [outline_append_newline]
  simp [outline, pieces_of_not_mem oneLine, shows]

/-- All that a part of the certificate adds to an outline is its key. -/
theorem exists_outline_part {key : String} (listed : key ∈ partKeys)
    (starts : BeginsProperly p cs) :
  ∃ begun, Concealed p begun ∧ ((∀ c ∈ cs, isSeparator c = false) → begun = []) ∧
    ∀ rest, outline p (part key cs ++ rest) = key.toList :: outline p (begun ++ rest)
  := by
  by_cases block : Scalar.style cs = .literal
  · have lines : ∀ line ∈ pieces '\n' cs, IsLine p line := by
      intro line mem
      refine ⟨not_mem_of_mem_pieces mem, ?_, starts line mem⟩
      intro c inside
      exact Scalar.isPrintable_of_style_eq_literal block c (mem_of_mem_pieces mem inside)
    obtain ⟨begun, begins, empty, goesOn⟩ :=
      exists_outline_blockLines separators (pieces_ne_nil '\n' cs) lines
    refine ⟨begun, begins, ?_, ?_⟩
    · intro none
      apply empty
      intro line mem c inside
      exact none c (mem_of_mem_pieces mem inside)
    · intro rest
      obtain ⟨marks, single, written⟩ := Scalar.exists_literal_eq 4 cs
      rw [joined_pieces] at goesOn
      have line := outline_key separators listed single (Scalar.blockLines 4 true cs ++ rest)
      simpa [part, Scalar.line, block, written, goesOn] using line
  · obtain ⟨word, single, written⟩ := Scalar.exists_line_eq (k := 4) block
    refine ⟨[], concealed_nil, fun _ => rfl, ?_⟩
    intro rest
    have line := outline_key separators listed single rest
    simpa [part, written] using line

/-- Without a separator in it, a part of the certificate adds its key and hides nothing. -/
theorem outline_part_append {key : String} (listed : key ∈ partKeys)
    (none : ∀ c ∈ cs, isSeparator c = false) (rest : List Char) :
  outline p (part key cs ++ rest) = key.toList :: outline p rest
  := by
  have starts : BeginsProperly p cs := by
    intro line mem
    cases left : line.dropWhile p with
    | nil => rfl
    | cons c ds =>
      have inside : c ∈ line := (List.dropWhile_sublist p).subset (left ▸ List.mem_cons_self)
      simpa [startsWith] using none c (mem_of_mem_pieces mem inside)
  obtain ⟨begun, -, empty, written⟩ := exists_outline_part separators listed starts
  rw [written, empty none, List.nil_append]

/-- A part of the certificate adds its key to what is shown behind it, of which it may hide the
beginning. -/
theorem outline_part_append_sublist {key : String} (listed : key ∈ partKeys)
    (starts : BeginsProperly p cs) {shown : List (List Char)}
    (h : (outline p rest).Sublist shown) :
  (outline p (part key cs ++ rest)).Sublist (key.toList :: shown)
  := by
  obtain ⟨begun, concealed, -, written⟩ := exists_outline_part separators listed starts
  rw [written]
  apply List.Sublist.cons_cons
  apply (concealed.outline_append_sublist rest).trans h

end Dropping

/-! ### Configurations -/

/-- The parts of the certificate are written behind one another. -/
theorem exists_config_eq (l : Lighthouse) (s : Subnet) :
  ∃ rest, ∀ c, (config c l s).toList =
    (header ++ "pki:".toList) ++ '\n' :: (part "  ca:" c.authority.toList ++
      (part "  cert:" c.certificate.toList ++ (part "  key:" c.key.toList ++ rest)))
  := by
  obtain ⟨others, node⟩ : ∃ others, ∀ c, configNode c l s = .ofEntries
      (("pki", .ofEntries [("ca", .text c.authority.toList), ("cert", .text c.certificate.toList),
        ("key", .text c.key.toList)]) :: others) := ⟨_, fun _ => rfl⟩
  use Node.entryLines 0 true (others.map fun e => (e.1.toList, e.2))
  intro c
  simp only [config, String.toList_ofList, node, Node.ofEntries, List.map_cons, List.map_nil,
    Node.document, Node.entryLines, Node.afterKey, part, if_true, List.append_assoc,
    List.cons_append]
  rfl

/-- The texts of the parts of a certificate. -/
def texts (c : Certificate) : List (List Char) :=
  [c.authority.toList, c.certificate.toList, c.key.toList]

/-- The certificate whose parts are empty. -/
def blank : Certificate := ⟨"", "", ""⟩

/-- The lines of all configurations with the same addresses are among those of the keys and those
around them, and all of these are there if no part of the certificate has a separator. -/
theorem exists_outline_config (separators : ∀ c, p c = true → isSeparator c = true)
    (l : Lighthouse) (s : Subnet) :
  ∃ lines, ∀ c,
    ((∀ t ∈ texts c, BeginsProperly p t) → (outline p (config c l s).toList).Sublist lines) ∧
    ((∀ t ∈ texts c, ∀ d ∈ t, isSeparator d = false) → outline p (config c l s).toList = lines)
  := by
  obtain ⟨rest, written⟩ := exists_config_eq l s
  use outline p (header ++ "pki:".toList) ++ (partKeys.map String.toList ++ outline p rest)
  intro c
  rw [written, outline_append_newline]
  simp only [texts, List.forall_mem_cons]
  constructor
  · rintro ⟨authority, certificate, key, -⟩
    apply List.Sublist.append_left
    apply outline_part_append_sublist separators (by decide) authority
    apply outline_part_append_sublist separators (by decide) certificate
    apply outline_part_append_sublist separators (by decide) key
    apply List.Sublist.refl
  · rintro ⟨authority, certificate, key, -⟩
    rw [outline_part_append separators (by decide) authority,
      outline_part_append separators (by decide) certificate,
      outline_part_append separators (by decide) key]
    rfl

/-- The outline of a configuration, with the separators at the beginnings of its lines dropped, is a
sublist of that with an empty certificate.  Without dropping them, it is so if no line of a part of
the certificate begins with a separator, and they are equal if none has a separator. -/
theorem outline_config (c : Certificate) (l : Lighthouse) (s : Subnet) :
  let text := (config c l s).toList
  let bareText := (config blank l s).toList
  (outline isSeparator text).Sublist (outline isSeparator bareText) ∧
  ((∀ t ∈ texts c, ∀ line ∈ pieces '\n' t, startsWith isSeparator line = false) →
    (outline (fun _ => false) text).Sublist (outline (fun _ => false) bareText)) ∧
  ((∀ t ∈ texts c, ∀ d ∈ t, isSeparator d = false) →
    outline (fun _ => false) text = outline (fun _ => false) bareText)
  := by
  have empty : ∀ t ∈ texts blank, ∀ d ∈ t, isSeparator d = false := by simp [texts, blank]
  obtain ⟨dropping, droppingLines⟩ := exists_outline_config (fun _ => id) l s
  obtain ⟨keeping, keepingLines⟩ := exists_outline_config (p := fun _ => false) (by simp) l s
  intro text bareText
  rw [(droppingLines blank).2 empty, (keepingLines blank).2 empty]
  refine ⟨?dropped, ?begins, (keepingLines c).2⟩
  case dropped =>
    apply (droppingLines c).1
    intro t _ line _
    have kept := List.head?_dropWhile_not isSeparator line
    cases first : (line.dropWhile isSeparator).head? with
    | none => simp [startsWith, first]
    | some c => simpa [startsWith, first] using kept
  case begins =>
    intro begins
    apply (keepingLines c).1
    intro t listed line mem
    rw [dropWhile_eq_self (by simp)]
    exact begins t listed line mem

/-- A line of an authority's text that begins with a separator adds a line. -/
theorem outline_config_of_separator :
  let l : Lighthouse := ⟨.ofOctets 10 0 0 1, .ofOctets 203 0 113 7⟩
  let s : Subnet := ⟨.ofOctets 10 0 0 0, 16⟩
  ¬(outline (fun _ => false) (config ⟨"a\n\u2028b", "", ""⟩ l s).toList).Sublist
    (outline (fun _ => false) (config blank l s).toList)
  := by
  simp only [config, String.toList_ofList]
  decide +kernel

end MeshOnboard.Overlay
