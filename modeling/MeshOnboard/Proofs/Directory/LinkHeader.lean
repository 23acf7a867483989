import MeshOnboard.Directory.LinkHeader
import MeshOnboard.Proofs.Text.Numeral
import MeshOnboard.Table

/-!
# Link headers are read back

An `Entry` of a link header is a base address, pairs of keys and values in its query, and parameters,
in texts that hold none of the signs that separate them; there may be blanks around the separators.
`text` writes entries as a header.  The page of the one entry that leads to the next page is read back
from it, and a header without such an entry leads nowhere (`reads_page_of_next`).
-/

namespace MeshOnboard.LinkHeader

open MeshOnboard.Text

/-! ### Entries -/

/-- The text has none of the given signs. -/
def Lacks (signs cs : List Char) : Prop := ∀ c ∈ cs, c ∉ signs

instance (signs cs : List Char) : Decidable (Lacks signs cs) :=
  List.decidableBAll (fun c => c ∉ signs) cs

theorem Lacks.not_mem {signs cs : List Char} (h : Lacks signs cs) {c : Char} (sign : c ∈ signs) :
  c ∉ cs
  := fun mem => h c mem sign

/-- The signs that a header is cut at, and those around a target. -/
def separators : List Char := [',', ';', '<', '>']

/-- Blanks beside a separator. -/
structure Blanks where
  chars : List Char
  blank : ∀ c ∈ chars, isBlank c

theorem Blanks.not_mem (b : Blanks) {c : Char} (h : isBlank c = false) :
  c ∉ b.chars
  := by
  intro mem
  simp [b.blank c mem] at h

/-- A key with its value. -/
structure Pair where
  key : List Char
  value : List Char
  lacks_key : Lacks ('=' :: '&' :: separators) key
  lacks_value : Lacks ('&' :: separators) value

/-- A parameter, and the blanks around it, which are not part of it. -/
structure Parameter where
  before : Blanks
  content : List Char
  after : Blanks
  lacks : Lacks separators content
  first : ∀ c ∈ content.head?, isBlank c = false
  last : ∀ c ∈ content.getLast?, isBlank c = false

/-- An entry of a header, and the blanks around its target. -/
structure Entry where
  before : Blanks
  base : List Char
  /-- The pairs after the question mark, if there is one. -/
  query : Option (List Pair)
  after : Blanks
  parameters : List Parameter
  lacks_base : Lacks ('?' :: separators) base

/-- The pair as it stands in a query. -/
def Pair.text (p : Pair) : List Char := p.key ++ '=' :: p.value

/-- The parameter as it stands in an entry. -/
def Parameter.text (p : Parameter) : List Char := p.before.chars ++ p.content ++ p.after.chars

namespace Entry

/-- The end of the target, from the question mark on. -/
def queryText (e : Entry) : List Char :=
  match e.query with
  | none => []
  | some pairs => '?' :: joined '&' (pairs.map Pair.text)

/-- The target in its angle brackets. -/
def targetText (e : Entry) : List Char :=
  e.before.chars ++ ('<' :: (e.base ++ e.queryText ++ ['>'])) ++ e.after.chars

/-- The entry as it stands in a header. -/
def text (e : Entry) : List Char := joined ';' (e.targetText :: e.parameters.map Parameter.text)

/-- A parameter says that the entry leads to the next page. -/
def LeadsOn (e : Entry) : Prop := ∃ p ∈ e.parameters, p.content ∈ nextRelations

/-- The value of the first pair with the key `page`. -/
def pageText? (e : Entry) : Option (List Char) :=
  ((e.query.getD []).find? fun p => p.key = "page".toList).map Pair.value

end Entry

/-- The header with the given entries. -/
def text (entries : List Entry) : List Char := joined ',' (entries.map Entry.text)

/-! ### Cutting a header -/

theorem Pair.not_mem_text (p : Pair) {c : Char} (sign : c ∈ '&' :: separators) :
  c ∉ p.text
  := by
  have notEquals : c ≠ '=' := by
    rintro rfl
    revert sign
    decide
  simp only [Pair.text, List.mem_append, List.mem_cons, not_or]
  exact ⟨p.lacks_key.not_mem (List.mem_cons_of_mem _ sign), notEquals, p.lacks_value.not_mem sign⟩

theorem isBlank_of_mem_separators {c : Char} (sign : c ∈ separators) :
  isBlank c = false
  := by
  simp only [separators, List.mem_cons, List.not_mem_nil, or_false] at sign
  rcases sign with rfl | rfl | rfl | rfl <;> decide

theorem Parameter.not_mem_text (p : Parameter) {c : Char} (sign : c ∈ separators) :
  c ∉ p.text
  := by
  have visible := isBlank_of_mem_separators sign
  simp only [Parameter.text, List.mem_append, not_or]
  exact ⟨⟨p.before.not_mem visible, p.lacks.not_mem sign⟩, p.after.not_mem visible⟩

namespace Entry

theorem not_mem_queryText (e : Entry) {c : Char} (sign : c ∈ separators) :
  c ∉ e.queryText
  := by
  have others : c ≠ '?' ∧ c ≠ '&' := by
    constructor
    · rintro rfl
      revert sign
      decide
    · rintro rfl
      revert sign
      decide
  unfold queryText
  split
  · exact List.not_mem_nil
  · rw [List.mem_cons, not_or]
    refine ⟨others.1, fun mem => ?_⟩
    rcases mem_of_mem_joined mem with isSeparator | ⟨_, mapped, mem⟩
    · exact others.2 isSeparator
    · obtain ⟨p, -, rfl⟩ := List.mem_map.1 mapped
      exact p.not_mem_text (List.mem_cons_of_mem _ sign) mem

theorem not_mem_targetText (e : Entry) {c : Char} (sign : c ∈ [',', ';']) :
  c ∉ e.targetText
  := by
  have separator : c ∈ separators := List.mem_append_left ['<', '>'] sign
  have visible := isBlank_of_mem_separators separator
  have brackets : c ≠ '<' ∧ c ≠ '>' := by
    simp only [List.mem_cons, List.not_mem_nil, or_false] at sign
    rcases sign with rfl | rfl <;> decide
  simp only [targetText, List.mem_append, List.mem_cons, List.not_mem_nil, or_false, not_or]
  exact ⟨⟨e.before.not_mem visible, brackets.1,
    ⟨e.lacks_base.not_mem (List.mem_cons_of_mem _ separator), e.not_mem_queryText separator⟩,
    brackets.2⟩, e.after.not_mem visible⟩

theorem comma_not_mem_text (e : Entry) :
  ',' ∉ e.text
  := by
  intro mem
  rcases mem_of_mem_joined mem with isSemicolon | ⟨part, listed, mem⟩
  · contradiction
  · rcases List.mem_cons.1 listed with rfl | mapped
    · exact e.not_mem_targetText (by decide) mem
    · obtain ⟨p, -, rfl⟩ := List.mem_map.1 mapped
      exact p.not_mem_text (by decide) mem

/-- An entry is cut into its target and its parameters. -/
theorem pieces_text (e : Entry) :
  pieces ';' e.text = e.targetText :: e.parameters.map Parameter.text
  := by
  apply pieces_joined (List.cons_ne_nil _ _)
  rw [List.forall_mem_cons, List.forall_mem_map]
  exact ⟨e.not_mem_targetText (by decide), fun p _ => p.not_mem_text (by decide)⟩

/-- The brackets and the blanks around them are no part of the target. -/
theorem target_targetText (e : Entry) :
  target e.targetText = e.base ++ e.queryText
  := by
  have noBracket {c : Char} (sign : c ∈ separators) : c ∉ e.base ++ e.queryText := by
    rw [List.mem_append, not_or]
    exact ⟨e.lacks_base.not_mem (List.mem_cons_of_mem _ sign), e.not_mem_queryText sign⟩
  have stripped : strip isBlank e.targetText = '<' :: (e.base ++ e.queryText ++ ['>']) := by
    have visible : isBlank '<' = false ∧ isBlank '>' = false := by decide
    apply strip_append_append e.before.blank e.after.blank
    · simpa using visible.1
    · rw [← List.cons_append, List.getLast?_concat]
      simpa using visible.2
  rw [target, stripped, List.dropWhile_cons_of_pos (by decide), dropWhile_eq_self,
    stripEnd_append _ (by simp), stripEnd_eq_self]
  · rintro c last
    apply decide_eq_false
    rintro rfl
    exact noBracket (by decide) (List.mem_of_getLast? last)
  · rintro c first
    apply decide_eq_false
    rintro rfl
    rcases List.mem_append.1 (List.mem_of_head? first) with inside | isEnd
    · exact noBracket (by decide) inside
    · simp at isEnd

end Entry

/-! ### Reading an entry -/

theorem strip_text (p : Parameter) :
  strip isBlank p.text = p.content
  := strip_append_append p.before.blank p.after.blank p.first p.last

theorem leadsOn_text (e : Entry) :
  leadsOn (e.parameters.map Parameter.text) = true ↔ e.LeadsOn
  := by
  simp [leadsOn, Entry.LeadsOn, strip_text]

theorem pairs_text (ps : List Pair) :
  pairs (joined '&' (ps.map Pair.text)) = ps.map fun p => (p.key, p.value)
  := by
  cases ps with
  | nil => rfl
  | cons p ps =>
    have cut : cutAt? '=' ∘ Pair.text = some ∘ fun p : Pair => (p.key, p.value) := by
      funext p
      exact cutAt?_append_cons (p.lacks_key.not_mem (by decide)) p.value
    rw [pairs, pieces_joined (by simp), List.filterMap_map, cut, List.filterMap_eq_map]
    rw [List.forall_mem_map]
    intro p _
    exact p.not_mem_text (by decide)

/-- The page in a target is the number that the first pair with its key holds. -/
theorem page?_text (e : Entry) :
  page? (e.base ++ e.queryText) =
    e.pageText?.bind fun value => (Numeral.count? UInt32.size value).map Nat.toUInt32
  := by
  have noMark : '?' ∉ e.base := e.lacks_base.not_mem (by decide)
  unfold Entry.queryText Entry.pageText?
  cases e.query with
  | none => simp [page?, cutAt?_eq_none noMark]
  | some ps =>
    rw [page?, cutAt?_append_cons noMark, Option.getD_some,
      ← Table.lookup_map Pair.key Pair.value, ← pairs_text]
    simp only [Option.map_eq_bind]
    rfl

/-- The page that an entry leads to is that of its target. -/
theorem entryPage?_text_of_leadsOn {e : Entry} (h : e.LeadsOn) {n : UInt32}
    (page : e.pageText? = some (Numeral.decimal n.toNat)) :
  entryPage? e.text = some n
  := by
  simp only [entryPage?, e.pieces_text, if_pos ((leadsOn_text e).2 h), e.target_targetText,
    page?_text, page, Option.bind_some, Numeral.count?_decimal n.toNat_lt, Option.map_some]
  exact congrArg some UInt32.ofNat_toNat

theorem entryPage?_text_of_not_leadsOn {e : Entry} (h : ¬ e.LeadsOn) :
  entryPage? e.text = none
  := by
  simp only [entryPage?, e.pieces_text, if_neg (mt (leadsOn_text e).1 h)]

theorem nextPage?_text (entries : List Entry) :
  nextPage? (text entries) = entries.findSome? fun e => entryPage? e.text
  := by
  cases entries with
  | nil => rfl
  | cons e entries =>
    rw [nextPage?, text, pieces_joined (by simp), List.findSome?_map]
    · rfl
    · rw [List.forall_mem_map]
      intro e _
      exact e.comma_not_mem_text

/-- If exactly one entry leads to the next page and the first `page` of its query is the numeral of
a number, the header leads to the page with this number.  If no entry leads to the next page, the
header leads to none. -/
theorem reads_page_of_next (entries : List Entry) :
  (∀ before e after n, entries = before ++ e :: after → e.LeadsOn →
    (∀ other ∈ before ++ after, ¬ other.LeadsOn) →
    e.pageText? = some (Numeral.decimal n.toNat) → nextPage? (text entries) = some n) ∧
  ((∀ e ∈ entries, ¬ e.LeadsOn) → nextPage? (text entries) = none)
  := by
  rw [nextPage?_text]
  constructor
  · rintro before e after n rfl leads others page
    rw [List.findSome?_eq_some_iff]
    refine ⟨before, e, after, rfl, entryPage?_text_of_leadsOn leads page, ?_⟩
    intro other mem
    exact entryPage?_text_of_not_leadsOn (others other (List.mem_append_left after mem))
  · intro none
    rw [List.findSome?_eq_none_iff]
    intro e mem
    exact entryPage?_text_of_not_leadsOn (none e mem)

/-- No blanks. -/
def noBlanks : Blanks := ⟨[], by simp⟩

/-- One blank. -/
def oneBlank (c : Char) (h : isBlank c = true) : Blanks := ⟨[c], by simpa using h⟩

/-- An entry that leads to the second page. -/
def secondPage : Entry where
  before := oneBlank ' ' (by decide)
  base := "https://host/teams".toList
  query := some [⟨"per_page".toList, "500".toList, by decide, by decide⟩,
    ⟨"page".toList, "2".toList, by decide, by decide⟩]
  after := oneBlank '\t' (by decide)
  parameters := [⟨oneBlank ' ' (by decide), "rel=\"next\"".toList, noBlanks, by decide,
    by simp [isBlank, blankCodes], by simp [isBlank, blankCodes]⟩]
  lacks_base := by decide

/-- An entry for the seventh page, which is the last. -/
def lastPage : Entry where
  before := noBlanks
  base := "https://host/teams".toList
  query := some [⟨"page".toList, "7".toList, by decide, by decide⟩]
  after := noBlanks
  parameters := [⟨oneBlank ' ' (by decide), "rel=\"last\"".toList, oneBlank ' ' (by decide),
    by decide, by simp [isBlank, blankCodes], by simp [isBlank, blankCodes]⟩]
  lacks_base := by decide

/-- The second page is read back from behind the last one. -/
theorem reads_page_behind_last :
  text [lastPage, secondPage] = ("<https://host/teams?page=7>; rel=\"last\" ,".toList ++
    " <https://host/teams?per_page=500&page=2>\t; rel=\"next\"".toList) ∧
  secondPage.LeadsOn ∧ ¬ lastPage.LeadsOn ∧
  secondPage.pageText? = some (Numeral.decimal (2 : UInt32).toNat) ∧
  nextPage? (text [lastPage, secondPage]) = some 2
  := by
  have leads : secondPage.LeadsOn := ⟨_, List.mem_cons_self, by decide⟩
  have other : ¬ lastPage.LeadsOn := by
    rintro ⟨p, listed, next⟩
    obtain rfl := List.mem_singleton.1 listed
    revert next
    decide
  have page : secondPage.pageText? = some (Numeral.decimal (2 : UInt32).toNat) := by decide
  refine ⟨by decide, leads, other, page, ?_⟩
  obtain ⟨reads, -⟩ := reads_page_of_next [lastPage, secondPage]
  apply reads [lastPage] secondPage [] 2 rfl leads _ page
  simpa using other

end MeshOnboard.LinkHeader
