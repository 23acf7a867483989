import MeshOnboard.Text.Pieces

/-!
# Paths

A path is a text.  Its names are the non-empty parts between the slashes.  Joining puts one slash
between the two texts unless the first is empty or ends in one, and an absolute second path
replaces the first.
-/

namespace MeshOnboard

/-- The text of a path. -/
structure Path where
  chars : List Char
  deriving DecidableEq

namespace Path

/-- The path with the given text. -/
def ofString (s : String) : Path := ⟨s.toList⟩

instance : Coe String Path := ⟨ofString⟩

instance : ToString Path := ⟨fun p => String.ofList p.chars⟩

@[simp]
theorem ofString_toString (p : Path) :
  ofString (toString p) = p
  := by
  simp [ofString, toString]

instance : Inhabited Path := ⟨⟨[]⟩⟩

/-- Whether a path starts at the root. -/
def isAbsolute (p : Path) : Bool := p.chars.head? = some '/'

/-- The path `q` seen from `p`. -/
def join (p q : Path) : Path :=
  if q.isAbsolute then q
  else if p.chars = [] ∨ p.chars.getLast? = some '/' then ⟨p.chars ++ q.chars⟩
  else ⟨p.chars ++ '/' :: q.chars⟩

/-- The names on a path, with `.` and `..` among them. -/
def names (p : Path) : List (List Char) :=
  (Text.pieces '/' p.chars).filter (· ≠ [])

theorem not_isAbsolute_of_not_mem {name : List Char} (noSlash : '/' ∉ name) :
  ¬ (⟨name⟩ : Path).isAbsolute
  := by
  simpa [isAbsolute] using mt List.mem_of_head? noSlash

theorem chars_prefix_join (p : Path) {q : Path} (h : ¬ q.isAbsolute) :
  p.chars <+: (p.join q).chars
  := by
  unfold join
  rw [if_neg h]
  split
  · exact List.prefix_append _ _
  · exact List.prefix_append _ _

/-- The characters of two paths that are joined are theirs and slashes. -/
theorem mem_chars_join {p q : Path} {c : Char} (h : c ∈ (p.join q).chars) :
  c ∈ p.chars ∨ c = '/' ∨ c ∈ q.chars
  := by
  unfold join at h
  split at h
  · exact .inr (.inr h)
  · split at h
    · rcases List.mem_append.1 h with first | second
      · exact .inl first
      · exact .inr (.inr second)
    · rcases List.mem_append.1 h with first | second
      · exact .inl first
      · exact .inr (List.mem_cons.1 second)

theorem chars_join_ne_nil (p : Path) {q : Path} (h : q.chars ≠ []) :
  (p.join q).chars ≠ []
  := by
  unfold join
  split
  · exact h
  · split
    · simp [h]
    · simp

theorem names_append_cons (before after : List Char) :
  (⟨before ++ '/' :: after⟩ : Path).names = (⟨before⟩ : Path).names ++ (⟨after⟩ : Path).names
  := by
  simp only [names, Text.pieces_append_cons, List.filter_append]

/-- Slashes at the beginning of a path add no names. -/
theorem names_slashes (n : Nat) (rest : List Char) :
  (⟨List.replicate n '/' ++ rest⟩ : Path).names = (⟨rest⟩ : Path).names
  := by
  induction n with
  | zero => rfl
  | succ n ih =>
    rw [List.replicate_succ, List.cons_append]
    exact (names_append_cons [] _).trans ih

/-- A text without slashes is the only name on its path. -/
theorem names_of_not_mem {name : List Char} (nonempty : name ≠ []) (noSlash : '/' ∉ name) :
  (⟨name⟩ : Path).names = [name]
  := by
  simp [names, Text.pieces_of_not_mem noSlash, nonempty]

/-- The last name of a path ends as its text ends. -/
theorem exists_names_append (before : List Char) {ending : List Char} (nonempty : ending ≠ [])
    (noSlash : '/' ∉ ending) :
  ∃ names last, (⟨before ++ ending⟩ : Path).names = names ++ [last ++ ending]
  := by
  by_cases slash : '/' ∈ before
  · obtain ⟨first, rest, rfl⟩ := List.append_of_mem slash
    obtain ⟨names, last, same⟩ := exists_names_append rest nonempty noSlash
    refine ⟨(⟨first⟩ : Path).names ++ names, last, ?_⟩
    rw [List.append_assoc, List.cons_append, names_append_cons, same, List.append_assoc]
  · refine ⟨[], before, ?_⟩
    rw [names_of_not_mem (by simp [nonempty]) (by simp [slash, noSlash]), List.nil_append]
termination_by before.length
decreasing_by
  subst_vars
  simp
  omega

/-- A name joined to a path is one more name on it. -/
theorem names_join (p : Path) {name : List Char} (nonempty : name ≠ []) (noSlash : '/' ∉ name) :
  (p.join ⟨name⟩).names = p.names ++ [name]
  := by
  unfold join
  rw [if_neg (not_isAbsolute_of_not_mem noSlash)]
  split
  · next ends =>
    rcases ends with isEmpty | slash
    · simpa [names, isEmpty, Text.pieces] using names_of_not_mem nonempty noSlash
    · obtain ⟨before, same⟩ := List.getLast?_eq_some_iff.1 slash
      have whole : p.names = (⟨before⟩ : Path).names := by
        rw [names, same, Text.pieces_append_cons]
        simp [names, Text.pieces]
      rw [same, List.append_assoc, List.singleton_append, names_append_cons,
        names_of_not_mem nonempty noSlash, whole]
  · rw [names_append_cons, names_of_not_mem nonempty noSlash]

end Path

end MeshOnboard
