import MeshOnboard.Proofs.Yaml.Scalar

/-!
# Documents of one shape

Two documents have the same shape if they have words, texts, sequences and mappings in the same
places.  If they have the same text as well, they are the same (`document_inj`): each part of a
document says where it ends, since what follows it is not indented any further.
-/

namespace MeshOnboard.Yaml.Node

/-- The text can be written as a key: it holds no colon and starts with neither a space nor a
break. -/
def IsKey (cs : List Char) : Prop :=
  ':' ∉ cs ∧ startsWith (fun c => c = ' ' || isBreak c) cs = false

@[simp]
theorem isKey_cons (c : Char) (cs : List Char) :
  IsKey (c :: cs) ↔ ':' ∉ c :: cs ∧ c ≠ ' ' ∧ isBreak c = false
  := by
  simp [IsKey, startsWith]

mutual

/-- The two parts of documents have the same shape, and their words and keys are proper. -/
def Alike : Node → Node → Prop
  | word cs, word ds => '\n' ∉ cs ∧ '\n' ∉ ds
  | text _, text _ => True
  | sequence items, sequence items' => AlikeItems items items'
  | mapping entries, mapping entries' => AlikeEntries entries entries'
  | _, _ => False

/-- The items have the same shape, one by one. -/
def AlikeItems : List Node → List Node → Prop
  | [], [] => True
  | item :: items, item' :: items' => Alike item item' ∧ AlikeItems items items'
  | _, _ => False

/-- The entries have proper keys and values of the same shape, one by one. -/
def AlikeEntries : List (List Char × Node) → List (List Char × Node) → Prop
  | [], [] => True
  | (key, value) :: entries, (key', value') :: entries' =>
    IsKey key ∧ IsKey key' ∧ Alike value value' ∧ AlikeEntries entries entries'
  | _, _ => False

end

open Scalar (StartsWithin)

/-- What does not start with a space or a break does so after the spaces of its line. -/
theorem startsWithin_spaces_append {indent : Nat} {cs : List Char}
    (h : startsWith (fun c => c = ' ' || isBreak c) cs = false) :
  StartsWithin indent (spaces indent ++ cs)
  := ⟨indent, Nat.le_refl indent, cs, rfl, h⟩

/-- What follows an item of a sequence is not indented any further than the items. -/
theorem startsWithin_itemLines {indent : Nat} {rest : List Char} (h : StartsWithin indent rest)
    (items : List Node) :
  StartsWithin indent (itemLines indent items ++ rest)
  := by
  cases items with
  | nil => exact h
  | cons item items =>
    rw [itemLines, List.append_assoc, List.append_assoc]
    exact startsWithin_spaces_append (by simp [startsWith, isBreak])

/-- What follows an entry of a mapping is not indented any further than the entries. -/
theorem startsWithin_entryLines {indent : Nat} {rest : List Char} (h : StartsWithin indent rest)
    {entries : List (List Char × Node)} (keys : ∀ e ∈ entries, IsKey e.1) :
  StartsWithin indent (entryLines indent true entries ++ rest)
  := by
  cases entries with
  | nil => exact h
  | cons e entries =>
    obtain ⟨key, value⟩ := e
    rw [entryLines, if_pos rfl, List.append_assoc, List.append_assoc, List.append_assoc]
    apply startsWithin_spaces_append
    have starts := (keys _ List.mem_cons_self).2
    cases key with
    | nil => rfl
    | cons c key => exact starts

theorem AlikeEntries.keys {entries entries' : List (List Char × Node)}
    (alike : AlikeEntries entries entries') :
  (∀ e ∈ entries, IsKey e.1) ∧ ∀ e ∈ entries', IsKey e.1
  := by
  induction entries generalizing entries' with
  | nil =>
    cases entries' with
    | nil => simp
    | cons => exact alike.elim
  | cons e entries ih =>
    cases entries' with
    | nil => exact alike.elim
    | cons e' entries' =>
      obtain ⟨key, key', -, later⟩ := alike
      obtain ⟨keys, keys'⟩ := ih later
      exact ⟨List.forall_mem_cons.2 ⟨key, keys⟩, List.forall_mem_cons.2 ⟨key', keys'⟩⟩

theorem word_append_inj {cs ds rest rest' : List Char} (hcs : '\n' ∉ cs) (hds : '\n' ∉ ds)
    (same : ' ' :: cs ++ ['\n'] ++ rest = ' ' :: ds ++ ['\n'] ++ rest') :
  word cs = word ds ∧ rest = rest'
  := by
  obtain ⟨rfl, rest_eq⟩ := verbatim_append_inj hcs hds (by simpa using same)
  exact ⟨rfl, rest_eq⟩

theorem text_append_inj {indent : Nat} {cs ds rest rest' : List Char}
    (h : StartsWithin indent rest) (h' : StartsWithin indent rest')
    (same : ' ' :: Scalar.line (indent + 2) cs ++ rest =
      ' ' :: Scalar.line (indent + 2) ds ++ rest') :
  text cs = text ds ∧ rest = rest'
  := by
  obtain ⟨rfl, rest_eq⟩ := Scalar.line_append_inj (by omega) h h' (List.cons.inj same).2
  exact ⟨rfl, rest_eq⟩

mutual

/-- The value of an entry says where it ends. -/
theorem afterKey_append_inj {indent : Nat} {rest rest' : List Char} (h : StartsWithin indent rest)
    (h' : StartsWithin indent rest') (n m : Node) (alike : Alike n m)
    (same : afterKey indent n ++ rest = afterKey indent m ++ rest') :
  n = m ∧ rest = rest'
  := by
  cases n with
  | word cs =>
    cases m with
    | word ds =>
      exact word_append_inj alike.1 alike.2 same
    | _ => exact alike.elim
  | text cs =>
    cases m with
    | text ds =>
      exact text_append_inj h h' same
    | _ => exact alike.elim
  | sequence items =>
    cases m with
    | sequence items' =>
      obtain ⟨rfl, rest_eq⟩ := itemLines_append_inj h h' items items' alike (List.cons.inj same).2
      exact ⟨rfl, rest_eq⟩
    | _ => exact alike.elim
  | mapping entries =>
    cases m with
    | mapping entries' =>
      obtain ⟨rfl, rest_eq⟩ := entryLines_append_inj (h.mono (by omega)) (h'.mono (by omega)) true
        entries entries' alike (List.cons.inj same).2
      exact ⟨rfl, rest_eq⟩
    | _ => exact alike.elim
termination_by structural n

/-- An item of a sequence says where it ends. -/
theorem afterDash_append_inj {indent : Nat} {rest rest' : List Char} (h : StartsWithin indent rest)
    (h' : StartsWithin indent rest') (n m : Node) (alike : Alike n m)
    (same : afterDash indent n ++ rest = afterDash indent m ++ rest') :
  n = m ∧ rest = rest'
  := by
  cases n with
  | word cs =>
    cases m with
    | word ds =>
      exact word_append_inj alike.1 alike.2 same
    | _ => exact alike.elim
  | text cs =>
    cases m with
    | text ds =>
      exact text_append_inj h h' same
    | _ => exact alike.elim
  | sequence items =>
    cases m with
    | sequence items' =>
      obtain ⟨rfl, rest_eq⟩ := itemLines_append_inj (h.mono (by omega)) (h'.mono (by omega))
        items items' alike (List.cons.inj same).2
      exact ⟨rfl, rest_eq⟩
    | _ => exact alike.elim
  | mapping entries =>
    cases m with
    | mapping entries' =>
      obtain ⟨rfl, rest_eq⟩ := entryLines_append_inj (h.mono (by omega)) (h'.mono (by omega)) false
        entries entries' alike (List.cons.inj same).2
      exact ⟨rfl, rest_eq⟩
    | _ => exact alike.elim
termination_by structural n

/-- The items of a sequence say where they end. -/
theorem itemLines_append_inj {indent : Nat} {rest rest' : List Char} (h : StartsWithin indent rest)
    (h' : StartsWithin indent rest') (items items' : List Node) (alike : AlikeItems items items')
    (same : itemLines indent items ++ rest = itemLines indent items' ++ rest') :
  items = items' ∧ rest = rest'
  := by
  cases items with
  | nil =>
    cases items' with
    | nil => exact ⟨rfl, same⟩
    | cons item' items' => exact alike.elim
  | cons item items =>
    cases items' with
    | nil => exact alike.elim
    | cons item' items' =>
      obtain ⟨here, later⟩ := alike
      simp only [itemLines, List.append_assoc, List.append_cancel_left_eq, List.cons_append,
        List.cons.injEq, true_and] at same
      obtain ⟨rfl, tails⟩ := afterDash_append_inj (startsWithin_itemLines h items)
        (startsWithin_itemLines h' items') item item' here same
      obtain ⟨rfl, rest_eq⟩ := itemLines_append_inj h h' items items' later tails
      exact ⟨rfl, rest_eq⟩
termination_by structural items

/-- The entries of a mapping say where they end. -/
theorem entryLines_append_inj {indent : Nat} {rest rest' : List Char}
    (h : StartsWithin indent rest) (h' : StartsWithin indent rest') (indentFirst : Bool)
    (entries entries' : List (List Char × Node)) (alike : AlikeEntries entries entries')
    (same : entryLines indent indentFirst entries ++ rest =
      entryLines indent indentFirst entries' ++ rest') :
  entries = entries' ∧ rest = rest'
  := by
  cases entries with
  | nil =>
    cases entries' with
    | nil => exact ⟨rfl, same⟩
    | cons => exact alike.elim
  | cons e entries =>
    cases entries' with
    | nil => exact alike.elim
    | cons e' entries' =>
      obtain ⟨key, value⟩ := e
      obtain ⟨key', value'⟩ := e'
      obtain ⟨hkey, hkey', here, later⟩ := alike
      simp only [entryLines, List.append_assoc, List.append_cancel_left_eq,
        List.cons_append] at same
      obtain ⟨rfl, values⟩ := verbatim_append_inj hkey.1 hkey'.1 same
      obtain ⟨rfl, tails⟩ := afterKey_append_inj (startsWithin_entryLines h later.keys.1)
        (startsWithin_entryLines h' later.keys.2) value value' here values
      obtain ⟨rfl, rest_eq⟩ := entryLines_append_inj h h' true entries entries' later tails
      exact ⟨rfl, rest_eq⟩
termination_by structural entries

end

/-- Documents of one shape with one text are the same. -/
theorem document_inj {n m : Node} (alike : Alike n m) (same : n.document = m.document) :
  n = m
  := by
  have ends : StartsWithin 0 [] := ⟨0, Nat.le_refl 0, [], rfl, rfl⟩
  have appended : n.document ++ [] = m.document ++ [] := congrArg (· ++ []) same
  cases n with
  | word cs =>
    cases m with
    | word ds => exact congrArg word (List.append_cancel_right same)
    | _ => exact alike.elim
  | text cs =>
    cases m with
    | text ds =>
      obtain ⟨rfl, -⟩ := Scalar.line_append_inj (by omega) ends ends appended
      rfl
    | _ => exact alike.elim
  | sequence items =>
    cases m with
    | sequence items' =>
      obtain ⟨rfl, -⟩ := itemLines_append_inj ends ends items items' alike appended
      rfl
    | _ => exact alike.elim
  | mapping entries =>
    cases m with
    | mapping entries' =>
      obtain ⟨rfl, -⟩ := entryLines_append_inj ends ends true entries entries' alike appended
      rfl
    | _ => exact alike.elim

end MeshOnboard.Yaml.Node
