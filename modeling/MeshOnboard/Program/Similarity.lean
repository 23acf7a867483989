/-!
# Similar words

Two characters of two words match when they are equal and stand nearly at the same place; each takes
part in one match.  `similarity` is the mean of the share of matched characters in either word and
of the share of the matches that stand in the same order in both.  `similarTo` picks, of some
words, those similar enough to a given one to be meant.
-/

namespace MeshOnboard.Similarity

/-- The distance between the places of characters that may match. -/
def range (a b : List Char) : Nat := max a.length b.length / 2 - 1

/-- The word `bs` with a mark on its first unmarked character `c` between the places `low` and
`high`; the first character stands at place `i`. -/
def mark (c : Char) (low high i : Nat) : List (Char × Bool) → Option (List (Char × Bool))
  | [] => none
  | (d, marked) :: bs =>
    if low ≤ i ∧ i ≤ high ∧ c = d ∧ marked = false then some ((d, true) :: bs)
    else (mark c low high (i + 1) bs).map ((d, marked) :: ·)

/-- The matched characters of a word, whose first character stands at place `i`, in order, and the
other word with a mark on each match. -/
def matchFrom (r i : Nat) : List Char → List (Char × Bool) → List Char × List (Char × Bool)
  | [], bs => ([], bs)
  | c :: cs, bs =>
    match mark c (i - r) (i + r) 0 bs with
    | some bs =>
      let (found, bs) := matchFrom r (i + 1) cs bs
      (c :: found, bs)
    | none => matchFrom r (i + 1) cs bs

/-- How similar two words are, between zero and one. -/
def similarity (a b : List Char) : Rat :=
  if a = [] ∧ b = [] then 1
  else
    let (found, marked) := matchFrom (range a b) 0 a (b.map fun c => (c, false))
    let other := (marked.filter Prod.snd).map Prod.fst
    let swapped := ((found.zip other).filter fun (c, d) => c ≠ d).length / 2
    let m := found.length
    if m = 0 then 0
    else ((m : Rat) / a.length + (m : Rat) / b.length + ((m - swapped : Nat) : Rat) / m) / 3

/-- The least similarity of a word that is not meant. -/
def threshold : Rat := 7 / 10

/-- The words that may be meant by `word`, the most similar one last. -/
def similarTo (word : String) (words : List String) : List String :=
  let scored := words.map fun w => (similarity word.toList w.toList, w)
  let near := scored.filter fun e => threshold < e.1
  (near.mergeSort fun a b => decide (a.1 ≤ b.1)).map Prod.snd

end MeshOnboard.Similarity
