import MeshOnboard.Address.Socket
import MeshOnboard.Proofs.Address.RoundTrip

/-!
# Version six addresses are read back

The canonical text of an address is its groups in hexadecimal, of which the longest run of zeros is
left out.  What is left out is a run of zeros wherever it stands (`exists_of_longestZeroRun`), and a
text of groups holds no double colon of its own, so the text is cut where the run was and the
missing groups are put back.
-/

namespace MeshOnboard.IPv6

/-! ### Groups -/

theorem group?_hexadecimal (g : UInt16) :
  group? (Numeral.hexadecimal g.toNat) = some g
  := by
  have short : (Numeral.hexadecimal g.toNat).length ≤ 4 := by
    apply Numeral.length_hexadecimal_le (by decide)
    exact g.toNat_lt
  rw [group?, if_neg (by omega), Numeral.read?_hexadecimal]
  exact congrArg some UInt16.ofNat_toNat

theorem hexadecimal_ne_nil (n : Nat) :
  Numeral.hexadecimal n ≠ []
  := Nat.toDigits_ne_nil

theorem colon_not_mem_hexadecimal (n : Nat) :
  ':' ∉ Numeral.hexadecimal n
  := Numeral.not_mem_hexadecimal (by decide)

theorem groups?_map_hexadecimal (allowEmbedded : Bool) (gs : List UInt16) :
  groups? allowEmbedded (gs.map fun g => Numeral.hexadecimal g.toNat) = some gs
  := by
  induction gs with
  | nil => rfl
  | cons g gs ih =>
    cases gs with
    | nil => simp [groups?, group?_hexadecimal]
    | cons g' gs =>
      simp only [List.map_cons] at ih
      simp [groups?, group?_hexadecimal, ih]

theorem pieces_groupsText {gs : List UInt16} (some : gs ≠ []) :
  Text.pieces ':' (groupsText gs) = gs.map fun g => Numeral.hexadecimal g.toNat
  := by
  apply Text.pieces_joined (by simpa using some)
  intro p hp
  obtain ⟨g, -, rfl⟩ := List.mem_map.1 hp
  apply colon_not_mem_hexadecimal

theorem run?_of_ne_nil (allowEmbedded : Bool) {cs : List Char} (h : cs ≠ []) :
  run? allowEmbedded cs = groups? allowEmbedded (Text.pieces ':' cs)
  := by
  cases cs with
  | nil => exact absurd rfl h
  | cons c cs => rfl

theorem groupsText_ne_nil {gs : List UInt16} (some : gs ≠ []) :
  groupsText gs ≠ []
  := by
  intro isEmpty
  have cut := pieces_groupsText some
  rw [isEmpty] at cut
  cases gs with
  | nil => exact some rfl
  | cons g gs => exact hexadecimal_ne_nil g.toNat (List.cons.inj cut).1.symm

/-- The text of groups is read as these groups. -/
theorem run?_groupsText (allowEmbedded : Bool) (gs : List UInt16) :
  run? allowEmbedded (groupsText gs) = some gs
  := by
  by_cases isEmpty : gs = []
  · subst isEmpty
    rfl
  · rw [run?_of_ne_nil allowEmbedded (groupsText_ne_nil isEmpty), pieces_groupsText isEmpty,
      groups?_map_hexadecimal]

/-! ### The double colon -/

/-- A text without a colon holds no part of a double colon. -/
theorem cutAtDoubleColon?_append {p : List Char} (h : ':' ∉ p) (rest : List Char) :
  cutAtDoubleColon? (p ++ rest) = (cutAtDoubleColon? rest).map fun x => (p ++ x.1, x.2)
  := by
  induction p with
  | nil => simp
  | cons c cs ih =>
    have other : c ≠ ':' := (List.ne_of_not_mem_cons h).symm
    rw [List.cons_append, cutAtDoubleColon?.eq_2 _ _ (by simp [other]),
      ih (List.not_mem_of_not_mem_cons h), Option.map_map]
    rfl

/-- A single colon is no double colon. -/
theorem cutAtDoubleColon?_colon {cs : List Char} (h : cs.head? ≠ some ':') :
  cutAtDoubleColon? (':' :: cs) = (cutAtDoubleColon? cs).map fun x => (':' :: x.1, x.2)
  := by
  cases cs with
  | nil => rfl
  | cons c cs =>
    have other : c ≠ ':' := by simpa using h
    rw [cutAtDoubleColon?.eq_2 _ _ (by simp [other])]

theorem groupsText_cons_cons (g g' : UInt16) (gs : List UInt16) :
  groupsText (g :: g' :: gs) = Numeral.hexadecimal g.toNat ++ ':' :: groupsText (g' :: gs)
  := rfl

/-- The text of groups does not start with a colon. -/
theorem head?_groupsText_append {gs : List UInt16} (some : gs ≠ []) (rest : List Char) :
  (groupsText gs ++ rest).head? ≠ Option.some ':'
  := by
  intro colon
  have first : (Text.pieces ':' (groupsText gs)).head? = Option.some [] := by
    cases written : groupsText gs with
    | nil => exact absurd written (groupsText_ne_nil some)
    | cons c cs =>
      obtain rfl : c = ':' := by simpa [written] using colon
      simp [Text.pieces]
  rw [pieces_groupsText some] at first
  cases gs with
  | nil => contradiction
  | cons g gs => exact hexadecimal_ne_nil g.toNat (Option.some.inj first)

/-- The text of groups holds no double colon, nor the first half of one at its end. -/
theorem cutAtDoubleColon?_groupsText (gs : List UInt16) (rest : List Char) :
  cutAtDoubleColon? (groupsText gs ++ rest) =
    (cutAtDoubleColon? rest).map fun x => (groupsText gs ++ x.1, x.2)
  := by
  induction gs with
  | nil => simp [groupsText, Text.joined]
  | cons g gs ih =>
    cases gs with
    | nil => apply cutAtDoubleColon?_append (colon_not_mem_hexadecimal g.toNat)
    | cons g' gs =>
      have next := head?_groupsText_append (List.cons_ne_nil g' gs) rest
      rw [groupsText_cons_cons, List.append_assoc,
        cutAtDoubleColon?_append (colon_not_mem_hexadecimal g.toNat), List.cons_append,
        cutAtDoubleColon?_colon next, ih, Option.map_map, Option.map_map]
      simp [Function.comp_def]

/-! ### The run that is left out -/

theorem takeWhile_zero (gs : List UInt16) :
  gs.takeWhile (· = 0) = List.replicate (zeroRun gs) 0
  := by
  apply List.eq_replicate_iff.2
  use rfl
  intro g hg
  simpa using List.all_eq_true.1 List.all_takeWhile g hg

/-- The longest run of zero groups is one. -/
theorem exists_of_longestZeroRun (i : Nat) (gs : List UInt16) :
  ∃ before after, gs = before ++ List.replicate (longestZeroRun i gs).2 0 ++ after ∧
    (longestZeroRun i gs).1 = i + before.length
  := by
  induction gs generalizing i with
  | nil => exact ⟨[], [], rfl, rfl⟩
  | cons g gs ih =>
    simp only [longestZeroRun]
    split
    · refine ⟨[], (g :: gs).dropWhile (· = 0), ?_, rfl⟩
      rw [List.nil_append, ← takeWhile_zero, List.takeWhile_append_dropWhile]
    · obtain ⟨before, after, same, start⟩ := ih (i + 1)
      refine ⟨g :: before, after, congrArg (g :: ·) same, ?_⟩
      rw [start, List.length_cons]
      omega

/-! ### Texts of addresses -/

theorem ofGroups?_toList (ip : IPv6) :
  ofGroups? ip.groups.toList = some ip
  := by
  obtain ⟨⟨⟨gs⟩, length⟩⟩ := ip
  exact dif_pos length

/-- A text with a double colon is read with the zero groups that are missing. -/
theorem read?_doubleColon {first last : List UInt16} {n : Nat} (some : 0 < n)
    (length : first.length + n + last.length = 8) :
  read? (groupsText first ++ "::".toList ++ groupsText last) =
    ofGroups? (first ++ List.replicate n 0 ++ last)
  := by
  have cut : cutAtDoubleColon? (groupsText first ++ "::".toList ++ groupsText last) =
      Option.some (groupsText first, groupsText last) := by
    rw [List.append_assoc, cutAtDoubleColon?_groupsText]
    simp [cutAtDoubleColon?]
  have missing : 8 - first.length - last.length = n := by omega
  simp only [read?, cut, run?_groupsText, Option.bind_eq_bind, Option.bind_some, missing,
    if_neg (Nat.ne_of_gt some)]

/-- A text without a double colon is read as its groups. -/
theorem read?_groupsText (gs : List UInt16) :
  read? (groupsText gs) = ofGroups? gs
  := by
  have cut : cutAtDoubleColon? (groupsText gs) = none := by
    have := cutAtDoubleColon?_groupsText gs []
    rwa [List.append_nil] at this
  simp only [read?, cut, run?_groupsText, Option.bind_some]

/-! ### Addresses that map those of version four -/

private theorem high_or (h l : BitVec 16) :
  ((h.setWidth 32 <<< 16 ||| l.setWidth 32) >>> 16).setWidth 16 = h
  := by
  apply BitVec.eq_of_getLsbD_eq
  intro i hi
  have inside : 16 + i < 32 := by omega
  simp [hi, inside]

private theorem low_or (h l : BitVec 16) :
  (h.setWidth 32 <<< 16 ||| l.setWidth 32).setWidth 16 = l
  := by
  apply BitVec.eq_of_getLsbD_eq
  intro i hi
  simp [hi]

/-- An address of version four that is put together from two groups has these groups. -/
theorem embedded_or (high low : UInt16) :
  embedded ⟨high.toUInt32 <<< 16 ||| low.toUInt32⟩ = [high, low]
  := by
  have first : ((high.toUInt32 <<< 16 ||| low.toUInt32) >>> 16).toUInt16 = high :=
    UInt16.toBitVec_inj.1 (high_or high.toBitVec low.toBitVec)
  have last : (high.toUInt32 <<< 16 ||| low.toUInt32).toUInt16 = low :=
    UInt16.toBitVec_inj.1 (low_or high.toBitVec low.toBitVec)
  rw [embedded, first, last]

/-- The text of an address of version four is no group. -/
theorem group?_text (ip : IPv4) :
  group? ip.text = none
  := by
  have dot : '.' ∈ ip.text := by simp [IPv4.text, Text.joined]
  rw [group?, Numeral.read?_eq_none_of_mem dot (by decide)]
  simp

/-- An address of version four is read behind a double colon and the group that marks it. -/
theorem read?_mapped (ip : IPv4) :
  read? ("::ffff:".toList ++ ip.text) =
    ofGroups? (List.replicate 5 0 ++ 0xFFFF :: embedded ip)
  := by
  have noColon : ':' ∉ ip.text := IPv4.not_mem_text (by decide) (by decide)
  have cut : cutAtDoubleColon? ("::ffff:".toList ++ ip.text) =
      some ([], "ffff".toList ++ ':' :: ip.text) := rfl
  have mark : group? "ffff".toList = some 0xFFFF := by decide
  have run : run? true ("ffff".toList ++ ':' :: ip.text) = some (0xFFFF :: embedded ip) := by
    rw [run?_of_ne_nil true (by simp), Text.pieces_append_cons, Text.pieces_of_not_mem noColon]
    change groups? true ["ffff".toList, ip.text] = _
    simp only [groups?, mark, group?_text, IPv4.read?_text]
    rfl
  simp only [read?, cut, run]
  rfl

/-! ### Whole addresses -/

/-- The text of an address is read as this address. -/
theorem read?_text (ip : IPv6) :
  read? ip.text = some ip
  := by
  rw [← ofGroups?_toList ip, text]
  split
  case h_1 high low mapped =>
    rw [read?_mapped, embedded_or, mapped]
    rfl
  case h_2 =>
    obtain ⟨first, last, same, start⟩ := exists_of_longestZeroRun 0 ip.groups.toList
    have length : ip.groups.toList.length = 8 := Vector.length_toList
    generalize longestZeroRun 0 ip.groups.toList = run at same start
    obtain ⟨_, n⟩ := run
    obtain rfl := start
    generalize ip.groups.toList = gs at same length
    simp only [Nat.zero_add] at same ⊢
    split
    · have taken : gs.take first.length = first := by
        rw [same, List.append_assoc, List.take_left]
      have dropped : gs.drop (first.length + n) = last := by
        rw [same]
        apply List.drop_left'
        simp
      have total : first.length + n + last.length = 8 := by
        rw [same] at length
        simpa [Nat.add_assoc] using length
      rw [taken, dropped, read?_doubleColon (by omega) total, ← same]
    · apply read?_groupsText

/-- The text of an address consists of hexadecimal digits, colons and dots. -/
theorem not_mem_text {ip : IPv6} {c : Char} (digit : c.isDigit = false)
    (hexadecimal : Numeral.digit? 16 c = none) (colon : c ≠ ':') (dot : c ≠ '.') :
  c ∉ ip.text
  := by
  have notInGroups (gs : List UInt16) : c ∉ groupsText gs := by
    intro h
    rcases Text.mem_of_mem_joined h with isColon | ⟨p, hp, hc⟩
    · exact colon isColon
    · obtain ⟨g, -, rfl⟩ := List.mem_map.1 hp
      exact Numeral.not_mem_hexadecimal hexadecimal hc
  have f : c ≠ 'f' := by
    rintro rfl
    contradiction
  unfold text
  split
  · simp [colon, f, IPv4.not_mem_text digit dot]
  · simp only
    split
    · simp [colon, notInGroups]
    · apply notInGroups

end MeshOnboard.IPv6
