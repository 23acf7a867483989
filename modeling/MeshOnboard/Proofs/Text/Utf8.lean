import MeshOnboard.Text.Utf8

/-!
# Characters in octets

The octets of a character are one that begins it and others that only go on with it, and they are
read as the character whatever follows them (`decode_encodeChar_append`).  Octets are read as at
least as many characters and gaps as begin a character, and as more if the first of them does not
(`begins_lt_length_decode`).  So strings of octets that make up the octets of a text are read as the
text one by one if, and only if, each of them consists of characters
(`flatMap_readLossy_eq_iff`).
-/

namespace MeshOnboard.Utf8

open String (utf8EncodeChar)

/-- Whether an octet goes on with a character. -/
def isContinuation (b : UInt8) : Bool := 0x80 ≤ b && b ≤ 0xBF

theorem isContinuation_iff {b : UInt8} :
  isContinuation b = true ↔ 0x80 ≤ b.toNat ∧ b.toNat ≤ 0xBF
  := by
  simp [isContinuation, UInt8.le_iff_toNat_le]

/-! ### Reading one character -/

theorem lead?_eq_none {b : UInt8} (h : isContinuation b = true) :
  lead? b = none
  := by
  obtain ⟨low, high⟩ := isContinuation_iff.1 h
  rw [lead?, if_neg (by omega), if_pos (by omega)]

/-- The octet after the first one of a character goes on with it. -/
theorem bounds_of_lead? {b : UInt8} {l : Lead} (h : lead? b = some l) :
  0x80 ≤ l.low ∧ l.high ≤ 0xBF
  := by
  simp only [lead?] at h
  grind

/-- What is taken by a character after its first octet goes on with it. -/
theorem exists_follow_eq (more bits : Nat) {low high : UInt8} (lower : 0x80 ≤ low)
    (upper : high ≤ 0xBF) (bs : List UInt8) :
  ∃ taken, (∀ b ∈ taken, isContinuation b = true) ∧
    bs = taken ++ (follow more bits low high bs).2
  := by
  induction more generalizing bits low high bs with
  | zero => exact ⟨[], by simp, rfl⟩
  | succ more ih =>
    cases bs with
    | nil => exact ⟨[], by simp, rfl⟩
    | cons b bs =>
      rw [follow]
      split
      · next within =>
        have goesOn : isContinuation b = true := by
          simp [isContinuation, UInt8.le_trans lower within.1, UInt8.le_trans within.2 upper]
        obtain ⟨taken, continuations, same⟩ :=
          ih (bits * 64 + b.toNat % 64) (UInt8.le_refl 0x80) (UInt8.le_refl 0xBF) bs
        exact ⟨b :: taken, List.forall_mem_cons.2 ⟨goesOn, continuations⟩,
          congrArg (b :: ·) same⟩
      · exact ⟨[], by simp, rfl⟩

theorem decode_cons_of_eq_none {b : UInt8} (h : lead? b = none) (bs : List UInt8) :
  decode (b :: bs) = none :: decode bs
  := by
  rw [decode, h]

theorem decode_cons_of_eq_some {b : UInt8} {l : Lead} (h : lead? b = some l) (bs : List UInt8) :
  decode (b :: bs) = (follow l.more l.bits l.low l.high bs).1.map Char.ofNat ::
    decode (follow l.more l.bits l.low l.high bs).2
  := by
  rw [decode, h]

/-! ### The octets of a character -/

theorem toNat_ofNat {n : Nat} (h : n < 256) :
  (UInt8.ofNat n).toNat = n
  := by
  rw [UInt8.toNat_ofNat', Nat.mod_eq_of_lt h]

theorem isScalar_toNat (c : Char) :
  c.toNat < 0xD800 ∨ 0xDFFF < c.toNat ∧ c.toNat < 0x110000
  := c.valid

/-- The octet that goes on with six bits. -/
def further (d : Nat) : UInt8 := UInt8.ofNat (d + 128)

theorem toNat_further {d : Nat} (small : d < 64) :
  (further d).toNat = d + 128
  := toNat_ofNat (by omega)

theorem isContinuation_further {d : Nat} (small : d < 64) :
  isContinuation (further d) = true
  := by
  rw [isContinuation_iff, toNat_further small]
  omega

/-- Six bits are read from the octet that goes on with them. -/
theorem follow_further {more bits d : Nat} {low high : UInt8} (bs : List UInt8) (small : d < 64)
    (lower : low.toNat ≤ d + 128) (upper : d + 128 ≤ high.toNat) :
  follow (more + 1) bits low high (further d :: bs) = follow more (bits * 64 + d) 0x80 0xBF bs
  := by
  have within : low ≤ further d ∧ further d ≤ high := by
    rw [UInt8.le_iff_toNat_le, UInt8.le_iff_toNat_le, toNat_further small]
    exact ⟨lower, upper⟩
  have digit : (d + 128) % 64 = d := by omega
  rw [follow, if_pos within, toNat_further small, digit]

/-- The octets of a character hold its number in digits of six bits, the first of them in the octet
that also says how many follow. -/
theorem cases_encodeChar (c : Char) :
  (c.toNat < 0x80 ∧ utf8EncodeChar c = [UInt8.ofNat c.toNat]) ∨
  (0x80 ≤ c.toNat ∧ c.toNat < 0x800 ∧
    utf8EncodeChar c = [UInt8.ofNat (c.toNat / 64 + 0xC0), further (c.toNat % 64)]) ∨
  (0x800 ≤ c.toNat ∧ c.toNat < 0x10000 ∧
    utf8EncodeChar c = [UInt8.ofNat (c.toNat / 4096 + 0xE0), further (c.toNat / 64 % 64),
      further (c.toNat % 64)]) ∨
  (0x10000 ≤ c.toNat ∧
    utf8EncodeChar c = [UInt8.ofNat (c.toNat / 262144 + 0xF0), further (c.toNat / 4096 % 64),
      further (c.toNat / 64 % 64), further (c.toNat % 64)])
  := by
  have scalar := isScalar_toNat c
  have value : c.val.toNat = c.toNat := rfl
  unfold utf8EncodeChar
  rw [value]
  generalize c.toNat = v at *
  by_cases one : v ≤ 0x7F
  · exact .inl ⟨by omega, if_pos one⟩
  by_cases two : v ≤ 0x7FF
  · refine .inr (.inl ⟨by omega, by omega, ?_⟩)
    have first : v / 64 % 0x20 = v / 64 := by omega
    rw [if_neg one, if_pos two, first]
    rfl
  by_cases three : v ≤ 0xFFFF
  · refine .inr (.inr (.inl ⟨by omega, by omega, ?_⟩))
    have first : v / 4096 % 0x10 = v / 4096 := by omega
    rw [if_neg one, if_neg two, if_pos three, first]
    rfl
  · refine .inr (.inr (.inr ⟨by omega, ?_⟩))
    have first : v / 262144 % 0x08 = v / 262144 := by omega
    rw [if_neg one, if_neg two, if_neg three, first]
    rfl

/-- A character begins with an octet that does not go on with one, and all others do. -/
theorem exists_encodeChar_eq (c : Char) :
  ∃ b bs, utf8EncodeChar c = b :: bs ∧ isContinuation b = false ∧
    ∀ d ∈ bs, isContinuation d = true
  := by
  have begins {n : Nat} (h : n < 0x80 ∨ 0xBF < n) (small : n < 256) :
      isContinuation (UInt8.ofNat n) = false := by
    rw [← Bool.not_eq_true, isContinuation_iff, toNat_ofNat small]
    omega
  have scalar := isScalar_toNat c
  have digit (n : Nat) : isContinuation (further (n % 64)) = true :=
    isContinuation_further (Nat.mod_lt n (by decide))
  rcases cases_encodeChar c with ⟨small, written⟩ | ⟨-, small, written⟩ | ⟨-, small, written⟩ |
    ⟨-, written⟩
  · exact ⟨_, _, written, begins (by omega) (by omega), by simp⟩
  · exact ⟨_, _, written, begins (by omega) (by omega), by simp [digit]⟩
  · exact ⟨_, _, written, begins (by omega) (by omega), by simp [digit]⟩
  · exact ⟨_, _, written, begins (by omega) (by omega), by simp [digit]⟩

theorem follow_zero (bits : Nat) (low high : UInt8) (bs : List UInt8) :
  follow 0 bits low high bs = (some bits, bs)
  := rfl

theorem mod_lt_64 (n : Nat) : n % 64 < 64 := Nat.mod_lt n (by decide)

/-- Six bits that are not the first ones may be any. -/
theorem follow_further_mod {more bits : Nat} (n : Nat) (bs : List UInt8) :
  follow (more + 1) bits 0x80 0xBF (further (n % 64) :: bs) =
    follow more (bits * 64 + n % 64) 0x80 0xBF bs
  := by
  have small := mod_lt_64 n
  apply follow_further bs small
  · exact Nat.le_add_left 128 _
  · exact Nat.add_le_add_right (Nat.le_of_lt_succ small) 128

theorem decode_one {n : Nat} (small : n < 0x80) (bs : List UInt8) :
  decode (UInt8.ofNat n :: bs) = some (Char.ofNat n) :: decode bs
  := by
  have lead : lead? (UInt8.ofNat n) = some ⟨0, n, 0x80, 0xBF⟩ := by
    rw [lead?, toNat_ofNat (by omega), if_pos small]
  simp only [decode_cons_of_eq_some lead, follow_zero, Option.map_some]

theorem decode_two {n : Nat} (large : 0x80 ≤ n) (small : n < 0x800) (bs : List UInt8) :
  decode (UInt8.ofNat (n / 64 + 0xC0) :: further (n % 64) :: bs) = some (Char.ofNat n) :: decode bs
  := by
  have lead : lead? (UInt8.ofNat (n / 64 + 0xC0)) = some ⟨1, n / 64, 0x80, 0xBF⟩ := by
    rw [lead?, toNat_ofNat (by omega), if_neg (by omega), if_neg (by omega), if_pos (by omega),
      Nat.add_sub_cancel]
  have value : n / 64 * 64 + n % 64 = n := by omega
  simp only [decode_cons_of_eq_some lead, follow_further_mod, follow_zero,
    Option.map_some, value]

theorem decode_three {n : Nat} (large : 0x800 ≤ n) (small : n < 0x10000)
    (scalar : n < 0xD800 ∨ 0xDFFF < n) (bs : List UInt8) :
  decode (UInt8.ofNat (n / 4096 + 0xE0) :: further (n / 64 % 64) :: further (n % 64) :: bs) =
    some (Char.ofNat n) :: decode bs
  := by
  let low : UInt8 := if n / 4096 + 0xE0 = 0xE0 then 0xA0 else 0x80
  let high : UInt8 := if n / 4096 + 0xE0 = 0xED then 0x9F else 0xBF
  have lead : lead? (UInt8.ofNat (n / 4096 + 0xE0)) = some ⟨2, n / 4096, low, high⟩ := by
    rw [lead?, toNat_ofNat (by omega), if_neg (by omega), if_neg (by omega), if_neg (by omega),
      if_pos (by omega), Nat.add_sub_cancel]
  -- a smaller number needs fewer octets
  have lower : low.toNat ≤ n / 64 % 64 + 128 := by
    unfold low
    split
    · change 0xA0 ≤ _
      omega
    · exact Nat.le_add_left 128 _
  -- the numbers above belong to no characters
  have upper : n / 64 % 64 + 128 ≤ high.toNat := by
    unfold high
    split
    · change _ ≤ 0x9F
      omega
    · exact Nat.add_le_add_right (Nat.le_of_lt_succ (mod_lt_64 _)) 128
  have value : (n / 4096 * 64 + n / 64 % 64) * 64 + n % 64 = n := by omega
  simp only [decode_cons_of_eq_some lead, follow_further _ (mod_lt_64 _) lower upper,
    follow_further_mod, follow_zero,
    Option.map_some, value]

theorem decode_four {n : Nat} (large : 0x10000 ≤ n) (small : n < 0x110000) (bs : List UInt8) :
  decode (UInt8.ofNat (n / 262144 + 0xF0) :: further (n / 4096 % 64) :: further (n / 64 % 64) ::
    further (n % 64) :: bs) = some (Char.ofNat n) :: decode bs
  := by
  let low : UInt8 := if n / 262144 + 0xF0 = 0xF0 then 0x90 else 0x80
  let high : UInt8 := if n / 262144 + 0xF0 = 0xF4 then 0x8F else 0xBF
  have lead : lead? (UInt8.ofNat (n / 262144 + 0xF0)) = some ⟨3, n / 262144, low, high⟩ := by
    rw [lead?, toNat_ofNat (by omega), if_neg (by omega), if_neg (by omega), if_neg (by omega),
      if_neg (by omega), if_pos (by omega), Nat.add_sub_cancel]
  have lower : low.toNat ≤ n / 4096 % 64 + 128 := by
    unfold low
    split
    · change 0x90 ≤ _
      omega
    · exact Nat.le_add_left 128 _
  have upper : n / 4096 % 64 + 128 ≤ high.toNat := by
    unfold high
    split
    · change _ ≤ 0x8F
      omega
    · exact Nat.add_le_add_right (Nat.le_of_lt_succ (mod_lt_64 _)) 128
  have value : ((n / 262144 * 64 + n / 4096 % 64) * 64 + n / 64 % 64) * 64 + n % 64 = n := by omega
  simp only [decode_cons_of_eq_some lead, follow_further _ (mod_lt_64 _) lower upper,
    follow_further_mod, follow_zero,
    Option.map_some, value]

/-- The octets of a character are read as the character. -/
theorem decode_encodeChar_append (c : Char) (bs : List UInt8) :
  decode (utf8EncodeChar c ++ bs) = some c :: decode bs
  := by
  have scalar := isScalar_toNat c
  rcases cases_encodeChar c with ⟨small, written⟩ | ⟨large, small, written⟩ |
    ⟨large, small, written⟩ | ⟨large, written⟩
  · rw [written]
    have read := decode_one small bs
    rwa [Char.ofNat_toNat] at read
  · rw [written]
    have read := decode_two large small bs
    rwa [Char.ofNat_toNat] at read
  · rw [written]
    have read := decode_three large small (by omega) bs
    rwa [Char.ofNat_toNat] at read
  · rw [written]
    have read := decode_four large (by omega) bs
    rwa [Char.ofNat_toNat] at read

/-! ### The octets of a text -/

/-- The octets of characters. -/
def encode (cs : List Char) : List UInt8 := cs.flatMap utf8EncodeChar

private theorem toList_loop_eq (bs : ByteArray) (i : Nat) (r : List UInt8) :
  ByteArray.toList.loop bs i r = r.reverse ++ bs.data.toList.drop i
  := by
  fun_induction ByteArray.toList.loop bs i r with
  | case1 i r inside ih =>
    have bound : i < bs.data.toList.length := inside
    have next : bs.get! i = bs.data.toList[i] := by
      obtain ⟨data⟩ := bs
      exact getElem!_pos data i inside
    rw [ih, List.drop_eq_getElem_cons bound, next]
    simp
  | case2 i r outside =>
    have bound : bs.data.toList.length ≤ i := Nat.le_of_not_lt outside
    rw [List.drop_of_length_le bound, List.append_nil]

theorem toList_eq (bs : ByteArray) :
  bs.toList = bs.data.toList
  := toList_loop_eq bs 0 []

theorem write_eq (s : String) :
  write s = encode s.toList
  := by
  have octets : s.toByteArray = s.toList.utf8Encode := by
    rw [← String.toByteArray_ofList, String.ofList_toList]
  rw [write, toList_eq, String.toUTF8, octets, List.utf8Encode, List.toList_data_toByteArray]
  rfl

theorem encode_flatten (parts : List (List Char)) :
  encode parts.flatten = (parts.map encode).flatten
  := by
  induction parts with
  | nil => rfl
  | cons cs parts ih =>
    rw [List.flatten_cons, List.map_cons, List.flatten_cons, ← ih, encode, List.flatMap_append]
    rfl

theorem decode_encode (cs : List Char) :
  decode (encode cs) = cs.map some
  := by
  induction cs with
  | nil => simp [encode, decode]
  | cons c cs ih =>
    rw [encode, List.flatMap_cons, decode_encodeChar_append]
    exact congrArg (some c :: ·) ih

private theorem mapM_map_some (cs : List Char) :
  (cs.map some).mapM id = some cs
  := by
  induction cs with
  | nil => rfl
  | cons c cs ih => simp [ih]

/-- A text that was written is read. -/
theorem read?_write (s : String) :
  read? (write s) = some s.toList
  := by
  rw [read?, write_eq, decode_encode, mapM_map_some]

/-- The octets of a text are read as the text. -/
@[simp]
theorem readLossy_encode (cs : List Char) :
  readLossy (encode cs) = cs
  := by
  rw [readLossy, decode_encode, List.map_map]
  exact List.map_id cs

theorem length_readLossy (bs : List UInt8) :
  (readLossy bs).length = (decode bs).length
  := List.length_map _

/-- The octets that begin a character. -/
def begins (bs : List UInt8) : Nat := bs.countP fun b => !isContinuation b

theorem begins_append (before after : List UInt8) :
  begins (before ++ after) = begins before + begins after
  := List.countP_append

theorem begins_append_of_continuation {taken : List UInt8}
    (h : ∀ b ∈ taken, isContinuation b = true) (bs : List UInt8) :
  begins (taken ++ bs) = begins bs
  := by
  have none : taken.countP (fun b => !isContinuation b) = 0 := by
    rw [List.countP_eq_zero]
    intro d mem
    simp [h d mem]
  rw [begins_append, begins, none, Nat.zero_add]

theorem begins_cons_le (b : UInt8) (bs : List UInt8) :
  begins (b :: bs) ≤ begins bs + 1
  := by
  rw [begins, List.countP_cons, begins]
  split <;> omega

theorem begins_encode (cs : List Char) :
  begins (encode cs) = cs.length
  := by
  induction cs with
  | nil => rfl
  | cons c cs ih =>
    obtain ⟨b, bs, written, first, later⟩ := exists_encodeChar_eq c
    have head : begins (encode (c :: cs)) = begins (bs ++ encode cs) + 1 := by
      simp [begins, encode, written, first]
    rw [head, begins_append_of_continuation later, ih, List.length_cons]

/-- Octets are read as at least as many characters and gaps as begin a character. -/
theorem begins_le_length_decode (bs : List UInt8) :
  begins bs ≤ (decode bs).length
  := by
  induction bs using decode.induct with
  | case1 => exact Nat.zero_le _
  | case2 b bs none ih =>
    rw [decode_cons_of_eq_none none]
    exact Nat.le_trans (begins_cons_le b bs) (Nat.succ_le_succ ih)
  | case3 b bs l lead r ih =>
    obtain ⟨lower, upper⟩ := bounds_of_lead? lead
    obtain ⟨taken, continuations, same⟩ := exists_follow_eq l.more l.bits lower upper bs
    have skipped : begins bs = begins r.2 := by
      rw [same, begins_append_of_continuation continuations]
    rw [decode_cons_of_eq_some lead]
    apply Nat.le_trans (begins_cons_le b bs)
    rw [skipped]
    exact Nat.succ_le_succ ih

/-- They are read as more if the first of them does not begin one. -/
theorem begins_lt_length_decode {b : UInt8} (h : isContinuation b = true) (bs : List UInt8) :
  begins (b :: bs) < (decode (b :: bs)).length
  := by
  rw [decode_cons_of_eq_none (lead?_eq_none h), List.length_cons, Nat.lt_succ_iff]
  have skipped : begins (b :: bs) = begins bs :=
    begins_append_of_continuation (List.forall_mem_singleton.2 h) bs
  rw [skipped]
  exact begins_le_length_decode bs

/-! ### Cuts -/

/-- The octets do not begin inside a character. -/
def IsAligned (bs : List UInt8) : Prop := ∀ b ∈ bs.head?, isContinuation b = false

/-- A text that is cut in front of octets that do not begin inside a character is cut between two
characters. -/
theorem exists_of_append_eq_encode {before after : List UInt8} {cs : List Char}
    (same : before ++ after = encode cs) (aligned : IsAligned after) :
  ∃ cs₁ cs₂, before = encode cs₁ ∧ after = encode cs₂
  := by
  induction cs generalizing before with
  | nil =>
    obtain ⟨rfl, rfl⟩ := List.append_eq_nil_iff.1 same
    exact ⟨[], [], rfl, rfl⟩
  | cons c cs ih =>
    rw [encode, List.flatMap_cons] at same
    rcases List.append_eq_append_iff.1 same with ⟨inside, first, rest⟩ | ⟨more, first, rest⟩
    · cases before with
      | nil => exact ⟨[], c :: cs, rfl, same⟩
      | cons b before =>
        cases inside with
        | nil => exact ⟨[c], cs, by simpa [encode] using first.symm, rest⟩
        | cons d inside =>
          -- the cut is inside the octets of the character
          obtain ⟨_, later, written, -, continuations⟩ := exists_encodeChar_eq c
          obtain ⟨rfl, rfl⟩ := List.cons.inj (written.symm.trans first)
          have goesOn := continuations d (by simp)
          have starts := aligned d (by simp [rest])
          rw [goesOn] at starts
          contradiction
    · obtain ⟨cs₁, cs₂, rfl, last⟩ := ih rest.symm
      exact ⟨c :: cs₁, cs₂, first, last⟩

theorem isAligned_flatten {strings : List (List UInt8)} (h : ∀ bs ∈ strings, IsAligned bs) :
  IsAligned strings.flatten
  := by
  induction strings with
  | nil => simp [IsAligned]
  | cons bs strings ih =>
    obtain ⟨first, later⟩ := List.forall_mem_cons.1 h
    cases bs with
    | nil => exact ih later
    | cons b bs => exact first

/-- If each of several strings of octets begins as a character does and they make up the octets of a
text, then each of them consists of characters. -/
theorem exists_parts {strings : List (List UInt8)} {cs : List Char}
    (whole : strings.flatten = encode cs) (aligned : ∀ bs ∈ strings, IsAligned bs) :
  ∃ parts : List (List Char), strings = parts.map encode
  := by
  induction strings generalizing cs with
  | nil => exact ⟨[], rfl⟩
  | cons bs strings ih =>
    obtain ⟨-, later⟩ := List.forall_mem_cons.1 aligned
    rw [List.flatten_cons] at whole
    obtain ⟨cs₁, cs₂, rfl, rest⟩ := exists_of_append_eq_encode whole (isAligned_flatten later)
    obtain ⟨parts, rfl⟩ := ih rest later
    exact ⟨cs₁ :: parts, rfl⟩

/-- Strings of octets are read one by one as at least as many characters and gaps as begin a
character. -/
theorem begins_flatten_le (strings : List (List UInt8)) :
  begins strings.flatten ≤ (strings.flatMap readLossy).length
  := by
  induction strings with
  | nil => exact Nat.le_refl 0
  | cons bs strings ih =>
    rw [List.flatten_cons, begins_append, List.flatMap_cons, List.length_append, length_readLossy]
    exact Nat.add_le_add (begins_le_length_decode bs) ih

/-- If they are read as no more than that, each of them begins as a character does. -/
theorem isAligned_of_length_le {strings : List (List UInt8)}
    (h : (strings.flatMap readLossy).length ≤ begins strings.flatten) :
  ∀ bs ∈ strings, IsAligned bs
  := by
  induction strings with
  | nil => simp
  | cons bs strings ih =>
    rw [List.flatten_cons, begins_append, List.flatMap_cons, List.length_append,
      length_readLossy] at h
    have later := begins_flatten_le strings
    have first := begins_le_length_decode bs
    refine List.forall_mem_cons.2 ⟨?_, ih (by omega)⟩
    cases bs with
    | nil => simp [IsAligned]
    | cons b bs =>
      rintro _ ⟨⟩
      cases goesOn : isContinuation b with
      | false => rfl
      | true =>
        have more := begins_lt_length_decode goesOn bs
        omega

/-- Strings of octets that make up the octets of a text are read as the text one by one exactly when
each of them consists of characters. -/
theorem flatMap_readLossy_eq_iff {strings : List (List UInt8)} {cs : List Char}
    (whole : strings.flatten = encode cs) :
  strings.flatMap readLossy = cs ↔ ∃ parts : List (List Char), strings = parts.map encode
  := by
  constructor
  · intro same
    apply exists_parts whole
    apply isAligned_of_length_le
    exact Nat.le_of_eq (by rw [whole, begins_encode, same])
  · rintro ⟨parts, rfl⟩
    have joined : encode parts.flatten = encode cs := by rw [encode_flatten, whole]
    calc (parts.map encode).flatMap readLossy
      _ = parts.flatten := by simp [List.flatMap_map]
      _ = readLossy (encode parts.flatten) := (readLossy_encode _).symm
      _ = cs := by rw [joined, readLossy_encode]

end MeshOnboard.Utf8
