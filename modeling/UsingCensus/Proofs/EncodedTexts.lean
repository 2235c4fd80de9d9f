import UsingCensus.Text.Utf8

namespace UsingCensus.Text.Utf8

theorem toNat_toUInt8 {n : Nat} (small : n < 256) : n.toUInt8.toNat = n := by
  rw [Nat.toUInt8, UInt8.toNat_ofNat']
  exact Nat.mod_eq_of_lt small

theorem le_toUInt8_iff {n : Nat} (small : n < 256) (low : UInt8) : low ≤ n.toUInt8 ↔ low.toNat ≤ n := by
  rw [UInt8.le_iff_toNat_le, toNat_toUInt8 small]

theorem toUInt8_le_iff {n : Nat} (small : n < 256) (high : UInt8) : n.toUInt8 ≤ high ↔ n ≤ high.toNat := by
  rw [UInt8.le_iff_toNat_le, toNat_toUInt8 small]

theorem toUInt8_lt_iff {n : Nat} (small : n < 256) (high : UInt8) : n.toUInt8 < high ↔ n < high.toNat := by
  rw [UInt8.lt_iff_toNat_lt, toNat_toUInt8 small]

theorem toUInt8_eq_iff {n : Nat} (small : n < 256) (other : UInt8) : n.toUInt8 = other ↔ n = other.toNat := by
  rw [← UInt8.toNat_inj, toNat_toUInt8 small]

theorem shape?_toUInt8 {n : Nat} (small : n < 256) : shape? n.toUInt8 =
    if n < 0x80 then some (0, 0x80, 0xBF)
    else if n < 0xC2 then none
    else if n < 0xE0 then some (1, 0x80, 0xBF)
    else if n = 0xE0 then some (2, 0xA0, 0xBF)
    else if n = 0xED then some (2, 0x80, 0x9F)
    else if n < 0xF0 then some (2, 0x80, 0xBF)
    else if n = 0xF0 then some (3, 0x90, 0xBF)
    else if n < 0xF4 then some (3, 0x80, 0xBF)
    else if n = 0xF4 then some (3, 0x80, 0x8F)
    else none := by
  simp only [shape?, toUInt8_lt_iff small, toUInt8_eq_iff small]
  rfl

theorem leadBits_toUInt8 {base bits count : Nat} (bound : base + bits < 256)
    (carries : ∀ first, leadBits first count = first.toNat - base) : leadBits (base + bits).toUInt8 count = bits := by
  rw [carries, toNat_toUInt8 bound, Nat.add_sub_cancel_left]

/-- Bytes that carry six bits each. -/
def continued (digits : List Nat) : List UInt8 := digits.map fun digit => (0x80 + digit).toUInt8

theorem continuation_continued {digits : List Nat} (small : ∀ digit ∈ digits, digit < 0x40) (rest : List UInt8)
    {low high : UInt8} (second : ∀ digit ∈ digits.head?, low.toNat ≤ 0x80 + digit ∧ 0x80 + digit ≤ high.toNat) :
    continuation digits.length low high (continued digits ++ rest) = continued digits := by
  induction digits generalizing low high with
  | nil => rfl
  | cons digit digits ih =>
    obtain ⟨here, later⟩ := List.forall_mem_cons.mp small
    obtain ⟨above, below⟩ := second digit rfl
    have byte : 0x80 + digit < 256 := by omega
    have inside (digit : Nat) (member : digit ∈ digits.head?) :
        (0x80 : UInt8).toNat ≤ 0x80 + digit ∧ 0x80 + digit ≤ (0xBF : UInt8).toNat := by
      have bound := later digit (List.mem_of_head? member)
      have range : (0x80 : UInt8).toNat = 0x80 ∧ (0xBF : UInt8).toNat = 0xBF := ⟨rfl, rfl⟩
      omega
    change continuation (digits.length + 1) low high ((0x80 + digit).toUInt8 :: (continued digits ++ rest)) = _
    rw [continuation, if_pos ⟨(le_toUInt8_iff byte low).mpr above, (toUInt8_le_iff byte high).mpr below⟩,
      ih later inside]
    rfl

theorem foldl_continued {digits : List Nat} (small : ∀ digit ∈ digits, digit < 0x40) (bits : Nat) :
    (continued digits).foldl (fun bits byte => bits * 0x40 + (byte.toNat - 0x80)) bits =
      digits.foldl (fun bits digit => bits * 0x40 + digit) bits := by
  induction digits generalizing bits with
  | nil => rfl
  | cons digit digits ih =>
    obtain ⟨here, later⟩ := List.forall_mem_cons.mp small
    have carried : (0x80 + digit).toUInt8.toNat - 0x80 = digit := by
      rw [toNat_toUInt8 (by omega)]
      omega
    rw [continued, List.map_cons, List.foldl_cons, carried, List.foldl_cons]
    exact ih later _

/-- A first byte with all that belongs to it is a character. -/
theorem pieces_of_shape {lead : Nat} (digits : List Nat) {low high : UInt8}
    (shape : shape? lead.toUInt8 = some (digits.length, low, high)) (small : ∀ digit ∈ digits, digit < 0x40)
    (second : ∀ digit ∈ digits.head?, low.toNat ≤ 0x80 + digit ∧ 0x80 + digit ≤ high.toNat) (rest : List UInt8) :
    pieces (lead.toUInt8 :: continued digits ++ rest) =
      .char (Char.ofNat (digits.foldl (fun bits digit => bits * 0x40 + digit) (leadBits lead.toUInt8 digits.length))) ::
        pieces rest := by
  have full : (continued digits).length = digits.length := List.length_map _
  have whole : piece lead.toUInt8 (continued digits ++ rest) = (.char (Char.ofNat (digits.foldl
      (fun bits digit => bits * 0x40 + digit) (leadBits lead.toUInt8 digits.length))), digits.length) := by
    rw [piece, shape]
    dsimp only
    rw [continuation_continued small rest second, if_pos full, foldl_continued small]
  rw [List.cons_append, pieces, whole]
  dsimp only
  rw [← full, List.drop_left]

theorem inRange {digit : Nat} (small : digit < 0x40) :
    (0x80 : UInt8).toNat ≤ 0x80 + digit ∧ 0x80 + digit ≤ (0xBF : UInt8).toNat := by
  change 0x80 ≤ 0x80 + digit ∧ 0x80 + digit ≤ 0xBF
  omega

theorem toNat_valid (c : Char) : c.toNat < 0xD800 ∨ (0xDFFF < c.toNat ∧ c.toNat < 0x110000) := c.valid

/-- The first of three bytes fits the second one: the encoding is no longer than need be, and of no surrogate. -/
theorem exists_shape_of_three {n : Nat} (above : 0x800 ≤ n) (below : n < 0x10000) (valid : n < 0xD800 ∨ 0xDFFF < n) :
    ∃ low high, shape? (0xE0 + n / 0x1000).toUInt8 = some (2, low, high) ∧
      low.toNat ≤ 0x80 + n / 0x40 % 0x40 ∧ 0x80 + n / 0x40 % 0x40 ≤ high.toNat := by
  rw [shape?_toUInt8 (by omega), if_neg (by omega), if_neg (by omega), if_neg (by omega)]
  by_cases lowest : 0xE0 + n / 0x1000 = 0xE0
  · rw [if_pos lowest]
    exact ⟨_, _, rfl, by change 0xA0 ≤ _; omega, by change _ ≤ 0xBF; omega⟩
  · rw [if_neg lowest]
    by_cases surrogate : 0xE0 + n / 0x1000 = 0xED
    · rw [if_pos surrogate]
      exact ⟨_, _, rfl, by change 0x80 ≤ _; omega, by change _ ≤ 0x9F; omega⟩
    · rw [if_neg surrogate, if_pos (by omega)]
      exact ⟨_, _, rfl, inRange (Nat.mod_lt _ (by decide))⟩

/-- The first of four bytes fits the second one: the encoding is of a code point. -/
theorem exists_shape_of_four {n : Nat} (above : 0x10000 ≤ n) (below : n < 0x110000) :
    ∃ low high, shape? (0xF0 + n / 0x40000).toUInt8 = some (3, low, high) ∧
      low.toNat ≤ 0x80 + n / 0x1000 % 0x40 ∧ 0x80 + n / 0x1000 % 0x40 ≤ high.toNat := by
  rw [shape?_toUInt8 (by omega), if_neg (by omega), if_neg (by omega), if_neg (by omega), if_neg (by omega),
    if_neg (by omega), if_neg (by omega)]
  by_cases lowest : 0xF0 + n / 0x40000 = 0xF0
  · rw [if_pos lowest]
    exact ⟨_, _, rfl, by change 0x90 ≤ _; omega, by change _ ≤ 0xBF; omega⟩
  · rw [if_neg lowest]
    by_cases middle : 0xF0 + n / 0x40000 < 0xF4
    · rw [if_pos middle]
      exact ⟨_, _, rfl, inRange (Nat.mod_lt _ (by decide))⟩
    · rw [if_neg middle, if_pos (by omega)]
      exact ⟨_, _, rfl, by change 0x80 ≤ _; omega, by change _ ≤ 0x8F; omega⟩

theorem pieces_encodeChar (c : Char) (rest : List UInt8) : pieces (encodeChar c ++ rest) = .char c :: pieces rest := by
  have valid := toNat_valid c
  have restored : Char.ofNat c.toNat = c := Char.ofNat_toNat c
  unfold encodeChar
  generalize c.toNat = n at valid restored
  have small (k : Nat) : k % 0x40 < 0x40 := Nat.mod_lt _ (by decide)
  dsimp only
  by_cases one : n < 0x80
  · have shape : shape? n.toUInt8 = some (0, 0x80, 0xBF) := by rw [shape?_toUInt8 (by omega), if_pos one]
    have bits : leadBits n.toUInt8 0 = n := toNat_toUInt8 (by omega)
    have read := pieces_of_shape [] shape nofun nofun rest
    simp only [List.foldl_nil, List.length_nil, bits, restored] at read
    rw [if_pos one]
    exact read
  rw [if_neg one]
  by_cases two : n < 0x800
  · have shape : shape? (0xC0 + n / 0x40).toUInt8 = some (1, 0x80, 0xBF) := by
      rw [shape?_toUInt8 (by omega), if_neg (by omega), if_neg (by omega), if_pos (by omega)]
    have bits : leadBits (0xC0 + n / 0x40).toUInt8 1 = n / 0x40 := leadBits_toUInt8 (by omega) fun _ => rfl
    have sum : n / 0x40 * 0x40 + n % 0x40 = n := by omega
    have read := pieces_of_shape [n % 0x40] shape (List.forall_mem_singleton.mpr (small _))
      (by rintro _ ⟨⟩; exact inRange (small _)) rest
    simp only [List.foldl_cons, List.foldl_nil, List.length_singleton, bits, sum, restored] at read
    rw [if_pos two]
    exact read
  rw [if_neg two]
  by_cases three : n < 0x10000
  · obtain ⟨low, high, shape, second⟩ := exists_shape_of_three (by omega) three (by omega)
    have bits : leadBits (0xE0 + n / 0x1000).toUInt8 2 = n / 0x1000 := leadBits_toUInt8 (by omega) fun _ => rfl
    have sum : (n / 0x1000 * 0x40 + n / 0x40 % 0x40) * 0x40 + n % 0x40 = n := by omega
    have read := pieces_of_shape [n / 0x40 % 0x40, n % 0x40] shape
      (List.forall_mem_cons.mpr ⟨small _, List.forall_mem_singleton.mpr (small _)⟩)
      (by rintro _ ⟨⟩; exact second) rest
    simp only [List.foldl_cons, List.foldl_nil, List.length_cons, List.length_nil, bits, sum, restored] at read
    rw [if_pos three]
    exact read
  rw [if_neg three]
  obtain ⟨low, high, shape, second⟩ := exists_shape_of_four (n := n) (by omega) (by omega)
  have bits : leadBits (0xF0 + n / 0x40000).toUInt8 3 = n / 0x40000 := leadBits_toUInt8 (by omega) fun _ => rfl
  have sum : ((n / 0x40000 * 0x40 + n / 0x1000 % 0x40) * 0x40 + n / 0x40 % 0x40) * 0x40 + n % 0x40 = n := by omega
  have read := pieces_of_shape [n / 0x1000 % 0x40, n / 0x40 % 0x40, n % 0x40] shape
    (List.forall_mem_cons.mpr ⟨small _, List.forall_mem_cons.mpr ⟨small _, List.forall_mem_singleton.mpr (small _)⟩⟩)
    (by rintro _ ⟨⟩; exact second) rest
  simp only [List.foldl_cons, List.foldl_nil, List.length_cons, List.length_nil, bits, sum, restored] at read
  exact read

theorem pieces_encode (cs : List Char) : pieces (encode cs) = cs.map Piece.char := by
  induction cs with
  | nil => rw [encode, List.flatMap_nil, pieces, List.map_nil]
  | cons c cs ih =>
    change pieces (encodeChar c ++ encode cs) = _
    rw [pieces_encodeChar, ih, List.map_cons]

theorem decodeSkipping_ofString (text : String) : decodeSkipping (ofString text) = text.toList := by
  rw [decodeSkipping, ofString, pieces_encode, List.filterMap_map]
  exact List.filterMap_some

theorem encode_ne_of_invalidStart {first : UInt8} (invalid : shape? first = none) (rest : List UInt8)
    (cs : List Char) : encode cs ≠ first :: rest := by
  intro same
  have read := pieces_encode cs
  rw [same, pieces, piece, invalid] at read
  cases cs with
  | nil => cases read
  | cons c cs => cases read

/-- Only a text that starts with the mark as a character has bytes that start with the mark. -/
theorem head?_of_mark_prefix {cs : List Char} (marked : mark.isPrefixOf (encode cs) = true) :
    cs.head? = some '\uFEFF' := by
  obtain ⟨rest, same⟩ := List.isPrefixOf_iff_prefix.mp marked
  have read := pieces_encode cs
  have first : mark = encodeChar '\uFEFF' := by decide
  rw [← same, first, pieces_encodeChar] at read
  cases cs with
  | nil => cases read
  | cons c cs =>
    obtain ⟨same, _⟩ := List.cons.inj read
    cases same
    rfl

theorem encodeChar_eq (c : Char) : encodeChar c = String.utf8EncodeChar c := by
  have valid := toNat_valid c
  have value : c.val.toNat = c.toNat := rfl
  unfold encodeChar String.utf8EncodeChar
  rw [value]
  generalize c.toNat = n at valid
  dsimp only
  by_cases one : n < 0x80
  · rw [if_pos one, if_pos (show n ≤ 127 by omega)]
  rw [if_neg one, if_neg (show ¬ n ≤ 127 by omega)]
  by_cases two : n < 0x800
  · have lead : 0xC0 + n / 0x40 = n / 0x40 % 0x20 + 0xC0 := by omega
    rw [if_pos two, if_pos (show n ≤ 2047 by omega), lead, Nat.add_comm 0x80]
  rw [if_neg two, if_neg (show ¬ n ≤ 2047 by omega)]
  by_cases three : n < 0x10000
  · have lead : 0xE0 + n / 0x1000 = n / 0x1000 % 0x10 + 0xE0 := by omega
    rw [if_pos three, if_pos (show n ≤ 65535 by omega), lead, Nat.add_comm 0x80, Nat.add_comm 0x80]
  · have lead : 0xF0 + n / 0x40000 = n / 0x40000 % 0x8 + 0xF0 := by omega
    rw [if_neg three, if_neg (show ¬ n ≤ 65535 by omega), lead, Nat.add_comm 0x80, Nat.add_comm 0x80,
      Nat.add_comm 0x80]

theorem ofString_eq (text : String) : ofString text = text.toUTF8.data.toList := by
  have bytes : encodeChar = String.utf8EncodeChar := funext encodeChar_eq
  rw [ofString, encode, bytes, String.toUTF8_eq_toByteArray, ← String.utf8Encode_toList, List.utf8Encode,
    List.data_toByteArray]

end UsingCensus.Text.Utf8
