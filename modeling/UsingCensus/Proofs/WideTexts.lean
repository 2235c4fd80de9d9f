import UsingCensus.Proofs.EncodedTexts
import UsingCensus.Text.Utf16

namespace UsingCensus.Text.Utf16

theorem isHigh_iff {unit : Nat} : isHigh unit = true ↔ 0xD800 ≤ unit ∧ unit < 0xDC00 := by
  simp [isHigh]

theorem isLow_iff {unit : Nat} : isLow unit = true ↔ 0xDC00 ≤ unit ∧ unit < 0xE000 := by
  simp [isLow]

namespace ByteOrder

theorem unit_lt (order : ByteOrder) (a b : UInt8) : order.unit a b < 0x10000 := by
  have first := a.toNat_lt
  have second := b.toNat_lt
  cases order <;> simp only [unit] <;> omega

theorem bytes_unit (order : ByteOrder) (a b : UInt8) : order.bytes (order.unit a b) = [a, b] := by
  have first := a.toNat_lt
  have second := b.toNat_lt
  cases order with
  | little =>
    have low : (b.toNat * 0x100 + a.toNat) % 0x100 = a.toNat := by omega
    have high : (b.toNat * 0x100 + a.toNat) / 0x100 = b.toNat := by omega
    simp [bytes, unit, low, high]
  | big =>
    have low : (a.toNat * 0x100 + b.toNat) % 0x100 = b.toNat := by omega
    have high : (a.toNat * 0x100 + b.toNat) / 0x100 = a.toNat := by omega
    simp [bytes, unit, low, high]

theorem exists_bytes (order : ByteOrder) {value : Nat} (small : value < 0x10000) :
    ∃ a b, order.bytes value = [a, b] ∧ order.unit a b = value := by
  have low : (value % 0x100).toUInt8.toNat = value % 0x100 := Utf8.toNat_toUInt8 (by omega)
  have high : (value / 0x100).toUInt8.toNat = value / 0x100 := Utf8.toNat_toUInt8 (by omega)
  cases order with
  | little => exact ⟨_, _, rfl, by rw [unit, low, high]; omega⟩
  | big => exact ⟨_, _, rfl, by rw [unit, low, high]; omega⟩

end ByteOrder

theorem decodeFrom_char (order : ByteOrder) (position : Nat) (c : Char) (rest : List UInt8) :
    ∃ next, decodeFrom order position ((units c).flatMap order.bytes ++ rest) =
      (decodeFrom order next rest).map (c :: ·) := by
  have valid := Utf8.toNat_valid c
  have restored : Char.ofNat c.toNat = c := Char.ofNat_toNat c
  unfold units
  generalize c.toNat = n at valid restored
  by_cases basic : n < 0x10000
  · obtain ⟨a, b, written, made⟩ := order.exists_bytes basic
    have notLow : ¬ isLow n = true := by rw [isLow_iff]; omega
    have notHigh : ¬ isHigh n = true := by rw [isHigh_iff]; omega
    refine ⟨position + 2, ?_⟩
    rw [if_pos basic, List.flatMap_singleton, written, List.cons_append, List.cons_append, List.nil_append,
      decodeFrom.eq_def]
    dsimp only
    rw [made, if_neg notLow, if_neg notHigh, restored]
  · obtain ⟨a, b, written, made⟩ := order.exists_bytes (show 0xD800 + (n - 0x10000) / 0x400 < 0x10000 by omega)
    obtain ⟨x, y, again, second⟩ := order.exists_bytes (show 0xDC00 + (n - 0x10000) % 0x400 < 0x10000 by omega)
    have notLow : ¬ isLow (0xD800 + (n - 0x10000) / 0x400) = true := by rw [isLow_iff]; omega
    have high : isHigh (0xD800 + (n - 0x10000) / 0x400) = true := by rw [isHigh_iff]; omega
    have low : isLow (0xDC00 + (n - 0x10000) % 0x400) = true := by rw [isLow_iff]; omega
    have point : 0x10000 + (0xD800 + (n - 0x10000) / 0x400 - 0xD800) * 0x400 +
        (0xDC00 + (n - 0x10000) % 0x400 - 0xDC00) = n := by omega
    refine ⟨position + 4, ?_⟩
    rw [if_neg basic, List.flatMap_cons, List.flatMap_singleton, written, again]
    simp only [List.cons_append, List.nil_append]
    rw [decodeFrom.eq_def]
    dsimp only
    rw [made, if_neg notLow, if_pos high, second, if_pos low, point, restored]

theorem decodeFrom_encode (order : ByteOrder) (position : Nat) (cs : List Char) :
    decodeFrom order position (encode order cs) = .ok cs := by
  induction cs generalizing position with
  | nil => rfl
  | cons c cs ih =>
    obtain ⟨next, read⟩ := decodeFrom_char order position c (encode order cs)
    change decodeFrom order position ((units c).flatMap order.bytes ++ encode order cs) = _
    rw [read, ih]
    rfl

private theorem exists_of_map_eq_ok {result : Except DecodeFault (List Char)} {c : Char} {cs : List Char}
    (read : result.map (c :: ·) = .ok cs) : ∃ rest, result = .ok rest ∧ cs = c :: rest := by
  cases result with
  | error fault => cases read
  | ok rest => exact ⟨rest, rfl, (Except.ok.inj read).symm⟩

theorem encode_cons (order : ByteOrder) (c : Char) (cs : List Char) :
    encode order (c :: cs) = (units c).flatMap order.bytes ++ encode order cs := List.flatMap_cons

private theorem toNat_ofNat {n : Nat} (valid : n.isValidChar) : (Char.ofNat n).toNat = n := by
  rw [Char.ofNat, dif_pos valid]
  rfl

theorem encode_of_decodeFrom {order : ByteOrder} {position : Nat} {bytes : List UInt8} {cs : List Char}
    (read : decodeFrom order position bytes = .ok cs) : encode order cs = bytes := by
  fun_induction decodeFrom order position bytes generalizing cs with
  | case1 =>
    cases read
    rfl
  | case6 position a b unit _ high x y more second low point =>
    rename_i ih
    obtain ⟨rest, later, rfl⟩ := exists_of_map_eq_ok read
    obtain ⟨above, below⟩ := isHigh_iff.mp high
    obtain ⟨least, most⟩ := isLow_iff.mp low
    have far : 0x10000 ≤ point := by dsimp only [point]; omega
    have front : 0xD800 + (point - 0x10000) / 0x400 = unit := by dsimp only [point]; omega
    have back : 0xDC00 + (point - 0x10000) % 0x400 = second := by dsimp only [point]; omega
    have code : (Char.ofNat point).toNat = point := toNat_ofNat (.inr (by omega))
    have written : units (Char.ofNat point) = [unit, second] := by
      rw [units, code, if_neg (by omega), front, back]
    rw [encode_cons, written, ih later, List.flatMap_cons, List.flatMap_singleton, order.bytes_unit,
      order.bytes_unit]
    rfl
  | case8 position a b more unit notLow notHigh =>
    rename_i ih
    obtain ⟨rest, later, rfl⟩ := exists_of_map_eq_ok read
    rw [isLow_iff] at notLow
    rw [isHigh_iff] at notHigh
    have near : unit < 0x10000 := order.unit_lt a b
    have code : (Char.ofNat unit).toNat = unit := toNat_ofNat (by unfold Nat.isValidChar; omega)
    have written : units (Char.ofNat unit) = [unit] := by rw [units, code, if_pos near]
    rw [encode_cons, written, ih later, List.flatMap_singleton, order.bytes_unit]
    rfl
  | _ => cases read

/-- Bytes are read as a text just if they are the bytes of that text. -/
theorem decodeFrom_eq_ok_iff {order : ByteOrder} {position : Nat} {bytes : List UInt8} {cs : List Char} :
    decodeFrom order position bytes = .ok cs ↔ bytes = encode order cs := by
  constructor
  · exact fun read => (encode_of_decodeFrom read).symm
  · rintro rfl
    exact decodeFrom_encode order position cs

end UsingCensus.Text.Utf16
