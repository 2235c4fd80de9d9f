import UsingCensus.Text.Integer

namespace UsingCensus.Text

variable {c : Char} {cs : List Char}

theorem bounds_of_isDigit (digit : c.isDigit = true) : 48 ≤ c.toNat ∧ c.toNat ≤ 57 := by
  simp only [Char.isDigit, Bool.and_eq_true, decide_eq_true_eq, ge_iff_le, UInt32.le_iff_toNat_le] at digit
  exact digit

theorem digitValue?_of_isDigit (digit : c.isDigit = true) : digitValue? c = some (c.toNat - '0'.toNat) := by
  obtain ⟨least, most⟩ := bounds_of_isDigit digit
  unfold digitValue? digitZeros
  rw [List.find?_cons_of_pos]
  · rfl
  · simp only [Bool.and_eq_true, decide_eq_true_eq]
    omega

theorem isBlank_of_isDigit (digit : c.isDigit = true) : isBlank c = false := by
  obtain ⟨least, most⟩ := bounds_of_isDigit digit
  simp [isBlank]
  omega

theorem ne_of_isDigit {d : Char} (digit : c.isDigit = true) (other : d.isDigit = false) : c ≠ d := by
  rintro rfl
  rw [digit] at other
  cases other

theorem digitRun?_of_digits (written : cs ≠ []) (digits : ∀ c ∈ cs, c.isDigit = true) :
    digitRun? cs = some (cs.map fun c => c.toNat - '0'.toNat) := by
  induction cs with
  | nil => exact absurd rfl written
  | cons c rest ih =>
    obtain ⟨digit, digits⟩ := List.forall_mem_cons.mp digits
    cases rest with
    | nil => simp [digitRun?, digitValue?_of_isDigit digit]
    | cons next rest =>
      have plain : next ≠ '_' := ne_of_isDigit (digits next (by simp)) rfl
      rw [digitRun?, ih (by simp) digits, digitValue?_of_isDigit digit]
      · rfl
      · simp
      · intro rest same
        exact plain (List.cons.inj same).1

theorem trim_of_digits (digits : ∀ c ∈ cs, c.isDigit = true) : trim cs = cs :=
  trim_eq_self (fun c first => isBlank_of_isDigit (digits c (List.mem_of_mem_head? first)))
    fun c last => isBlank_of_isDigit (digits c (List.mem_of_getLast? last))

theorem splitSign_of_digits (digits : ∀ c ∈ cs, c.isDigit = true) : splitSign cs = (false, cs) := by
  unfold splitSign
  split
  · exact absurd rfl (ne_of_isDigit (digits '-' (by simp)) rfl)
  · exact absurd rfl (ne_of_isDigit (digits '+' (by simp)) rfl)
  · rfl

theorem foldl_digits (cs : List Char) (total : Nat) :
    (cs.map fun c => c.toNat - '0'.toNat).foldl (fun total digit => total * 10 + digit) total =
      Nat.ofDigitChars 10 cs total := by
  rw [Nat.ofDigitChars_eq_foldl, List.foldl_map]
  simp only [Nat.mul_comm]

theorem isDigit_of_mem_toString {n : Nat} (member : c ∈ (toString n).toList) : c.isDigit = true := by
  rw [Nat.toString_eq_repr, Nat.toList_repr] at member
  exact Nat.isDigit_of_mem_toDigits (by decide) (by decide) member

theorem toList_toString_ne_nil (n : Nat) : (toString n).toList ≠ [] := by
  rw [Nat.toString_eq_repr, Nat.toList_repr]
  exact Nat.toDigits_ne_nil

theorem ofDigitChars_toString (n : Nat) : Nat.ofDigitChars 10 (toString n).toList 0 = n := by
  rw [Nat.toString_eq_repr, Nat.toList_repr]
  exact Nat.ofDigitChars_toDigits (by decide) (by decide)

theorem integer?_toString (n : Nat) :
    integer? (toString n) = if (toString n).toList.length ≤ digitLimit then some (n : Int) else none := by
  have digits : ∀ c ∈ (toString n).toList, c.isDigit = true := fun _ => isDigit_of_mem_toString
  unfold integer?
  rw [trim_of_digits digits, splitSign_of_digits digits]
  dsimp only
  rw [digitRun?_of_digits (toList_toString_ne_nil n) digits]
  simp only [Option.bind_eq_bind, Option.bind_some, List.length_map, foldl_digits, ofDigitChars_toString]
  by_cases within : (toString n).toList.length ≤ digitLimit
  · rw [if_pos within, if_neg (Nat.not_lt.mpr within)]
    rfl
  · rw [if_neg within, if_pos (Nat.not_le.mp within)]

/-- The least number that has more than so many digits. -/
theorem lt_length_toString_pow (size : Nat) (some : 0 < size) :
    0 < Nat.pow 10 size ∧ size < (toString (Nat.pow 10 size)).toList.length := by
  refine ⟨Nat.pow_pos (by decide), Nat.not_le.mp fun few => ?_⟩
  rw [Nat.toString_eq_repr, Nat.toList_repr] at few
  exact absurd ((Nat.length_toDigits_le_iff (by decide) some).mp few) (Nat.lt_irrefl _)

end UsingCensus.Text
