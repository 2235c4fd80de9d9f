import Mathlib.Data.List.TakeWhile
import UsingCensus.Report
import UsingCensus.Proofs.ProperPaths
import UsingCensus.Proofs.TableLines

/-!
Reading a report back. Main statement: the results of a report determine its rows, and whether warnings were
shown, if each row has a positive count of no more digits than are written and a name without line breaks.
-/
namespace UsingCensus

namespace Row

/-- A row that is written on one line of its own. -/
structure Legible (row : Row) : Prop where
  positive : 0 < row.count
  short : (toString row.count.natAbs).toList.length ≤ Text.digitLimit
  unbroken : '\n' ∉ row.name.toList

/-- Read a line as a row. The name follows the blank after the column of counts, or after a count that is
wider than the column. -/
def read (line : List Char) : Row :=
  let digits := line.takeWhile Char.isDigit
  ⟨String.ofList (line.drop (max countWidth digits.length + 1)), Nat.ofDigitChars 10 digits 0⟩

variable {row : Row}

theorem toList_format (row : Row) :
    row.format.toList = (toString row.count).toList ++
      (List.replicate (countWidth - (toString row.count).toList.length) ' ' ++ ' ' :: row.name.toList) := by
  unfold format
  rw [String.toList_ofList, List.append_assoc]

theorem toList_format_ne_nil (row : Row) : row.format.toList ≠ [] := by
  simp [toList_format]

theorem newline_not_in_format (unbroken : '\n' ∉ row.name.toList) : '\n' ∉ row.format.toList := by
  rw [← List.count_eq_zero, count_format, List.count_eq_zero]
  exact unbroken

/-- The digits of a count end at the first blank, even if the name begins with digits. -/
theorem takeWhile_isDigit_append {digits : List Char} (written : ∀ c ∈ digits, c.isDigit = true)
    (blanks : Nat) (name : List Char) :
    (digits ++ (List.replicate blanks ' ' ++ ' ' :: name)).takeWhile Char.isDigit = digits := by
  have ended : (List.replicate blanks ' ' ++ ' ' :: name).takeWhile Char.isDigit = [] := by
    cases blanks <;> rfl
  rw [List.takeWhile_append_of_pos written, ended, List.append_nil]

/-- The name begins after one blank more than the padding, even if it begins with blanks. -/
theorem drop_append_blanks (digits name : List Char) (width : Nat) :
    (digits ++ (List.replicate (width - digits.length) ' ' ++ ' ' :: name)).drop
      (max width digits.length + 1) = name := by
  have column : (digits ++ List.replicate (width - digits.length) ' ' ++ [' ']).length =
      max width digits.length + 1 := by
    simp only [List.length_append, List.length_replicate, List.length_singleton]
    omega
  rw [List.append_cons, ← List.append_assoc, ← List.append_assoc, ← column, List.drop_left]

theorem read_format (positive : 0 < row.count) : read row.format.toList = row := by
  obtain ⟨name, count⟩ := row
  obtain ⟨n, rfl⟩ := Int.eq_ofNat_of_zero_le (Int.le_of_lt positive)
  have written : ∀ c ∈ (toString n).toList, c.isDigit = true := fun _ => Text.isDigit_of_mem_toString
  have digits : (toString (n : Int)).toList = (toString n).toList := rfl
  unfold read
  rw [toList_format, digits, takeWhile_isDigit_append written]
  dsimp only
  rw [drop_append_blanks, Text.ofDigitChars_toString, String.ofList_toList]

end Row

namespace Report

/-- Read results as rows, and whether a blank line before them tells that warnings were shown. -/
def read (out : String) : List Row × Bool :=
  match (Text.splitAt '\n' out.toList).dropLast with
  | [] :: rest => (rest.map Row.read, true)
  | lines => (lines.map Row.read, false)

theorem splitAt_lines {texts : List String} (unbroken : ∀ text ∈ texts, '\n' ∉ text.toList) :
    Text.splitAt '\n' (lines texts).toList = texts.map String.toList ++ [[]] := by
  induction texts with
  | nil => rfl
  | cons text rest ih =>
    obtain ⟨first, unbroken⟩ := List.forall_mem_cons.mp unbroken
    have split : (lines (text :: rest)).toList = text.toList ++ '\n' :: (lines rest).toList := by
      unfold lines
      rw [List.map_cons, String.join_cons, String.toList_append, String.toList_append, List.append_assoc]
      rfl
    rw [split, Text.splitAt_append first, ih unbroken, List.map_cons, List.cons_append]

theorem splitAt_table {rows : List Row} (legible : ∀ row ∈ rows, row.Legible) :
    Text.splitAt '\n' (table rows).toList = rows.map (·.format.toList) ++ [[]] := by
  have unbroken : ∀ text ∈ rows.map Row.format, '\n' ∉ text.toList := by
    intro text member
    obtain ⟨row, listed, rfl⟩ := List.mem_map.mp member
    exact Row.newline_not_in_format (legible row listed).unbroken
  unfold table
  rw [splitAt_lines unbroken, List.map_map]
  rfl

theorem map_read_format {rows : List Row} (legible : ∀ row ∈ rows, row.Legible) :
    (rows.map (·.format.toList)).map Row.read = rows := by
  induction rows with
  | nil => rfl
  | cons row rest ih =>
    obtain ⟨first, legible⟩ := List.forall_mem_cons.mp legible
    rw [List.map_cons, List.map_cons, Row.read_format first.positive, ih legible]

theorem read_table {rows : List Row} (legible : ∀ row ∈ rows, row.Legible) :
    read (table rows) = (rows, false) := by
  unfold read
  rw [splitAt_table legible, List.dropLast_concat]
  cases rows with
  | nil => rfl
  | cons row rest =>
    have inked := row.toList_format_ne_nil
    have rows := map_read_format legible
    rw [List.map_cons] at rows ⊢
    split
    · rename_i blank
      exact absurd (List.cons.inj blank).1 inked
    · rw [rows]

theorem read_newline_table {rows : List Row} (legible : ∀ row ∈ rows, row.Legible) :
    read ("\n" ++ table rows) = (rows, true) := by
  have split : Text.splitAt '\n' ("\n" ++ table rows).toList =
      [] :: (rows.map (·.format.toList) ++ [[]]) := by
    rw [String.toList_append, ← splitAt_table legible]
    rfl
  unfold read
  rw [split, ← List.cons_append, List.dropLast_concat]
  dsimp only
  rw [map_read_format legible]

theorem read_make {rows : List Row} (legible : ∀ row ∈ rows, row.Legible) (warnings : List String)
    (showWarnings : Bool) :
    read (make rows warnings showWarnings).out = (rows, showWarnings && !warnings.isEmpty) := by
  unfold make
  cases showWarnings with
  | false => simpa using read_table legible
  | true =>
    cases warnings with
    | nil => simpa using read_table legible
    | cons warning rest => simpa using read_newline_table legible

theorem write_eq_make {rows : List Row} (legible : ∀ row ∈ rows, row.Legible) (warnings : List String)
    (showWarnings : Bool) :
    write rows warnings showWarnings = (make rows warnings showWarnings, none) := by
  have writable : ∀ row ∈ rows, row.isWritable = true := by
    intro row member
    exact decide_eq_true (legible row member).short
  unfold write
  rw [List.takeWhile_eq_self_iff.mpr writable, if_pos (List.all_eq_true.mpr writable)]

/-- Legible rows are written, and the results are read back as the rows and whether warnings were shown, so no
others are written alike. Hidden warnings are not written, and the report is as if there were none. -/
theorem read_write (rows : List Row) (warnings : List String) (showWarnings : Bool) :
    ((∀ row ∈ rows, row.Legible) →
      (write rows warnings showWarnings).2 = none ∧
      read (write rows warnings showWarnings).1.out = (rows, showWarnings && !warnings.isEmpty) ∧
      ∀ otherRows otherWarnings otherShow, (∀ row ∈ otherRows, row.Legible) →
        (write otherRows otherWarnings otherShow).1.out = (write rows warnings showWarnings).1.out →
        otherRows = rows ∧
          (otherShow && !otherWarnings.isEmpty) = (showWarnings && !warnings.isEmpty)) ∧
    (showWarnings = false →
      (write rows warnings showWarnings).1.err = "" ∧
      ∀ otherShow, write rows [] otherShow = write rows warnings showWarnings) := by
  refine ⟨fun legible => ?_, ?_⟩
  · have decoded := read_make legible warnings showWarnings
    rw [write_eq_make legible]
    refine ⟨rfl, decoded, fun otherRows otherWarnings otherShow otherLegible alike => ?_⟩
    rw [write_eq_make otherLegible] at alike
    have same := read_make otherLegible otherWarnings otherShow
    rw [alike, decoded] at same
    exact Prod.mk.inj same.symm
  · rintro rfl
    refine ⟨rfl, fun otherShow => ?_⟩
    cases otherShow <;> rfl

theorem read_write_sample :
    let rows : List Row := [⟨"1 a", 1234567⟩, ⟨"  b", 12⟩]
    (∀ row ∈ rows, row.Legible) ∧
      (write rows ["w"] true).1.out = "\n1234567 1 a\n12       b\n" ∧
      read (write rows ["w"] true).1.out = (rows, true) ∧
      (write rows ["w"] false).1.err = "" := by
  intro rows
  have legible : ∀ row ∈ rows, row.Legible :=
    List.forall_mem_cons.mpr ⟨⟨by decide, by decide, by decide⟩,
      List.forall_mem_singleton.mpr ⟨by decide, by decide, by decide⟩⟩
  obtain ⟨_, decoded, _⟩ := (read_write rows ["w"] true).1 legible
  obtain ⟨hidden, _⟩ := (read_write rows ["w"] false).2 rfl
  exact ⟨legible, rfl, decoded, hidden⟩

/-- A row that cannot be written leaves the results as they are without it: no way to read them finds counts
of any size. -/
theorem unreadable_of_long_counts :
    ¬ ∃ read : String → List Row × Bool, ∀ rows warnings showWarnings,
      (∀ row ∈ rows, 0 < row.count ∧ '\n' ∉ row.name.toList) →
      read (write rows warnings showWarnings).1.out = (rows, showWarnings && !warnings.isEmpty) := by
  rintro ⟨read, reads⟩
  obtain ⟨n, positive, many⟩ : ∃ n : Nat, 0 < n ∧ Text.digitLimit < (toString n).toList.length :=
    ⟨_, Text.lt_length_toString_pow Text.digitLimit (by decide)⟩
  have unwritable : Row.isWritable ⟨"A", n⟩ = false := decide_eq_false (Nat.not_le.mpr many)
  have alike : (write [⟨"A", n⟩] [] false).1.out = (write [] [] false).1.out := by
    unfold write
    rw [List.takeWhile_cons_of_neg (by simp [unwritable])]
    rfl
  have unbroken : '\n' ∉ "A".toList := by decide
  have found := reads [⟨"A", n⟩] [] false
    (List.forall_mem_singleton.mpr ⟨Int.natCast_pos.mpr positive, unbroken⟩)
  rw [alike, reads [] [] false (List.forall_mem_nil _)] at found
  cases found

end Report
end UsingCensus
