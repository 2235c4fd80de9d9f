import Mathlib.Data.List.Infix
import UsingCensus.Proofs.ProperPaths
import UsingCensus.Project.Items

namespace UsingCensus

namespace Text

theorem exists_blanks_trim (cs : List Char) : ∃ before after : List Char, cs = before ++ trim cs ++ after ∧
    (∀ c ∈ before, isBlank c = true) ∧ ∀ c ∈ after, isBlank c = true := by
  have blank {ds : List Char} {c : Char} (member : c ∈ ds.takeWhile isBlank) : isBlank c = true :=
    List.all_eq_true.mp List.all_takeWhile c member
  let rest := cs.dropWhile isBlank
  refine ⟨cs.takeWhile isBlank, (rest.reverse.takeWhile isBlank).reverse, ?_, fun c => blank,
    fun c member => blank (List.mem_reverse.mp member)⟩
  have back : trim cs ++ (rest.reverse.takeWhile isBlank).reverse = rest := by
    unfold trim trimBy
    rw [← List.reverse_append, List.takeWhile_append_dropWhile, List.reverse_reverse]
  rw [List.append_assoc, back, List.takeWhile_append_dropWhile]

end Text

namespace ItemList

/-- The marks that a reference starts with, before its parenthesis. -/
def marks : List Char := ['$', '@', '%']

/-- A piece of a list that refers to a property, an item list or metadata. -/
def Refers (piece : List Char) : Prop := ∃ mark ∈ marks, [mark, '('] <:+: piece

instance : DecidablePred Refers := fun piece => List.decidableBEx (fun mark => [mark, '('] <:+: piece) marks

/-- The pieces of a list between its semicolons, as they stand. -/
def pieces (items : String) : List (List Char) := Text.splitAt ';' items.toList

/-- Either kind of slash separates. -/
def slash (c : Char) : Char := if c = '\\' then '/' else c

/-- The part in a piece: without blanks around it, and with slashes for backslashes. -/
def partOf (piece : List Char) : List Char := (Text.trim piece).map slash

variable {piece first second : List Char} {c mark : Char}

theorem refers_nil : ¬ Refers [] := by
  rintro ⟨mark, _, inside⟩
  cases List.infix_nil.mp inside

theorem refers_cons_iff : Refers (c :: piece) ↔ c ∈ marks ∧ piece.head? = some '(' ∨ Refers piece := by
  constructor
  · rintro ⟨mark, known, inside⟩
    rcases List.infix_cons_iff.mp inside with front | behind
    · obtain ⟨rfl, rest⟩ := List.cons_prefix_cons.mp front
      obtain ⟨more, rfl⟩ := rest
      exact .inl ⟨known, rfl⟩
    · exact .inr ⟨mark, known, behind⟩
  · rintro (⟨known, opens⟩ | ⟨mark, known, inside⟩)
    · obtain ⟨more, rfl⟩ := List.head?_eq_some_iff.mp opens
      exact ⟨c, known, (List.prefix_append [c, '('] more).isInfix⟩
    · exact ⟨mark, known, List.infix_cons inside⟩

theorem isUnevaluated_iff (piece : List Char) : isUnevaluated piece = true ↔ Refers piece := by
  fun_induction isUnevaluated piece with
  | case1 mark rest ih =>
    rw [refers_cons_iff, ← ih]
    simp [marks, or_assoc]
  | case2 mark rest other ih =>
    rw [refers_cons_iff, ← ih]
    refine (or_iff_right ?_).symm
    rintro ⟨_, opens⟩
    obtain ⟨more, rfl⟩ := List.head?_eq_some_iff.mp opens
    exact other more rfl
  | case3 => simp [refers_nil]

/-- A reference does not reach over the start of a text that no parenthesis begins. -/
theorem refers_append_iff (closed : second.head? ≠ some '(') :
    Refers (first ++ second) ↔ Refers first ∨ Refers second := by
  induction first with
  | nil => simp [refers_nil]
  | cons c rest ih =>
    rw [List.cons_append, refers_cons_iff, refers_cons_iff, ih, or_assoc]
    refine or_congr_left (and_congr_right fun _ => ?_)
    cases rest with
    | nil => simpa using closed
    | cons d more => rfl

theorem not_refers_of_blank (blank : ∀ c ∈ piece, Text.isBlank c = true) : ¬ Refers piece := by
  rintro ⟨mark, known, inside⟩
  have opens := blank '(' (inside.subset (by simp))
  exact absurd opens (by decide)

theorem head?_ne_of_blank (blank : ∀ c ∈ piece, Text.isBlank c = true) : piece.head? ≠ some '(' := fun opens =>
  absurd (blank '(' (List.mem_of_mem_head? opens)) (by decide)

theorem refers_trim_iff (piece : List Char) : Refers (Text.trim piece) ↔ Refers piece := by
  obtain ⟨before, after, whole, blank, also⟩ := Text.exists_blanks_trim piece
  constructor
  · rintro ⟨mark, known, inside⟩
    refine ⟨mark, known, inside.trans ?_⟩
    exact ⟨before, after, whole.symm⟩
  · intro refers
    rw [whole, refers_append_iff (head?_ne_of_blank also)] at refers
    rcases refers with front | behind
    · -- blanks in front hold no mark, so the reference lies behind them
      clear whole
      induction before with
      | nil => exact front
      | cons c rest ih =>
        rcases refers_cons_iff.mp front with ⟨known, _⟩ | later
        · have white := blank c List.mem_cons_self
          have bare : marks.all (fun mark => !Text.isBlank mark) = true := by decide
          have visible := List.all_eq_true.mp bare c known
          rw [white] at visible
          cases visible
        · exact ih (fun d member => blank d (List.mem_cons_of_mem _ member)) later
    · exact absurd behind (not_refers_of_blank also)

theorem slash_eq_iff {d : Char} (noSlash : d ≠ '/') (noBackslash : d ≠ '\\') : slash c = d ↔ c = d := by
  unfold slash
  split
  · rename_i same
    subst same
    exact ⟨fun other => absurd other.symm noSlash, fun other => absurd other.symm noBackslash⟩
  · rfl

theorem refers_map_slash_iff (piece : List Char) : Refers (piece.map slash) ↔ Refers piece := by
  induction piece with
  | nil => rfl
  | cons c rest ih =>
    have marked : slash c ∈ marks ↔ c ∈ marks := by
      simp [marks, slash_eq_iff]
    have opens : (rest.map slash).head? = some '(' ↔ rest.head? = some '(' := by
      cases rest with
      | nil => rfl
      | cons d more => simp [slash_eq_iff]
    rw [List.map_cons, refers_cons_iff, refers_cons_iff, marked, opens, ih]

/-- Neither blanks around a piece nor backslashes in it make or break a reference. -/
theorem isUnevaluated_partOf_iff (piece : List Char) : isUnevaluated (partOf piece) = true ↔ Refers piece := by
  rw [isUnevaluated_iff, partOf, refers_map_slash_iff, refers_trim_iff]

theorem partOf_ne_nil_of_refers (refers : Refers piece) : partOf piece ≠ [] := by
  intro empty
  have unevaluated := (isUnevaluated_partOf_iff piece).mpr refers
  rw [empty] at unevaluated
  cases unevaluated

/-! ### Piece by piece -/

/-- The report about a piece that is not evaluated. -/
def skippedPiece (project : Path) (piece : List Char) : String := skipped project (String.ofList (partOf piece))

theorem flatMap_parts {β : Type} (items : String) (f : String → List β) :
    (parts items).flatMap f =
      (pieces items).flatMap fun piece => if partOf piece = [] then [] else f (String.ofList (partOf piece)) := by
  have parted : parts items = (((pieces items).map partOf).filter (· ≠ [])).map String.ofList := rfl
  rw [parted]
  induction pieces items with
  | nil => rfl
  | cons piece rest ih =>
    by_cases empty : partOf piece = []
    · simpa [empty] using ih
    · simpa [empty] using ih

theorem reports_eq (project : Path) (items : String) :
    reports project items = ((pieces items).filter fun piece => Refers piece).map (skippedPiece project) := by
  have told : reports project items = (parts items).flatMap fun part =>
      if isUnevaluated part.toList then [skipped project part] else [] := by
    unfold reports
    induction parts items with
    | nil => rfl
    | cons part rest ih => cases h : isUnevaluated part.toList <;> simp [h, ih]
  rw [told, flatMap_parts]
  induction pieces items with
  | nil => rfl
  | cons piece rest ih =>
    rw [List.flatMap_cons, ih, List.filter_cons]
    by_cases refers : Refers piece
    · have unevaluated := (isUnevaluated_partOf_iff piece).mpr refers
      simp [partOf_ne_nil_of_refers refers, refers, unevaluated, skippedPiece]
    · have evaluated : isUnevaluated (partOf piece) = false :=
        Bool.eq_false_iff.mpr (mt (isUnevaluated_partOf_iff piece).mp refers)
      simp [refers, evaluated]

end ItemList

namespace Surroundings

open ItemList

variable {around : Surroundings} {directory : Path} {piece : List Char}

def piecePaths (around : Surroundings) (directory : Path) (piece : List Char) : List Path :=
  if partOf piece = [] then [] else around.partPaths directory (String.ofList (partOf piece))

theorem itemPaths_eq (around : Surroundings) (directory : Path) (items : String) :
    around.itemPaths directory items = (pieces items).flatMap (around.piecePaths directory) :=
  flatMap_parts items _

theorem piecePaths_of_refers (refers : Refers piece) : around.piecePaths directory piece = [] := by
  have unevaluated := (isUnevaluated_partOf_iff piece).mpr refers
  simp [piecePaths, partPaths, unevaluated]

end Surroundings
end UsingCensus
