import UsingCensus.Wildcard.Basic

namespace UsingCensus.Wildcard

variable {glyph : Glyph} {rest pattern first second : Wildcard} {c : Char} {cs : List Char}

theorem matches_nil_iff : Matches [] cs ↔ cs = [] := by
  constructor
  · intro met
    cases met
    rfl
  · rintro rfl
    exact .nil

theorem matches_any_iff : Matches (.any :: rest) cs ↔ ∃ run back, cs = run ++ back ∧ Matches rest back := by
  constructor
  · intro met
    induction cs with
    | nil =>
      cases met with
      | none inner => exact ⟨[], [], rfl, inner⟩
    | cons c cs ih =>
      cases met with
      | none inner => exact ⟨[], c :: cs, rfl, inner⟩
      | more inner =>
        obtain ⟨run, back, same, later⟩ := ih inner
        exact ⟨c :: run, back, by rw [same, List.cons_append], later⟩
      | single notAny _ _ => exact absurd rfl notAny
  · rintro ⟨run, back, rfl, met⟩
    induction run with
    | nil => exact .none met
    | cons c run ih => exact .more ih

theorem matches_any_nil_iff : Matches (.any :: rest) [] ↔ Matches rest [] := by
  constructor
  · intro met
    cases met with
    | none inner => exact inner
  · exact .none

theorem matches_any_cons_iff :
    Matches (.any :: rest) (c :: cs) ↔ Matches rest (c :: cs) ∨ Matches (.any :: rest) cs := by
  constructor
  · intro met
    cases met with
    | none inner => exact .inl inner
    | more inner => exact .inr inner
    | single notAny _ _ => exact absurd rfl notAny
  · rintro (inner | inner)
    · exact .none inner
    · exact .more inner

theorem matches_single_cons_iff (single : glyph ≠ .any) :
    Matches (glyph :: rest) (c :: cs) ↔ glyph.admits c = true ∧ Matches rest cs := by
  constructor
  · intro met
    cases met with
    | none _ => exact absurd rfl single
    | more _ => exact absurd rfl single
    | single _ admitted later => exact ⟨admitted, later⟩
  · rintro ⟨admitted, later⟩
    exact .single single admitted later

theorem matches_single_iff (single : glyph ≠ .any) :
    Matches (glyph :: rest) cs ↔ ∃ c back, cs = c :: back ∧ glyph.admits c = true ∧ Matches rest back := by
  constructor
  · intro met
    cases cs with
    | nil =>
      cases met
      exact absurd rfl single
    | cons c back =>
      obtain ⟨admitted, later⟩ := (matches_single_cons_iff single).mp met
      exact ⟨c, back, rfl, admitted, later⟩
  · rintro ⟨c, back, rfl, both⟩
    exact (matches_single_cons_iff single).mpr both

theorem matches_append_iff : Matches (first ++ second) cs ↔
    ∃ front back, cs = front ++ back ∧ Matches first front ∧ Matches second back := by
  induction first generalizing cs with
  | nil =>
    constructor
    · intro met
      exact ⟨[], cs, rfl, .nil, met⟩
    · rintro ⟨front, back, rfl, none, met⟩
      rw [matches_nil_iff.mp none]
      exact met
  | cons glyph first ih =>
    rw [List.cons_append]
    by_cases star : glyph = .any
    · subst star
      rw [matches_any_iff]
      constructor
      · rintro ⟨run, behind, rfl, met⟩
        obtain ⟨front, back, rfl, here, later⟩ := ih.mp met
        exact ⟨run ++ front, back, by rw [List.append_assoc], matches_any_iff.mpr ⟨run, front, rfl, here⟩, later⟩
      · rintro ⟨front, back, rfl, here, later⟩
        obtain ⟨run, kept, rfl, met⟩ := matches_any_iff.mp here
        exact ⟨run, kept ++ back, by rw [List.append_assoc], ih.mpr ⟨kept, back, rfl, met, later⟩⟩
    · rw [matches_single_iff star]
      constructor
      · rintro ⟨c, behind, rfl, admitted, met⟩
        obtain ⟨front, back, rfl, here, later⟩ := ih.mp met
        exact ⟨c :: front, back, rfl, .single star admitted here, later⟩
      · rintro ⟨front, back, rfl, here, later⟩
        obtain ⟨c, kept, rfl, admitted, met⟩ := (matches_single_iff star).mp here
        exact ⟨c, kept ++ back, rfl, admitted, ih.mpr ⟨kept, back, rfl, met, later⟩⟩

/-- The answers of a pattern for a text and for each of its endings. -/
inductive Answers (pattern : Wildcard) : List Char → List Bool → Prop where
  | nil {answer : Bool} (here : answer = true ↔ Matches pattern []) : Answers pattern [] [answer]
  | cons {answer : Bool} {c : Char} {cs : List Char} {below : List Bool}
      (here : answer = true ↔ Matches pattern (c :: cs)) (later : Answers pattern cs below) :
      Answers pattern (c :: cs) (answer :: below)

theorem Answers.head {answers : List Bool} (right : Answers pattern cs answers) :
    answers.headD false = true ↔ Matches pattern cs := by
  cases right with
  | nil here => exact here
  | cons here _ => exact here

theorem answers_emptyRow (cs : List Char) : Answers [] cs (emptyRow cs) := by
  induction cs with
  | nil => exact .nil (by simp [matches_nil_iff])
  | cons c cs ih => exact .cons (by simp [matches_nil_iff]) ih

/-- A row turns the answers of a pattern into those of the pattern with one more glyph in front. -/
theorem Answers.row {after : List Bool} (right : Answers rest cs after) :
    Answers (glyph :: rest) cs (row glyph cs after) := by
  induction right with
  | @nil answer here =>
    apply Answers.nil
    rw [List.headD_cons]
    by_cases star : glyph = .any
    · subst star
      rw [matches_any_nil_iff, ← here]
      simp
    · have unmet : ¬ Matches (glyph :: rest) [] := by
        rintro (_ | _)
        exact star rfl
      simp [star, unmet]
  | @cons answer c cs below here later ih =>
    apply Answers.cons _ ih
    rw [List.headD_cons, List.tail_cons]
    by_cases star : glyph = .any
    · subst star
      rw [matches_any_cons_iff, ← here, ← ih.head, if_pos rfl, Bool.or_eq_true]
    · rw [matches_single_cons_iff star, ← later.head, if_neg star, Bool.and_eq_true]

/-- One pass over the pattern tells whether it matches. -/
theorem accepts_iff_matches : accepts pattern cs = true ↔ Matches pattern cs := by
  have right : Answers pattern cs (pattern.foldr (fun glyph after => row glyph cs after) (emptyRow cs)) := by
    induction pattern with
    | nil => exact answers_emptyRow cs
    | cons glyph rest ih => exact ih.row
  exact right.head

end UsingCensus.Wildcard
