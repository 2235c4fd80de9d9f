import UsingCensus.Proofs.Schedules
import UsingCensus.Proofs.WideTexts

/-!
Source files in the encodings that texts are saved in. Main statement: a text is read alike from all of them,
and a file whose mark promises UTF-16 that it does not hold adds a warning and no names.
-/
namespace UsingCensus

namespace SourceText

open Text

/-- A text may be saved in UTF-8 or UTF-16 behind the mark of the encoding. Without a mark it is saved in UTF-8,
unless it starts with the character that is taken for one. -/
inductive Saves (text : String) : List UInt8 → Prop where
  | marked : Saves text (Utf8.mark ++ text.toUTF8.data.toList)
  | wide (order : Utf16.ByteOrder) : Saves text (order.mark ++ Utf16.encode order text.toList)
  | plain (unmarked : text.toList.head? ≠ some '\uFEFF') : Saves text text.toUTF8.data.toList

theorem normalise_marked (bytes : List UInt8) : normalise (Utf8.mark ++ bytes) = .ok bytes := by
  have marked : Utf8.mark.isPrefixOf (Utf8.mark ++ bytes) = true :=
    List.isPrefixOf_iff_prefix.mpr (List.prefix_append _ _)
  unfold normalise
  rw [if_pos marked, List.drop_left]

theorem normalise_wide (order : Utf16.ByteOrder) (bytes : List UInt8) :
    normalise (order.mark ++ bytes) = convert order bytes := by
  cases order <;> rfl

theorem normalise_plain {text : String} (unmarked : text.toList.head? ≠ some '\uFEFF') :
    normalise (Utf8.ofString text) = .ok (Utf8.ofString text) := by
  have other : ¬ Utf8.mark.isPrefixOf (Utf8.ofString text) = true :=
    fun marked => unmarked (Utf8.head?_of_mark_prefix marked)
  unfold normalise
  rw [if_neg other]
  -- no character starts as the marks of UTF-16 do
  split
  · rename_i rest same
    exact absurd same (Utf8.encode_ne_of_invalidStart (by decide) _ _)
  · rename_i rest same
    exact absurd same (Utf8.encode_ne_of_invalidStart (by decide) _ _)
  · rfl

theorem convert_encode (order : Utf16.ByteOrder) (text : String) :
    convert order (Utf16.encode order text.toList) = .ok (Utf8.ofString text) := by
  rw [convert, Utf16.decodeFrom_encode]
  rfl

theorem convert_cases (order : Utf16.ByteOrder) (bytes : List UInt8) :
    (∃ text : String, bytes = Utf16.encode order text.toList) ∨
      (∀ text : String, bytes ≠ Utf16.encode order text.toList) ∧ ∃ fault, convert order bytes = .error fault := by
  cases read : Utf16.decodeFrom order order.mark.length bytes with
  | ok cs =>
    refine .inl ⟨String.ofList cs, ?_⟩
    rw [String.toList_ofList]
    exact Utf16.decodeFrom_eq_ok_iff.mp read
  | error fault =>
    refine .inr ⟨?_, fault, by rw [convert, read]; rfl⟩
    rintro text rfl
    rw [Utf16.decodeFrom_encode] at read
    cases read

theorem Saves.normalise_eq {text : String} {bytes : List UInt8} (saves : Saves text bytes) :
    normalise bytes = .ok text.toUTF8.data.toList := by
  cases saves with
  | marked => exact normalise_marked _
  | wide order => rw [normalise_wide, convert_encode, Utf8.ofString_eq]
  | plain unmarked => rw [← Utf8.ofString_eq, normalise_plain unmarked]

end SourceText

namespace Surroundings

variable {around other : Surroundings} {document : Path} {bytes : List UInt8}

theorem readSource_of_normalise {source : List UInt8} (holds : around.read document.toString = .ok bytes)
    (normal : SourceText.normalise bytes = .ok source) : around.readSource document = .ok source := by
  rw [readSource, holds]
  dsimp only
  rw [normal]

theorem readSource_of_fault {fault : Text.DecodeFault} (holds : around.read document.toString = .ok bytes)
    (faulty : SourceText.normalise bytes = .error fault) : around.readSource document = .error (.decode fault) := by
  rw [readSource, holds]
  dsimp only
  rw [faulty]

/-- A document adds a warning and no names, be it read by itself or by workers among others. -/
structure PassesOver (around : Surroundings) (document : Path) (warning : String) : Prop where
  alone : ∀ harvest : Harvest, harvest.add document (around.importsOf document) =
    ⟨harvest.tally, harvest.failures ++ [warning]⟩
  among : ∀ (first rest : List Path) (workers : Nat) (harvest : Harvest) (trace : List PoolEvent) (pool : Pool),
    Pool.Undisturbed trace → Pool.run around (first ++ document :: rest) workers harvest trace = some pool →
    pool.control = .returned →
    pool.harvest.tally = (around.reap harvest (first ++ rest)).tally ∧
      pool.harvest.failures = (around.reap harvest first).failures ++ warning :: rest.filterMap around.failureOf?

theorem passesOver_of_fault {fault : SourceFault} (faulty : around.readSource document = .error fault) :
    around.PassesOver document (Harvest.failure document fault) := by
  have nameless : around.importedBy document = [] := by rw [importedBy, faulty]
  have failing : around.failureOf? document = some (Harvest.failure document fault) := by rw [failureOf?, faulty]
  constructor
  · intro harvest
    rw [add_importsOf, nameless, failing]
    rfl
  · intro first rest workers harvest trace pool undisturbed ran returned
    rw [((Pool.ledger_run undisturbed ran).1.returned returned).2]
    simp only [reap_eq]
    constructor
    · rw [List.flatMap_append, List.flatMap_append, List.flatMap_cons, nameless, List.nil_append]
    · rw [List.filterMap_append, List.filterMap_cons_some failing, List.append_assoc]

/-- A file that holds a saved text is read as the UTF-8 of that text, so the encoding has no part in what the
document counts. A file with a mark of UTF-16 is read so, or holds no text and is passed over with a warning. -/
theorem readSource_saved (around : Surroundings) (document : Path) (bytes : List UInt8)
    (holds : around.read document.toString = .ok bytes) :
    (∀ text, SourceText.Saves text bytes →
      around.readSource document = .ok text.toUTF8.data.toList ∧
      around.importedBy document = CSharp.importsOfBytes text.toUTF8.data.toList ∧
      ∀ (other : Surroundings) (saved : List UInt8), other.read document.toString = .ok saved →
        SourceText.Saves text saved → other.importsOf document = around.importsOf document) ∧
    ∀ (order : Text.Utf16.ByteOrder) (rest : List UInt8), bytes = order.mark ++ rest →
      (∃ text : String, rest = Text.Utf16.encode order text.toList ∧
        around.readSource document = .ok text.toUTF8.data.toList) ∨
      ∃ fault, (∀ text : String, rest ≠ Text.Utf16.encode order text.toList) ∧
        around.readSource document = .error (.decode fault) ∧
        around.PassesOver document (Harvest.failure document (.decode fault)) := by
  constructor
  · intro text saves
    have read := readSource_of_normalise holds saves.normalise_eq
    refine ⟨read, by rw [importedBy, read], ?_⟩
    intro other saved found again
    rw [importsOf, importsOf, read, readSource_of_normalise found again.normalise_eq]
  · rintro order rest rfl
    rcases SourceText.convert_cases order rest with ⟨text, rfl⟩ | ⟨none, fault, faulty⟩
    · exact .inl ⟨text, rfl, readSource_of_normalise holds (SourceText.Saves.wide order).normalise_eq⟩
    · rw [← SourceText.normalise_wide] at faulty
      have refused := readSource_of_fault holds faulty
      exact .inr ⟨fault, none, refused, passesOver_of_fault refused⟩

/-- A document saved in UTF-16, with a character of two units, and one that ends within such a character. -/
def savedSample : Surroundings where
  tree := [
    (["a.cs"], Text.Utf16.ByteOrder.little.mark ++ Text.Utf16.encode .little "using 𝒜;".toList),
    (["b.cs"], Text.Utf16.ByteOrder.big.mark ++ [0xD8, 0x35])].foldl
      (fun tree (location, bytes) => tree.plant location (.file bytes)) FileTree.empty
  directory := []
  home := "/"

/-- The first is read as its text, and the second is passed over. -/
theorem readSource_saved_sample :
    ∃ first second : List UInt8, savedSample.read "/a.cs" = .ok first ∧ savedSample.read "/b.cs" = .ok second ∧
      SourceText.Saves "using 𝒜;" first ∧
      savedSample.readSource ⟨.root, ["a.cs"]⟩ = .ok "using 𝒜;".toUTF8.data.toList ∧
      second = Text.Utf16.ByteOrder.big.mark ++ [0xD8, 0x35] ∧
      ∃ fault, savedSample.PassesOver ⟨.root, ["b.cs"]⟩ (Harvest.failure ⟨.root, ["b.cs"]⟩ (.decode fault)) := by
  have holds : savedSample.read (Path.toString ⟨.root, ["a.cs"]⟩) =
      .ok (Text.Utf16.ByteOrder.little.mark ++ Text.Utf16.encode .little "using 𝒜;".toList) := by
    decide +kernel
  have breaks : savedSample.read (Path.toString ⟨.root, ["b.cs"]⟩) =
      .ok (Text.Utf16.ByteOrder.big.mark ++ [0xD8, 0x35]) := by
    decide +kernel
  have read := ((readSource_saved savedSample _ _ holds).1 _ (.wide .little)).1
  have refused := (readSource_saved savedSample _ _ breaks).2 _ _ rfl
  refine ⟨_, _, holds, breaks, .wide .little, read, rfl, ?_⟩
  rcases refused with ⟨text, same, _⟩ | ⟨fault, _, _, passed⟩
  · have none : (Text.Utf16.decodeFrom .big 0 [0xD8, 0x35]).toOption = none := by decide +kernel
    rw [same, Text.Utf16.decodeFrom_encode] at none
    cases none
  · exact ⟨fault, passed⟩

end Surroundings
end UsingCensus
