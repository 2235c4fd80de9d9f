import UsingCensus.Selection
import UsingCensus.Proofs.PatternTexts

/-!
Excluded documents. Main statement: a pattern with a slash at its end and the pattern for everything below it cover the
same texts just if the pattern is plain. The first is compared letter by letter, so its wildcards are lost.
-/
namespace UsingCensus

open Wildcard

theorem Text.startsIn_iff {text start : String} : startsIn text start = true ↔ start.toList <+: text.toList :=
  List.isPrefixOf_iff_prefix

theorem Text.endsIn_iff {text ending : String} : endsIn text ending = true ↔ ending.toList <:+ text.toList :=
  List.isSuffixOf_iff_suffix

/-- The path lies lexically below the directory, or is the directory, and goes on from there with the text. -/
def Path.GoesOn (path directory : Path) (text : String) : Prop :=
  ∃ place, path = ⟨directory.anchor, directory.parts ++ place⟩ ∧ text = (⟨.here, place⟩ : Path).toString

theorem Path.goesOn_iff {path directory : Path} {text : String} :
    path.GoesOn directory text ↔ ∃ relative, path.relativeTo? directory = some relative ∧ text = relative.toString := by
  unfold relativeTo?
  constructor
  · rintro ⟨place, rfl, rfl⟩
    rw [if_pos ⟨rfl, List.prefix_append _ _⟩, List.drop_left]
    exact ⟨_, rfl, rfl⟩
  · rintro ⟨relative, found, rfl⟩
    split at found
    · rename_i below
      obtain ⟨anchor, place, parts⟩ := below
      cases found
      refine ⟨place, ?_, ?_⟩
      · rw [← anchor, parts]
      · rw [← parts, List.drop_left]
    · cases found

namespace Selection

variable {selection : Selection} {document root : Path} {pattern text : String}

theorem isExcluded_iff : selection.isExcluded document = true ↔
    ∃ root text, selection.excludeRoot = some root ∧ document.GoesOn root text ∧
      ∃ pattern ∈ selection.excludePaths, covers pattern text = true := by
  unfold isExcluded
  constructor
  · intro excluded
    split at excluded
    · cases excluded
    · rename_i relative found
      obtain ⟨root, given, below⟩ := Option.bind_eq_some_iff.mp found
      exact ⟨root, _, given, Path.goesOn_iff.mpr ⟨relative, below, rfl⟩, List.any_eq_true.mp excluded⟩
  · rintro ⟨root, text, given, below, struck⟩
    obtain ⟨relative, found, rfl⟩ := Path.goesOn_iff.mp below
    rw [given, Option.bind_some, found]
    exact List.any_eq_true.mpr struck

/-- What a pattern excludes: with a slash at its end all that starts with it, otherwise all that it stands for. -/
def Strikes (pattern text : String) : Prop :=
  let normal := (normalPattern pattern).toList
  (['/'] <:+ normal ∧ normal <+: text.toList) ∨ (¬ ['/'] <:+ normal ∧ Meets normal text.toList)

theorem covers_iff_strikes : covers pattern text = true ↔ Strikes pattern text := by
  unfold covers Strikes
  dsimp only
  by_cases folder : Text.endsIn (normalPattern pattern) "/" = true
  · have slash : ['/'] <:+ (normalPattern pattern).toList := Text.endsIn_iff.mp folder
    rw [if_pos folder, Text.startsIn_iff]
    constructor
    · exact fun starts => .inl ⟨slash, starts⟩
    · rintro (⟨_, starts⟩ | ⟨none, _⟩)
      · exact starts
      · exact absurd slash none
  · have none : ¬ ['/'] <:+ (normalPattern pattern).toList := fun slash => folder (Text.endsIn_iff.mpr slash)
    rw [if_neg folder, covers_iff_meets]
    constructor
    · exact fun met => .inr ⟨none, met⟩
    · rintro (⟨slash, _⟩ | ⟨_, met⟩)
      · exact absurd slash none
      · exact met

/-- What follows a pattern that does not vanish is normalised by itself. -/
theorem toList_normalPattern_append (filled : normalPattern pattern ≠ "") (ending : String)
    (forward : '\\' ∉ ending.toList) :
    (normalPattern (pattern ++ ending)).toList = (normalPattern pattern).toList ++ ending.toList := by
  have kept : ending.toList.map (fun c => if c = '\\' then '/' else c) = ending.toList := by
    have same (c : Char) (member : c ∈ ending.toList) : (if c = '\\' then '/' else c) = c := by
      apply if_neg
      rintro rfl
      exact forward member
    rw [List.map_congr_left same, List.map_id']
  have some : ((pattern.toList.map fun c => if c = '\\' then '/' else c).dropWhile (· = '/')).isEmpty = false := by
    rw [List.isEmpty_eq_false_iff]
    intro empty
    apply filled
    rw [normalPattern, empty]
  unfold normalPattern
  rw [String.toList_append, List.map_append, kept, List.dropWhile_append, some, String.toList_ofList,
    String.toList_ofList]
  rfl

/-! ### Naming a folder -/

section

variable (filled : normalPattern pattern ≠ "")
include filled

theorem strikes_folder_iff :
    Strikes (pattern ++ "/") text ↔ ∃ rest, text.toList = (normalPattern pattern).toList ++ '/' :: rest := by
  have whole := toList_normalPattern_append filled "/" (by decide)
  have slash : ['/'] <:+ (normalPattern (pattern ++ "/")).toList := by
    rw [whole]
    exact List.suffix_append _ _
  constructor
  · rintro (⟨_, rest, starts⟩ | ⟨none, _⟩)
    · rw [whole, List.append_assoc] at starts
      exact ⟨rest, starts.symm⟩
    · exact absurd slash none
  · rintro ⟨rest, same⟩
    refine .inl ⟨slash, rest, ?_⟩
    rw [whole, same, List.append_assoc]
    rfl

theorem strikes_below_iff : Strikes (pattern ++ "/**") text ↔
    ∃ front rest, text.toList = front ++ '/' :: rest ∧ Meets (normalPattern pattern).toList front := by
  have whole := toList_normalPattern_append filled "/**" (by decide)
  have none : ¬ ['/'] <:+ (normalPattern (pattern ++ "/**")).toList := by
    rintro ⟨front, same⟩
    have last := congrArg List.getLast? same
    rw [whole, List.getLast?_append, List.getLast?_append] at last
    exact absurd last (by simp)
  constructor
  · rintro (⟨slash, _⟩ | ⟨_, met⟩)
    · exact absurd slash none
    · rw [whole] at met
      exact meets_below_iff.mp met
  · intro below
    refine .inr ⟨none, ?_⟩
    rw [whole]
    exact meets_below_iff.mpr below

end

theorem covers_folder_iff (filled : normalPattern pattern ≠ "") : covers (pattern ++ "/") text = true ↔
    ∃ rest, text.toList = (normalPattern pattern).toList ++ '/' :: rest := by
  rw [covers_iff_strikes, strikes_folder_iff filled]

theorem covers_below_iff (filled : normalPattern pattern ≠ "") : covers (pattern ++ "/**") text = true ↔
    ∃ front rest, text.toList = front ++ '/' :: rest ∧ Meets (normalPattern pattern).toList front := by
  rw [covers_iff_strikes, strikes_below_iff filled]

theorem covers_folder_eq (filled : normalPattern pattern ≠ "") (plain : Plain (normalPattern pattern).toList)
    (text : String) : covers (pattern ++ "/") text = covers (pattern ++ "/**") text := by
  rw [Bool.eq_iff_iff, covers_folder_iff filled, covers_below_iff filled]
  constructor
  · rintro ⟨rest, same⟩
    exact ⟨_, rest, same, plain.meets_iff.mpr rfl⟩
  · rintro ⟨front, rest, same, met⟩
    rw [plain.meets_iff.mp met] at same
    exact ⟨rest, same⟩

/-- Only of a plain pattern do both forms cover the same texts: any other stands for a text that is not its own, if
it stands for anything. -/
theorem plain_of_covers_eq (filled : normalPattern pattern ≠ "")
    (agree : ∀ text, covers (pattern ++ "/") text = covers (pattern ++ "/**") text) :
    Plain (normalPattern pattern).toList := by
  have own : covers (pattern ++ "/") (normalPattern pattern ++ "/") = true := by
    rw [covers_folder_iff filled, String.toList_append]
    exact ⟨[], rfl⟩
  rw [agree, covers_below_iff filled] at own
  obtain ⟨front, _, _, met⟩ := own
  obtain ⟨short, met, bound, plain⟩ := exists_short met
  apply plain
  have struck : covers (pattern ++ "/**") (String.ofList (short ++ ['/'])) = true := by
    rw [covers_below_iff filled, String.toList_ofList]
    exact ⟨short, [], rfl, met⟩
  rw [← agree, covers_folder_iff filled, String.toList_ofList] at struck
  obtain ⟨rest, same⟩ := struck
  have lengths := congrArg List.length same
  simp only [List.length_append, List.length_cons, List.length_nil] at lengths
  exact (List.append_inj same (by omega)).1

/-- What becomes of a pattern by a slash at its end, and by the wildcard for everything below it. -/
structure FolderForms (pattern : String) : Prop where
  folder (generated : List String) (root : Option Path) (document : Path) :
    isExcluded ⟨generated, [pattern ++ "/"], root⟩ document = true ↔
      ∃ base text rest, root = some base ∧ document.GoesOn base text ∧
        text.toList = (normalPattern pattern).toList ++ '/' :: rest
  below (generated : List String) (root : Option Path) (document : Path) :
    isExcluded ⟨generated, [pattern ++ "/**"], root⟩ document = true ↔
      ∃ base text front rest, root = some base ∧ document.GoesOn base text ∧
        text.toList = front ++ '/' :: rest ∧ Meets (normalPattern pattern).toList front
  agree_iff : (∀ text, covers (pattern ++ "/") text = covers (pattern ++ "/**") text) ↔
    Plain (normalPattern pattern).toList
  plain (generated : List String) (root : Option Path) (document : Path) :
    Plain (normalPattern pattern).toList →
      isExcluded ⟨generated, [pattern ++ "/"], root⟩ document =
        isExcluded ⟨generated, [pattern ++ "/**"], root⟩ document
  classless (generated : List String) (root : Option Path) (document : Path) :
    Classless (normalPattern pattern).toList → isExcluded ⟨generated, [pattern ++ "/"], root⟩ document = true →
      isExcluded ⟨generated, [pattern ++ "/**"], root⟩ document = true

theorem isExcluded_single_iff {generated : List String} {root : Option Path} :
    isExcluded ⟨generated, [pattern], root⟩ document = true ↔
      ∃ base text, root = some base ∧ document.GoesOn base text ∧ covers pattern text = true := by
  rw [isExcluded_iff]
  simp only [List.mem_singleton, exists_eq_left]

/-- With a slash at its end a pattern is a folder's own name, whatever it stands for without. Both forms cover the same
texts for plain patterns only. -/
theorem folderForms (pattern : String) (filled : normalPattern pattern ≠ "") : FolderForms pattern where
  folder generated root document := by
    rw [isExcluded_single_iff]
    simp only [covers_folder_iff filled, exists_and_left]
  below generated root document := by
    rw [isExcluded_single_iff]
    simp only [covers_below_iff filled, exists_and_left]
  agree_iff := ⟨plain_of_covers_eq filled, covers_folder_eq filled⟩
  plain generated root document plain := by
    rw [Bool.eq_iff_iff, isExcluded_single_iff, isExcluded_single_iff]
    simp only [covers_folder_eq filled plain]
  classless generated root document classless excluded := by
    rw [isExcluded_single_iff] at excluded ⊢
    obtain ⟨base, text, given, below, struck⟩ := excluded
    obtain ⟨rest, same⟩ := (covers_folder_iff filled).mp struck
    exact ⟨base, text, given, below, (covers_below_iff filled).mpr ⟨_, rest, same, meets_own classless⟩⟩

/-- A folder is not found by a wildcard in front of the slash, though all below it is. -/
theorem folderForms_sample : normalPattern "te*" ≠ "" ∧ FolderForms "te*" ∧
    isExcluded ⟨[], ["te*/"], some (.ofString "/r")⟩ (.ofString "/r/tests/a.cs") = false ∧
    isExcluded ⟨[], ["te*/**"], some (.ofString "/r")⟩ (.ofString "/r/tests/a.cs") = true := by
  have filled : normalPattern "te*" ≠ "" := by decide +kernel
  refine ⟨filled, folderForms "te*" filled, ?_, ?_⟩
  · decide +kernel
  · decide +kernel

end Selection
end UsingCensus
