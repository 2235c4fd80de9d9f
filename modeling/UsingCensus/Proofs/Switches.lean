import UsingCensus.CommandLine.Reading
import UsingCensus.Proofs.Numerals

namespace UsingCensus.CommandLine

/-- Switches in front of all words: what they turn on stays on, and their number of workers counts unless
another one follows. -/
structure Lead where
  verbose : Bool
  noWarn : Bool
  maxWorkers : Option Nat
  deriving DecidableEq, Repr

namespace Lead

def apply (lead : Lead) (arguments : Arguments) : Arguments :=
  { arguments with
    verbose := lead.verbose || arguments.verbose
    noWarn := lead.noWarn || arguments.noWarn
    maxWorkers := arguments.maxWorkers <|> lead.maxWorkers }

def request (lead : Lead) : Request → Request
  | .help => .help
  | .run arguments => .run (lead.apply arguments)

variable {lead : Lead}

theorem addValue_apply (arguments : Arguments) (switch : Switch) (text : String) :
    Request.addValue (lead.apply arguments) switch text =
      (Request.addValue arguments switch text).map lead.apply := by
  cases switch with
  | count =>
    simp only [Request.addValue]
    cases natural .count text <;> rfl
  | maxWorkers =>
    simp only [Request.addValue]
    cases positive .maxWorkers text <;> rfl
  | _ => rfl

theorem add_request (request : Request) (use : Use) :
    Request.add (lead.request request) use = (Request.add request use).map lead.request := by
  cases request with
  | help => rfl
  | run arguments =>
    cases use with
    | value switch text =>
      simp only [Lead.request, Request.add]
      rw [addValue_apply]
      cases Request.addValue arguments switch text <;> rfl
    | flag switch =>
      cases switch with
      | noWarn => simp [Lead.request, Request.add, Lead.apply, Except.map]
      | verbose => simp [Lead.request, Request.add, Lead.apply, Except.map]
      | _ => rfl

theorem foldlM_request (uses : List Use) (request : Request) :
    uses.foldlM Request.add (lead.request request) = (uses.foldlM Request.add request).map lead.request := by
  induction uses generalizing request with
  | nil => rfl
  | cons use rest ih =>
    rw [List.foldlM_cons, List.foldlM_cons, add_request]
    cases Request.add request use with
    | error fault => rfl
    | ok next => exact ih next

theorem readWords_apply (lead : Lead) (arguments : Arguments) (path : Option String) (extras : List String)
    (words : List Word) :
    readWords (lead.apply arguments) path extras words =
      (readWords arguments path extras words).map lead.request := by
  have add (arguments : Arguments) (uses : List Use) :
      uses.foldlM Request.add (.run (lead.apply arguments)) =
        (uses.foldlM Request.add (.run arguments)).map lead.request :=
    foldlM_request uses (.run arguments)
  fun_induction readWords arguments path extras words with
  | case1 arguments path => rfl
  | case2 arguments path extras unread =>
    rw [readWords, if_neg unread]
    rfl
  | case3 arguments path extras text rest ih => exact ih
  | case4 arguments path extras switch attached rest fault refused =>
    rw [readWords, refused]
    rfl
  | case5 arguments path extras switch attached cluster read rest whole fault refused =>
    rw [readWords]
    simp only [read, whole, add, refused]
    rfl
  | case6 arguments path extras switch attached cluster read rest whole helped =>
    rw [readWords]
    simp only [read, whole, add, helped]
    rfl
  | case7 arguments path extras switch attached cluster read rest whole next added ih =>
    rw [readWords]
    simp only [read, whole, add, added]
    exact ih
  | case8 arguments path extras switch attached cluster read waiting value rest unfilled fault refused =>
    rw [readWords]
    simp only [read, unfilled, add, refused]
    rfl
  | case9 arguments path extras switch attached cluster read waiting value rest unfilled helped =>
    rw [readWords]
    simp only [read, unfilled, add, helped]
    rfl
  | case10 arguments path extras switch attached cluster read waiting value rest unfilled next added ih =>
    rw [readWords]
    simp only [read, unfilled, add, added]
    exact ih
  | case11 arguments path extras switch attached rest cluster read waiting unfilled bare =>
    rw [readWords]
    simp only [read, unfilled]
    cases rest with
    | nil => rfl
    | cons word rest =>
      cases word with
      | plain value => exact (bare value rest rfl).elim
      | _ => rfl
  | case12 arguments extras text rest ih => exact ih
  | case13 arguments extras text rest bare ih =>
    rw [readWords]
    · exact ih
    · exact bare
  | case14 arguments extras text val rest ih => exact ih
  | case15 arguments extras text rest ih => exact ih
  | case16 arguments extras rest bare ih =>
    rw [readWords]
    · exact ih
    · exact bare
  | case17 arguments extras val rest ih => exact ih

/-! ### The words of a lead -/

theorem ofTexts_cons {text : String} {word : Word} (single : text ≠ Word.dividerText)
    (spelled : Word.ofText text = .ok word) (texts : List String) :
    Word.ofTexts (text :: texts) = (Word.ofTexts texts).map (word :: ·) := by
  rw [Word.ofTexts, if_neg single, spelled]
  cases Word.ofTexts texts <;> rfl

theorem read_eq (texts : List String) :
    read texts = (Word.ofTexts texts).bind (readWords .standard none []) :=
  rfl

theorem read_flag {text : String} {switch : Switch} {lead : Lead} (single : text ≠ Word.dividerText)
    (spelled : Word.ofText text = .ok (.named switch .absent)) (bare : switch.takesValue = false)
    (adds : Request.add (.run .standard) (.flag switch) = .ok (.run (lead.apply .standard)))
    (texts : List String) : read (text :: texts) = (read texts).map lead.request := by
  rw [read_eq, read_eq, ofTexts_cons single spelled]
  cases Word.ofTexts texts with
  | error fault => rfl
  | ok words =>
    have opened : Cluster.ofAttached switch .absent = .ok ⟨[.flag switch], none, none⟩ := by
      simp [Cluster.ofAttached, Cluster.last, bare]
    have added : [Use.flag switch].foldlM Request.add (.run .standard) = .ok (.run (lead.apply .standard)) := by
      rw [List.foldlM_cons, adds]
      rfl
    dsimp only [Except.map, Except.bind]
    rw [readWords]
    simp only [opened, added]
    exact readWords_apply lead .standard none [] words

theorem dash_not_in_toString (n : Nat) : '-' ∉ (toString n).toList := by
  intro member
  cases Text.isDigit_of_mem_toString member

theorem ofText_toString (n : Nat) : Word.ofText (toString n) = .ok (.plain (toString n)) := by
  have plain := dash_not_in_toString n
  unfold Word.ofText
  split
  · simp_all
  · simp_all
  · rfl

theorem toString_ne_divider (n : Nat) : toString n ≠ Word.dividerText := by
  intro same
  have plain := dash_not_in_toString n
  rw [same] at plain
  exact plain (by decide)

theorem positive_toString (n : Nat) (above : 0 < n) (switch : Switch) :
    positive switch (toString n) =
      if (toString n).toList.length ≤ Text.digitLimit then .ok n
      else .error (.notInteger switch (toString n)) := by
  unfold positive natural
  rw [Text.integer?_toString]
  by_cases within : (toString n).toList.length ≤ Text.digitLimit
  · rw [if_pos within, if_pos within]
    dsimp only
    rw [if_neg (by omega), Int.toNat_natCast]
    split
    · rename_i zero
      cases zero
      exact absurd above (Nat.lt_irrefl 0)
    · rfl
  · rw [if_neg within, if_neg within]

/-- A number of workers is read before the other words are. -/
theorem read_workers_eq (n : Nat) (texts : List String) :
    read ("-j" :: toString n :: texts) =
      (Word.ofTexts texts).bind fun words =>
        (positive .maxWorkers (toString n)).bind fun workers =>
          readWords { Arguments.standard with maxWorkers := some workers } none [] words := by
  have spelled : Word.ofText "-j" = .ok (.named .maxWorkers .absent) := rfl
  rw [read_eq, ofTexts_cons (by decide) spelled, ofTexts_cons (toString_ne_divider n) (ofText_toString n)]
  cases Word.ofTexts texts with
  | error fault => rfl
  | ok words =>
    have opened : Cluster.ofAttached .maxWorkers .absent = .ok ⟨[], some .maxWorkers, none⟩ := rfl
    dsimp only [Except.map, Except.bind]
    rw [readWords]
    simp only [opened, List.nil_append, List.foldlM_cons, Request.add, Request.addValue]
    cases positive .maxWorkers (toString n) <;> rfl

theorem read_workers (n : Nat) (above : 0 < n) (within : (toString n).toList.length ≤ Text.digitLimit)
    (texts : List String) :
    read ("-j" :: toString n :: texts) = (read texts).map (Lead.request ⟨false, false, some n⟩) := by
  rw [read_workers_eq, positive_toString n above, if_pos within, read_eq]
  cases Word.ofTexts texts with
  | error fault => rfl
  | ok words => exact readWords_apply ⟨false, false, some n⟩ .standard none [] words

theorem read_workers_refused (n : Nat) (above : 0 < n)
    (beyond : Text.digitLimit < (toString n).toList.length) {texts : List String} {request : Request}
    (fine : read texts = .ok request) :
    read ("-j" :: toString n :: texts) = .error (.notInteger .maxWorkers (toString n)) := by
  rw [read_workers_eq, positive_toString n above, if_neg (Nat.not_le.mpr beyond)]
  rw [read_eq] at fine
  cases words : Word.ofTexts texts with
  | error fault =>
    rw [words] at fine
    cases fine
  | ok words => rfl

end Lead
end UsingCensus.CommandLine
