import UsingCensus.Proofs.Reachability

namespace UsingCensus

def Visit.fault? : Visit → Option LoadFault
  | ended fault => some fault
  | _ => none

theorem Visit.fault?_eq_some {visit : Visit} {fault : LoadFault} :
    visit.fault? = some fault ↔ visit = .ended fault := by
  cases visit <;> simp [Visit.fault?]

namespace Surroundings

variable {around : Surroundings} {seen queue start : List Path} {path file : Path} {loading : Loading}

/-! ### Single paths -/

theorem path_of_find {through : Bool} {text told : String} {cause : PathCause}
    (failed : around.find through text = .error (.refused cause told)) : told = text := by
  unfold find at failed
  split at failed
  · cases failed
  · split at failed
    · cases failed
      rfl
    · split at failed
      · cases failed
      · cases failed
        rfl

theorem find_eq_embeddedNull_iff (around : Surroundings) (through : Bool) {text : String} :
    around.find through text = .error .embeddedNull ↔ '\x00' ∈ text.toList := by
  unfold find
  split
  · rename_i null
    simpa using null
  · rename_i plain
    have absent : '\x00' ∉ text.toList := by simpa using plain
    split
    · simp [absent]
    · split <;> simp [absent]

theorem read_eq_embeddedNull_iff (around : Surroundings) {text : String} :
    around.read text = .error .embeddedNull ↔ '\x00' ∈ text.toList := by
  rw [← find_eq_embeddedNull_iff around true]
  unfold Surroundings.read
  split <;> simp_all

/-- Why a project file does not evaluate, by the path that it is known by. -/
inductive FailsToEvaluate (around : Surroundings) (key : Path) : ProjectFault → Prop where
  | unknownLanguage (unknown : Language.of? key = none) : around.FailsToEvaluate key (.unknownLanguage key)
  | unreadable {language : Language} {cause : PathCause} {told : String}
      (known : Language.of? key = some language)
      (failed : around.read key.toString = .error (.refused cause told)) :
      around.FailsToEvaluate key (.unreadable key cause)
  | embeddedNull {language : Language} (known : Language.of? key = some language)
      (null : '\x00' ∈ key.toString.toList) : around.FailsToEvaluate key .embeddedNull
  | malformed {language : Language} {bytes : List UInt8} (known : Language.of? key = some language)
      (read : around.read key.toString = .ok bytes) (parsed : Xml.parse bytes = .error .malformed) :
      around.FailsToEvaluate key (.malformed key)
  | encoding {language : Language} {bytes : List UInt8} {fault : Xml.EncodingFault}
      (known : Language.of? key = some language) (read : around.read key.toString = .ok bytes)
      (parsed : Xml.parse bytes = .error (.encoding fault)) : around.FailsToEvaluate key (.encoding fault)

theorem evaluate_eq_error_iff {fault : ProjectFault} :
    around.evaluate path = .error fault ↔ around.FailsToEvaluate (around.projectKey path) fault := by
  have keyed : (around.absolute path).normal = around.projectKey path := rfl
  unfold evaluate
  simp only [keyed]
  constructor
  · intro failed
    cases known : Language.of? (around.projectKey path) with
    | none =>
      rw [known] at failed
      cases failed
      exact .unknownLanguage known
    | some language =>
      cases read : around.read (around.projectKey path).toString with
      | error refusal =>
        simp only [known, read] at failed
        cases refusal with
        | embeddedNull =>
          cases failed
          exact .embeddedNull known ((read_eq_embeddedNull_iff around).mp read)
        | refused cause told =>
          cases failed
          exact .unreadable known read
      | ok bytes =>
        cases parsed : Xml.parse bytes with
        | ok root =>
          simp only [known, read, parsed] at failed
          cases failed
        | error defect =>
          simp only [known, read, parsed] at failed
          cases defect <;> cases failed
          · exact .malformed known read parsed
          · exact .encoding known read parsed
  · intro fails
    cases fails with
    | unknownLanguage unknown => simp only [unknown]
    | unreadable known failed => simp only [known, failed]
    | embeddedNull known null => simp only [known, (read_eq_embeddedNull_iff around).mpr null]
    | malformed known read parsed => simp only [known, read, parsed]
    | encoding known read parsed => simp only [known, read, parsed]

/-- Why looking at a path ends all loading: the path is too long to be inspected, or its file is known for
a project file by its name but cannot be opened under its key, or its encoding is not supported. -/
inductive Ends (around : Surroundings) (path : Path) : LoadFault → Prop where
  | tooLong (found : around.find true path.toString = .error (.refused .nameTooLong path.toString)) :
      around.Ends path (.path (.refused .nameTooLong path.toString))
  | project {fault : ProjectFault} (isFile : around.isFile path.toString = true)
      (fails : around.FailsToEvaluate (around.projectKey path) fault) (grave : fault.isLocal = false) :
      around.Ends path (.project fault)

/-- Why a path is passed over with a warning: it leads to no file, or to one of no known language, one that
cannot be read or one that is no XML. -/
inductive Skips (around : Surroundings) (path : Path) : String → Prop where
  | missing (short : around.find true path.toString ≠
        .error (.refused .nameTooLong path.toString))
      (noFile : ¬ around.isFile path.toString = true) : around.Skips path (missingProject path)
  | project {fault : ProjectFault} (isFile : around.isFile path.toString = true)
      (fails : around.FailsToEvaluate (around.projectKey path) fault) (isLocal : fault.isLocal = true) :
      around.Skips path fault.message

theorem visit_of_isFile (isFile : around.isFile path.toString = true) :
    around.visit path = match around.evaluate path with
      | .ok (project, reports) => .loaded project reports
      | .error fault => if fault.isLocal then .skipped fault.message else .ended (.project fault) := by
  unfold Surroundings.isFile at isFile
  split at isFile
  · rename_i bytes found
    unfold visit probe
    cases around.evaluate path with
    | error fault => simp only [found]
    | ok result =>
      obtain ⟨project, reports⟩ := result
      simp only [found]
  · cases isFile

theorem visit_of_tooLong
    (found : around.find true path.toString = .error (.refused .nameTooLong path.toString)) :
    around.visit path = .ended (.path (.refused .nameTooLong path.toString)) := by
  unfold visit probe
  rw [found]

theorem visit_of_short
    (short : around.find true path.toString ≠ .error (.refused .nameTooLong path.toString))
    (noFile : ¬ around.isFile path.toString = true) :
    around.visit path = .skipped (missingProject path) := by
  unfold Surroundings.isFile at noFile
  unfold visit probe
  cases found : around.find true path.toString with
  | ok entry =>
    rw [found] at noFile
    cases entry with
    | file bytes => exact absurd rfl noFile
    | directory => rfl
    | link target => rfl
  | error fault =>
    cases fault with
    | embeddedNull => rfl
    | refused cause told =>
      rw [path_of_find found] at found
      cases cause with
      | nameTooLong => exact absurd found short
      | _ => rfl

theorem visit_eq_ended_iff {fault : LoadFault} : around.visit path = .ended fault ↔ around.Ends path fault := by
  constructor
  · intro ended
    by_cases isFile : around.isFile path.toString = true
    · rw [visit_of_isFile isFile] at ended
      split at ended
      · cases ended
      · rename_i cause failed
        split at ended
        · cases ended
        · rename_i grave
          cases ended
          exact .project isFile (evaluate_eq_error_iff.mp failed) (by simpa using grave)
    · by_cases found : around.find true path.toString = .error (.refused .nameTooLong path.toString)
      · rw [visit_of_tooLong found] at ended
        cases ended
        exact .tooLong found
      · rw [visit_of_short found isFile] at ended
        cases ended
  · intro ends
    cases ends with
    | tooLong found => exact visit_of_tooLong found
    | project isFile fails grave =>
      rw [visit_of_isFile isFile, evaluate_eq_error_iff.mpr fails]
      simp [grave]

theorem visit_eq_skipped_iff {message : String} :
    around.visit path = .skipped message ↔ around.Skips path message := by
  constructor
  · intro skipped
    by_cases isFile : around.isFile path.toString = true
    · rw [visit_of_isFile isFile] at skipped
      split at skipped
      · cases skipped
      · rename_i cause failed
        split at skipped
        · rename_i isLocal
          cases skipped
          exact .project isFile (evaluate_eq_error_iff.mp failed) isLocal
        · cases skipped
    · by_cases found : around.find true path.toString = .error (.refused .nameTooLong path.toString)
      · rw [visit_of_tooLong found] at skipped
        cases skipped
      · rw [visit_of_short found isFile] at skipped
        cases skipped
        exact .missing found isFile
  · intro skips
    cases skips with
    | missing short noFile => exact visit_of_short short noFile
    | project isFile fails isLocal =>
      rw [visit_of_isFile isFile, evaluate_eq_error_iff.mpr fails]
      simp [isLocal]

/-! ### Whole queues -/

/-- The paths that are looked at: up to the first one that ends loading. -/
def looked (around : Surroundings) (paths : List Path) : List Path :=
  paths.takeWhile fun path => (around.visit path).fault?.isNone

/-- Loading tells of each path in the order of discovery up to the first one that ends it. -/
theorem Loads.told (loads : around.Loads seen queue loading) :
    loading.events = (around.looked (around.unseen seen
      (queue ++ loading.projects.flatMap Project.references))).flatMap
        (fun path => (around.visit path).events) ∧
    loading.fault = (around.unseen seen
      (queue ++ loading.projects.flatMap Project.references)).findSome?
        fun path => (around.visit path).fault? := by
  induction loads with
  | done => exact ⟨rfl, rfl⟩
  | pass known _ ih =>
    rw [List.cons_append, unseen_cons_of_seen known]
    exact ih
  | stop new ends =>
    rw [List.cons_append, unseen_cons new]
    simp [looked, ends, Visit.fault?]
  | @look seen path queue loading new whole _ ih =>
    have goesOn : (around.visit path).fault? = none := by
      cases fault : (around.visit path).fault? with
      | none => rfl
      | some cause => exact absurd (Visit.fault?_eq_some.mp fault) (whole cause)
    rw [unseen_look new]
    constructor
    · have told := ih.1
      unfold looked at told ⊢
      rw [List.takeWhile_cons, goesOn, Option.isNone_none, if_pos rfl, List.flatMap_cons, ← told]
      rfl
    · rw [List.findSome?_cons, goesOn]
      exact ih.2

end Surroundings
end UsingCensus
