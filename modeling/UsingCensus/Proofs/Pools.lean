import UsingCensus.Census.Pool
import UsingCensus.Proofs.Harvesting

namespace UsingCensus

namespace Surroundings

/-- The names that the document at a position adds. -/
def importedAt (around : Surroundings) (documents : List Path) (position : Nat) : List String :=
  (documents[position]?.map around.importedBy).getD []

/-- The warning about the document at a position. -/
def failureAt? (around : Surroundings) (documents : List Path) (position : Nat) : Option String :=
  documents[position]?.bind around.failureOf?

theorem failureAt?_eq (around : Surroundings) {documents : List Path} {position : Nat} {document : Path}
    (found : documents[position]? = some document) :
    around.failureAt? documents position = around.failureOf? document := by
  simp [failureAt?, found]

theorem importedAt_eq (around : Surroundings) {documents : List Path} {position : Nat} {document : Path}
    (found : documents[position]? = some document) :
    around.importedAt documents position = around.importedBy document := by
  simp [importedAt, found]

theorem importedAt_eq_nil (around : Surroundings) {documents : List Path} {position : Nat}
    (failing : around.failureAt? documents position = some message) :
    around.importedAt documents position = [] := by
  unfold failureAt? at failing
  obtain ⟨document, found, failing⟩ := Option.bind_eq_some_iff.mp failing
  rw [importedAt_eq around found]
  unfold failureOf? at failing
  unfold importedBy
  split at failing
  · cases failing
  · rfl

theorem flatMap_importedAt (around : Surroundings) (documents : List Path) :
    (List.range documents.length).flatMap (around.importedAt documents) =
      documents.flatMap around.importedBy := by
  have same : (List.range documents.length).map (around.importedAt documents) =
      documents.map around.importedBy := by
    apply List.ext_getElem
    · simp
    · intro position within _
      have inside : position < documents.length := by simpa using within
      simp [importedAt, inside]
  rw [List.flatMap_def, List.flatMap_def, same]

theorem filterMap_failureAt? (around : Surroundings) (documents : List Path) :
    (List.range documents.length).filterMap (around.failureAt? documents) =
      documents.filterMap around.failureOf? := by
  have same : (List.range documents.length).map (around.failureAt? documents) =
      documents.map around.failureOf? := by
    apply List.ext_getElem
    · simp
    · intro position within _
      have inside : position < documents.length := by simpa using within
      simp [failureAt?, inside]
  have joined := congrArg (List.filterMap id) same
  simpa only [List.filterMap_map, Function.id_comp] using joined

/-- How the work on a document ends if nothing disturbs it. -/
def resultOf (around : Surroundings) (document : Path) : TaskResult :=
  match around.failureOf? document with
  | some message => .failed message
  | none => .counted

end Surroundings

namespace TaskStage

/-- What is known of a document at a stage is true of it. -/
def Fits (around : Surroundings) (document : Path) : TaskStage → Prop
  | held source => around.readSource document = .ok source
  | parsed names => around.failureOf? document = none ∧ names = around.importedBy document
  | returned result => result = around.resultOf document
  | ended result => result = around.resultOf document
  | _ => True

/-- Are the names of the document still to be merged? -/
def isUnmerged : TaskStage → Bool
  | returned _ => false
  | ended _ => false
  | _ => true

theorem Fits.advance {around : Surroundings} {document : Path} {step : TaskStep}
    {stage next : TaskStage} (fits : stage.Fits around document)
    (taken : stage.advance around document false step = some next) : next.Fits around document := by
  cases stage with
  | queued => cases step <;> cases taken; trivial
  | started => cases step <;> cases taken; trivial
  | cleared =>
    cases step <;> try cases taken
    simp only [TaskStage.advance] at taken
    cases read : around.readSource document with
    | ok source =>
      rw [read] at taken
      cases taken
      exact read
    | error fault =>
      rw [read] at taken
      cases taken
      simp [Fits, Surroundings.resultOf, Surroundings.failureOf?, read]
  | held source =>
    cases step <;> cases taken
    have read : around.readSource document = .ok source := fits
    simp [Fits, Surroundings.failureOf?, Surroundings.importedBy, read]
  | parsed names =>
    cases step <;> cases taken
    simp [Fits, Surroundings.resultOf, fits.1]
  | returned result =>
    cases step <;> cases taken
    exact fits
  | ended result => cases step <;> cases taken

theorem not_hasEnded_of_advance {around : Surroundings} {document : Path} {cancelled : Bool}
    {step : TaskStep} {stage next : TaskStage}
    (taken : stage.advance around document cancelled step = some next) : stage.hasEnded = false := by
  cases stage <;> first | rfl | (cases step <;> cases taken)

theorem Fits.unmerged {around : Surroundings} {document : Path} {step : TaskStep}
    {stage next : TaskStage} (fits : stage.Fits around document)
    (taken : stage.advance around document false step = some next) (other : step ≠ .merge) :
    merged step stage = [] ∧ ((around.failureOf? document).isSome || next.isUnmerged) =
      ((around.failureOf? document).isSome || stage.isUnmerged) := by
  refine ⟨by cases step <;> first | rfl | exact absurd rfl other, ?_⟩
  cases stage with
  | queued => cases step <;> cases taken; rfl
  | started => cases step <;> cases taken; rfl
  | cleared =>
    cases step <;> try cases taken
    simp only [TaskStage.advance] at taken
    cases read : around.readSource document with
    | ok source =>
      rw [read] at taken
      cases taken
      rfl
    | error fault =>
      rw [read] at taken
      cases taken
      simp [Surroundings.failureOf?, read]
  | held source => cases step <;> cases taken; rfl
  | parsed names => cases step <;> first | exact absurd rfl other | cases taken
  | returned result => cases step <;> cases taken; rfl
  | ended result => cases step <;> cases taken

theorem Fits.merged {around : Surroundings} {document : Path} {stage next : TaskStage}
    (fits : stage.Fits around document)
    (taken : stage.advance around document false .merge = some next) :
    around.failureOf? document = none ∧ TaskStage.merged .merge stage = around.importedBy document ∧
      stage.isUnmerged = true ∧ next.isUnmerged = false := by
  cases stage with
  | parsed names =>
    cases taken
    exact ⟨fits.1, fits.2, rfl, rfl⟩
  | _ => cases taken

theorem isRunning_of_advance {around : Surroundings} {document : Path} {cancelled : Bool}
    {step : TaskStep} {stage next : TaskStage}
    (taken : stage.advance around document cancelled step = some next) (other : step ≠ .start) :
    stage.isRunning = true := by
  cases stage with
  | queued => cases step <;> first | exact absurd rfl other | cases taken
  | ended result => cases step <;> cases taken
  | _ => rfl

end TaskStage

namespace TaskResult

/-- What is noted when the document at a position is collected. -/
def noted (position : Nat) : TaskResult → List (Nat × String)
  | failed message => [(position, message)]
  | _ => []

end TaskResult

namespace Pool

variable {around : Surroundings} {documents : List Path} {workers : Nat} {harvest : Harvest}
  {pool next : Pool}

/-- The task of a position stands in one place, and changing or removing it leaves the others alone. -/
theorem split_tasks {tasks : List (Nat × TaskStage)} {position : Nat} {stage : TaskStage}
    (distinct : (tasks.map Prod.fst).Nodup) (member : (position, stage) ∈ tasks) :
    ∃ before after, tasks = before ++ (position, stage) :: after ∧
      (∀ changed, setStage position changed tasks = before ++ (position, changed) :: after) ∧
      withoutTask position tasks = before ++ after ∧ tasks.lookup position = some stage := by
  obtain ⟨before, after, split⟩ := List.append_of_mem member
  subst split
  rw [List.map_append, List.map_cons, List.nodup_append, List.nodup_cons] at distinct
  obtain ⟨_, ⟨afterwards, _⟩, apart⟩ := distinct
  have early : ∀ task ∈ before, task.1 ≠ position := fun task earlier =>
    apart task.1 (List.mem_map.mpr ⟨task, earlier, rfl⟩) position (by simp)
  have late : ∀ task ∈ after, task.1 ≠ position := by
    rintro task later rfl
    exact afterwards (List.mem_map.mpr ⟨task, later, rfl⟩)
  refine ⟨before, after, rfl, ?_, ?_, ?_⟩
  · intro changed
    have kept {tasks : List (Nat × TaskStage)} (others : ∀ task ∈ tasks, task.1 ≠ position) :
        setStage position changed tasks = tasks :=
      (List.map_congr_left fun task found => if_neg (others task found)).trans (List.map_id tasks)
    have first := kept early
    have second := kept late
    unfold setStage at first second ⊢
    rw [List.map_append, List.map_cons, first, second, if_pos rfl]
  · have kept {tasks : List (Nat × TaskStage)} (others : ∀ task ∈ tasks, task.1 ≠ position) :
        withoutTask position tasks = tasks :=
      List.filter_eq_self.mpr fun task found => by simpa using others task found
    have first := kept early
    have second := kept late
    unfold withoutTask at first second ⊢
    rw [List.filter_append, List.filter_cons_of_neg (by simp), first, second]
  · apply List.lookup_eq_some_iff.mpr
    exact ⟨before, after, rfl, fun task earlier => by simpa using Ne.symm (early task earlier)⟩

theorem mem_of_lookup {tasks : List (Nat × TaskStage)} {position : Nat} {stage : TaskStage}
    (found : tasks.lookup position = some stage) : (position, stage) ∈ tasks := by
  obtain ⟨before, after, split, _⟩ := List.lookup_eq_some_iff.mp found
  simp [split]

theorem hasFinished_iff {position : Nat} :
    pool.hasFinished position = true ↔ ∃ result, (position, .ended result) ∈ pool.tasks := by
  unfold hasFinished
  rw [List.any_eq_true]
  constructor
  · rintro ⟨⟨found, stage⟩, member, both⟩
    obtain ⟨same, ended⟩ : found = position ∧ stage.hasEnded = true := by simpa using both
    subst same
    cases stage <;> first | exact ⟨_, member⟩ | cases ended
  · rintro ⟨result, member⟩
    exact ⟨_, member, by simp [TaskStage.hasEnded]⟩

theorem collect_eq_some {position : Nat} {control : Control}
    (came : pool.collect position control = some next) :
    ∃ result, (position, .ended result) ∈ pool.tasks ∧
      next = if result = .cancelled then pool.stop else
        { pool with
          control := control
          tasks := withoutTask position pool.tasks
          failures := pool.failures ++ result.noted position } := by
  unfold collect at came
  split at came
  · rename_i found
    cases came
    exact ⟨_, mem_of_lookup found, by simp [TaskResult.noted]⟩
  · rename_i found
    cases came
    exact ⟨_, mem_of_lookup found, by simp [TaskResult.noted]⟩
  · rename_i found
    cases came
    exact ⟨_, mem_of_lookup found, by simp⟩
  · cases came

/-! ### What each event does -/

theorem step_look (came : pool.step around documents workers .look = some next) :
    pool.control = .looking ∧ pool.submitted < documents.length ∧
      next = if pool.cancelled then pool.stop else { pool with control := .admitting } := by
  obtain ⟨control, submitted, tasks, failures, harvest, cancelled⟩ := pool
  cases control with
  | looking =>
    change (if _ then _ else _) = _ at came
    split at came
    · rename_i more
      exact ⟨rfl, more, (Option.some.inj came).symm⟩
    · cases came
  | _ => cases came

theorem step_wait {finished : List Nat}
    (came : pool.step around documents workers (.wait finished) = some next) :
    pool.control = .admitting ∧ finished ≠ [] ∧ finished.Nodup ∧
      (∀ position ∈ finished, pool.hasFinished position) ∧
      next = { pool with control := .collecting finished } := by
  obtain ⟨control, submitted, tasks, failures, harvest, cancelled⟩ := pool
  cases control with
  | admitting =>
    change (if _ then _ else _) = _ at came
    split at came
    · rename_i waits
      exact ⟨rfl, waits.2.1, waits.2.2.1, by simpa using waits.2.2.2, (Option.some.inj came).symm⟩
    · cases came
  | _ => cases came

theorem step_submit (came : pool.step around documents workers .submit = some next) :
    ((pool.control = .admitting ∧ pool.tasks.length < depth * workers) ∨
      pool.control = .collecting []) ∧ next = pool.submit := by
  obtain ⟨control, submitted, tasks, failures, harvest, cancelled⟩ := pool
  cases control with
  | admitting =>
    change (if _ then _ else _) = _ at came
    split at came
    · rename_i room
      exact ⟨.inl ⟨rfl, room⟩, (Option.some.inj came).symm⟩
    · cases came
  | collecting finished =>
    cases finished with
    | nil => exact ⟨.inr rfl, (Option.some.inj came).symm⟩
    | cons first rest => cases came
  | _ => cases came

theorem step_collect {position : Nat}
    (came : pool.step around documents workers (.collect position) = some next) :
    (∃ rest, pool.control = .collecting (position :: rest) ∧
      pool.collect position (.collecting rest) = some next) ∨
    (pool.control = .draining ∧ pool.collect position .draining = some next) := by
  obtain ⟨control, submitted, tasks, failures, harvest, cancelled⟩ := pool
  cases control with
  | collecting finished =>
    cases finished with
    | nil => cases came
    | cons first rest =>
      change (if _ then _ else _) = _ at came
      split at came
      · rename_i same
        subst same
        exact .inl ⟨rest, rfl, came⟩
      · cases came
  | draining => exact .inr ⟨rfl, came⟩
  | _ => cases came

theorem step_drain (came : pool.step around documents workers .drain = some next) :
    pool.control = .looking ∧ pool.submitted = documents.length ∧
      next = { pool with control := .draining } := by
  obtain ⟨control, submitted, tasks, failures, harvest, cancelled⟩ := pool
  cases control with
  | looking =>
    change (if _ then _ else _) = _ at came
    split at came
    · rename_i all
      exact ⟨rfl, all, (Option.some.inj came).symm⟩
    · cases came
  | _ => cases came

theorem step_leave (came : pool.step around documents workers .leave = some next) :
    pool.control = .draining ∧ pool.tasks = [] ∧ next = pool.leave := by
  obtain ⟨control, submitted, tasks, failures, harvest, cancelled⟩ := pool
  cases control with
  | draining =>
    change (if _ then _ else _) = _ at came
    split at came
    · rename_i empty
      exact ⟨rfl, empty, (Option.some.inj came).symm⟩
    · cases came
  | _ => cases came

/-- Documents are given up, and a fault goes out, only after the pool was stopped. -/
theorem step_dismiss (came : pool.step around documents workers .dismiss = some next) :
    pool.control = .stopping ∧ next = pool.dismiss := by
  obtain ⟨control, submitted, tasks, failures, harvest, cancelled⟩ := pool
  cases control with
  | stopping => exact ⟨rfl, (Option.some.inj came).symm⟩
  | _ => cases came

theorem step_raise (came : pool.step around documents workers .raise = some next) :
    pool.control = .closing ∧ pool.running = 0 ∧ next = { pool with control := .raised } := by
  obtain ⟨control, submitted, tasks, failures, harvest, cancelled⟩ := pool
  cases control with
  | closing =>
    change (if _ then _ else _) = _ at came
    split at came
    · rename_i idle
      exact ⟨rfl, idle, (Option.some.inj came).symm⟩
    · cases came
  | _ => cases came

theorem step_cancel (came : pool.step around documents workers .cancel = some next) :
    next = { pool with cancelled := true } := by
  obtain ⟨control, submitted, tasks, failures, harvest, cancelled⟩ := pool
  cases control <;> exact (Option.some.inj came).symm

theorem step_interrupt (came : pool.step around documents workers .interrupt = some next) :
    pool.control.isWorking = true ∧ next = pool.stop := by
  obtain ⟨control, submitted, tasks, failures, harvest, cancelled⟩ := pool
  cases control with
  | looking => exact ⟨rfl, (Option.some.inj came).symm⟩
  | admitting => exact ⟨rfl, (Option.some.inj came).symm⟩
  | collecting finished => exact ⟨rfl, (Option.some.inj came).symm⟩
  | draining => exact ⟨rfl, (Option.some.inj came).symm⟩
  | _ => cases came

theorem step_work {position : Nat} {taken : TaskStep}
    (came : pool.step around documents workers (.work position taken) = some next) :
    ∃ stage document changed, (position, stage) ∈ pool.tasks ∧ documents[position]? = some document ∧
      stage.advance around document pool.cancelled taken = some changed ∧
      (taken = .start → pool.running < workers) ∧
      next = { pool with
        tasks := setStage position changed pool.tasks
        harvest := { pool.harvest with
          tally := pool.harvest.tally.addAll (TaskStage.merged taken stage) } } := by
  have works : pool.work around documents position taken = some next ∧
      (taken = .start → pool.running < workers) := by
    cases taken with
    | start =>
      change (if _ then _ else _) = _ at came
      split at came
      · rename_i free
        exact ⟨came, fun _ => free⟩
      · cases came
    | _ => exact ⟨came, fun impossible => by cases impossible⟩
  obtain ⟨worked, free⟩ := works
  unfold work at worked
  split at worked
  · rename_i stage document found within
    obtain ⟨changed, advanced, same⟩ := Option.map_eq_some_iff.mp worked
    exact ⟨stage, document, changed, mem_of_lookup found, within, advanced, free, same.symm⟩
  · cases worked

end Pool
end UsingCensus
