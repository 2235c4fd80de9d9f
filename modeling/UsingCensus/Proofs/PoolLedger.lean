import UsingCensus.Proofs.PoolCustody

/-!
The ledger of a pool: every document handed out is merged, recorded as failed, or still owed by one task.
Main statement: each event of an undisturbed pool keeps the ledger.
-/
namespace UsingCensus

namespace PoolEvent

/-- Events that come in from outside. -/
def isDisturbance : PoolEvent → Bool
  | cancel => true
  | interrupt => true
  | _ => false

/-- The document that an event merges. -/
def merged? : PoolEvent → Option Nat
  | work position .merge => some position
  | _ => none

end PoolEvent

namespace Pool

/-- Is the document of a task still to be merged or to be recorded as failed? -/
def isOwed (around : Surroundings) (documents : List Path) (task : Nat × TaskStage) : Bool :=
  (around.failureAt? documents task.1).isSome || task.2.isUnmerged

def owed (around : Surroundings) (documents : List Path) (tasks : List (Nat × TaskStage)) : List Nat :=
  (tasks.filter (isOwed around documents)).map Prod.fst

/-- The account of an undisturbed pool that started with a harvest, the documents at the `merged` positions
having been merged. -/
structure Ledger (around : Surroundings) (documents : List Path) (workers : Nat) (harvest : Harvest)
    (merged : List Nat) (pool : Pool) : Prop extends Custody documents workers pool where
  quiet : pool.cancelled = false
  fits : ∀ task ∈ pool.tasks, ∀ document, documents[task.1]? = some document →
    task.2.Fits around document
  settled : (merged ++ pool.failures.map Prod.fst ++ owed around documents pool.tasks).Perm
    (List.range pool.submitted)
  readable : ∀ position ∈ merged, around.failureAt? documents position = none
  recorded : ∀ failure ∈ pool.failures, around.failureAt? documents failure.1 = some failure.2
  tally : pool.harvest.tally =
    harvest.tally.addAll (merged.flatMap (around.importedAt documents))
  told : pool.harvest.failures = harvest.failures ++
    if pool.control = .returned then pool.orderedFailures else []

variable {around : Surroundings} {documents : List Path} {workers : Nat} {harvest : Harvest}
  {merged : List Nat} {pool next : Pool}

theorem owed_append (around : Surroundings) (documents : List Path)
    (first second : List (Nat × TaskStage)) :
    owed around documents (first ++ second) =
      owed around documents first ++ owed around documents second := by
  simp [owed]

theorem owed_cons (around : Surroundings) (documents : List Path) (task : Nat × TaskStage)
    (tasks : List (Nat × TaskStage)) :
    owed around documents (task :: tasks) =
      (if isOwed around documents task then [task.1] else []) ++ owed around documents tasks := by
  unfold owed
  by_cases open_ : isOwed around documents task = true
  · simp [open_]
  · simp [open_]

theorem ledger_start (around : Surroundings) (documents : List Path) (workers : Nat)
    (harvest : Harvest) : Ledger around documents workers harvest [] (start documents harvest) where
  toCustody := custody_start documents workers harvest
  quiet := rfl
  fits := by simp [start]
  settled := by simp [start, owed]
  readable := by simp
  recorded := by simp [start]
  tally := rfl
  told := by simp [start, orderedFailures]

namespace Ledger

theorem result (ledger : Ledger around documents workers harvest merged pool) {position : Nat}
    {result : TaskResult} (member : (position, .ended result) ∈ pool.tasks) :
    result = match around.failureAt? documents position with
      | some message => .failed message
      | none => .counted := by
  obtain ⟨document, found⟩ := ledger.document member
  have fits := ledger.fits _ member document found
  rw [around.failureAt?_eq found]
  exact fits

theorem turn (ledger : Ledger around documents workers harvest merged pool) {control : Control}
    (before : pool.control ≠ .returned) (after : control ≠ .returned)
    (custody : Custody documents workers { pool with control := control }) :
    Ledger around documents workers harvest merged { pool with control := control } :=
  { ledger with
    toCustody := custody
    told := by
      have told := ledger.told
      rw [if_neg before] at told
      rw [if_neg after]
      exact told }

theorem look (ledger : Ledger around documents workers harvest merged pool)
    (came : pool.step around documents workers .look = some next) :
    Ledger around documents workers harvest merged next := by
  have custody := ledger.toCustody.look came
  obtain ⟨looking, _, same⟩ := step_look came
  rw [if_neg (by simp [ledger.quiet])] at same
  subst same
  exact ledger.turn (by simp [looking]) (by simp) custody

theorem wait {finished : List Nat} (ledger : Ledger around documents workers harvest merged pool)
    (came : pool.step around documents workers (.wait finished) = some next) :
    Ledger around documents workers harvest merged next := by
  have custody := ledger.toCustody.wait came
  obtain ⟨admitting, _, _, _, rfl⟩ := step_wait came
  exact ledger.turn (by simp [admitting]) (by simp) custody

theorem drain (ledger : Ledger around documents workers harvest merged pool)
    (came : pool.step around documents workers .drain = some next) :
    Ledger around documents workers harvest merged next := by
  have custody := ledger.toCustody.drain came
  obtain ⟨looking, _, rfl⟩ := step_drain came
  exact ledger.turn (by simp [looking]) (by simp) custody

theorem leave (ledger : Ledger around documents workers harvest merged pool)
    (came : pool.step around documents workers .leave = some next) :
    Ledger around documents workers harvest merged next := by
  have custody := ledger.toCustody.leave came
  obtain ⟨draining, _, rfl⟩ := step_leave came
  have told := ledger.told
  rw [draining, if_neg (by simp), List.append_nil] at told
  exact { ledger with
    toCustody := custody
    told := congrArg (· ++ pool.orderedFailures) told }

theorem submit (ledger : Ledger around documents workers harvest merged pool)
    (came : pool.step around documents workers .submit = some next) :
    Ledger around documents workers harvest merged next := by
  have custody := ledger.toCustody.submit came
  obtain ⟨entered, rfl⟩ := step_submit came
  have working : pool.control ≠ .returned := by
    rcases entered with ⟨admitting, _⟩ | collected
    · simp [admitting]
    · simp [collected]
  have told := ledger.told
  rw [if_neg working] at told
  exact { ledger with
    toCustody := custody
    fits := by
      intro task member document found
      rcases List.mem_append.mp member with old | new
      · exact ledger.fits task old document found
      · rw [List.mem_singleton.mp new]
        trivial
    settled := by
      have queued : isOwed around documents (pool.submitted, .queued) = true := by
        simp [isOwed, TaskStage.isUnmerged]
      simp only [Pool.submit, owed_append, owed_cons, queued, if_true, List.range_succ]
      rw [← List.append_assoc]
      exact ledger.settled.append_right _
    told := by simpa [Pool.submit] using told }

theorem collected (ledger : Ledger around documents workers harvest merged pool) {position : Nat}
    {control : Control} (came : pool.collect position control = some next) :
    ∃ result, (position, .ended result) ∈ pool.tasks ∧
      next = { pool with
        control := control
        tasks := withoutTask position pool.tasks
        failures := pool.failures ++
          (around.failureAt? documents position).toList.map (Prod.mk position) } := by
  obtain ⟨result, member, same⟩ := collect_eq_some came
  refine ⟨result, member, ?_⟩
  have known := ledger.result member
  cases failing : around.failureAt? documents position with
  | none =>
    rw [failing] at known
    simpa [known, TaskResult.noted] using same
  | some message =>
    rw [failing] at known
    simpa [known, TaskResult.noted] using same

theorem takeBack (ledger : Ledger around documents workers harvest merged pool) {position : Nat}
    {control : Control} (working : pool.control ≠ .returned) (goingOn : control ≠ .returned)
    (came : pool.collect position control = some next) (custody : Custody documents workers next) :
    Ledger around documents workers harvest merged next := by
  obtain ⟨result, member, rfl⟩ := ledger.collected came
  obtain ⟨before, after, split, _, removed, _⟩ := split_tasks ledger.distinct member
  have kept : (withoutTask position pool.tasks).Sublist pool.tasks := List.filter_sublist
  have told := ledger.told
  rw [if_neg working] at told
  exact {
    toCustody := custody
    quiet := ledger.quiet
    fits := fun task member => ledger.fits task (kept.subset member)
    settled := by
      refine List.Perm.trans ?_ ledger.settled
      simp only [removed]
      simp only [split, owed_append, owed_cons, isOwed, TaskStage.isUnmerged, Bool.or_false]
      -- a failure moves from what is owed to what is recorded
      cases failing : around.failureAt? documents position with
      | none => simp
      | some message =>
        apply List.perm_iff_count.mpr
        intro other
        simp only [List.count_append, List.map_append, Option.toList_some, List.map_cons, List.map_nil,
          Option.isSome_some, if_true]
        omega
    readable := ledger.readable
    recorded := by
      intro failure recorded
      rcases List.mem_append.mp recorded with old | new
      · exact ledger.recorded failure old
      · obtain ⟨message, failing, rfl⟩ := List.mem_map.mp new
        exact Option.mem_toList.mp failing
    tally := ledger.tally
    told := by simpa [goingOn] using told }

theorem collect {position : Nat} (ledger : Ledger around documents workers harvest merged pool)
    (came : pool.step around documents workers (.collect position) = some next) :
    Ledger around documents workers harvest merged next := by
  have custody := ledger.toCustody.collect came
  rcases step_collect came with ⟨rest, collecting, came⟩ | ⟨draining, came⟩
  · exact ledger.takeBack (by simp [collecting]) (by simp) came custody
  · exact ledger.takeBack (by simp [draining]) (by simp) came custody

theorem not_stopped (ledger : Ledger around documents workers harvest merged pool) :
    pool.control ≠ .stopping ∧ pool.control ≠ .closing ∧ pool.control ≠ .raised := by
  have order := ledger.order
  refine ⟨?_, ?_, ?_⟩ <;> intro stopped <;> simp [InOrder, stopped, ledger.quiet] at order

end Ledger

/-- A step of a worker merges the document or leaves it owed as before. -/
theorem work_settled {position : Nat} {taken : TaskStep} {document : Path} {stage changed : TaskStage}
    (before after : List (Nat × TaskStage)) (fits : stage.Fits around document)
    (found : documents[position]? = some document)
    (advanced : stage.advance around document false taken = some changed) :
    ((PoolEvent.work position taken).merged?.toList ++
      owed around documents (before ++ (position, changed) :: after)).Perm
        (owed around documents (before ++ (position, stage) :: after)) := by
  simp only [owed_append, owed_cons, isOwed, around.failureAt?_eq found]
  by_cases merging : taken = .merge
  · subst merging
    obtain ⟨readable, _, unmerged, through⟩ := fits.merged advanced
    simpa [readable, unmerged, through, PoolEvent.merged?] using List.perm_middle.symm
  · obtain ⟨_, same⟩ := fits.unmerged advanced merging
    have nothing : (PoolEvent.work position taken).merged? = none := by
      cases taken <;> first | rfl | exact absurd rfl merging
    simp [same, nothing]

theorem work_tally {position : Nat} {taken : TaskStep} {document : Path} {stage changed : TaskStage}
    (fits : stage.Fits around document) (found : documents[position]? = some document)
    (advanced : stage.advance around document false taken = some changed) :
    TaskStage.merged taken stage =
      (PoolEvent.work position taken).merged?.toList.flatMap (around.importedAt documents) ∧
    ∀ other ∈ (PoolEvent.work position taken).merged?.toList,
      around.failureAt? documents other = none := by
  by_cases merging : taken = .merge
  · subst merging
    obtain ⟨readable, names, _⟩ := fits.merged advanced
    simp [PoolEvent.merged?, names, around.importedAt_eq found, around.failureAt?_eq found, readable]
  · obtain ⟨names, _⟩ := fits.unmerged advanced merging
    have nothing : (PoolEvent.work position taken).merged? = none := by
      cases taken <;> first | rfl | exact absurd rfl merging
    simp [names, nothing]

namespace Ledger

theorem work {position : Nat} {taken : TaskStep}
    (ledger : Ledger around documents workers harvest merged pool)
    (came : pool.step around documents workers (.work position taken) = some next) :
    Ledger around documents workers harvest
      (merged ++ (PoolEvent.work position taken).merged?.toList) next := by
  have custody := ledger.toCustody.work came
  obtain ⟨stage, document, changed, member, found, advanced, _, same⟩ := step_work came
  rw [ledger.quiet] at advanced
  have fits := ledger.fits _ member document found
  obtain ⟨before, after, split, replaced, _⟩ := split_tasks ledger.distinct member
  obtain ⟨names, readable⟩ := work_tally fits found advanced
  subst same
  exact {
    toCustody := custody
    quiet := ledger.quiet
    fits := by
      intro task known other within
      rcases mem_setStage known with rfl | ⟨old, _⟩
      · cases found.symm.trans within
        exact fits.advance advanced
      · exact ledger.fits task old other within
    settled := by
      have moved := work_settled before after fits found advanced
      rw [← split] at moved
      refine List.Perm.trans ?_ ledger.settled
      simp only [replaced]
      apply List.perm_iff_count.mpr
      intro other
      have same := moved.count_eq other
      simp only [List.count_append] at same ⊢
      omega
    readable := by
      intro other known
      rcases List.mem_append.mp known with old | new
      · exact ledger.readable other old
      · exact readable other new
    recorded := ledger.recorded
    tally := by
      simp only [ledger.tally, List.flatMap_append, Tally.addAll_append, names]
    told := ledger.told }

/-- Every event of an undisturbed pool keeps the ledger. -/
theorem step {event : PoolEvent} (ledger : Ledger around documents workers harvest merged pool)
    (undisturbed : event.isDisturbance = false)
    (came : pool.step around documents workers event = some next) :
    Ledger around documents workers harvest (merged ++ event.merged?.toList) next := by
  cases event with
  | look => simpa [PoolEvent.merged?] using ledger.look came
  | wait finished => simpa [PoolEvent.merged?] using ledger.wait came
  | submit => simpa [PoolEvent.merged?] using ledger.submit came
  | collect position => simpa [PoolEvent.merged?] using ledger.collect came
  | drain => simpa [PoolEvent.merged?] using ledger.drain came
  | leave => simpa [PoolEvent.merged?] using ledger.leave came
  | dismiss => exact absurd (step_dismiss came).1 ledger.not_stopped.1
  | raise => exact absurd (step_raise came).1 ledger.not_stopped.2.1
  | work position taken => exact ledger.work came
  | cancel => cases undisturbed
  | interrupt => cases undisturbed

end Ledger
end Pool
end UsingCensus
