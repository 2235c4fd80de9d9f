import UsingCensus.Proofs.PoolLedger

namespace UsingCensus

/-- How many steps the work on a document may still take. -/
def TaskStage.remaining : TaskStage → Nat
  | queued => 6
  | started => 5
  | cleared => 4
  | held _ => 3
  | parsed _ => 2
  | returned _ => 1
  | ended _ => 0

theorem TaskStage.remaining_of_advance {around : Surroundings} {document : Path} {cancelled : Bool}
    {step : TaskStep} {stage next : TaskStage}
    (taken : stage.advance around document cancelled step = some next) :
    next.remaining < stage.remaining := by
  cases stage with
  | queued => cases step <;> cases taken; simp [remaining]
  | started =>
    cases step <;> try cases taken
    cases cancelled <;> simp [remaining]
  | cleared =>
    cases step <;> try cases taken
    simp only [TaskStage.advance] at taken
    cases read : around.readSource document <;> rw [read] at taken <;> cases taken <;> simp [remaining]
  | held source => cases step <;> cases taken; simp [remaining]
  | parsed names => cases step <;> cases taken; simp [remaining]
  | returned result => cases step <;> cases taken; simp [remaining]
  | ended result => cases step <;> cases taken

theorem TaskStage.exists_advance (around : Surroundings) (document : Path) (cancelled : Bool)
    {stage : TaskStage} (running : stage.isRunning = true) :
    ∃ step next, step ≠ .start ∧ stage.advance around document cancelled step = some next := by
  cases stage with
  | queued => cases running
  | started => exact ⟨.clear, _, by simp, rfl⟩
  | cleared =>
    cases read : around.readSource document with
    | ok source => exact ⟨.read, .held source, by simp, by simp [advance, read]⟩
    | error fault => exact ⟨.read, _, by simp, by simp only [advance, read]; rfl⟩
  | held source => exact ⟨.parse, _, by simp, rfl⟩
  | parsed names => exact ⟨.merge, _, by simp, rfl⟩
  | returned result => exact ⟨.finish, _, by simp, rfl⟩
  | ended result => cases running

namespace Control

/-- How many events the controller still takes for the document at hand. -/
def remaining : Control → Nat
  | looking => 2
  | admitting => 1
  | draining => 1
  | _ => 0

/-- How many events a fault may still cause. -/
def windingUp : Control → Nat
  | stopping => 2
  | closing => 1
  | raised => 0
  | _ => 3

theorem windingUp_of_isWorking {control : Control} (working : control.isWorking = true) :
    control.windingUp = 3 := by
  cases control <;> first | rfl | cases working

end Control

namespace Pool

variable {around : Surroundings} {documents : List Path} {workers : Nat} {harvest : Harvest}
  {merged : List Nat} {pool next : Pool}

/-- What is still to be done about the tasks, collecting included. -/
def load : List (Nat × TaskStage) → Nat
  | [] => 0
  | task :: rest => task.2.remaining + 1 + load rest

/-- How many events may still come: no document takes more than ten, and the end takes two. -/
def remaining (documents : List Path) (pool : Pool) : Nat :=
  10 * (documents.length - pool.submitted) + load pool.tasks + pool.control.remaining

theorem load_append (first second : List (Nat × TaskStage)) :
    load (first ++ second) = load first + load second := by
  induction first with
  | nil => exact (Nat.zero_add _).symm
  | cons task rest ih =>
    rw [List.cons_append, load, load, ih]
    omega

theorem load_dismiss (tasks : List (Nat × TaskStage)) :
    load (tasks.map fun task => if task.2 = .queued then (task.1, .ended .cancelled) else task) ≤
      load tasks := by
  induction tasks with
  | nil => exact Nat.le_refl _
  | cons task rest ih =>
    rw [List.map_cons, load, load]
    split
    · simp only [TaskStage.remaining]
      omega
    · omega

theorem remaining_start (documents : List Path) (harvest : Harvest) :
    (start documents harvest).remaining documents ≤ 10 * documents.length + 2 := by
  cases documents <;> simp [remaining, start, load, Control.remaining]

theorem remaining_stop_lt (working : pool.control.isWorking = true) :
    pool.stop.remaining documents + pool.stop.control.windingUp <
      pool.remaining documents + pool.control.windingUp := by
  rw [Control.windingUp_of_isWorking working]
  simp only [remaining, stop, Control.remaining, Control.windingUp]
  omega

namespace Custody

theorem remaining_collect {position : Nat} {control : Control} (custody : Custody documents workers pool)
    (came : pool.collect position control = some next) (working : pool.control.isWorking = true)
    (goingOn : control.isWorking = true) (same : control.remaining = pool.control.remaining) :
    next.remaining documents + next.control.windingUp <
      pool.remaining documents + pool.control.windingUp := by
  obtain ⟨result, member, rfl⟩ := collect_eq_some came
  split
  · exact remaining_stop_lt working
  · obtain ⟨before, after, split, _, removed, _⟩ := split_tasks custody.distinct member
    rw [Control.windingUp_of_isWorking working, Control.windingUp_of_isWorking goingOn]
    simp only [remaining, removed, same]
    simp only [split, load_append, load]
    omega

/-- Every event but a cancellation leaves less to do. -/
theorem remaining_lt {event : PoolEvent} (custody : Custody documents workers pool)
    (other : event ≠ .cancel) (came : pool.step around documents workers event = some next) :
    next.remaining documents + next.control.windingUp <
      pool.remaining documents + pool.control.windingUp := by
  have order := custody.order
  cases event with
  | look =>
    obtain ⟨looking, _, rfl⟩ := step_look came
    split
    · exact remaining_stop_lt (by simp [looking, Control.isWorking])
    · simp [remaining, looking, Control.remaining, Control.windingUp]
  | wait finished =>
    obtain ⟨admitting, _, _, _, rfl⟩ := step_wait came
    simp [remaining, admitting, Control.remaining, Control.windingUp]
  | submit =>
    obtain ⟨entered, rfl⟩ := step_submit came
    have more : pool.submitted < documents.length ∧ pool.control.windingUp = 3 := by
      rcases entered with ⟨admitting, _⟩ | collected
      · exact ⟨by simpa only [InOrder, admitting] using order, by simp [admitting, Control.windingUp]⟩
      · simp only [InOrder, collected] at order
        exact ⟨order.1, by simp [collected, Control.windingUp]⟩
    rw [more.2]
    simp only [remaining, Pool.submit, load_append, load, Control.remaining, TaskStage.remaining,
      Control.windingUp]
    omega
  | collect position =>
    rcases step_collect came with ⟨rest, collecting, came⟩ | ⟨draining, came⟩
    · exact custody.remaining_collect came (by simp [collecting, Control.isWorking]) rfl
        (by simp [collecting, Control.remaining])
    · exact custody.remaining_collect came (by simp [draining, Control.isWorking]) rfl (by simp [draining])
  | drain =>
    obtain ⟨looking, _, rfl⟩ := step_drain came
    simp [remaining, looking, Control.remaining, Control.windingUp]
  | leave =>
    obtain ⟨draining, _, rfl⟩ := step_leave came
    simp [remaining, Pool.leave, draining, Control.remaining, Control.windingUp]
  | dismiss =>
    obtain ⟨stopping, rfl⟩ := step_dismiss came
    have given := load_dismiss pool.tasks
    simp only [remaining, Pool.dismiss, stopping, Control.remaining, Control.windingUp]
    omega
  | raise =>
    obtain ⟨closing, _, rfl⟩ := step_raise came
    simp [remaining, closing, Control.remaining, Control.windingUp]
  | work position taken =>
    obtain ⟨stage, document, changed, member, _, advanced, _, rfl⟩ := step_work came
    obtain ⟨before, after, split, replaced, _⟩ := split_tasks custody.distinct member
    have less := TaskStage.remaining_of_advance advanced
    simp only [remaining, replaced]
    simp only [split, load_append, load]
    omega
  | cancel => exact absurd rfl other
  | interrupt =>
    obtain ⟨working, rfl⟩ := step_interrupt came
    exact remaining_stop_lt working

/-! ### There is always something that can be done -/

theorem exists_step_of_running (custody : Custody documents workers pool)
    {task : Nat × TaskStage} (member : task ∈ pool.tasks) (running : task.2.isRunning = true) :
    ∃ event next, event.isDisturbance = false ∧
      pool.step around documents workers event = some next := by
  obtain ⟨position, stage⟩ := task
  obtain ⟨document, found⟩ := custody.document member
  obtain ⟨_, _, _, _, _, known⟩ := split_tasks custody.distinct member
  obtain ⟨step, changed, other, advanced⟩ := stage.exists_advance around document pool.cancelled running
  have worked : ∃ next, pool.work around documents position step = some next := by
    unfold Pool.work
    simp only [known, found, advanced, Option.map_some]
    exact ⟨_, rfl⟩
  obtain ⟨next, worked⟩ := worked
  refine ⟨.work position step, next, rfl, ?_⟩
  cases step with
  | start => exact absurd rfl other
  | _ => exact worked

/-- As long as a task has not ended, a worker can go on: with all tasks queued, a worker is free. -/
theorem exists_step_of_ongoing (custody : Custody documents workers pool)
    (positive : 0 < workers) {task : Nat × TaskStage} (member : task ∈ pool.tasks)
    (ongoing : task.2.hasEnded = false) :
    ∃ event next, event.isDisturbance = false ∧
      pool.step around documents workers event = some next := by
  by_cases idle : pool.running = 0
  · obtain ⟨position, stage⟩ := task
    have waiting : stage.isRunning = false := by
      have none := List.countP_eq_zero.mp idle _ member
      simpa using none
    have queued : stage = .queued := by
      cases stage with
      | queued => rfl
      | ended result => cases ongoing
      | _ => cases waiting
    subst queued
    obtain ⟨document, found⟩ := custody.document member
    obtain ⟨_, _, _, _, _, known⟩ := split_tasks custody.distinct member
    have worked : ∃ next, pool.work around documents position .start = some next := by
      unfold Pool.work
      simp only [known, found, TaskStage.advance, Option.map_some]
      exact ⟨_, rfl⟩
    obtain ⟨next, worked⟩ := worked
    exact ⟨.work position .start, next, rfl, by simpa [Pool.step, idle, positive] using worked⟩
  · obtain ⟨other, member, running⟩ := List.countP_pos_iff.mp (Nat.pos_of_ne_zero idle)
    exact custody.exists_step_of_running member running

theorem exists_collect (custody : Custody documents workers pool) {position : Nat}
    {result : TaskResult} (member : (position, .ended result) ∈ pool.tasks) (control : Control) :
    ∃ next, pool.collect position control = some next := by
  obtain ⟨_, _, _, _, _, known⟩ := split_tasks custody.distinct member
  unfold Pool.collect
  rw [known]
  cases result <;> exact ⟨_, rfl⟩

/-- Until a pool returns or its fault has gone out there is an event that can come. -/
theorem exists_step (custody : Custody documents workers pool) (positive : 0 < workers)
    (unfinished : pool.control ≠ .returned) (unraised : pool.control ≠ .raised) :
    ∃ event next, event.isDisturbance = false ∧
      pool.step around documents workers event = some next := by
  have order := custody.order
  cases at_ : pool.control with
  | looking =>
    rcases Nat.lt_or_eq_of_le custody.bounded with more | all
    · exact ⟨.look, _, rfl, by simp only [Pool.step, at_, if_pos more]; rfl⟩
    · exact ⟨.drain, _, rfl, by simp only [Pool.step, at_, if_pos all]; rfl⟩
  | admitting =>
    by_cases room : pool.tasks.length < depth * workers
    · exact ⟨.submit, _, rfl, by simp only [Pool.step, at_, if_pos room]; rfl⟩
    · have full : depth * workers ≤ pool.tasks.length := Nat.le_of_not_lt room
      have some : 0 < pool.tasks.length := Nat.lt_of_lt_of_le (Nat.mul_pos (by decide) positive) full
      obtain ⟨⟨position, stage⟩, member⟩ := List.exists_mem_of_length_pos some
      cases ended : stage.hasEnded with
      | false => exact custody.exists_step_of_ongoing positive member ended
      | true =>
        have finished : pool.hasFinished position = true := by
          cases stage <;> first | exact hasFinished_iff.mpr ⟨_, member⟩ | cases ended
        exact ⟨.wait [position], _, rfl, by simp [Pool.step, at_, full, finished]; rfl⟩
  | collecting finished =>
    cases finished with
    | nil => exact ⟨.submit, _, rfl, by simp only [Pool.step, at_]; rfl⟩
    | cons position rest =>
      simp only [InOrder, at_] at order
      obtain ⟨result, member⟩ := hasFinished_iff.mp (order.2.2.1 position List.mem_cons_self)
      obtain ⟨next, came⟩ := custody.exists_collect member (.collecting rest)
      exact ⟨.collect position, next, rfl, by simpa [Pool.step, at_] using came⟩
  | draining =>
    cases out : pool.tasks with
    | nil => exact ⟨.leave, _, rfl, by simp only [Pool.step, at_, if_pos out]; rfl⟩
    | cons task rest =>
      have member : task ∈ pool.tasks := by simp [out]
      obtain ⟨position, stage⟩ := task
      cases ended : stage.hasEnded with
      | false => exact custody.exists_step_of_ongoing positive member ended
      | true =>
        cases stage <;> try cases ended
        obtain ⟨next, came⟩ := custody.exists_collect member .draining
        exact ⟨.collect position, next, rfl, by simpa [Pool.step, at_] using came⟩
  | stopping => exact ⟨.dismiss, _, rfl, by simp only [Pool.step, at_]; rfl⟩
  | closing =>
    by_cases idle : pool.running = 0
    · exact ⟨.raise, _, rfl, by simp only [Pool.step, at_, if_pos idle]; rfl⟩
    · obtain ⟨task, member, running⟩ := List.countP_pos_iff.mp (Nat.pos_of_ne_zero idle)
      exact custody.exists_step_of_running member running
  | returned => exact absurd at_ unfinished
  | raised => exact absurd at_ unraised

end Custody

namespace Ledger

theorem windingUp (ledger : Ledger around documents workers harvest merged pool) :
    pool.control.windingUp = 3 := by
  obtain ⟨unstopped, unclosed, unraised⟩ := ledger.not_stopped
  cases at_ : pool.control <;> first | rfl | contradiction

theorem remaining_lt {event : PoolEvent}
    (ledger : Ledger around documents workers harvest merged pool)
    (undisturbed : event.isDisturbance = false)
    (came : pool.step around documents workers event = some next) :
    next.remaining documents < pool.remaining documents := by
  have other : event ≠ .cancel := by
    rintro rfl
    cases undisturbed
  have less := ledger.toCustody.remaining_lt other came
  rw [ledger.windingUp, (ledger.step undisturbed came).windingUp] at less
  omega

theorem exists_step (ledger : Ledger around documents workers harvest merged pool)
    (positive : 0 < workers) (unfinished : pool.control ≠ .returned) :
    ∃ event next, event.isDisturbance = false ∧
      pool.step around documents workers event = some next :=
  ledger.toCustody.exists_step positive unfinished ledger.not_stopped.2.2

end Ledger
end Pool
end UsingCensus
