import UsingCensus.Proofs.Pools

namespace UsingCensus

namespace TaskStage

theorem ne_queued_of_advance {around : Surroundings} {document : Path} {cancelled : Bool}
    {step : TaskStep} {stage next : TaskStage}
    (taken : stage.advance around document cancelled step = some next) : next ≠ .queued := by
  rintro rfl
  cases stage with
  | started => cases step <;> cases cancelled <;> cases taken
  | cleared =>
    cases step <;> try cases taken
    simp only [advance] at taken
    cases read : around.readSource document <;> rw [read] at taken <;> cases taken
  | _ => cases step <;> cases taken

end TaskStage

namespace Pool

/-- What the controller is about agrees with what is out. A pool that was stopped is cancelled, and nothing
is out any more when its fault goes out. -/
def InOrder (documents : List Path) (workers : Nat) (pool : Pool) : Prop :=
  match pool.control with
  | .looking => True
  | .admitting => pool.submitted < documents.length
  | .collecting finished => pool.submitted < documents.length ∧ finished.Nodup ∧
      (∀ position ∈ finished, pool.hasFinished position) ∧
      pool.tasks.length < depth * workers + finished.length
  | .draining => pool.submitted = documents.length
  | .stopping => pool.cancelled = true
  | .closing => pool.cancelled = true ∧ ∀ task ∈ pool.tasks, task.2 ≠ .queued
  | .returned => pool.submitted = documents.length ∧ pool.tasks = []
  | .raised => pool.cancelled = true ∧ ∀ task ∈ pool.tasks, task.2.hasEnded = true

structure Custody (documents : List Path) (workers : Nat) (pool : Pool) : Prop where
  bounded : pool.submitted ≤ documents.length
  within : pool.tasks.length ≤ depth * workers
  busy : pool.running ≤ workers
  distinct : (pool.tasks.map Prod.fst).Nodup
  handed : ∀ task ∈ pool.tasks, task.1 < pool.submitted
  order : pool.InOrder documents workers

variable {around : Surroundings} {documents : List Path} {workers : Nat} {pool next : Pool}

theorem custody_start (documents : List Path) (workers : Nat) (harvest : Harvest) :
    Custody documents workers (start documents harvest) where
  bounded := Nat.zero_le _
  within := Nat.zero_le _
  busy := Nat.zero_le _
  distinct := List.nodup_nil
  handed := by simp [start]
  order := by
    unfold InOrder start
    cases documents with
    | nil => exact ⟨rfl, rfl⟩
    | cons document rest => trivial

theorem work_busy {position : Nat} {taken : TaskStep} {document : Path} {stage changed : TaskStage}
    {before after : List (Nat × TaskStage)} {cancelled : Bool}
    (busy : (before ++ (position, stage) :: after).countP (fun task => task.2.isRunning) ≤ workers)
    (advanced : stage.advance around document cancelled taken = some changed)
    (free : taken = .start →
      (before ++ (position, stage) :: after).countP (fun task => task.2.isRunning) < workers) :
    (before ++ (position, changed) :: after).countP (fun task => task.2.isRunning) ≤ workers := by
  simp only [List.countP_append, List.countP_cons] at busy free ⊢
  by_cases starting : taken = .start
  · have room := free starting
    split <;> omega
  · rw [if_pos (TaskStage.isRunning_of_advance advanced starting)] at busy
    split <;> omega

theorem mem_setStage {position : Nat} {changed : TaskStage} {task : Nat × TaskStage}
    {tasks : List (Nat × TaskStage)} (member : task ∈ setStage position changed tasks) :
    task = (position, changed) ∨ task ∈ tasks ∧ task.1 ≠ position := by
  obtain ⟨old, found, same⟩ := List.mem_map.mp member
  by_cases here : old.1 = position
  · rw [if_pos here] at same
    exact .inl same.symm
  · rw [if_neg here] at same
    exact .inr ⟨same ▸ found, same ▸ here⟩

theorem InOrder.work {position : Nat} {taken : TaskStep} {document : Path} {stage changed : TaskStage}
    {tally : Tally} (order : InOrder documents workers pool)
    (distinct : (pool.tasks.map Prod.fst).Nodup) (member : (position, stage) ∈ pool.tasks)
    (advanced : stage.advance around document pool.cancelled taken = some changed) :
    InOrder documents workers { pool with
      tasks := setStage position changed pool.tasks
      harvest := { pool.harvest with tally := tally } } := by
  have ongoing := TaskStage.not_hasEnded_of_advance advanced
  cases at_ : pool.control <;> simp only [InOrder, at_] at order ⊢
  case admitting => exact order
  case draining => exact order
  case stopping => exact order
  case closing =>
    refine ⟨order.1, fun task found => ?_⟩
    rcases mem_setStage found with rfl | ⟨old, _⟩
    · exact TaskStage.ne_queued_of_advance advanced
    · exact order.2 task old
  case returned => simp [order.2] at member
  case raised => simp [order.2 _ member] at ongoing
  case collecting finished =>
    obtain ⟨more, apart, ended, room⟩ := order
    refine ⟨more, apart, ?_, by simpa [setStage] using room⟩
    intro other collected
    obtain ⟨result, found⟩ := hasFinished_iff.mp (ended other collected)
    have different : other ≠ position := by
      rintro rfl
      obtain ⟨_, _, _, _, _, once⟩ := split_tasks distinct member
      obtain ⟨_, _, _, _, _, again⟩ := split_tasks distinct found
      rw [once] at again
      cases again
      cases ongoing
    refine hasFinished_iff.mpr ⟨result, List.mem_map.mpr ⟨_, found, ?_⟩⟩
    rw [if_neg different]

namespace Custody

theorem document (custody : Custody documents workers pool) {task : Nat × TaskStage}
    (member : task ∈ pool.tasks) : ∃ document, documents[task.1]? = some document := by
  have inside := custody.handed task member
  have bounded := custody.bounded
  exact ⟨documents[task.1], List.getElem?_eq_getElem (by omega)⟩

theorem fresh (custody : Custody documents workers pool) :
    pool.submitted ∉ pool.tasks.map Prod.fst := by
  intro member
  obtain ⟨task, found, same⟩ := List.mem_map.mp member
  have below := custody.handed task found
  omega

theorem stop (custody : Custody documents workers pool) : Custody documents workers pool.stop where
  bounded := custody.bounded
  within := custody.within
  busy := custody.busy
  distinct := custody.distinct
  handed := custody.handed
  order := rfl

theorem look (custody : Custody documents workers pool)
    (came : pool.step around documents workers .look = some next) :
    Custody documents workers next := by
  obtain ⟨_, more, rfl⟩ := step_look came
  split
  · exact custody.stop
  · exact { custody with order := more }

theorem wait {finished : List Nat} (custody : Custody documents workers pool)
    (came : pool.step around documents workers (.wait finished) = some next) :
    Custody documents workers next := by
  obtain ⟨admitting, some, distinct, ended, rfl⟩ := step_wait came
  have more := custody.order
  simp only [InOrder, admitting] at more
  have within := custody.within
  have positive := List.length_pos_iff.mpr some
  exact { custody with order := ⟨more, distinct, ended, by simp only; omega⟩ }

theorem drain (custody : Custody documents workers pool)
    (came : pool.step around documents workers .drain = some next) :
    Custody documents workers next := by
  obtain ⟨_, all, rfl⟩ := step_drain came
  exact { custody with order := all }

theorem leave (custody : Custody documents workers pool)
    (came : pool.step around documents workers .leave = some next) :
    Custody documents workers next := by
  obtain ⟨draining, none, rfl⟩ := step_leave came
  have all := custody.order
  simp only [InOrder, draining] at all
  exact { custody with order := ⟨all, none⟩ }

theorem submit (custody : Custody documents workers pool)
    (came : pool.step around documents workers .submit = some next) :
    Custody documents workers next := by
  obtain ⟨entered, rfl⟩ := step_submit came
  have order := custody.order
  have room : pool.submitted < documents.length ∧ pool.tasks.length < depth * workers := by
    rcases entered with ⟨admitting, room⟩ | collected
    · simp only [InOrder, admitting] at order
      exact ⟨order, room⟩
    · simp only [InOrder, collected] at order
      exact ⟨order.1, by simpa using order.2.2.2⟩
  obtain ⟨more, room⟩ := room
  exact {
    bounded := more
    within := by simp only [Pool.submit, List.length_append, List.length_singleton]; omega
    busy := by
      have busy := custody.busy
      unfold running at busy ⊢
      simpa [Pool.submit, List.countP_append, TaskStage.isRunning] using busy
    distinct := by
      simp only [Pool.submit, List.map_append, List.map_cons, List.map_nil]
      exact List.nodup_append.mpr ⟨custody.distinct, by simp, by
        rintro position member other found rfl
        exact custody.fresh (List.mem_singleton.mp found ▸ member)⟩
    handed := by
      intro task member
      rcases List.mem_append.mp member with old | new
      · exact Nat.lt_succ_of_lt (custody.handed task old)
      · rw [List.mem_singleton.mp new]
        exact Nat.lt_succ_self _
    order := trivial }

theorem takeBack (custody : Custody documents workers pool) {position : Nat} {control : Control}
    (came : pool.collect position control = some next)
    (order : InOrder documents workers
      { pool with control := control, tasks := withoutTask position pool.tasks }) :
    Custody documents workers next := by
  obtain ⟨result, member, rfl⟩ := collect_eq_some came
  have kept : (withoutTask position pool.tasks).Sublist pool.tasks := List.filter_sublist
  split
  · exact custody.stop
  · exact {
      bounded := custody.bounded
      within := Nat.le_trans kept.length_le custody.within
      busy := Nat.le_trans kept.countP_le custody.busy
      distinct := custody.distinct.sublist (kept.map _)
      handed := fun task member => custody.handed task (kept.subset member)
      order := order }

theorem collect {position : Nat} (custody : Custody documents workers pool)
    (came : pool.step around documents workers (.collect position) = some next) :
    Custody documents workers next := by
  have order := custody.order
  rcases step_collect came with ⟨rest, collecting, came⟩ | ⟨draining, came⟩
  · refine custody.takeBack came ?_
    simp only [InOrder, collecting] at order
    obtain ⟨more, distinct, ended, room⟩ := order
    obtain ⟨absent, distinct⟩ := List.nodup_cons.mp distinct
    refine ⟨more, distinct, ?_, ?_⟩
    · intro other member
      obtain ⟨result, found⟩ := hasFinished_iff.mp (ended other (List.mem_cons_of_mem _ member))
      refine hasFinished_iff.mpr ⟨result, List.mem_filter.mpr ⟨found, ?_⟩⟩
      have apart : other ≠ position := fun same => absent (same ▸ member)
      simpa using apart
    · obtain ⟨result, found⟩ := hasFinished_iff.mp (ended position List.mem_cons_self)
      obtain ⟨before, after, split, _, removed, _⟩ := split_tasks custody.distinct found
      simp only [removed]
      simp only [split, List.length_append, List.length_cons] at room ⊢
      omega
  · refine custody.takeBack came ?_
    simp only [InOrder, draining] at order
    exact order

theorem dismiss (custody : Custody documents workers pool)
    (came : pool.step around documents workers .dismiss = some next) :
    Custody documents workers next := by
  obtain ⟨stopping, rfl⟩ := step_dismiss came
  have cancelled := custody.order
  simp only [InOrder, stopping] at cancelled
  have places : pool.dismiss.tasks.map Prod.fst = pool.tasks.map Prod.fst := by
    simp only [Pool.dismiss, List.map_map]
    refine List.map_congr_left fun task _ => ?_
    simp only [Function.comp_apply]
    split <;> rfl
  exact {
    bounded := custody.bounded
    within := by simpa [Pool.dismiss] using custody.within
    busy := by
      refine Nat.le_trans ?_ custody.busy
      unfold running
      rw [Pool.dismiss, List.countP_map]
      refine List.countP_mono_left fun task _ running => ?_
      simp only [Function.comp_apply] at running
      split at running
      · cases running
      · exact running
    distinct := places ▸ custody.distinct
    handed := by
      intro task member
      obtain ⟨old, found, same⟩ := List.mem_map.mp (places ▸ List.mem_map_of_mem member)
      exact same ▸ custody.handed old found
    order := by
      refine ⟨cancelled, fun task member => ?_⟩
      obtain ⟨old, _, rfl⟩ := List.mem_map.mp member
      split
      · simp
      · assumption }

/-- When a fault goes out no worker is busy and no document waits for one, so all work has ended. -/
theorem raise (custody : Custody documents workers pool)
    (came : pool.step around documents workers .raise = some next) :
    Custody documents workers next := by
  obtain ⟨closing, idle, rfl⟩ := step_raise came
  have order := custody.order
  simp only [InOrder, closing] at order
  refine { custody with order := ⟨order.1, fun task member => ?_⟩ }
  have unqueued := order.2 task member
  have resting : task.2.isRunning = false := by simpa using List.countP_eq_zero.mp idle task member
  cases stage : task.2 with
  | queued => exact absurd stage unqueued
  | ended result => rfl
  | _ => simp [stage, TaskStage.isRunning] at resting

theorem work {position : Nat} {taken : TaskStep} (custody : Custody documents workers pool)
    (came : pool.step around documents workers (.work position taken) = some next) :
    Custody documents workers next := by
  obtain ⟨stage, document, changed, member, _, advanced, free, rfl⟩ := step_work came
  obtain ⟨before, after, split, replaced, _⟩ := split_tasks custody.distinct member
  have kept : (setStage position changed pool.tasks).map Prod.fst = pool.tasks.map Prod.fst := by
    rw [replaced]
    simp [split]
  exact {
    bounded := custody.bounded
    within := by simpa [setStage] using custody.within
    busy := by
      have busy := custody.busy
      unfold running at busy free ⊢
      simp only [replaced]
      rw [split] at busy free
      exact work_busy busy advanced free
    distinct := kept ▸ custody.distinct
    handed := by
      intro task known
      have position : task.1 ∈ pool.tasks.map Prod.fst := kept ▸ List.mem_map_of_mem known
      obtain ⟨old, found, same⟩ := List.mem_map.mp position
      exact same ▸ custody.handed old found
    order := custody.order.work custody.distinct member advanced }

theorem cancel (custody : Custody documents workers pool) :
    Custody documents workers { pool with cancelled := true } where
  bounded := custody.bounded
  within := custody.within
  busy := custody.busy
  distinct := custody.distinct
  handed := custody.handed
  order := by
    have order := custody.order
    cases at_ : pool.control <;> simp only [InOrder, at_] at order ⊢
    case admitting => exact order
    case collecting => exact order
    case draining => exact order
    case closing => exact ⟨trivial, order.2⟩
    case returned => exact order
    case raised => exact ⟨trivial, order.2⟩

/-- Every event keeps the custody. -/
theorem step {event : PoolEvent} (custody : Custody documents workers pool)
    (came : pool.step around documents workers event = some next) :
    Custody documents workers next := by
  cases event with
  | look => exact custody.look came
  | wait finished => exact custody.wait came
  | submit => exact custody.submit came
  | collect position => exact custody.collect came
  | drain => exact custody.drain came
  | leave => exact custody.leave came
  | dismiss => exact custody.dismiss came
  | raise => exact custody.raise came
  | work position taken => exact custody.work came
  | cancel =>
    rw [step_cancel came]
    exact custody.cancel
  | interrupt =>
    rw [(step_interrupt came).2]
    exact custody.stop

end Custody
end Pool
end UsingCensus
