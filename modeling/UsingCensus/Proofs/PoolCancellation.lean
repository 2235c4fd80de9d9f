import UsingCensus.Proofs.PoolProgress

namespace UsingCensus

namespace TaskStage

/-- Stages from which a cancelled task comes to no reading. -/
def isBarren : TaskStage → Bool
  | queued => true
  | started => true
  | returned .cancelled => true
  | ended .cancelled => true
  | _ => false

end TaskStage

namespace TaskStep

/-- Steps that read a document or change the counts. -/
def isReading : TaskStep → Bool
  | read => true
  | parse => true
  | merge => true
  | _ => false

end TaskStep

namespace TaskStage

theorem isBarren_of_advance {around : Surroundings} {document : Path} {step : TaskStep}
    {stage next : TaskStage} (barren : stage.isBarren = true)
    (taken : stage.advance around document true step = some next) :
    step.isReading = false ∧ next.isBarren = true := by
  cases stage with
  | queued => cases step <;> cases taken; exact ⟨rfl, rfl⟩
  | started => cases step <;> cases taken; exact ⟨rfl, rfl⟩
  | returned result =>
    cases result <;> try cases barren
    cases step <;> cases taken
    exact ⟨rfl, rfl⟩
  | ended result => cases step <;> cases taken
  | _ => cases barren

end TaskStage

namespace Pool

variable {around : Surroundings} {documents : List Path} {workers : Nat} {pool next : Pool}

/-- What an event can do to a pool: a cancellation is never taken back, only merging changes the counts, and
a task was out before unless it is handed out, given up or worked on by the event. -/
structure Succeeds (around : Surroundings) (event : PoolEvent) (pool next : Pool) : Prop where
  cancelled : pool.cancelled = true → next.cancelled = true
  counts : (∀ position, event ≠ .work position .merge) → next.harvest.tally = pool.harvest.tally
  origin : ∀ position stage, (position, stage) ∈ next.tasks →
    (position, stage) ∈ pool.tasks ∨ stage = .queued ∨ stage = .ended .cancelled ∨
      ∃ taken document before, event = .work position taken ∧ (position, before) ∈ pool.tasks ∧
        before.advance around document pool.cancelled taken = some stage

theorem Succeeds.of_subset {event : PoolEvent} (cancelled : pool.cancelled = true → next.cancelled = true)
    (counts : next.harvest.tally = pool.harvest.tally) (kept : next.tasks ⊆ pool.tasks) :
    Succeeds around event pool next :=
  ⟨cancelled, fun _ => counts, fun _ _ member => .inl (kept member)⟩

theorem succeeds_stop (event : PoolEvent) (pool : Pool) : Succeeds around event pool pool.stop :=
  .of_subset (fun _ => rfl) rfl (List.Subset.refl _)

theorem succeeds_submit (event : PoolEvent) (pool : Pool) : Succeeds around event pool pool.submit where
  cancelled := id
  counts := fun _ => rfl
  origin := by
    intro position stage member
    rcases List.mem_append.mp member with old | new
    · exact .inl old
    · cases List.mem_singleton.mp new
      exact .inr (.inl rfl)

theorem succeeds_dismiss (event : PoolEvent) (pool : Pool) : Succeeds around event pool pool.dismiss where
  cancelled := id
  counts := fun _ => rfl
  origin := by
    intro position stage member
    obtain ⟨old, found, same⟩ := List.mem_map.mp member
    split at same
    · cases same
      exact .inr (.inr (.inl rfl))
    · exact .inl (same ▸ found)

theorem succeeds_collect {event : PoolEvent} {position : Nat} {control : Control}
    (came : pool.collect position control = some next) : Succeeds around event pool next := by
  obtain ⟨_, _, rfl⟩ := collect_eq_some came
  split
  · exact succeeds_stop event pool
  · exact .of_subset id rfl (List.filter_sublist.subset)

theorem succeeds_work {position : Nat} {taken : TaskStep}
    (came : pool.step around documents workers (.work position taken) = some next) :
    Succeeds around (.work position taken) pool next := by
  obtain ⟨before, document, changed, found, _, advanced, _, rfl⟩ := step_work came
  refine ⟨id, fun other => ?_, fun place stage member => ?_⟩
  · have nothing : TaskStage.merged taken before = [] := by
      cases taken <;> first | rfl | exact absurd rfl (other position)
    simp [nothing, Tally.addAll]
  · rcases mem_setStage member with same | ⟨old, _⟩
    · cases same
      exact .inr (.inr (.inr ⟨taken, document, before, rfl, found, advanced⟩))
    · exact .inl old

theorem succeeds_step {event : PoolEvent} (came : pool.step around documents workers event = some next) :
    Succeeds around event pool next := by
  cases event with
  | look =>
    obtain ⟨_, _, rfl⟩ := step_look came
    split
    · exact succeeds_stop _ pool
    · exact .of_subset id rfl (List.Subset.refl _)
  | wait finished =>
    obtain ⟨_, _, _, _, rfl⟩ := step_wait came
    exact .of_subset id rfl (List.Subset.refl _)
  | submit =>
    obtain ⟨_, rfl⟩ := step_submit came
    exact succeeds_submit _ pool
  | collect position =>
    rcases step_collect came with ⟨_, _, came⟩ | ⟨_, came⟩ <;> exact succeeds_collect came
  | drain =>
    obtain ⟨_, _, rfl⟩ := step_drain came
    exact .of_subset id rfl (List.Subset.refl _)
  | leave =>
    obtain ⟨_, _, rfl⟩ := step_leave came
    exact .of_subset id rfl (List.Subset.refl _)
  | dismiss =>
    obtain ⟨_, rfl⟩ := step_dismiss came
    exact succeeds_dismiss _ pool
  | raise =>
    obtain ⟨_, _, rfl⟩ := step_raise came
    exact .of_subset id rfl (List.Subset.refl _)
  | work position taken => exact succeeds_work came
  | cancel =>
    rw [step_cancel came]
    exact .of_subset (fun _ => rfl) rfl (List.Subset.refl _)
  | interrupt =>
    rw [(step_interrupt came).2]
    exact succeeds_stop _ pool

/-- No task of a position has got beyond the check that a cancelled pool makes it fail. -/
def Barren (position : Nat) (pool : Pool) : Prop :=
  ∀ stage, (position, stage) ∈ pool.tasks → stage.isBarren = true

namespace Barren

variable {position : Nat} {event : PoolEvent}

theorem step (barren : Barren position pool) (cancelled : pool.cancelled = true)
    (came : pool.step around documents workers event = some next) : Barren position next := by
  intro stage member
  rcases (succeeds_step came).origin position stage member with
    old | rfl | rfl | ⟨taken, document, before, _, found, advanced⟩
  · exact barren stage old
  · rfl
  · rfl
  · rw [cancelled] at advanced
    exact (TaskStage.isBarren_of_advance (barren before found) advanced).2

theorem not_isReading {taken : TaskStep} (barren : Barren position pool)
    (cancelled : pool.cancelled = true)
    (came : pool.step around documents workers (.work position taken) = some next) :
    taken.isReading = false := by
  obtain ⟨before, document, _, found, _, advanced, _⟩ := step_work came
  rw [cancelled] at advanced
  exact (TaskStage.isBarren_of_advance (barren before found) advanced).1

end Barren

/-- Nothing of a pool whose fault has gone out is queued or in the hands of a worker. -/
theorem Custody.raised (custody : Custody documents workers pool) (raised : pool.control = .raised) :
    pool.cancelled = true ∧ ∀ task ∈ pool.tasks, task.2.hasEnded = true := by
  have order := custody.order
  simpa only [InOrder, raised] using order

end Pool
end UsingCensus
