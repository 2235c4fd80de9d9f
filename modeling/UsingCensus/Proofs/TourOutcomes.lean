import UsingCensus.Proofs.Disturbances
import UsingCensus.Proofs.Schedules
import UsingCensus.Proofs.Tours

namespace UsingCensus

/-- What a tour that nothing disturbs comes to from a stage, given what its documents yield. -/
inductive TourStage.Comes (around : Surroundings) (modules : List GrammarModule) (options : CensusOptions) :
    TourStage → Except CensusFault Census → Prop
  | arrived {milestone : Milestone} {result : Except CensusFault Census}
      (later : Comes around modules options (.cleared milestone) result) :
      Comes around modules options (.arrived milestone) result
  | cleared {milestone : Milestone} {result : Except CensusFault Census}
      (later : Comes around modules options (milestone.proceed around modules options) result) :
      Comes around modules options (.cleared milestone) result
  | reading {room : ReadingRoom} {result : Except CensusFault Census}
      (later : Comes around modules options (.arrived (.harvest room.goal room.loading room.documents
        (around.reap Harvest.empty room.documents))) result) :
      Comes around modules options (.reading room) result
  | ended {result : Except CensusFault Census} : Comes around modules options (.ended result) result

namespace TourStage

variable {around : Surroundings} {modules : List GrammarModule} {options : CensusOptions}

theorem Comes.unique {stage : TourStage} {first second : Except CensusFault Census}
    (one : stage.Comes around modules options first) (other : stage.Comes around modules options second) :
    first = second := by
  induction one with
  | arrived _ ih =>
    cases other with
    | arrived later => exact ih later
  | cleared _ ih =>
    cases other with
    | cleared later => exact ih later
  | reading _ ih =>
    cases other with
    | reading later => exact ih later
  | ended =>
    cases other
    rfl

/-- The census that reads the documents one by one takes the phases in their order. -/
theorem comes_target (goal : Target) {before : Progress} (running : before.cancelled = false) :
    Comes around modules options (.arrived (.target goal))
      ((around.census modules none options goal).outcome before) := by
  rw [around.outcome_census modules none options goal running, if_neg (by simp)]
  refine .arrived (.cleared ?_)
  simp only [Milestone.proceed]
  cases Grammar.locate modules options.grammar with
  | error fault => exact .ended
  | ok found =>
    dsimp only
    rw [if_neg (by simp)]
    refine .arrived (.cleared ?_)
    simp only [Milestone.proceed]
    cases (around.openWorkspace goal.resolved).fault with
    | some fault => exact .ended
    | none =>
      dsimp only
      rw [if_neg (by simp)]
      refine .arrived (.cleared ?_)
      simp only [Milestone.proceed]
      split
      · exact .ended
      · rw [if_neg (by simp)]
        refine .reading (.arrived (.cleared ?_))
        simp only [Milestone.proceed]
        exact .ended

theorem comes_census (commission : Commission) :
    Comes around modules options commission.stage
      (commission.census around modules none options).follow.1 := by
  have running : Progress.start.cancelled = false := rfl
  cases commission with
  | target goal => exact comes_target goal running
  | path text =>
    refine .cleared ?_
    simp only [Milestone.proceed]
    change Comes _ _ _ _ ((around.censusAt modules none options text).outcome Progress.start)
    unfold Surroundings.censusAt
    have unmet : (Course.meet none .start).Yields .start () .start := rfl
    rw [Course.outcome_bind_of_yields unmet]
    cases resolved : around.resolveTarget text with
    | error fault => exact .ended
    | ok goal => exact comes_target goal running

end TourStage

namespace Tour

variable {around : Surroundings} {modules : List GrammarModule} {options : CensusOptions} {fitting : Nat}
  {commission : Commission} {tour next : Tour} {trace : List TourEvent}

/-- What is known of a tour that nothing disturbed. -/
structure Untroubled (around : Surroundings) (modules : List GrammarModule) (options : CensusOptions)
    (fitting : Nat) (commission : Commission) (tour : Tour) : Prop where
  quiet : tour.cancelled = false
  ledger : ∀ room, tour.stage = .reading room → ∃ merged,
    Pool.Ledger around room.documents (options.crew fitting) Harvest.empty merged room.pool
  comes : ∀ result, tour.stage.Comes around modules options result →
    commission.stage.Comes around modules options result

theorem untroubled_start (around : Surroundings) (modules : List GrammarModule) (options : CensusOptions)
    (fitting : Nat) (commission : Commission) :
    Untroubled around modules options fitting commission (start commission) where
  quiet := rfl
  ledger := by
    intro room reading
    cases commission <;> cases reading
  comes := fun _ => id

theorem fresh_of_proceed {milestone : Milestone} {room : ReadingRoom}
    (begun : milestone.proceed around modules options = .reading room) :
    room.pool = Pool.start room.documents Harvest.empty := by
  cases milestone with
  | called path =>
    simp only [Milestone.proceed] at begun
    split at begun <;> cases begun
  | target goal =>
    simp only [Milestone.proceed] at begun
    split at begun <;> cases begun
  | grammar goal =>
    simp only [Milestone.proceed] at begun
    split at begun <;> cases begun
  | workspace goal loading =>
    simp only [Milestone.proceed] at begun
    split at begun <;> cases begun
    rfl
  | harvest goal loading documents yielded => cases begun

namespace Untroubled

theorem step {event : TourEvent}
    (untroubled : tour.Untroubled around modules options fitting commission)
    (undisturbed : event.isDisturbance = false)
    (came : tour.step around modules options fitting event = some next) :
    next.Untroubled around modules options fitting commission := by
  cases event with
  | check =>
    obtain ⟨milestone, arrived, rfl⟩ := step_check came
    rw [if_neg (by simp [untroubled.quiet])]
    exact {
      quiet := untroubled.quiet
      ledger := fun room reading => by cases reading
      comes := fun result later => untroubled.comes result (arrived ▸ .arrived later) }
  | proceed =>
    obtain ⟨milestone, cleared, rfl⟩ := step_proceed came
    exact {
      quiet := untroubled.quiet
      ledger := fun room reading => by
        dsimp only at reading
        rw [fresh_of_proceed reading]
        exact ⟨[], Pool.ledger_start around room.documents _ _⟩
      comes := fun result later => untroubled.comes result (cleared ▸ .cleared later) }
  | read event =>
    obtain ⟨room, pool, reading, read, rfl⟩ := step_read came
    obtain ⟨merged, ledger⟩ := untroubled.ledger room reading
    have same : tour.poolOf room = room.pool := by rw [poolOf, untroubled.quiet, ← ledger.quiet]
    have quiet : event.isDisturbance = false := by cases event <;> first | rfl | cases undisturbed
    rw [same] at read
    have kept := ledger.step quiet read
    exact {
      quiet := kept.quiet
      ledger := fun other reading => by
        cases reading
        exact ⟨_, kept⟩
      comes := by
        intro result later
        refine untroubled.comes result (reading ▸ ?_)
        cases later with
        | reading later => exact .reading later }
  | gather =>
    obtain ⟨room, reading, ⟨returned, rfl⟩ | ⟨raised, rfl⟩⟩ := step_gather came
    · obtain ⟨merged, ledger⟩ := untroubled.ledger room reading
      have harvested := (ledger.returned returned).2
      exact {
        quiet := untroubled.quiet
        ledger := fun other reading => by cases reading
        comes := fun result later =>
          untroubled.comes result (reading ▸ .reading (harvested ▸ later)) }
    · obtain ⟨merged, ledger⟩ := untroubled.ledger room reading
      exact absurd raised ledger.not_stopped.2.2
  | cancel => cases undisturbed
  | interrupt => cases undisturbed

/-- An undisturbed tour ends as the census that reads the documents one by one. -/
theorem agrees {result : Except CensusFault Census}
    (untroubled : tour.Untroubled around modules options fitting commission)
    (ended : tour.stage = .ended result) :
    result = (commission.census around modules none options).follow.1 :=
  (untroubled.comes result (ended ▸ .ended)).unique (TourStage.comes_census commission)

end Untroubled

theorem untroubled_run (quiet : ∀ event ∈ trace, event.isDisturbance = false)
    (ran : run around modules options fitting commission trace = some tour) :
    tour.Untroubled around modules options fitting commission :=
  foldlM_keeps (Untroubled around modules options fitting commission)
    (fun event member _ _ before came => before.step (quiet event member) came)
    (untroubled_start around modules options fitting commission) ran

end Tour
end UsingCensus
