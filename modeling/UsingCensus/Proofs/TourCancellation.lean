import UsingCensus.Proofs.TourOutcomes

/-!
Cancellation of tours. Main statement: wherever a cancellation comes in before the last check, the tour ends,
and without a result; no phase begins after a check that saw the cancellation, and no document is read by
work that is taken up after it.
-/
namespace UsingCensus

namespace TourStage

end TourStage

namespace Surroundings

end Surroundings

namespace Tour

variable {around : Surroundings} {modules : List GrammarModule} {options : CensusOptions} {fitting : Nat}
  {commission : Commission} {tour next : Tour} {trace later : List TourEvent} {event : TourEvent}

theorem cancelled_step (came : tour.step around modules options fitting event = some next)
    (cancelled : tour.cancelled = true) : next.cancelled = true := by
  cases event with
  | check =>
    obtain ⟨_, _, rfl⟩ := step_check came
    exact cancelled
  | proceed =>
    obtain ⟨_, _, rfl⟩ := step_proceed came
    exact cancelled
  | read event =>
    obtain ⟨room, pool, _, read, rfl⟩ := step_read came
    exact (Pool.succeeds_step read).cancelled cancelled
  | gather => obtain ⟨_, _, ⟨_, rfl⟩ | ⟨_, rfl⟩⟩ := step_gather came <;> exact cancelled
  | cancel => rw [step_cancel came]
  | interrupt =>
    obtain ⟨_, _, rfl⟩ := step_interrupt came
    exact cancelled

/-- The tour is cancelled, and the work on a document has not got beyond looking for that. -/
structure Barren (position : Nat) (tour : Tour) : Prop where
  cancelled : tour.cancelled = true
  barren : ∀ room, tour.stage = .reading room → (tour.poolOf room).Barren position

namespace Barren

variable {position : Nat}

theorem step (idle : tour.Barren position)
    (came : tour.step around modules options fitting event = some next) : next.Barren position := by
  refine ⟨cancelled_step came idle.cancelled, ?_⟩
  cases event with
  | check =>
    obtain ⟨_, _, rfl⟩ := step_check came
    rw [if_pos idle.cancelled]
    intro room reading
    cases reading
  | proceed =>
    obtain ⟨_, _, rfl⟩ := step_proceed came
    intro room reading stage member
    dsimp only at reading
    rw [poolOf, fresh_of_proceed reading] at member
    cases member
  | read event =>
    obtain ⟨room, pool, reading, read, rfl⟩ := step_read came
    intro other same
    cases same
    exact (idle.barren room reading).step idle.cancelled read
  | gather => obtain ⟨_, _, ⟨_, rfl⟩ | ⟨_, rfl⟩⟩ := step_gather came <;> intro room reading <;> cases reading
  | cancel =>
    rw [step_cancel came]
    exact idle.barren
  | interrupt =>
    obtain ⟨_, _, rfl⟩ := step_interrupt came
    intro room reading
    cases reading

theorem foldlM (idle : tour.Barren position)
    (ran : later.foldlM (Tour.step around modules options fitting) tour = some next) {taken : TaskStep}
    (member : .read (.work position taken) ∈ later) : taken.isReading = false := by
  induction later generalizing tour with
  | nil => cases member
  | cons event rest ih =>
    rw [List.foldlM_cons] at ran
    obtain ⟨between, came, ran⟩ := Option.bind_eq_some_iff.mp ran
    rcases List.mem_cons.mp member with rfl | member
    · obtain ⟨room, pool, reading, read, _⟩ := step_read came
      exact (idle.barren room reading).not_isReading idle.cancelled read
    · exact ih (idle.step came) ran member

end Barren

/-- From any sound tour some schedule without a disturbance leads to the end. -/
theorem Sound.concludes (sound : tour.Sound around modules options fitting commission)
    (positive : 0 < fitting) :
    ∃ (later : List TourEvent) (next : Tour) (result : Except CensusFault Census),
      later.foldlM (Tour.step around modules options fitting) tour = some next ∧
      next.stage = .ended result ∧ ∀ event ∈ later, event.isDisturbance = false := by
  induction left : tour.stage.remaining around options using Nat.strongRecOn generalizing tour with
  | ind _ ih =>
    by_cases ended : ∃ result, tour.stage = .ended result
    · obtain ⟨result, ended⟩ := ended
      exact ⟨[], tour, result, rfl, ended, by simp⟩
    · obtain ⟨event, between, quiet, came⟩ :=
        sound.exists_step positive fun result here => ended ⟨result, here⟩
      have less := sound.remaining_lt (by
        cases cancellation : event.isCancellation with
        | false => rfl
        | true => simp [TourEvent.isDisturbance, cancellation] at quiet) came
      obtain ⟨later, next, result, ran, finished, undisturbed⟩ :=
        ih _ (left ▸ less) (sound.step came) rfl
      refine ⟨event :: later, next, result, ?_, finished, ?_⟩
      · rw [List.foldlM_cons]
        exact Option.bind_eq_some_iff.mpr ⟨between, came, ran⟩
      · intro other member
        rcases List.mem_cons.mp member with rfl | member
        · exact quiet
        · exact undisturbed other member

end Tour
end UsingCensus
