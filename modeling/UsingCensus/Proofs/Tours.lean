import UsingCensus.Census.Tour
import UsingCensus.Proofs.Accounts
import UsingCensus.Proofs.PoolCancellation

namespace UsingCensus

namespace TourEvent

def isCancellation : TourEvent → Bool
  | cancel => true
  | read .cancel => true
  | _ => false

def isInterruption : TourEvent → Bool
  | interrupt => true
  | read .interrupt => true
  | _ => false

def isDisturbance (event : TourEvent) : Bool := event.isCancellation || event.isInterruption

end TourEvent

namespace Commission

/-- The targets that a commission can stand for. -/
def Leads (around : Surroundings) : Commission → Target → Prop
  | path text, goal => around.resolveTarget text = .ok goal
  | target given, goal => given = goal

end Commission

/-- Faults, other than a cancellation, that end a census before its last check without any event from
outside. -/
inductive Obstacle (around : Surroundings) (modules : List GrammarModule) (options : CensusOptions)
    (commission : Commission) : CensusFault → Prop
  | target {text : String} {fault : TargetFault} (asked : commission = .path text)
      (unresolved : around.resolveTarget text = .error fault) :
      Obstacle around modules options commission (.target fault)
  | grammar {fault : GrammarFault} (missing : Grammar.locate modules options.grammar = .error fault) :
      Obstacle around modules options commission (.grammar fault)
  | load {goal : Target} {fault : LoadFault} (leads : commission.Leads around goal)
      (failed : (around.openWorkspace goal.resolved).fault = some fault) :
      Obstacle around modules options commission (.load fault)
  | noWorkers {goal : Target} (leads : commission.Leads around goal)
      (some : around.documentsOf options.selection goal.resolved ≠ [])
      (negative : options.workers.any (· < 0) = true) :
      Obstacle around modules options commission .noWorkers

/-- What was found on the way to a milestone is what the phases find. -/
def Milestone.Holds (around : Surroundings) (modules : List GrammarModule) (options : CensusOptions)
    (commission : Commission) : Milestone → Prop
  | called path => commission = .path path
  | target goal => commission.Leads around goal
  | grammar goal => commission.Leads around goal ∧ ∃ found, Grammar.locate modules options.grammar = .ok found
  | workspace goal loading => (commission.Leads around goal ∧
      ∃ found, Grammar.locate modules options.grammar = .ok found) ∧
      loading = around.openWorkspace goal.resolved ∧ loading.fault = none
  | harvest goal loading documents _ => ((commission.Leads around goal ∧
      ∃ found, Grammar.locate modules options.grammar = .ok found) ∧
      loading = around.openWorkspace goal.resolved ∧ loading.fault = none) ∧
      documents = options.selection.documents loading.projects ∧
      ¬(documents ≠ [] ∧ options.workers.any (· < 0) = true)

namespace Tour

variable {around : Surroundings} {modules : List GrammarModule} {options : CensusOptions} {fitting : Nat}
  {commission : Commission} {tour next : Tour} {trace : List TourEvent}

/-- The pool of a reading room as the tour sees it. -/
def poolOf (tour : Tour) (room : ReadingRoom) : Pool := { room.pool with cancelled := tour.cancelled }

/-! ### What each event does -/

theorem step_check (came : tour.step around modules options fitting .check = some next) :
    ∃ milestone, tour.stage = .arrived milestone ∧ next = { tour with
      stage := if tour.cancelled then .ended (.error .cancelled) else .cleared milestone } := by
  obtain ⟨stage, cancelled, interrupted⟩ := tour
  cases stage with
  | arrived milestone => exact ⟨milestone, rfl, (Option.some.inj came).symm⟩
  | _ => cases came

theorem step_proceed (came : tour.step around modules options fitting .proceed = some next) :
    ∃ milestone, tour.stage = .cleared milestone ∧
      next = { tour with stage := milestone.proceed around modules options } := by
  obtain ⟨stage, cancelled, interrupted⟩ := tour
  cases stage with
  | cleared milestone => exact ⟨milestone, rfl, (Option.some.inj came).symm⟩
  | _ => cases came

theorem step_read {event : PoolEvent}
    (came : tour.step around modules options fitting (.read event) = some next) :
    ∃ room pool, tour.stage = .reading room ∧
      (tour.poolOf room).step around room.documents (options.crew fitting) event = some pool ∧
      next = ⟨.reading { room with pool := pool }, pool.cancelled,
        tour.interrupted || event = .interrupt⟩ := by
  obtain ⟨stage, cancelled, interrupted⟩ := tour
  cases stage with
  | reading room =>
    obtain ⟨pool, read, same⟩ := Option.map_eq_some_iff.mp came
    exact ⟨room, pool, rfl, read, same.symm⟩
  | _ => cases came

theorem step_gather (came : tour.step around modules options fitting .gather = some next) :
    ∃ room, tour.stage = .reading room ∧
      (room.pool.control = .returned ∧ next = { tour with
        stage := .arrived (.harvest room.goal room.loading room.documents room.pool.harvest) } ∨
      room.pool.control = .raised ∧ next = { tour with
        stage := .ended (.error (if tour.interrupted then .interrupted else .cancelled)) }) := by
  obtain ⟨stage, cancelled, interrupted⟩ := tour
  cases stage with
  | reading room =>
    refine ⟨room, rfl, ?_⟩
    change gather _ room = some next at came
    unfold gather at came
    split at came
    · exact .inl ⟨‹_›, (Option.some.inj came).symm⟩
    · exact .inr ⟨‹_›, (Option.some.inj came).symm⟩
    · cases came
  | _ => cases came

theorem step_cancel (came : tour.step around modules options fitting .cancel = some next) :
    next = { tour with cancelled := true } := by
  obtain ⟨stage, cancelled, interrupted⟩ := tour
  cases stage <;> exact (Option.some.inj came).symm

theorem step_interrupt (came : tour.step around modules options fitting .interrupt = some next) :
    ∃ goal, tour.stage = .cleared (.target goal) ∧
      next = ⟨.ended (.error .interrupted), tour.cancelled, true⟩ := by
  obtain ⟨stage, cancelled, interrupted⟩ := tour
  cases stage with
  | cleared milestone =>
    cases milestone with
    | target goal => exact ⟨goal, rfl, (Option.some.inj came).symm⟩
    | _ => cases came
  | _ => cases came

end Tour

/-! ### What is known wherever a tour stands -/

namespace TourStage

/-- What holds of the stage of a tour that was cancelled, or not, and interrupted, or not. -/
def Sound (around : Surroundings) (modules : List GrammarModule) (options : CensusOptions) (fitting : Nat)
    (commission : Commission) (cancelled interrupted : Bool) : TourStage → Prop
  | arrived milestone => milestone.Holds around modules options commission
  | cleared milestone => milestone.Holds around modules options commission
  | reading room =>
    (Milestone.harvest room.goal room.loading room.documents room.pool.harvest).Holds around modules options
      commission ∧
    Pool.Custody room.documents (options.crew fitting) { room.pool with cancelled := cancelled }
  | ended (.error fault) => fault = .cancelled ∨ Obstacle around modules options commission fault ∨
      (fault = .interrupted ∧ interrupted = true) ∨ ∃ reason, fault = .ranking reason
  | ended (.ok _) => True

end TourStage

namespace Tour

variable {around : Surroundings} {modules : List GrammarModule} {options : CensusOptions} {fitting : Nat}
  {commission : Commission} {tour next : Tour} {trace : List TourEvent}

def Sound (around : Surroundings) (modules : List GrammarModule) (options : CensusOptions) (fitting : Nat)
    (commission : Commission) (tour : Tour) : Prop :=
  tour.stage.Sound around modules options fitting commission tour.cancelled tour.interrupted

theorem sound_start (around : Surroundings) (modules : List GrammarModule) (options : CensusOptions)
    (fitting : Nat) (commission : Commission) :
    Sound around modules options fitting commission (start commission) := by
  cases commission <;> exact rfl

/-- What a phase finds is sound, and it ends a tour only by an obstacle or as the last one. -/
theorem sound_proceed {milestone : Milestone} {interrupted : Bool}
    (holds : milestone.Holds around modules options commission) (cancelled : Bool) :
    (milestone.proceed around modules options).Sound around modules options fitting commission cancelled
      interrupted := by
  cases milestone with
  | called path =>
    simp only [Milestone.proceed]
    cases resolved : around.resolveTarget path with
    | ok goal =>
      subst holds
      exact resolved
    | error fault => exact .inr (.inl (.target holds resolved))
  | target goal =>
    simp only [Milestone.proceed]
    cases located : Grammar.locate modules options.grammar with
    | ok found => exact ⟨holds, found, located⟩
    | error fault => exact .inr (.inl (.grammar located))
  | grammar goal =>
    simp only [Milestone.proceed]
    cases failed : (around.openWorkspace goal.resolved).fault with
    | none => exact ⟨holds, rfl, failed⟩
    | some fault => exact .inr (.inl (.load holds.1 failed))
  | workspace goal loading =>
    simp only [Milestone.proceed]
    split
    · rename_i refused
      obtain ⟨⟨leads, _⟩, rfl, _⟩ := holds
      exact .inr (.inl (.noWorkers leads refused.1 refused.2))
    · rename_i staffed
      refine ⟨⟨holds, rfl, staffed⟩, ?_⟩
      have custody := Pool.custody_start (options.selection.documents loading.projects)
        (options.crew fitting) Harvest.empty
      cases cancelled with
      | false => exact custody
      | true => exact custody.cancel
  | harvest goal loading documents yielded =>
    simp only [Milestone.proceed, Milestone.conclude]
    cases rank options.count yielded.tally.snapshot with
    | ok rows => trivial
    | error reason => exact .inr (.inr (.inr ⟨reason, rfl⟩))

namespace Sound

theorem of_stage {stage : TourStage} (sound : tour.Sound around modules options fitting commission)
    (here : tour.stage = stage) :
    stage.Sound around modules options fitting commission tour.cancelled tour.interrupted := by
  rw [Sound, here] at sound
  exact sound

theorem cancel (sound : tour.Sound around modules options fitting commission) :
    Sound around modules options fitting commission { tour with cancelled := true } := by
  obtain ⟨stage, cancelled, interrupted⟩ := tour
  cases stage with
  | arrived milestone => exact sound
  | cleared milestone => exact sound
  | reading room => exact ⟨sound.1, sound.2.cancel⟩
  | ended result => cases result <;> exact sound

theorem step {event : TourEvent} (sound : tour.Sound around modules options fitting commission)
    (came : tour.step around modules options fitting event = some next) :
    next.Sound around modules options fitting commission := by
  cases event with
  | check =>
    obtain ⟨milestone, arrived, rfl⟩ := step_check came
    have holds := sound.of_stage arrived
    by_cases stopped : tour.cancelled = true
    · simp only [Sound, if_pos stopped]
      exact .inl rfl
    · simp only [Sound, if_neg stopped]
      exact holds
  | proceed =>
    obtain ⟨milestone, cleared, rfl⟩ := step_proceed came
    exact sound_proceed (sound.of_stage cleared) tour.cancelled
  | read event =>
    obtain ⟨room, pool, reading, read, rfl⟩ := step_read came
    obtain ⟨holds, custody⟩ := sound.of_stage reading
    exact ⟨holds, custody.step read⟩
  | gather =>
    obtain ⟨room, reading, ⟨_, rfl⟩ | ⟨_, rfl⟩⟩ := step_gather came
    · exact (sound.of_stage reading).1
    · by_cases interrupted : tour.interrupted = true
      · simp only [Sound, if_pos interrupted]
        exact .inr (.inr (.inl ⟨rfl, interrupted⟩))
      · simp only [Sound, if_neg interrupted]
        exact .inl rfl
  | cancel =>
    rw [step_cancel came]
    exact sound.cancel
  | interrupt =>
    obtain ⟨_, _, rfl⟩ := step_interrupt came
    exact .inr (.inr (.inl ⟨rfl, rfl⟩))

end Sound

theorem foldlM_keeps (holds : Tour → Prop)
    (kept : ∀ event ∈ trace, ∀ before after, holds before →
      step around modules options fitting before event = some after → holds after)
    (first : holds tour) (ran : trace.foldlM (step around modules options fitting) tour = some next) :
    holds next := by
  induction trace generalizing tour with
  | nil =>
    cases ran
    exact first
  | cons event rest ih =>
    rw [List.foldlM_cons] at ran
    obtain ⟨between, came, ran⟩ := Option.bind_eq_some_iff.mp ran
    have second := kept event List.mem_cons_self tour between first came
    exact ih (fun other member => kept other (List.mem_cons_of_mem _ member)) second ran

theorem Sound.foldlM (sound : tour.Sound around modules options fitting commission)
    (ran : trace.foldlM (Tour.step around modules options fitting) tour = some next) :
    next.Sound around modules options fitting commission :=
  foldlM_keeps (Tour.Sound around modules options fitting commission)
    (fun _ _ _ _ sound came => Sound.step sound came) sound ran

end Tour

/-- How many events may still come from a milestone that is cleared. -/
def Milestone.remaining (around : Surroundings) (options : CensusOptions) : Milestone → Nat
  | harvest _ _ _ _ => 1
  | workspace _ loading => 10 * (options.selection.documents loading.projects).length + 9
  | grammar goal => 10 * (around.documentsOf options.selection goal.resolved).length + 11
  | target goal => 10 * (around.documentsOf options.selection goal.resolved).length + 13
  | called path =>
    match around.resolveTarget path with
    | .ok goal => 10 * (around.documentsOf options.selection goal.resolved).length + 15
    | .error _ => 1

/-- How many events, cancellations aside, may still come. -/
def TourStage.remaining (around : Surroundings) (options : CensusOptions) : TourStage → Nat
  | arrived milestone => milestone.remaining around options + 1
  | cleared milestone => milestone.remaining around options
  | reading room => room.pool.remaining room.documents + room.pool.control.windingUp + 3
  | ended _ => 0

namespace Tour

variable {around : Surroundings} {modules : List GrammarModule} {options : CensusOptions} {fitting : Nat}
  {commission : Commission} {tour next : Tour} {trace : List TourEvent}

theorem remaining_proceed_lt (around : Surroundings) (modules : List GrammarModule)
    (options : CensusOptions) (milestone : Milestone) :
    (milestone.proceed around modules options).remaining around options <
      milestone.remaining around options := by
  cases milestone with
  | called path =>
    simp only [Milestone.proceed, Milestone.remaining]
    cases around.resolveTarget path <;> simp [TourStage.remaining, Milestone.remaining]
  | target goal =>
    simp only [Milestone.proceed, Milestone.remaining]
    cases Grammar.locate modules options.grammar <;> simp [TourStage.remaining, Milestone.remaining]
  | grammar goal =>
    simp only [Milestone.proceed, Milestone.remaining]
    cases (around.openWorkspace goal.resolved).fault <;>
      simp [TourStage.remaining, Milestone.remaining, Surroundings.documentsOf]
  | workspace goal loading =>
    simp only [Milestone.proceed, Milestone.remaining]
    split
    · simp [TourStage.remaining]
    · have short := Pool.remaining_start (options.selection.documents loading.projects) Harvest.empty
      have whole : (Pool.start (options.selection.documents loading.projects)
          Harvest.empty).control.windingUp = 3 := by
        unfold Pool.start
        dsimp only
        split <;> rfl
      simp only [TourStage.remaining, whole]
      omega
  | harvest goal loading documents yielded => simp [Milestone.proceed, Milestone.remaining, TourStage.remaining]

theorem Sound.remaining_lt {event : TourEvent} (sound : tour.Sound around modules options fitting commission)
    (other : event.isCancellation = false)
    (came : tour.step around modules options fitting event = some next) :
    next.stage.remaining around options < tour.stage.remaining around options := by
  cases event with
  | check =>
    obtain ⟨milestone, arrived, rfl⟩ := step_check came
    rw [arrived]
    split <;> simp [TourStage.remaining]
  | proceed =>
    obtain ⟨milestone, cleared, rfl⟩ := step_proceed came
    rw [cleared]
    exact remaining_proceed_lt around modules options milestone
  | read event =>
    obtain ⟨room, pool, reading, read, rfl⟩ := step_read came
    have apart : event ≠ .cancel := by
      rintro rfl
      cases other
    have less := (sound.of_stage reading).2.remaining_lt apart read
    rw [reading]
    exact Nat.add_lt_add_right less 3
  | gather =>
    obtain ⟨room, reading, ⟨_, rfl⟩ | ⟨_, rfl⟩⟩ := step_gather came <;> rw [reading] <;>
      simp [TourStage.remaining, Milestone.remaining]
  | cancel => cases other
  | interrupt =>
    obtain ⟨goal, cleared, rfl⟩ := step_interrupt came
    rw [cleared]
    simp [TourStage.remaining, Milestone.remaining]

theorem remaining_cancellation {event : TourEvent} (cancellation : event.isCancellation = true)
    (came : tour.step around modules options fitting event = some next) :
    next.stage.remaining around options = tour.stage.remaining around options := by
  cases event with
  | cancel => rw [step_cancel came]
  | read event =>
    obtain ⟨room, pool, reading, read, rfl⟩ := step_read came
    cases event <;> try cases cancellation
    rw [reading, Pool.step_cancel read]
    rfl
  | _ => cases cancellation

/-- A tour is short, however often it is cancelled. -/
theorem Sound.short (sound : tour.Sound around modules options fitting commission)
    (ran : trace.foldlM (Tour.step around modules options fitting) tour = some next) :
    trace.countP (fun event => !event.isCancellation) + next.stage.remaining around options ≤
      tour.stage.remaining around options := by
  induction trace generalizing tour with
  | nil =>
    cases ran
    simp
  | cons event rest ih =>
    rw [List.foldlM_cons] at ran
    obtain ⟨between, came, ran⟩ := Option.bind_eq_some_iff.mp ran
    have later := ih (sound.step came) ran
    cases cancellation : event.isCancellation with
    | true =>
      have same := remaining_cancellation cancellation came
      rw [List.countP_cons_of_neg (by simp [cancellation])]
      omega
    | false =>
      have less := sound.remaining_lt cancellation came
      rw [List.countP_cons_of_pos (by simp [cancellation])]
      omega

theorem crew_pos (options : CensusOptions) (positive : 0 < fitting) : 0 < options.crew fitting := by
  unfold CensusOptions.crew
  split
  · split
    · omega
    · exact positive
  · exact positive

theorem Sound.exists_step (sound : tour.Sound around modules options fitting commission)
    (positive : 0 < fitting) (unended : ∀ result, tour.stage ≠ .ended result) :
    ∃ event next, event.isDisturbance = false ∧
      tour.step around modules options fitting event = some next := by
  obtain ⟨stage, cancelled, interrupted⟩ := tour
  cases stage with
  | arrived milestone => exact ⟨.check, _, rfl, rfl⟩
  | cleared milestone => exact ⟨.proceed, _, rfl, rfl⟩
  | ended result => exact absurd rfl (unended result)
  | reading room =>
    by_cases returned : room.pool.control = .returned
    · exact ⟨.gather, _, rfl, by simp only [Tour.step, gather, returned]; rfl⟩
    by_cases raised : room.pool.control = .raised
    · exact ⟨.gather, _, rfl, by simp only [Tour.step, gather, raised]; rfl⟩
    obtain ⟨event, pool, quiet, read⟩ : ∃ event pool, event.isDisturbance = false ∧
        Pool.step around room.documents (options.crew fitting) { room.pool with cancelled := cancelled }
          event = some pool :=
      sound.2.exists_step (crew_pos options positive) returned raised
    refine ⟨.read event, _, ?_, by simp only [Tour.step, read, Option.map_some]; rfl⟩
    cases event <;> first | rfl | cases quiet

end Tour
end UsingCensus
