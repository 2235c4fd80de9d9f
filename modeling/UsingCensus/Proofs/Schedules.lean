import UsingCensus.Proofs.PoolProgress
import UsingCensus.Ranking

/-!
Schedules of a pool: the runs that its events can take. Main statement: whatever the schedule and however
many workers there are, an undisturbed pool comes to its end, and then has harvested what reading the
documents one by one harvests.
-/
namespace UsingCensus

namespace Pool

variable {around : Surroundings} {documents : List Path} {workers : Nat} {harvest : Harvest}
  {merged : List Nat} {pool next : Pool} {trace : List PoolEvent}

def merges (trace : List PoolEvent) : List Nat := trace.filterMap PoolEvent.merged?

def Undisturbed (trace : List PoolEvent) : Prop := ∀ event ∈ trace, event.isDisturbance = false

/-- The ledger is kept through a schedule, and every event of it leaves less to do. -/
theorem Ledger.foldlM (ledger : Ledger around documents workers harvest merged pool)
    (undisturbed : Undisturbed trace)
    (ran : trace.foldlM (Pool.step around documents workers) pool = some next) :
    Ledger around documents workers harvest (merged ++ merges trace) next ∧
      trace.length + next.remaining documents ≤ pool.remaining documents := by
  induction trace generalizing merged pool with
  | nil =>
    cases ran
    simpa [merges] using ledger
  | cons event rest ih =>
    rw [List.foldlM_cons] at ran
    obtain ⟨between, came, ran⟩ := Option.bind_eq_some_iff.mp ran
    have quiet := undisturbed event List.mem_cons_self
    have less := ledger.remaining_lt quiet came
    obtain ⟨kept, later⟩ := ih (ledger.step quiet came)
      (fun other member => undisturbed other (List.mem_cons_of_mem _ member)) ran
    refine ⟨?_, by simp only [List.length_cons]; omega⟩
    have joined : merged ++ merges (event :: rest) =
        merged ++ event.merged?.toList ++ merges rest := by
      cases merging : event.merged? <;> simp [merges, merging]
    rw [joined]
    exact kept

theorem ledger_run (undisturbed : Undisturbed trace)
    (ran : run around documents workers harvest trace = some pool) :
    Ledger around documents workers harvest (merges trace) pool ∧
      trace.length + pool.remaining documents ≤ 10 * documents.length + 2 := by
  obtain ⟨ledger, short⟩ :=
    (ledger_start around documents workers harvest).foldlM undisturbed ran
  exact ⟨ledger, Nat.le_trans short (remaining_start documents harvest)⟩

/-- The failures of documents with their positions, in the order of the documents. -/
def listedFailures (around : Surroundings) (documents : List Path) : List (Nat × String) :=
  (List.range documents.length).filterMap fun position =>
    (around.failureAt? documents position).map (Prod.mk position)

theorem listedFailures_ascending (around : Surroundings) (documents : List Path) :
    (listedFailures around documents).Pairwise fun a b => a.1 < b.1 := by
  refine List.pairwise_filterMap.mpr (List.pairwise_lt_range.imp ?_)
  intro first second less a found b other
  obtain ⟨_, _, rfl⟩ := Option.map_eq_some_iff.mp found
  obtain ⟨_, _, rfl⟩ := Option.map_eq_some_iff.mp other
  exact less

theorem mem_listedFailures {failure : Nat × String} :
    failure ∈ listedFailures around documents ↔
      around.failureAt? documents failure.1 = some failure.2 := by
  constructor
  · intro member
    obtain ⟨position, _, found⟩ := List.mem_filterMap.mp member
    obtain ⟨message, failing, rfl⟩ := Option.map_eq_some_iff.mp found
    exact failing
  · intro failing
    obtain ⟨document, found, _⟩ := Option.bind_eq_some_iff.mp failing
    have inside := (List.getElem?_eq_some_iff.mp found).1
    refine List.mem_filterMap.mpr ⟨failure.1, List.mem_range.mpr inside, ?_⟩
    rw [failing]
    rfl

theorem listedFailures_messages (around : Surroundings) (documents : List Path) :
    (listedFailures around documents).map Prod.snd = documents.filterMap around.failureOf? := by
  unfold listedFailures
  rw [List.map_filterMap, ← around.filterMap_failureAt?]
  congr 1
  funext position
  cases around.failureAt? documents position <;> rfl

/-- Sorting by position puts the failures of documents in the order of the documents. -/
theorem mergeSort_failures {failures : List (Nat × String)}
    (same : failures.Perm (listedFailures around documents)) :
    failures.mergeSort (fun a b => a.1 ≤ b.1) = listedFailures around documents := by
  have trans (a b c : Nat × String) : decide (a.1 ≤ b.1) → decide (b.1 ≤ c.1) →
      decide (a.1 ≤ c.1) := by
    simpa using Nat.le_trans
  have total (a b : Nat × String) : decide (a.1 ≤ b.1) || decide (b.1 ≤ a.1) := by
    simpa using Nat.le_total a.1 b.1
  refine List.Perm.eq_of_pairwise ?_ (List.pairwise_mergeSort trans total _)
    ((listedFailures_ascending around documents).imp fun less => by simpa using Nat.le_of_lt less)
    ((List.mergeSort_perm _ _).trans same)
  -- one position has one failure
  intro a b first second below above
  have position : a.1 = b.1 := Nat.le_antisymm (by simpa using below) (by simpa using above)
  have failing := mem_listedFailures.mp (same.mem_iff.mp (List.mem_mergeSort.mp first))
  rw [position, mem_listedFailures.mp second] at failing
  exact Prod.ext position (Option.some.inj failing).symm

namespace Ledger

/-- When all documents are settled, the failures recorded are those of the documents that fail. -/
theorem mem_failures_iff (ledger : Ledger around documents workers harvest merged pool)
    (all : (merged ++ pool.failures.map Prod.fst).Perm (List.range documents.length))
    (failure : Nat × String) :
    failure ∈ pool.failures ↔ around.failureAt? documents failure.1 = some failure.2 := by
  constructor
  · exact ledger.recorded failure
  · intro failing
    have inside : failure.1 < documents.length := by
      obtain ⟨document, found, _⟩ := Option.bind_eq_some_iff.mp failing
      exact (List.getElem?_eq_some_iff.mp found).1
    rcases List.mem_append.mp (all.mem_iff.mpr (List.mem_range.mpr inside)) with readable | recorded
    · rw [ledger.readable _ readable] at failing
      cases failing
    · obtain ⟨other, member, same⟩ := List.mem_map.mp recorded
      have told := ledger.recorded other member
      rw [same, failing] at told
      have equal : failure = other := Prod.ext same.symm (Option.some.inj told)
      exact equal ▸ member

theorem orderedFailures_eq (ledger : Ledger around documents workers harvest merged pool)
    (all : (merged ++ pool.failures.map Prod.fst).Perm (List.range documents.length)) :
    pool.orderedFailures = documents.filterMap around.failureOf? := by
  have once : pool.failures.Nodup := by
    have positions := (all.nodup_iff.mpr List.nodup_range).sublist (List.sublist_append_right _ _)
    exact List.Pairwise.of_map Prod.fst (fun a b apart same => apart (congrArg Prod.fst same)) positions
  have apart : (listedFailures around documents).Nodup :=
    (listedFailures_ascending around documents).imp fun less same => by simp [same] at less
  have same : pool.failures.Perm (listedFailures around documents) :=
    (List.perm_ext_iff_of_nodup once apart).mpr
      fun failure => (ledger.mem_failures_iff all failure).trans mem_listedFailures.symm
  unfold orderedFailures
  rw [mergeSort_failures same, listedFailures_messages]

/-- A pool that returned has settled each document once and harvested what reading one by one harvests. -/
theorem returned (ledger : Ledger around documents workers harvest merged pool)
    (returned : pool.control = .returned) :
    (merged ++ pool.failures.map Prod.fst).Perm (List.range documents.length) ∧
      pool.harvest = around.reap harvest documents := by
  have order := ledger.order
  simp only [InOrder, returned] at order
  have all := ledger.settled
  rw [order.1, order.2] at all
  simp only [owed, List.filter_nil, List.map_nil, List.append_nil] at all
  refine ⟨all, ?_⟩
  have failing : (pool.failures.map Prod.fst).flatMap (around.importedAt documents) = [] := by
    apply List.flatMap_eq_nil_iff.mpr
    intro position member
    obtain ⟨failure, recorded, rfl⟩ := List.mem_map.mp member
    exact around.importedAt_eq_nil (ledger.recorded failure recorded)
  have imported := all.flatMap_right (around.importedAt documents)
  rw [List.flatMap_append, failing, List.append_nil, around.flatMap_importedAt] at imported
  have tally := ledger.tally
  rw [Tally.addAll_perm _ imported] at tally
  have told := ledger.told
  rw [if_pos returned, ledger.orderedFailures_eq all] at told
  rw [around.reap_eq, ← tally, ← told]

end Ledger

/-- What holds of a pool after an undisturbed schedule. -/
structure Orderly (around : Surroundings) (documents : List Path) (workers : Nat) (harvest : Harvest)
    (trace : List PoolEvent) (pool : Pool) : Prop where
  within : pool.tasks.length ≤ 4 * workers
  busy : pool.running ≤ workers
  /-- No document is settled twice, be it by merging or by recording a failure. -/
  once : (merges trace ++ pool.failures.map Prod.fst).Nodup
  readable : ∀ position ∈ merges trace, around.failureAt? documents position = none
  recorded : ∀ failure ∈ pool.failures, around.failureAt? documents failure.1 = some failure.2
  tally : pool.harvest.tally = harvest.tally.addAll ((merges trace).flatMap (around.importedAt documents))
  /-- Schedules are short, and go on until the pool returns. -/
  short : trace.length ≤ 10 * documents.length + 2
  goesOn : pool.control ≠ .returned → ∃ event next, event.isDisturbance = false ∧
    pool.step around documents workers event = some next
  settled : pool.control = .returned →
    (merges trace ++ pool.failures.map Prod.fst).Perm (List.range documents.length)
  told : pool.control = .returned →
    pool.harvest.failures = harvest.failures ++ documents.filterMap around.failureOf?
  /-- Reading the documents one by one harvests the same. -/
  harvested : pool.control = .returned →
    (documents.foldlM (Course.gather around none) harvest).follow.1 = .ok pool.harvest
  /-- Any other schedule of any number of workers harvests the same, so rows and warnings are the same. -/
  agreeing : pool.control = .returned → ∀ (others : Nat) (schedule : List PoolEvent) (other : Pool),
    Undisturbed schedule → run around documents others harvest schedule = some other →
    other.control = .returned → other.harvest = pool.harvest

/-- Every undisturbed schedule is orderly. -/
theorem run_orderly (positive : 0 < workers) (undisturbed : Undisturbed trace)
    (ran : run around documents workers harvest trace = some pool) :
    Orderly around documents workers harvest trace pool := by
  obtain ⟨ledger, short⟩ := ledger_run undisturbed ran
  have distinct : (merges trace ++ pool.failures.map Prod.fst).Nodup :=
    (ledger.settled.nodup_iff.mpr List.nodup_range).sublist (List.sublist_append_left _ _)
  exact {
    within := ledger.within
    busy := ledger.busy
    once := distinct
    readable := ledger.readable
    recorded := ledger.recorded
    tally := ledger.tally
    short := by omega
    goesOn := ledger.exists_step positive
    settled := fun returned => (ledger.returned returned).1
    told := by
      intro returned
      rw [(ledger.returned returned).2, around.reap_eq]
    harvested := by
      intro returned
      have running : Progress.start.cancelled = false := rfl
      obtain ⟨_, yields⟩ := Course.exists_yields_foldlM_gather around harvest documents running
      rw [(ledger.returned returned).2]
      exact Course.follow_of_yields yields
    agreeing := by
      intro returned others schedule other quiet ran finished
      rw [(ledger.returned returned).2, ((ledger_run quiet ran).1.returned finished).2] }

/-- The second document cannot be read. -/
def schedulesSample : Surroundings where
  tree := FileTree.empty.plant ["a.cs"] (.file (Text.Utf8.ofString "using B; using A; using B;"))
  directory := []
  home := "/"

/-- Two workers, of which the second is done with its document before the first takes one up. -/
def sampleSchedule : List PoolEvent :=
  [.look, .submit, .look, .submit, .drain, .work 1 .start, .work 1 .clear, .work 1 .read, .work 1 .finish,
    .collect 1, .work 0 .start, .work 0 .clear, .work 0 .read, .work 0 .parse, .work 0 .merge,
    .work 0 .finish, .collect 0, .leave]

/-- The pool returns, with one document merged and the other one told. -/
theorem run_orderly_sample :
    ∃ pool, run schedulesSample [⟨.root, ["a.cs"]⟩, ⟨.root, ["b.cs"]⟩] 2 Harvest.empty sampleSchedule =
        some pool ∧ pool.control = .returned ∧ merges sampleSchedule = [0] ∧
      pool.harvest.tally.count "B" = 2 ∧ pool.harvest.failures.length = 1 ∧
      Orderly schedulesSample [⟨.root, ["a.cs"]⟩, ⟨.root, ["b.cs"]⟩] 2 Harvest.empty sampleSchedule pool := by
  have returns : (run schedulesSample [⟨.root, ["a.cs"]⟩, ⟨.root, ["b.cs"]⟩] 2 Harvest.empty
      sampleSchedule).map (fun pool => (pool.control, pool.harvest.tally.count "B",
        pool.harvest.failures.length)) = some (.returned, 2, 1) := by
    decide +kernel
  obtain ⟨pool, ran, known⟩ := Option.map_eq_some_iff.mp returns
  simp only [Prod.mk.injEq] at known
  obtain ⟨returned, counted, told⟩ := known
  exact ⟨pool, ran, returned, by decide, counted, told,
    run_orderly (by decide) (by unfold Undisturbed; decide) ran⟩

end Pool
end UsingCensus
