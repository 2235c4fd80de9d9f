import Mathlib.Algebra.Ring.Int.Defs
import UsingCensus.Proofs.Counting
import UsingCensus.SharedTally

/-!
What a shared tally comes to. Main statement: in whatever turn its workers call, the counts are those of the
calls made so far, no snapshot changes once it is handed out, and merging the tally of a list of names does
what counting the names one by one does.
-/
namespace UsingCensus

namespace Tally

/-- The positive counts that are given for a name. -/
def given (name : String) (counts : List (String × Int)) : List Int :=
  (counts.filter fun entry => entry.1 = name ∧ 0 < entry.2).map Prod.snd

theorem given_cons (name other : String) (count : Int) (rest : List (String × Int)) :
    (given name ((other, count) :: rest)).sum =
      (if name = other then (count.toNat : Int) else 0) + (given name rest).sum := by
  unfold given
  by_cases same : name = other
  · subst same
    by_cases positive : 0 < count
    · rw [List.filter_cons_of_pos (by simpa using positive), List.map_cons, List.sum_cons, if_pos rfl,
        Int.toNat_of_nonneg (Int.le_of_lt positive)]
    · rw [List.filter_cons_of_neg (by simpa using positive), if_pos rfl,
        Int.toNat_of_nonpos (Int.not_lt.mp positive)]
      simp
  · rw [List.filter_cons_of_neg (by simp [Ne.symm same]), if_neg same, Int.zero_add]

theorem given_eq_nil {name : String} {counts : List (String × Int)}
    (none : ∀ count, 0 < count → (name, count) ∉ counts) : given name counts = [] := by
  rw [given, List.filter_eq_nil_iff.mpr, List.map_nil]
  rintro ⟨other, count⟩ member chosen
  obtain ⟨rfl, positive⟩ : other = name ∧ 0 < count := by simpa using chosen
  exact none count positive member

theorem given_eq_singleton {name : String} {count : Int} {counts : List (String × Int)}
    (once : (counts.map Prod.fst).Nodup) (member : (name, count) ∈ counts) (positive : 0 < count) :
    given name counts = [count] := by
  induction counts with
  | nil => cases member
  | cons entry rest ih =>
    rw [List.map_cons, List.nodup_cons] at once
    obtain ⟨apart, once⟩ := once
    rcases List.mem_cons.mp member with rfl | later
    · have none : given name rest = [] :=
        given_eq_nil fun _ _ again => apart (List.mem_map.mpr ⟨_, again, rfl⟩)
      unfold given at none ⊢
      rw [List.filter_cons_of_pos (by simpa using positive), List.map_cons, none]
    · have other : entry.1 ≠ name := fun same => apart (List.mem_map.mpr ⟨_, later, same.symm⟩)
      have found := ih once later
      unfold given at found ⊢
      rw [List.filter_cons_of_neg (by simp [other]), found]

/-- Merging adds the positive counts of a name, and passes over all others. -/
theorem count_merge (tally : Tally) (counts : List (String × Int)) (name : String) :
    ((tally.merge counts).count name : Int) = tally.count name + (given name counts).sum := by
  induction counts generalizing tally with
  | nil => simp [merge, given]
  | cons entry rest ih =>
    obtain ⟨other, count⟩ := entry
    have later := ih (tally.add other count.toNat)
    rw [count_add] at later
    change ((merge (tally.add other count.toNat) rest).count name : Int) = _
    rw [later, given_cons]
    split <;> omega

/-- Each name of a list once, with the number of its occurrences. -/
structure Tells (counts : List (String × Int)) (names : List String) : Prop where
  once : (counts.map Prod.fst).Nodup
  counted : ∀ name count, (name, count) ∈ counts ↔ 0 < count ∧ count = names.count name

theorem tells_snapshot (names : List String) : Tells (empty.addAll names).snapshot names where
  once := nodup_snapshot_names _
  counted := by
    intro name count
    rw [mem_snapshot_iff, count_addAll, count_empty, Nat.zero_add, eq_comm]

theorem Tells.sum_given {counts : List (String × Int)} {names : List String} (tells : Tells counts names)
    (name : String) : (given name counts).sum = names.count name := by
  by_cases absent : names.count name = 0
  · have none : ∀ count, 0 < count → (name, count) ∉ counts := by
      intro count positive member
      have counted := ((tells.counted name count).mp member).2
      omega
    rw [given_eq_nil none, absent]
    rfl
  · have member : (name, (names.count name : Int)) ∈ counts := (tells.counted name _).mpr ⟨by omega, rfl⟩
    rw [given_eq_singleton tells.once member (by omega), List.sum_singleton]

theorem Tells.merge_eq {counts : List (String × Int)} {names : List String} (tells : Tells counts names)
    (tally : Tally) : tally.merge counts = tally.addAll names := by
  apply ext_count
  intro name
  have merged := tally.count_merge counts name
  rw [tells.sum_given] at merged
  rw [count_addAll]
  omega

end Tally

namespace TallyCall

def merged (name : String) : TallyCall → List Int
  | merge counts => Tally.given name counts
  | _ => []

/-- The number of increments of a name, and the sum of its positive merged counts. -/
def total (name : String) (calls : List TallyCall) : Int :=
  calls.count (increment name) + (calls.flatMap (merged name)).sum

theorem total_append (name : String) (first second : List TallyCall) :
    total name (first ++ second) = total name first + total name second := by
  unfold total
  rw [List.count_append, List.flatMap_append, List.sum_append_int]
  omega

theorem total_flatten_set (name : String) {lists : List (List TallyCall)} {place : Nat} {calls : List TallyCall}
    (found : lists[place]? = some calls) (call : TallyCall) :
    total name (lists.set place (calls ++ [call])).flatten = total name lists.flatten + total name [call] := by
  induction lists generalizing place with
  | nil => simp at found
  | cons first rest ih =>
    cases place with
    | zero =>
      obtain rfl : first = calls := by simpa using found
      rw [List.set_cons_zero, List.flatten_cons, List.flatten_cons, total_append, total_append, total_append]
      omega
    | succ place =>
      have later := ih (show rest[place]? = some calls by simpa using found)
      rw [List.set_cons_succ, List.flatten_cons, List.flatten_cons, total_append, total_append, later]
      omega

end TallyCall

namespace SharedTally

variable {calls : List (List TallyCall)} {turns : List Nat} {shared next : SharedTally}

/-- The calls that each worker has made after some turns. -/
def made (calls : List (List TallyCall)) (turns : List Nat) : List (List TallyCall) :=
  calls.mapIdx fun worker own => own.take (turns.count worker)

/-- The calls that each worker has yet to make. -/
def left (calls : List (List TallyCall)) (turns : List Nat) : List (List TallyCall) :=
  calls.mapIdx fun worker own => own.drop (turns.count worker)

theorem step_eq_some_iff {worker : Nat} : shared.step worker = some next ↔
    ∃ call rest, shared.pending[worker]? = some (call :: rest) ∧
      next = serve { shared with pending := shared.pending.set worker rest } call := by
  unfold step
  split
  · rename_i call rest found
    constructor
    · intro served
      exact ⟨call, rest, found, (Option.some.inj served).symm⟩
    · rintro ⟨_, _, same, rfl⟩
      cases found.symm.trans same
      rfl
  · rename_i none
    constructor
    · nofun
    · rintro ⟨call, rest, found, _⟩
      exact absurd found (none call rest)

theorem count_serve (shared : SharedTally) (call : TallyCall) (name : String) :
    ((shared.serve call).tally.count name : Int) = shared.tally.count name + TallyCall.total name [call] := by
  cases call with
  | increment other =>
    by_cases same : name = other
    · subst same
      simp [serve, Tally.count_increment, TallyCall.total, TallyCall.merged]
    · simp [serve, Tally.count_increment, TallyCall.total, TallyCall.merged, same, Ne.symm same]
  | merge counts => simp [serve, Tally.count_merge, TallyCall.total, TallyCall.merged]
  | snapshot => simp [serve, TallyCall.total, TallyCall.merged]

theorem pending_serve (shared : SharedTally) (call : TallyCall) : (shared.serve call).pending = shared.pending := by
  cases call <;> rfl

theorem snapshots_serve (shared : SharedTally) (call : TallyCall) : shared.snapshots <+: (shared.serve call).snapshots := by
  cases call with
  | increment name => exact List.prefix_rfl
  | merge counts => exact List.prefix_rfl
  | snapshot => exact List.prefix_append _ _

theorem run_append (calls : List (List TallyCall)) (turns more : List Nat) :
    run calls (turns ++ more) = (run calls turns).bind fun shared => more.foldlM step shared := by
  unfold run
  rw [List.foldlM_append]
  rfl

section turns

variable {worker : Nat} {call : TallyCall} {rest : List TallyCall}

theorem exists_own (found : (left calls turns)[worker]? = some (call :: rest)) :
    ∃ own, calls[worker]? = some own ∧ own.drop (turns.count worker) = call :: rest ∧
      own.take (turns.count worker + 1) = own.take (turns.count worker) ++ [call] := by
  rw [left, List.getElem?_mapIdx] at found
  obtain ⟨own, known, remaining⟩ := Option.map_eq_some_iff.mp found
  have next : own[turns.count worker]? = some call := by
    rw [← List.head?_drop, remaining]
    rfl
  exact ⟨own, known, remaining, by rw [List.take_add_one, next]; rfl⟩

theorem count_concat_self (turns : List Nat) (worker : Nat) :
    (turns ++ [worker]).count worker = turns.count worker + 1 := by
  simp

theorem count_concat_of_ne {other : Nat} (turns : List Nat) (different : worker ≠ other) :
    (turns ++ [worker]).count other = turns.count other := by
  simp [different]

theorem made_concat (found : (left calls turns)[worker]? = some (call :: rest)) :
    ∃ own, (made calls turns)[worker]? = some own ∧
      made calls (turns ++ [worker]) = (made calls turns).set worker (own ++ [call]) := by
  obtain ⟨own, known, _, longer⟩ := exists_own found
  have before : (made calls turns)[worker]? = some (own.take (turns.count worker)) := by
    rw [made, List.getElem?_mapIdx, known]
    rfl
  refine ⟨_, before, List.ext_getElem? fun other => ?_⟩
  by_cases same : worker = other
  · subst same
    rw [List.getElem?_set_self (List.getElem?_eq_some_iff.mp before).1, made, List.getElem?_mapIdx, known,
      count_concat_self, Option.map_some, longer]
  · rw [List.getElem?_set_ne same, made, made, List.getElem?_mapIdx, List.getElem?_mapIdx,
      count_concat_of_ne turns same]

theorem left_concat (found : (left calls turns)[worker]? = some (call :: rest)) :
    left calls (turns ++ [worker]) = (left calls turns).set worker rest := by
  obtain ⟨own, known, remaining, _⟩ := exists_own found
  refine List.ext_getElem? fun other => ?_
  by_cases same : worker = other
  · subst same
    rw [List.getElem?_set_self (List.getElem?_eq_some_iff.mp found).1, left, List.getElem?_mapIdx, known,
      count_concat_self, Option.map_some, ← List.drop_drop, remaining]
    rfl
  · rw [List.getElem?_set_ne same, left, left, List.getElem?_mapIdx, List.getElem?_mapIdx,
      count_concat_of_ne turns same]

end turns

/-- What is known of a shared tally after some turns. -/
structure Account (calls : List (List TallyCall)) (turns : List Nat) (shared : SharedTally) : Prop where
  pending : shared.pending = left calls turns
  counted : ∀ name, (shared.tally.count name : Int) = TallyCall.total name (made calls turns).flatten
  handed : ∀ snapshot ∈ shared.snapshots, ∃ earlier before, earlier <+: turns ∧
    run calls earlier = some before ∧ snapshot = before.tally.snapshot

theorem account_start (calls : List (List TallyCall)) : Account calls [] (start calls) where
  pending := List.ext_getElem? fun worker => by simp [start, left]
  counted := by
    intro name
    have none : (made calls []).flatten = [] := by simp [made]
    rw [none]
    rfl
  handed := by simp [start]

/-- A turn serves one call, which is accounted for. -/
theorem Account.step {worker : Nat} (account : Account calls turns shared) (reached : run calls turns = some shared)
    (taken : shared.step worker = some next) : Account calls (turns ++ [worker]) next := by
  obtain ⟨call, rest, found, rfl⟩ := step_eq_some_iff.mp taken
  rw [account.pending] at found
  refine ⟨?_, ?_, ?_⟩
  · rw [pending_serve, left_concat found, account.pending]
  · intro name
    obtain ⟨own, before, later⟩ := made_concat found
    rw [count_serve, later, TallyCall.total_flatten_set name before call, ← account.counted]
  · have known : ∀ snapshot ∈ shared.snapshots, ∃ earlier before, earlier <+: turns ++ [worker] ∧
        run calls earlier = some before ∧ snapshot = before.tally.snapshot := by
      intro snapshot member
      obtain ⟨earlier, before, early, ran, same⟩ := account.handed snapshot member
      exact ⟨earlier, before, early.trans (List.prefix_append _ _), ran, same⟩
    cases call with
    | increment name => exact known
    | merge counts => exact known
    | snapshot =>
      intro snapshot member
      rcases List.mem_append.mp member with old | new
      · exact known snapshot old
      · obtain rfl := List.mem_singleton.mp new
        exact ⟨turns, shared, List.prefix_append _ _, reached, rfl⟩

theorem Account.foldlM {more : List Nat} {later : SharedTally} (account : Account calls turns shared)
    (reached : run calls turns = some shared) (ran : more.foldlM SharedTally.step shared = some later) :
    Account calls (turns ++ more) later ∧ shared.snapshots <+: later.snapshots := by
  induction more generalizing turns shared with
  | nil =>
    cases ran
    rw [List.append_nil]
    exact ⟨account, List.prefix_rfl⟩
  | cons worker rest ih =>
    rw [List.foldlM_cons] at ran
    obtain ⟨between, taken, ran⟩ := Option.bind_eq_some_iff.mp ran
    have continued : run calls (turns ++ [worker]) = some between := by
      rw [run_append, reached, Option.bind_some, List.foldlM_cons, taken]
      rfl
    obtain ⟨known, kept⟩ := ih (account.step reached taken) continued ran
    obtain ⟨call, own, _, rfl⟩ := step_eq_some_iff.mp taken
    have before := snapshots_serve { shared with pending := shared.pending.set worker own } call
    rw [List.append_assoc] at known
    exact ⟨known, before.trans kept⟩

theorem account_run (ran : run calls turns = some shared) : Account calls turns shared :=
  ((account_start calls).foldlM rfl ran).1

theorem snapshots_run {more : List Nat} {later : SharedTally} (reached : run calls turns = some shared)
    (ran : run calls (turns ++ more) = some later) : shared.snapshots <+: later.snapshots := by
  rw [run_append, reached] at ran
  exact ((account_run reached).foldlM reached ran).2

theorem made_eq (done : (left calls turns).flatten = []) : made calls turns = calls := by
  have all : ∀ own ∈ left calls turns, own = [] := List.flatten_eq_nil_iff.mp done
  refine List.ext_getElem? fun worker => ?_
  rw [made, List.getElem?_mapIdx]
  cases known : calls[worker]? with
  | none => rfl
  | some own =>
    have rest : (left calls turns)[worker]? = some (own.drop (turns.count worker)) := by
      rw [left, List.getElem?_mapIdx, known]
      rfl
    have short := List.drop_eq_nil_iff.mp (all _ (List.mem_of_getElem? rest))
    rw [Option.map_some, List.take_of_length_le short]

theorem exists_step (waiting : shared.pending.flatten ≠ []) : ∃ worker next, shared.step worker = some next := by
  obtain ⟨calls, member, some⟩ : ∃ calls ∈ shared.pending, calls ≠ [] := by
    simpa [List.flatten_eq_nil_iff] using waiting
  obtain ⟨worker, found⟩ := List.getElem?_of_mem member
  obtain ⟨call, rest, rfl⟩ := List.exists_cons_of_ne_nil some
  exact ⟨worker, _, step_eq_some_iff.mpr ⟨call, rest, found, rfl⟩⟩

theorem foldl_increment (shared : SharedTally) (names : List String) :
    (names.map TallyCall.increment).foldl serve shared = { shared with tally := shared.tally.addAll names } := by
  induction names generalizing shared with
  | nil => rfl
  | cons name rest ih => exact ih _

/-- What holds of a shared tally after any turns of its workers. -/
structure AddsUp (calls : List (List TallyCall)) (turns : List Nat) (shared : SharedTally) : Prop where
  counts : ∀ name count, (name, count) ∈ shared.tally.snapshot ↔
    0 < count ∧ count = TallyCall.total name (made calls turns).flatten
  once : (shared.tally.snapshot.map Prod.fst).Nodup
  names : ∀ name, name ∈ shared.tally.snapshot.map Prod.fst ↔
    0 < TallyCall.total name (made calls turns).flatten
  positive : ∀ entry ∈ shared.tally.snapshot, 1 ≤ entry.2
  size : shared.tally.size = (shared.tally.snapshot.map Prod.fst).length
  pending : shared.pending = left calls turns
  /-- As long as calls are left a worker can go on, and then all calls are made. -/
  goesOn : shared.pending.flatten ≠ [] → ∃ worker next, shared.step worker = some next
  whole : shared.pending.flatten = [] → made calls turns = calls
  /-- A snapshot is of the time when it was taken, and stays as it is. -/
  handed : ∀ snapshot ∈ shared.snapshots, ∃ earlier before, earlier <+: turns ∧
    run calls earlier = some before ∧ snapshot = before.tally.snapshot
  kept : ∀ more later, run calls (turns ++ more) = some later → shared.snapshots <+: later.snapshots
  /-- A list of names may be merged as its tally, or counted name by name in any order. -/
  merging : ∀ counts (names order : List String), Tally.Tells counts names → order.Perm names →
    shared.serve (.merge counts) = (order.map TallyCall.increment).foldl serve shared

/-- In whatever turn the workers call, their calls add up. -/
theorem run_addsUp (calls : List (List TallyCall)) (turns : List Nat) (shared : SharedTally)
    (ran : run calls turns = some shared) : AddsUp calls turns shared := by
  have account := account_run ran
  have counts (name : String) (count : Int) : (name, count) ∈ shared.tally.snapshot ↔
      0 < count ∧ count = TallyCall.total name (made calls turns).flatten := by
    rw [Tally.mem_snapshot_iff, account.counted, eq_comm]
  exact {
    counts := counts
    once := shared.tally.nodup_snapshot_names
    names := by
      intro name
      constructor
      · intro member
        obtain ⟨⟨_, count⟩, found, rfl⟩ := List.mem_map.mp member
        obtain ⟨positive, same⟩ := (counts _ count).mp found
        exact same ▸ positive
      · intro positive
        exact List.mem_map.mpr ⟨_, (counts name _).mpr ⟨positive, rfl⟩, rfl⟩
    positive := fun entry member => ((counts entry.1 entry.2).mp member).1
    size := by simp [Tally.size, Tally.snapshot]
    pending := account.pending
    goesOn := exists_step
    whole := fun done => made_eq (account.pending ▸ done)
    handed := account.handed
    kept := fun _ _ again => snapshots_run ran again
    merging := by
      intro counts names order tells same
      rw [foldl_increment, Tally.addAll_perm shared.tally same, ← tells.merge_eq]
      rfl }

/-- One worker merges counts of all signs, and another takes a snapshot between its increments. -/
def sharedSample : List (List TallyCall) :=
  [[.merge [("A", 2), ("B", 0), ("C", -3)], .increment "C"], [.increment "A", .snapshot, .increment "B"]]

/-- The snapshot does not show what is counted after it. -/
theorem run_addsUp_sample :
    ∃ shared, run sharedSample [1, 0, 1, 1, 0] = some shared ∧
      shared.tally.snapshot = [("A", 3), ("B", 1), ("C", 1)] ∧ shared.snapshots = [[("A", 3)]] ∧
      shared.pending.flatten = [] ∧ AddsUp sharedSample [1, 0, 1, 1, 0] shared ∧
      shared.serve (.merge (Tally.empty.addAll ["B", "D", "B"]).snapshot) =
        (["D", "B", "B"].map TallyCall.increment).foldl serve shared := by
  have known : (run sharedSample [1, 0, 1, 1, 0]).map (fun shared =>
      (shared.tally.snapshot, shared.snapshots, shared.pending.flatten)) =
        some ([("A", 3), ("B", 1), ("C", 1)], [[("A", 3)]], []) := by
    decide +kernel
  obtain ⟨shared, ran, same⟩ := Option.map_eq_some_iff.mp known
  simp only [Prod.mk.injEq] at same
  obtain ⟨counted, handed, done⟩ := same
  have addsUp := run_addsUp sharedSample _ shared ran
  have merged := addsUp.merging _ _ ["D", "B", "B"] (Tally.tells_snapshot ["B", "D", "B"]) (by decide)
  exact ⟨shared, ran, counted, handed, done, addsUp, merged⟩

end SharedTally
end UsingCensus
