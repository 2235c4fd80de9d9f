import UsingCensus.Proofs.Reachability
import UsingCensus.Proofs.Walks

/-!
How long loading goes on. Main statement: whatever refers to what, and whatever links lead back, the loop that takes
paths out of the queue comes to its end, because a path leads through so many links only.
-/
namespace UsingCensus

namespace FileTree

variable {tree : FileTree} {links : Nat} {here there : Location} {name : String} {first rest more names : List String}

/-- What following does with its next name, if it comes to its end. -/
inductive Takes (tree : FileTree) (links : Nat) (here there : Location) (name : String) (more : List String) :
    Prop where
  | stays (isDot : name = ".") (leads : tree.follow true links here more = .ok there)
  | up (areDots : name = "..") (leads : tree.follow true links here.dropLast more = .ok there)
  | passes {target : String} {fewer : Nat} (left : links = fewer + 1)
      (isLink : tree.entry? (here ++ [name]) = some (.link target))
      (leads : tree.follow true fewer (startOf target here) (steps target ++ more) = .ok there)
  | down (leads : tree.follow true links (here ++ [name]) more = .ok there)

theorem takes_of_follow (leads : tree.follow true links here (name :: more) = .ok there) :
    tree.Takes links here there name more := by
  rw [follow] at leads
  split at leads
  · cases leads
  · cases leads
  · cases leads
  split at leads
  · cases leads
  split at leads
  · exact .stays ‹_› leads
  split at leads
  · exact .up ‹_› leads
  dsimp only at leads
  split at leads
  · rename_i target isLink
    rw [if_neg fun both => Bool.noConfusion both.2] at leads
    split at leads
    · cases leads
    · exact .passes rfl isLink leads
  · exact .down leads

theorem exists_follow_end (leads : tree.follow true links here (first ++ rest) = .ok there) :
    ∃ fewer ≤ links, ∃ between, tree.follow true fewer between rest = .ok there := by
  induction links using Nat.strongRecOn generalizing here first with
  | ind links fewerLinks =>
    induction first generalizing here with
    | nil => exact ⟨links, Nat.le_refl links, here, leads⟩
    | cons name more ih =>
      cases takes_of_follow leads with
      | stays _ leads => exact ih leads
      | up _ leads => exact ih leads
      | @passes target fewer left _ leads =>
        have onward : tree.follow true fewer (startOf target here) ((steps target ++ more) ++ rest) = .ok there := by
          rwa [List.append_assoc]
        obtain ⟨still, within, between, onward⟩ := fewerLinks fewer (by omega) onward
        exact ⟨still, by omega, between, onward⟩
      | down leads => exact ih leads

/-- Names that are no way up or in place. -/
abbrev Down (names : List String) : Prop := ∀ name ∈ names, name ≠ "." ∧ name ≠ ".."

/-- Going down comes to what is there by its names alone, or up to a link that is one of its places. -/
theorem descends (down : Down names) {base taken : Location}
    (standing : ∀ place, place <+: taken → place ≠ [] → tree.entry? (base ++ place) ≠ none)
    (leads : tree.follow true links (base ++ taken) names = .ok there) (stands : tree.entry? there ≠ none) :
    taken.length + names.length ≤ tree.entries.length ∨
      ∃ done more, names = done ++ more ∧ taken.length + done.length ≤ tree.entries.length ∧
        ∃ fewer < links, ∃ between, tree.follow true fewer between more = .ok there := by
  induction names generalizing taken with
  | nil => exact .inl (Surroundings.length_le_of_entries standing)
  | cons name more ih =>
    have later : Down more := fun other member => down other (List.mem_cons_of_mem _ member)
    have further (found : tree.entry? (base ++ taken ++ [name]) ≠ none) :
        ∀ place, place <+: taken ++ [name] → place ≠ [] → tree.entry? (base ++ place) ≠ none := by
      intro place prefixed some
      rcases List.prefix_concat_iff.mp prefixed with rfl | shorter
      · rwa [← List.append_assoc]
      · exact standing place shorter some
    cases takes_of_follow leads with
    | stays isDot _ => exact absurd isDot (down name List.mem_cons_self).1
    | up areDots _ => exact absurd areDots (down name List.mem_cons_self).2
    | @passes target fewer left isLink onward =>
      have count := Surroundings.length_le_of_entries (further (by rw [isLink]; exact Option.some_ne_none _))
      obtain ⟨still, within, between, onward⟩ := exists_follow_end onward
      refine .inr ⟨[name], more, rfl, by simpa using count, still, by omega, between, onward⟩
    | down onward =>
      have found := entry?_ne_none_of_follow onward stands
      rw [List.append_assoc] at onward
      rcases ih later (further found) onward with all | ⟨done, rest, rfl, few, onward⟩
      · left
        simp only [List.length_append, List.length_cons, List.length_nil] at all ⊢
        omega
      · refine .inr ⟨name :: done, rest, rfl, ?_, onward⟩
        simp only [List.length_append, List.length_cons, List.length_nil] at few ⊢
        omega

/-- A path that leads to something has no more names than as many links can put between its places. -/
theorem length_le_of_follow (down : Down names) (leads : tree.follow true links here names = .ok there)
    (stands : tree.entry? there ≠ none) : names.length ≤ (links + 1) * tree.entries.length := by
  induction links using Nat.strongRecOn generalizing here names with
  | ind links ih =>
    have start : ∀ place, place <+: ([] : Location) → place ≠ [] → tree.entry? (here ++ place) ≠ none :=
      fun place prefixed some => absurd (List.prefix_nil.mp prefixed) some
    rcases descends down start (by rwa [List.append_nil]) stands with
      all | ⟨done, more, rfl, few, fewer, less, between, leads⟩
    · rw [List.length_nil, Nat.zero_add] at all
      exact Nat.le_trans all (Nat.le_mul_of_pos_left _ (Nat.succ_pos links))
    · have rest := ih fewer less (fun name member => down name (List.mem_append_right _ member)) leads
      rw [List.length_nil, Nat.zero_add] at few
      calc (done ++ more).length = more.length + done.length := by rw [List.length_append, Nat.add_comm]
        _ ≤ (fewer + 1) * tree.entries.length + tree.entries.length := Nat.add_le_add rest few
        _ = (fewer + 1 + 1) * tree.entries.length := (Nat.succ_mul _ _).symm
        _ ≤ (links + 1) * tree.entries.length := Nat.mul_le_mul_right _ (Nat.succ_le_succ less)

end FileTree

namespace Surroundings

open FileTree

variable {around : Surroundings} {P : Path → Prop} {keys seen queue start : List Path} {path : Path} {loading : Loading}
  {project : Project} {reports : List String} {told : List LoadEvent}

/-! ### Rounds -/

/-- Where the loop stands: what was seen, what waits, and what has happened. -/
structure WorkList where
  seen : List Path
  queue : List Path
  told : List LoadEvent

/-- One round of the loop: the first path is taken out of the queue, and looked at unless it was seen. Without one the
loop comes to its end, as it does if a look at a path fails. -/
def round (around : Surroundings) (work : WorkList) : Loading ⊕ WorkList :=
  match work.queue with
  | [] => .inl ⟨work.told, none⟩
  | path :: rest =>
    if around.projectKey path ∈ work.seen then .inr { work with queue := rest }
    else
      let seen := around.projectKey path :: work.seen
      match around.visit path with
      | .ended fault => .inl ⟨work.told, some fault⟩
      | .skipped message => .inr ⟨seen, rest, work.told ++ [.warned message]⟩
      | .loaded project reports =>
        .inr ⟨seen, rest ++ project.references, work.told ++ (reports.map .warned ++ [.loaded project])⟩

/-- What the loop comes to in so many rounds, if it comes to its end. -/
def rounds (around : Surroundings) : Nat → WorkList → Option Loading
  | 0, _ => none
  | fewer + 1, work =>
    match around.round work with
    | .inl loading => some loading
    | .inr next => around.rounds fewer next

theorem round_pass (known : around.projectKey path ∈ seen) :
    around.round ⟨seen, path :: queue, told⟩ = .inr ⟨seen, queue, told⟩ := by
  rw [round]
  dsimp only
  rw [if_pos known]

theorem round_stop {fault : LoadFault} (new : around.projectKey path ∉ seen)
    (ends : around.visit path = .ended fault) :
    around.round ⟨seen, path :: queue, told⟩ = .inl ⟨told, some fault⟩ := by
  rw [round]
  dsimp only
  rw [if_neg new, ends]

theorem round_look (new : around.projectKey path ∉ seen) (whole : ∀ fault, around.visit path ≠ .ended fault) :
    around.round ⟨seen, path :: queue, told⟩ = .inr ⟨around.projectKey path :: seen,
      queue ++ (around.visit path).project?.toList.flatMap Project.references, told ++ (around.visit path).events⟩ := by
  rw [round]
  dsimp only
  rw [if_neg new]
  cases looks : around.visit path with
  | ended fault => exact absurd looks (whole fault)
  | skipped message => simp [Visit.project?, Visit.events]
  | loaded project reports => simp [Visit.project?, Visit.events]

/-- Each path that comes into the queue takes one round, and the end takes one more. -/
theorem Loads.exists_rounds (loads : around.Loads seen queue loading) (told : List LoadEvent) :
    ∃ many ≤ queue.length + (loading.projects.flatMap Project.references).length + 1,
      around.rounds many ⟨seen, queue, told⟩ = some (loading.after told) := by
  induction loads generalizing told with
  | done => exact ⟨1, by omega, by simp [rounds, round, Loading.after]⟩
  | pass known _ ih =>
    obtain ⟨many, few, ends⟩ := ih told
    refine ⟨many + 1, by rw [List.length_cons]; omega, ?_⟩
    rw [rounds, round_pass known]
    exact ends
  | stop new ends =>
    refine ⟨1, by omega, ?_⟩
    rw [rounds, round_stop new ends]
    simp [Loading.after]
  | @look seen path queue loading new whole _ ih =>
    obtain ⟨many, few, ends⟩ := ih (told ++ (around.visit path).events)
    refine ⟨many + 1, ?_, ?_⟩
    · rw [Loading.projects_after, Loading.projects_events, List.flatMap_append]
      simp only [List.length_append, List.length_cons] at few ⊢
      omega
    · rw [rounds, round_look new whole]
      dsimp only
      rw [ends, Loading.after, Loading.after, Loading.after, List.append_assoc]

/-! ### Spellings -/

/-- The most parts that a path can have that leads to something. -/
def partLimit (around : Surroundings) : Nat := (linkLimit + 1) * around.tree.entries.length

theorem length_parts_le (settled : around.Settled) (proper : path.Proper)
    (loads : around.visit path = .loaded project reports) :
    (around.projectKey path).parts.length ≤ around.partLimit := by
  obtain ⟨_, _, _, location, leads, stands⟩ := leads_of_loaded settled proper loads
  exact length_le_of_follow (isKey_projectKey settled proper).named leads stands

/-- A project that loads has one of finitely many keys, for want of more links. -/
theorem projectKey_mem_spelled (settled : around.Settled) (proper : path.Proper)
    (loads : around.visit path = .loaded project reports) :
    around.projectKey path ∈ around.candidates around.partLimit := by
  obtain ⟨_, named, listed, _⟩ := leads_of_loaded settled proper loads
  have short := length_parts_le settled proper loads
  exact mem_candidates (isKey_projectKey settled proper) named listed (by omega)

theorem Loads.distinct
    (closed : ∀ path project reports, P path → around.visit path = .loaded project reports →
      ∀ reference ∈ project.references, P reference)
    (loads : around.Loads seen queue loading) (within : ∀ path ∈ queue, P path) :
    (loading.projects.map Project.path).Nodup ∧ ∀ project ∈ loading.projects, project.path ∉ seen ∧
      ∃ path reports, P path ∧ around.visit path = .loaded project reports := by
  induction loads with
  | done => exact ⟨List.nodup_nil, nofun⟩
  | pass _ _ ih => exact ih fun other member => within other (List.mem_cons_of_mem _ member)
  | stop => exact ⟨List.nodup_nil, nofun⟩
  | @look seen path queue loading new _ _ ih =>
    obtain ⟨later, others⟩ := ih (forall_mem_look closed within)
    rw [Loading.projects_after, Loading.projects_events]
    cases looks : (around.visit path).project? with
    | none =>
      refine ⟨by simpa using later, fun project member => ?_⟩
      obtain ⟨fresh, loads⟩ := others project (by simpa using member)
      exact ⟨fun old => fresh (List.mem_cons_of_mem _ old), loads⟩
    | some first =>
      obtain ⟨reports, loaded⟩ := Visit.project?_eq_some.mp looks
      have known : first.path = around.projectKey path := (evaluate_eq_ok (visit_eq_loaded_iff.mp loaded).2).1
      refine ⟨?_, fun project member => ?_⟩
      · rw [Option.toList_some, List.singleton_append, List.map_cons, List.nodup_cons]
        refine ⟨fun again => ?_, later⟩
        obtain ⟨other, member, same⟩ := List.mem_map.mp again
        exact (others other member).1 (by rw [same, known]; exact List.mem_cons_self)
      · rw [Option.toList_some, List.singleton_append, List.mem_cons] at member
        rcases member with rfl | member
        · exact ⟨known ▸ new, path, reports, within path List.mem_cons_self, loaded⟩
        · obtain ⟨fresh, loads⟩ := others project member
          exact ⟨fun old => fresh (List.mem_cons_of_mem _ old), loads⟩

theorem loads_of_links (settled : around.Settled) (proper : ∀ path ∈ start, path.Proper) :
    ∃ loading, around.Loads [] start loading := by
  have known : ∀ path project reports, around.Reached start path →
      around.visit path = .loaded project reports →
        around.projectKey path ∈ around.candidates around.partLimit :=
    fun path project reports reached loads =>
      projectKey_mem_spelled settled (reached.proper settled proper).1 loads
  exact ⟨_, loads_loadQueue (Reached.closed around start) known (fun _ => .start) (Nat.le_refl _)⟩

/-- How loading comes to its end. -/
structure ComesToEnd (around : Surroundings) (start : List Path) (loading : Loading) : Prop where
  /-- Each path that comes into the queue takes one round, and the end takes one more. -/
  rounds : ∃ many ≤ start.length + (loading.projects.flatMap Project.references).length + 1,
    around.rounds many ⟨[], start, []⟩ = some loading
  /-- No project is loaded twice under one path, and a path has so many parts, all of them names of the tree. -/
  distinct : (loading.projects.map Project.path).Nodup
  spelled : ∀ project ∈ loading.projects, project.path.parts.length ≤ around.partLimit ∧
    ∀ part ∈ project.path.parts, part ∈ around.tree.names
  few : loading.projects.length ≤ Nat.pow (around.tree.entries.length + 1) (around.partLimit + 2)

/-- Whatever the files refer to, and whatever the links lead to, the loop comes to its end. -/
theorem load_ends (settled : around.Settled) (proper : ∀ path ∈ start, path.Proper) :
    around.ComesToEnd start (around.load start) := by
  obtain ⟨loading, loads⟩ := loads_of_links settled proper
  rw [(loads_load settled proper).unique loads]
  obtain ⟨distinct, others⟩ := loads.distinct (Reached.closed around start) fun _ => .start
  have known : ∀ project ∈ loading.projects, ∃ path reports, path.Proper ∧ project.path = around.projectKey path ∧
      around.visit path = .loaded project reports := by
    intro project member
    obtain ⟨-, path, reports, reached, loaded⟩ := others project member
    have named := (evaluate_eq_ok (visit_eq_loaded_iff.mp loaded).2).1
    exact ⟨path, reports, (reached.proper settled proper).1, named, loaded⟩
  exact {
    rounds := by
      have ends := loads.exists_rounds []
      rwa [Loading.after, List.nil_append] at ends
    distinct := distinct
    spelled := by
      intro project member
      obtain ⟨path, reports, proper, same, loaded⟩ := known project member
      rw [same]
      exact ⟨length_parts_le settled proper loaded, (leads_of_loaded settled proper loaded).2.2.1⟩
    few := by
      have listed : loading.projects.map Project.path ⊆ around.candidates around.partLimit := by
        intro key member
        obtain ⟨project, found, rfl⟩ := List.mem_map.mp member
        obtain ⟨path, reports, proper, same, loaded⟩ := known project found
        exact same ▸ projectKey_mem_spelled settled proper loaded
      have count := distinct.length_le_of_subset listed
      rw [List.length_map] at count
      exact Nat.le_trans count (around.length_candidates_le around.partLimit) }

/-- A project that refers to itself through ten links, one after the other, back to its own folder. -/
def circleSample : Surroundings where
  tree := ((["r", "a.csproj"], Entry.file (Text.Utf8.ofString "<P><ProjectReference Include='l/a.csproj'/></P>")) ::
    (["l", "m", "n", "o", "p", "q", "s", "t", "u", "v"].zip ["m", "n", "o", "p", "q", "s", "t", "u", "v", "."]).map
      fun link => (["r", link.1], .link link.2)).foldl (fun tree (location, entry) => tree.plant location entry)
        FileTree.empty
  directory := ["r"]
  home := "/r"

/-- The project is loaded under longer and longer paths, until one leads through too many links. -/
theorem load_ends_sample :
    ((circleSample.load [⟨.here, ["a.csproj"]⟩]).projects.map fun project => project.path.parts) =
        [["r", "a.csproj"], ["r", "l", "a.csproj"], ["r", "l", "l", "a.csproj"], ["r", "l", "l", "l", "a.csproj"],
          ["r", "l", "l", "l", "l", "a.csproj"]] ∧
      (circleSample.load [⟨.here, ["a.csproj"]⟩]).warnings = ["Project file not found: /r/l/l/l/l/l/a.csproj"] ∧
      circleSample.ComesToEnd [⟨.here, ["a.csproj"]⟩] (circleSample.load [⟨.here, ["a.csproj"]⟩]) := by
  have settled : circleSample.Settled :=
    settled_of_directory rfl (by unfold FileTree.Legal; decide) (by decide +kernel)
  have proper : ∀ path ∈ [Path.mk .here ["a.csproj"]], path.Proper := by
    unfold Path.Proper
    decide
  have found : ((circleSample.load [⟨.here, ["a.csproj"]⟩]).projects.map fun project => project.path.parts,
      (circleSample.load [⟨.here, ["a.csproj"]⟩]).warnings) =
        ([["r", "a.csproj"], ["r", "l", "a.csproj"], ["r", "l", "l", "a.csproj"], ["r", "l", "l", "l", "a.csproj"],
          ["r", "l", "l", "l", "l", "a.csproj"]], ["Project file not found: /r/l/l/l/l/l/a.csproj"]) := by
    decide +kernel
  simp only [Prod.mk.injEq] at found
  exact ⟨found.1, found.2, load_ends settled proper⟩

end Surroundings
end UsingCensus
