import UsingCensus.Proofs.Listings

/-!
Walks that are carried over to another file tree. Main statement: where the same stands at the locations
that a walk passes, carried over, the walk leads to the same place, carried over.
-/
namespace UsingCensus.FileTree

/-- A walk with so many links left passes no location that is not inside, as far as it goes. -/
inductive Stays (tree : FileTree) (inside : Location → Prop) : Nat → Location → List String → Prop where
  | done (within : inside here) : tree.Stays inside links here []
  | blocked (within : inside here) (closed : tree.entry? here ≠ some .directory) :
      tree.Stays inside links here rest
  | long (within : inside here) (long : (Text.Utf8.ofString name).length > nameLimit) :
      tree.Stays inside links here (name :: more)
  | stay (within : inside here) (dot : name = ".") (later : tree.Stays inside links here more) :
      tree.Stays inside links here (name :: more)
  | up (within : inside here) (dots : name = "..") (later : tree.Stays inside links here.dropLast more) :
      tree.Stays inside links here (name :: more)
  | enter (within : inside here) (named : name ≠ "." ∧ name ≠ "..")
      (plain : ∀ target, tree.entry? (here ++ [name]) ≠ some (.link target))
      (later : tree.Stays inside links (here ++ [name]) more) : tree.Stays inside links here (name :: more)
  | spent (within : inside here) (named : name ≠ "." ∧ name ≠ "..")
      (found : tree.entry? (here ++ [name]) = some (.link target)) :
      tree.Stays inside 0 here (name :: more)
  | pass (within : inside here) (named : name ≠ "." ∧ name ≠ "..")
      (found : tree.entry? (here ++ [name]) = some (.link target))
      (later : tree.Stays inside links (startOf target here) (steps target ++ more)) :
      tree.Stays inside (links + 1) here (name :: more)

/-- The same stands at the locations inside, carried over: the files may hold other bytes. -/
structure Carries (carry : Location → Location) (inside : Location → Prop) (tree other : FileTree) :
    Prop where
  kind : ∀ here, inside here → (other.entry? (carry here)).map Entry.kind = (tree.entry? here).map Entry.kind
  link : ∀ here, inside here → ∀ target, tree.entry? here = some (.link target) →
    other.entry? (carry here) = some (.link target)
  child : ∀ here name, inside here → inside (here ++ [name]) ∧ carry (here ++ [name]) = carry here ++ [name]
  parent : ∀ here, inside here → inside here.dropLast → carry here.dropLast = (carry here).dropLast
  start : ∀ here target, inside here → inside (startOf target here) →
    carry (startOf target here) = startOf target (carry here)

theorem entry_eq_directory {entry : Option Entry} (same : entry.map Entry.kind = some .directory) :
    entry = some .directory := by
  cases entry with
  | none => cases same
  | some entry => cases entry <;> first | rfl | cases same

variable {tree other : FileTree} {carry : Location → Location} {inside : Location → Prop}
  {here : Location} {links : Nat} {rest : List String}

theorem Stays.within (stays : tree.Stays inside links here rest) : inside here := by
  cases stays <;> assumption

/-- What is left of a walk that has come to a link and passes it. -/
def followLink (tree : FileTree) (through : Bool) (links : Nat) (here : Location) (target : String)
    (more : List String) : Except PathCause Location :=
  match links with
  | 0 => .error .tooManyLinks
  | fewer + 1 => tree.follow through fewer (startOf target here) (steps target ++ more)

theorem follow_name {through : Bool} {name : String} {more : List String}
    (stands : tree.entry? here = some .directory)
    (short : ¬ (Text.Utf8.ofString name).length > nameLimit) (named : name ≠ "." ∧ name ≠ "..") :
    tree.follow through links here (name :: more) =
      match tree.entry? (here ++ [name]) with
      | some (.link target) =>
        if more = [] ∧ through = false then .ok (here ++ [name])
        else tree.followLink through links here target more
      | _ => tree.follow through links (here ++ [name]) more := by
  rw [follow]
  simp only [stands, if_neg short, if_neg named.1, if_neg named.2]
  split
  · rename_i target found
    simp only [found]
    cases links <;> rfl
  · rename_i plain
    split
    · rename_i target found
      exact absurd found (plain target)
    · rfl

theorem follow_special {through : Bool} {name : String} {more : List String}
    (stands : tree.entry? here = some .directory) (special : name = "." ∨ name = "..") :
    tree.follow through links here (name :: more) =
      tree.follow through links (if name = "." then here else here.dropLast) more := by
  have short : ¬ (Text.Utf8.ofString name).length > nameLimit := by
    rcases special with rfl | rfl <;> decide
  rw [follow]
  simp only [stands, if_neg short]
  rcases special with rfl | rfl
  · rw [if_pos rfl, if_pos rfl]
  · rw [if_neg (by decide), if_pos rfl, if_neg (by decide)]

theorem follow_blocked {through : Bool} {name : String} {more : List String}
    (closed : tree.entry? here ≠ some .directory) :
    tree.follow through links here (name :: more) =
      .error (if (tree.entry? here).isNone then .notFound else .notDirectory) := by
  rw [follow]
  split
  · rename_i missing
    simp [missing]
  · rename_i bytes stands
    simp [stands]
  · rename_i target stands
    simp [stands]
  · rename_i stands
    exact absurd stands closed

namespace Carries

theorem directory_iff (carries : Carries carry inside tree other) (within : inside here) :
    other.entry? (carry here) = some .directory ↔ tree.entry? here = some .directory := by
  have same := carries.kind here within
  constructor
  · intro stands
    rw [stands] at same
    exact entry_eq_directory same.symm
  · intro stands
    rw [stands] at same
    exact entry_eq_directory same

theorem plain (carries : Carries carry inside tree other) (within : inside here)
    (plain : ∀ target, tree.entry? here ≠ some (.link target)) (target : String) :
    other.entry? (carry here) ≠ some (.link target) := by
  intro found
  have same := carries.kind here within
  rw [found] at same
  cases stands : tree.entry? here with
  | none =>
    rw [stands] at same
    cases same
  | some entry =>
    rw [stands] at same
    cases entry with
    | link other => exact plain other stands
    | _ => cases same

/-- The walk leads to the same place, carried over, and that is inside. -/
def Leads (carry : Location → Location) (inside : Location → Prop) (tree other : FileTree) (through : Bool)
    (links : Nat) (here : Location) (rest : List String) : Prop :=
  other.follow through links (carry here) rest = (tree.follow through links here rest).map carry ∧
    ∀ there, tree.follow through links here rest = .ok there → inside there

theorem leads_of_error {through : Bool} {cause : PathCause}
    (fails : tree.follow through links here rest = .error cause)
    (also : other.follow through links (carry here) rest = .error cause) :
    Leads carry inside tree other through links here rest := by
  refine ⟨by rw [fails, also]; rfl, fun there leads => ?_⟩
  rw [fails] at leads
  cases leads

theorem leads_of_blocked (carries : Carries carry inside tree other) (within : inside here) {through : Bool}
    {name : String} {more : List String} (closed : tree.entry? here ≠ some .directory) :
    Leads carry inside tree other through links here (name :: more) := by
  have alsoClosed : other.entry? (carry here) ≠ some .directory :=
    fun stands => closed ((carries.directory_iff within).mp stands)
  have missing : (other.entry? (carry here)).isNone = (tree.entry? here).isNone := by
    simpa using congrArg Option.isNone (carries.kind here within)
  exact leads_of_error (follow_blocked closed) (missing ▸ follow_blocked alsoClosed)

theorem leads_of_done (within : inside here) (through : Bool) :
    Leads carry inside tree other through links here [] := by
  refine ⟨by rw [FileTree.follow, FileTree.follow]; rfl, fun there leads => ?_⟩
  rw [FileTree.follow] at leads
  cases leads
  exact within

theorem Leads.step {through : Bool} {fewer : Nat} {next : Location} {more : List String}
    (leads : Leads carry inside tree other through fewer next more)
    (goes : tree.follow through links here rest = tree.follow through fewer next more)
    (also : other.follow through links (carry here) rest = other.follow through fewer (carry next) more) :
    Leads carry inside tree other through links here rest := by
  refine ⟨?_, fun there found => leads.2 there (goes ▸ found)⟩
  rw [goes, also]
  exact leads.1

theorem leads_of_long (carries : Carries carry inside tree other) (within : inside here) {through : Bool}
    {name : String} {more : List String} (long : (Text.Utf8.ofString name).length > nameLimit) :
    Leads carry inside tree other through links here (name :: more) := by
  by_cases stands : tree.entry? here = some .directory
  · have alsoStands := (carries.directory_iff within).mpr stands
    have fails : tree.follow through links here (name :: more) = .error .nameTooLong := by
      rw [FileTree.follow]
      simp only [stands, if_pos long]
    have also : other.follow through links (carry here) (name :: more) = .error .nameTooLong := by
      rw [FileTree.follow]
      simp only [alsoStands, if_pos long]
    exact leads_of_error fails also
  · exact carries.leads_of_blocked within stands

theorem leads_of_name (carries : Carries carry inside tree other) (within : inside here) {through : Bool}
    {name : String} {more : List String}
    (goes : tree.entry? here = some .directory → other.entry? (carry here) = some .directory →
      ¬ (Text.Utf8.ofString name).length > nameLimit →
      Leads carry inside tree other through links here (name :: more)) :
    Leads carry inside tree other through links here (name :: more) := by
  by_cases stands : tree.entry? here = some .directory
  · by_cases long : (Text.Utf8.ofString name).length > nameLimit
    · exact carries.leads_of_long within long
    · exact goes stands ((carries.directory_iff within).mpr stands) long
  · exact carries.leads_of_blocked within stands

theorem leads_of_link (carries : Carries carry inside tree other) (within : inside here) {through : Bool}
    {name target : String} {more : List String} (named : name ≠ "." ∧ name ≠ "..")
    (found : tree.entry? (here ++ [name]) = some (.link target))
    (same : other.followLink through links (carry here) target more =
      (tree.followLink through links here target more).map carry)
    (inner : ∀ there, tree.followLink through links here target more = .ok there → inside there) :
    Leads carry inside tree other through links here (name :: more) := by
  refine carries.leads_of_name within fun stands alsoStands short => ?_
  obtain ⟨next, carried⟩ := carries.child here name within
  have alsoFound := carries.link _ next target found
  rw [carried] at alsoFound
  have goes : tree.follow through links here (name :: more) = _ := follow_name stands short named
  have alsoGoes : other.follow through links (carry here) (name :: more) = _ :=
    follow_name alsoStands short named
  simp only [found] at goes
  simp only [alsoFound] at alsoGoes
  unfold Leads
  rw [goes, alsoGoes]
  by_cases last : more = [] ∧ through = false
  · rw [if_pos last, if_pos last]
    refine ⟨congrArg Except.ok carried.symm, fun there leads => ?_⟩
    cases leads
    exact next
  · rw [if_neg last, if_neg last]
    exact ⟨same, inner⟩

theorem leads (carries : Carries carry inside tree other) (stays : tree.Stays inside links here rest)
    (through : Bool) : Leads carry inside tree other through links here rest := by
  induction stays with
  | @done here links within => exact leads_of_done within through
  | @blocked here links path within closed =>
    cases path with
    | nil => exact leads_of_done within through
    | cons name more => exact carries.leads_of_blocked within closed
  | @long here name links more within long => exact carries.leads_of_long within long
  | @stay here name links more within dot later ih =>
    refine carries.leads_of_name within fun stands alsoStands _ => ?_
    refine ih.step ((follow_special stands (.inl dot)).trans ?_) ((follow_special alsoStands (.inl dot)).trans ?_)
    · rw [if_pos dot]
    · rw [if_pos dot]
  | @up here name links more within dots later ih =>
    have notDot : name ≠ "." := by
      rw [dots]
      decide
    refine carries.leads_of_name within fun stands alsoStands _ => ?_
    refine ih.step ((follow_special stands (.inr dots)).trans ?_) ((follow_special alsoStands (.inr dots)).trans ?_)
    · rw [if_neg notDot]
    · rw [if_neg notDot, carries.parent here within later.within]
  | @enter here name links more within named plain later ih =>
    refine carries.leads_of_name within fun stands alsoStands short => ?_
    obtain ⟨inner, carried⟩ := carries.child here name within
    have alsoPlain := carries.plain inner plain
    rw [carried] at alsoPlain
    refine ih.step ((follow_name stands short named).trans ?_) ((follow_name alsoStands short named).trans ?_)
    · split
      · rename_i target found
        exact absurd found (plain target)
      · rfl
    · split
      · rename_i target found
        exact absurd found (alsoPlain target)
      · rw [carried]
  | @spent here name target more within named found =>
    refine carries.leads_of_link within named found rfl fun there leads => ?_
    cases leads
  | @pass here name target links more within named found later ih =>
    refine carries.leads_of_link within named found ?_ ih.2
    rw [followLink, ← carries.start here target within later.within]
    exact ih.1

end Carries
end UsingCensus.FileTree
