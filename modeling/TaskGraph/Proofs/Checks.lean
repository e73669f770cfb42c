import TaskGraph.Proofs.LayoutOrder
set_option autoImplicit false

/-! The checks that a definition is put to, in order. Its sites are visited depth first: a site is
entered before the sites below it, and a group is left after them. Every visit makes its checks one
after the other, and of all checks the first one that does not hold decides which error is
reported. -/

namespace TaskGraph

namespace Compiler

/-! ### Rows of checks -/

structure Check where
  holds : Prop
  error : Error

/-- Whether a row of checks reports an error: that of the first check
that does not hold, whatever comes after it. -/
def Reports (checks : List Check) (cause : Error) : Prop :=
  ∃ before check later, checks = before ++ check :: later ∧ (∀ other ∈ before, other.holds) ∧
    ¬check.holds ∧ check.error = cause

/-- How a row of checks ends: without an error if all of them hold, else with the reported one. -/
def Finds (checks : List Check) : Option Error → Prop
  | none => ∀ check ∈ checks, check.holds
  | some cause => Reports checks cause

def Check.onlyIf (condition : Prop) (check : Check) : Check :=
  ⟨condition → check.holds, check.error⟩

theorem reports_cons_iff (check : Check) (rest : List Check) (cause : Error) :
    Reports (check :: rest) cause ↔
      check.holds ∧ Reports rest cause ∨ ¬check.holds ∧ cause = check.error := by
  constructor
  · rintro ⟨before, first, later, shape, held, broken, same⟩
    cases before with
    | nil =>
        cases shape
        exact Or.inr ⟨broken, same.symm⟩
    | cons head tail =>
        cases shape
        obtain ⟨heldHead, heldTail⟩ := List.forall_mem_cons.mp held
        exact Or.inl ⟨heldHead, tail, first, later, rfl, heldTail, broken, same⟩
  · rintro (⟨heldHead, before, first, later, shape, held, broken, same⟩ | ⟨broken, same⟩)
    · refine ⟨check :: before, first, later, by rw [shape, List.cons_append], ?_, broken, same⟩
      exact List.forall_mem_cons.mpr ⟨heldHead, held⟩
    · exact ⟨[], check, rest, rfl, nofun, broken, same.symm⟩

theorem finds_nil_iff (failure : Option Error) : Finds [] failure ↔ failure = none := by
  cases failure with
  | none => exact iff_of_true nofun rfl
  | some cause =>
      refine iff_of_false ?_ nofun
      rintro ⟨before, check, later, shape, _⟩
      cases before <;> cases shape

/-- The first check of a row decides, unless it holds. -/
theorem finds_cons_iff (check : Check) (rest : List Check) (failure : Option Error) :
    Finds (check :: rest) failure ↔
      check.holds ∧ Finds rest failure ∨ ¬check.holds ∧ failure = some check.error := by
  cases failure with
  | none => simp [Finds]
  | some cause => simp only [Finds, reports_cons_iff, Option.some.injEq]

theorem Finds.unique {checks : List Check} {failure other : Option Error}
    (finds : Finds checks failure) (findsOther : Finds checks other) : failure = other := by
  induction checks with
  | nil => rw [(finds_nil_iff failure).mp finds, (finds_nil_iff other).mp findsOther]
  | cons check rest ih =>
      rw [finds_cons_iff] at finds findsOther
      rcases finds with ⟨held, later⟩ | ⟨broken, same⟩
      · rcases findsOther with ⟨_, laterOther⟩ | ⟨broken, _⟩
        · exact ih later laterOther
        · exact absurd held broken
      · rcases findsOther with ⟨held, _⟩ | ⟨_, sameOther⟩
        · exact absurd held broken
        · exact same.trans sameOther.symm

theorem Finds.eq_some_iff {checks : List Check} {failure : Option Error}
    (finds : Finds checks failure) (cause : Error) :
    failure = some cause ↔ Reports checks cause := by
  constructor
  · intro same
    rw [same] at finds
    exact finds
  · intro reports
    exact finds.unique reports

theorem Finds.ne_some {checks : List Check} {failure : Option Error} {cause : Error}
    (finds : Finds checks failure) (never : ∀ check ∈ checks, check.error ≠ cause) :
    failure ≠ some cause := by
  intro found
  obtain ⟨before, check, later, shape, _, _, same⟩ := (finds.eq_some_iff cause).mp found
  refine never check ?_ same
  rw [shape]
  exact List.mem_append_right _ List.mem_cons_self

theorem finds_cons {holds : Prop} {error : Error} {rest : List Check} {failure : Option Error}
    (met : holds) (finds : Finds rest failure) : Finds (⟨holds, error⟩ :: rest) failure :=
  (finds_cons_iff _ rest failure).mpr (Or.inl ⟨met, finds⟩)

theorem finds_broken {holds : Prop} {error : Error} (broken : ¬holds) (rest : List Check) :
    Finds (⟨holds, error⟩ :: rest) (some error) :=
  (finds_cons_iff _ rest _).mpr (Or.inr ⟨broken, rfl⟩)

theorem finds_append {checks more : List Check} {failure : Option Error}
    (holds : ∀ check ∈ checks, check.holds) (finds : Finds more failure) :
    Finds (checks ++ more) failure := by
  induction checks with
  | nil => exact finds
  | cons check rest ih =>
      obtain ⟨here, later⟩ := List.forall_mem_cons.mp holds
      exact finds_cons here (ih later)

/-- Checks that come after the reported error do not matter. -/
theorem Reports.append {checks : List Check} {cause : Error} (reports : Reports checks cause)
    (more : List Check) : Reports (checks ++ more) cause := by
  obtain ⟨before, check, later, shape, held, broken, same⟩ := reports
  refine ⟨before, check, later ++ more, ?_, held, broken, same⟩
  rw [shape, List.append_assoc, List.cons_append]

theorem Finds.map_onlyIf {condition : Prop} (met : condition) {checks : List Check}
    {failure : Option Error} (finds : Finds checks failure) :
    Finds (checks.map (Check.onlyIf condition)) failure := by
  induction checks with
  | nil => exact finds
  | cons check rest ih =>
      have same : (check.onlyIf condition).holds ↔ check.holds :=
        ⟨fun implied => implied met, fun holds _ => holds⟩
      rw [List.map_cons, finds_cons_iff, same]
      exact ((finds_cons_iff check rest failure).mp finds).imp_left fun both => ⟨both.1, ih both.2⟩

theorem finds_map_onlyIf_of_not {condition : Prop} (unmet : ¬condition) (checks : List Check) :
    Finds (checks.map (Check.onlyIf condition)) none := by
  intro check member
  obtain ⟨inner, _, same⟩ := List.mem_map.mp member
  rw [← same]
  exact fun met => absurd met unmet

end Compiler

/-! ### Lists of names -/

def ReadsAsList : Option Value → Prop
  | none => True
  | some .null => True
  | some (.list _) => True
  | some _ => False

def itemsOf : Option Value → List Value
  | some (.list items) => items
  | _ => []

def Config.shown (config : Config) (key : String) : Value := (config.get? key).getD .null

namespace Compiler

/-! ### The checks of a site -/

namespace Site

/-- The options of a site with the gaps filled from its defaults, its subtasks still among them. -/
def filled (site : Site) : Config := filledWith site.inherited site.own

def mappingChecks (site : Site) : List Check :=
  ⟨ReadsAsMapping (site.own.get? "default"),
      .option (.notNested "default" (site.own.shown "default") site.own)⟩ ::
    site.own.subtaskKeys.map fun key =>
      ⟨ReadsAsMapping (site.own.get? key),
        .option (.notNested key (site.own.shown key) site.filled)⟩

def enterChecks (site : Site) : List Check :=
  site.mappingChecks ++
    [⟨site.IsTask → site.own.subtaskKeys = [], (Error.taskWithSubtasks site.own).raised⟩]

def listChecks (site : Site) : List Check :=
  ⟨ReadsAsList (site.option? "after"),
    .option (.notList "after" ((site.option? "after").getD .null) site.options)⟩ ::
    (itemsOf (site.option? "after")).map fun item =>
      ⟨(Config.nameOf? item).isSome = true,
        .option (Config.Error.notNames "after" item site.options).raised⟩

def earlierChecks (site : Site) (before : List String) : List Check :=
  ((itemsOf (site.option? "after")).filterMap Config.nameOf?).map fun name =>
    ⟨name ∈ before, .unknownDependency name site.options⟩

/-- The checks of the subtasks of a group that runs them in parallel,
from the first one not among those before. -/
def subtaskChecks (site : Site) : List String → List String → List Check
  | _, [] => []
  | before, key :: later =>
      (site.child key).listChecks ++ (site.child key).earlierChecks before ++
        subtaskChecks site (before ++ [key]) later

/-- A group is left if it says whether it runs its subtasks in parallel; if so they wait for earlier
ones only, and if not the group has no `after`. -/
def leaveChecks (site : Site) : List Check :=
  ⟨∃ parallel, ReadsAs parallel (site.option? "parallel"),
      .option (Config.Error.notBoolean "parallel" ((site.option? "parallel").getD .null)
        site.options).raised⟩ ::
    (site.subtaskChecks [] site.own.subtaskKeys).map
      (Check.onlyIf (ReadsAs true (site.option? "parallel"))) ++
    [⟨ReadsAs false (site.option? "parallel") → site.option? "after" = none,
      .afterWithoutParallel site.options⟩]

theorem option?_ne_none_iff (site : Site) (key : String) :
    site.option? key ≠ none ↔ key ∈ site.own.keys ++ site.inheritedKeys := by
  have handed : site.default? key ≠ none ↔ key ∈ (handDown site.inherited site.own).keys := by
    rw [← get?_handDown_eq, Config.get?_ne_none_iff]
  rw [option?, ne_eq, Option.or_eq_none_iff, not_and_or, ← ne_eq, ← ne_eq, handed,
    Config.get?_ne_none_iff, List.mem_append, inheritedKeys_eq, List.removeAll, List.mem_filter]
  by_cases own : key ∈ site.own.keys <;> simp [own]

instance (site : Site) : Decidable site.IsTask :=
  decidable_of_iff
    (∃ key ∈ site.own.keys ++ site.inheritedKeys, isSubtaskKey key = false ∧
      isTaskKey key = true) <| by
      simp only [IsTask, option?_ne_none_iff, isTaskKey_iff]

end Site

/-! ### Visits -/

inductive Visit where
  | enter (site : Site)
  | leave (group : Site)

def Visit.checks : Visit → List Check
  | enter site => site.enterChecks
  | leave group => group.leaveChecks

namespace Site

def visits (site : Site) : List Visit :=
  .enter site :: (site.children.attach.flatMap fun child => visits child.1) ++
    if site.IsTask then [] else [.leave site]
termination_by site.own.height
decreasing_by exact height_lt_of_mem_children child.2

theorem visits_eq (site : Site) :
    site.visits = .enter site :: site.children.flatMap visits ++ if site.IsTask then [] else
    [.leave site] := by
  rw [visits, List.flatMap_subtype (g := visits) (by intros; rfl), List.unattach_attach]

def checks (site : Site) : List Check := site.visits.flatMap Visit.checks

theorem checks_eq (site : Site) :
    site.checks =
      site.enterChecks ++ (site.children.flatMap checks ++ if site.IsTask then []
        else site.leaveChecks) := by
  have below : (site.children.flatMap visits).flatMap Visit.checks = site.children.flatMap checks :=
    List.flatMap_assoc
  rw [checks, visits_eq, List.cons_append, List.flatMap_cons, List.flatMap_append, below]
  split
  · rfl
  · rw [List.flatMap_singleton]
    rfl

end Site

/-- The checks before a definition has its tasks: those on the way
through its sites, then that the root has a name. -/
def taskChecks (name : String) (root : Config) : List Check :=
  (Site.root name root).checks ++
    [⟨name ≠ "", .invalidGraph ⟨Task.model, [⟨[], .rule Task.Fault.emptyName.message⟩]⟩⟩]

/-- All checks of a definition under a name; the last one is that its own `meta` is a mapping. -/
def definitionChecks (name : String) (root : Config) : List Check :=
  taskChecks name root ++
    [⟨ReadsAsMapping (root.get? "meta"), .option (.notNested "meta" (root.shown "meta") root)⟩]

end Compiler
end TaskGraph
