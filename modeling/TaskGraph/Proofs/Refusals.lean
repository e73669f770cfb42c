import TaskGraph.Proofs.WalkVisits
set_option autoImplicit false

/-! Why a definition is refused. Where no `default` declares a subtask, the walk ends at the first
check of its sites that does not hold; the name of the root and its `meta` are looked at only after
that. So a definition is refused exactly if some check does not hold, with the error of the first
such check. -/

namespace TaskGraph.Compiler

theorem lower_nameless (root : Config) :
    lower (Spot.root "" root).nodes =
      .error ⟨Task.model, [⟨[], .rule Task.Fault.emptyName.message⟩]⟩ := by
  rw [Spot.nodes_eq, lower, List.mapM_cons]
  rfl

theorem finds_compileTasks {name : String} {root : Config} (stored : root.Stored)
    (plain : (Site.root name root).PlainDefaults) :
    Finds (taskChecks name root) (failureOf (compileTasks name root).result) := by
  have findsWalk := finds_walkRoot stored plain
  rw [taskChecks]
  cases failure : (walkRoot name root).failure with
  | some cause =>
      rw [failure] at findsWalk
      rw [compileTasks_of_failure failure]
      exact Reports.append findsWalk _
  | none =>
      rw [failure] at findsWalk
      have accepted := (walkRoot_failure_iff stored).mp failure
      rw [compileTasks_of_accepted stored accepted]
      refine finds_append findsWalk ?_
      by_cases named : name = ""
      · subst named
        rw [lower_nameless]
        exact finds_broken (fun named => named rfl) []
      · obtain ⟨list, built⟩ := exists_lower_nodes named stored accepted
        rw [built]
        exact finds_cons named ((finds_nil_iff none).mpr rfl)

theorem finds_compile {name : String} {root : Config} (stored : root.Stored)
    (plain : (Site.root name root).PlainDefaults) :
    Finds (definitionChecks name root) (failureOf (compile name root).result) := by
  have findsTasks := finds_compileTasks stored plain
  rw [definitionChecks, compile_result_eq]
  cases built : (compileTasks name root).result with
  | error cause =>
      rw [built] at findsTasks
      exact Reports.append findsTasks _
  | ok list =>
      rw [built] at findsTasks
      refine finds_append findsTasks ?_
      rcases root.nested_cases "meta" with ⟨readable, read⟩ | ⟨unreadable, read⟩
      · rw [read]
        exact finds_cons readable ((finds_nil_iff none).mpr rfl)
      · rw [read]
        exact finds_broken unreadable []

theorem compile_eq_error_iff {name : String} {root : Config} (stored : root.Stored)
    (plain : (Site.root name root).PlainDefaults) (cause : Error) :
    (compile name root).result = .error cause ↔ Reports (definitionChecks name root) cause := by
  rw [← (finds_compile stored plain).eq_some_iff]
  cases (compile name root).result <;> simp [failureOf]

/-- A definition with a key that cannot be written is refused before any check. Else the error that
it is refused with is that of its first check that does not hold: no later part of the definition
has a say in it. -/
theorem compileValue_eq_error_iff {name : String} {definition : Value} {root : Config}
    (isRoot : Config.root? definition = some root) (plain : (Site.root name root).PlainDefaults)
    (cause : Error) :
    (compileValue (.text name) definition).result = .error cause ↔
      (definition.areKeysWritable = false ∧ cause = .option .tooLong) ∨
        (definition.areKeysWritable = true ∧ Reports (definitionChecks name root) cause) := by
  have read := Config.ofDefinition_of_root? isRoot
  cases writable : definition.areKeysWritable with
  | false =>
      rw [writable] at read
      unfold compileValue
      simp [read, eq_comm]
  | true =>
      rw [writable] at read
      rw [compileValue_of_root read, compile_eq_error_iff (Config.stored_ofDefinition read) plain]
      simp

/-- A definition in which a subtask waits for a later one, and the metadata is no mapping either. -/
def draft : Value :=
  .mapping
    [(.text "meta", .int 3),
      (.text "default", .mapping [(.text "retries", .int 2)]),
      (.text "+publish", .mapping
        [(.text "parallel", .bool true),
          (.text "+site", .mapping [(.text "sh>", .text "make site"),
            (.text "after", .list [.text "+docs"])]),
          (.text "+docs", .mapping [(.text "sh>", .text "make docs"),
            (.text "after", .text "+site")])])]

theorem plainDefaults_draft :
    ∃ root, Config.ofDefinition draft = .ok root ∧ (Site.root "draft" root).PlainDefaults := by
  refine ⟨_, rfl, (Site.plainDefaults_iff _).mpr ⟨rfl, List.forall_mem_singleton.mpr ?_⟩⟩
  refine (Site.plainDefaults_iff _).mpr
    ⟨rfl, List.forall_mem_cons.mpr ⟨?site, List.forall_mem_singleton.mpr ?docs⟩⟩
  case site => exact (Site.plainDefaults_iff _).mpr ⟨rfl, nofun⟩
  case docs => exact (Site.plainDefaults_iff _).mpr ⟨rfl, nofun⟩

theorem reports_draft :
    ∃ root, Config.root? draft = some root ∧ (Site.root "draft" root).PlainDefaults ∧
      ∃ config, Reports (definitionChecks "draft" root) (.unknownDependency "+docs" config) := by
  obtain ⟨root, read, plain⟩ := plainDefaults_draft
  have isRoot := (Config.checked_eq_ok_iff.mp read).1
  obtain ⟨config, result⟩ : ∃ config, (compileValue (.text "draft") draft).result =
      .error (.unknownDependency "+docs" config) := ⟨_, rfl⟩
  have cases := (compileValue_eq_error_iff isRoot plain _).mp result
  rcases cases with ⟨_, same⟩ | ⟨_, reports⟩
  · cases same
  · exact ⟨root, isRoot, plain, config, reports⟩

/-- A definition that gives a number where it should say whether its subtasks run in parallel. -/
def paced (number : Int) : Value := .mapping [(.text "parallel", .int number)]

theorem subtaskKeys_paced {number : Int} {root : Config}
    (isRoot : Config.root? (paced number) = some root) : root.subtaskKeys = [] := by
  cases isRoot
  change ["parallel"].filter isSubtaskKey = []
  decide

theorem plainDefaults_paced {number : Int} {root : Config}
    (isRoot : Config.root? (paced number) = some root) :
    (Site.root "paced" root).PlainDefaults := by
  refine (Site.plainDefaults_iff _).mpr ⟨?_, ?_⟩
  · cases isRoot
    rfl
  · change ∀ key ∈ root.subtaskKeys, _
    rw [subtaskKeys_paced isRoot]
    exact List.forall_mem_nil _

theorem not_isTask_paced {number : Int} {root : Config}
    (isRoot : Config.root? (paced number) = some root) : ¬(Site.root "paced" root).IsTask := by
  have undefaulted : (Site.root "paced" root).Undefaulted := by
    cases isRoot
    exact Site.undefaulted_root rfl
  rintro ⟨key, present, _, makes⟩
  rw [Site.option?_of_undefaulted undefaulted, Config.get?_ne_none_iff] at present
  have same : key = "parallel" := by
    cases isRoot
    exact List.mem_singleton.mp present
  rw [same, ← isTaskKey_iff] at makes
  exact absurd makes (by decide)

/-- Where this number is too long to be written, no error says that the option is no truth value. -/
theorem overlong_parallel_not_shown :
    ∃ root, Config.root? (paced overlong) = some root ∧ (Site.root "paced" root).PlainDefaults ∧
      (∀ check ∈ (Site.root "paced" root).enterChecks, check.holds) ∧
      (¬∃ parallel, ReadsAs parallel ((Site.root "paced" root).option? "parallel")) ∧
      (compileValue (.text "paced") (paced overlong)).result = .error (.option .tooLong) := by
  have long := isWritable_overlong
  generalize overlong = number at long ⊢
  obtain ⟨root, isRoot⟩ : ∃ root, Config.root? (paced number) = some root := ⟨_, rfl⟩
  have bare := subtaskKeys_paced isRoot
  have group := not_isTask_paced isRoot
  have plain := plainDefaults_paced isRoot
  have declared : (Site.root "paced" root).option? "parallel" = some (.int number) := by
    cases isRoot
    rfl
  have entered : ∀ check ∈ (Site.root "paced" root).enterChecks, check.holds := by
    rw [Site.enterChecks, Site.mappingChecks, List.cons_append, List.forall_mem_cons]
    refine ⟨?_, ?_⟩
    · cases isRoot
      trivial
    · change ∀ check ∈ root.subtaskKeys.map _ ++ [_], Check.holds check
      rw [bare]
      exact List.forall_mem_singleton.mpr fun _ => bare
  have unreadable : ¬∃ parallel,
      ReadsAs parallel ((Site.root "paced" root).option? "parallel") := by
    rw [declared]
    rintro ⟨parallel, reads⟩
    cases reads
  have left : Finds (Site.root "paced" root).leaveChecks (some (.option .tooLong)) := by
    have unshown (config : Config) :
        (Config.Error.notBoolean "parallel" (.int number) config).isWritable = false := long
    rw [Site.leaveChecks, declared, Option.getD_some, Config.Error.raised, unshown]
    rw [declared] at unreadable
    exact finds_broken unreadable _
  have found : Reports (Site.root "paced" root).checks (.option .tooLong) := by
    rw [Site.checks_eq, if_neg group, Site.children]
    change Reports (_ ++ ((root.subtaskKeys.map _).flatMap _ ++ _)) _
    rw [bare]
    exact finds_append entered left
  have reports : Reports (definitionChecks "paced" root) (.option .tooLong) :=
    (found.append _).append _
  have read : Config.ofDefinition (paced number) = .ok root :=
    Config.checked_eq_ok_iff.mpr ⟨isRoot, rfl⟩
  refine ⟨root, isRoot, plain, entered, unreadable, ?_⟩
  rw [compileValue_of_root read]
  exact (compile_eq_error_iff (Config.stored_of_root? isRoot) plain _).mpr reports

end TaskGraph.Compiler
