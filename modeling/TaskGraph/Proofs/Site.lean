import TaskGraph.Proofs.Inheritance
set_option autoImplicit false

/-! The nodes of a definition, as the definition itself declares them: a site is a node together
with the line of groups that leads to it from the root. What a site resolves to is said of that line
alone, without a walk: each option has its own value, else that of the nearest `default` on the
line. -/

namespace TaskGraph.Compiler

/-- A node of a definition: the groups that lead to it, each with its name and its own options, its
name and its own options. -/
structure Site where
  above : List (String × Config)
  name : String
  own : Config

namespace Site

def root (name : String) (own : Config) : Site := ⟨[], name, own⟩

def path (site : Site) : List String := site.above.map (·.1) ++ [site.name]

def lineage (site : Site) : List Config := site.above.map (·.2) ++ [site.own]

def child (site : Site) (key : String) : Site :=
  ⟨site.above ++ [(site.name, site.own)], key, site.own.below key⟩

theorem path_child (site : Site) (key : String) : (site.child key).path = site.path ++ [key] := by
  rw [path, child, List.map_append]
  rfl

def children (site : Site) : List Site := site.own.subtaskKeys.map site.child

theorem height_lt_of_mem_children {site child : Site} (member : child ∈ site.children) :
    child.own.height < site.own.height := by
  obtain ⟨key, declared, same⟩ := List.mem_map.mp member
  rw [← same]
  exact Config.height_below_lt ((site.own.mem_subtaskKeys key).mp declared).1

/-- A site and all sites below it, each before those below it and these before its next sibling. -/
def preorder (site : Site) : List Site :=
  site :: site.children.attach.flatMap fun child => preorder child.1
termination_by site.own.height
decreasing_by exact height_lt_of_mem_children child.2

theorem preorder_eq (site : Site) : site.preorder = site :: site.children.flatMap preorder := by
  rw [preorder, List.flatMap_subtype (g := preorder) (by intros; rfl), List.unattach_attach]

theorem forall_mem_preorder_iff (site : Site) (holds : Site → Prop) :
    (∀ other ∈ site.preorder, holds other) ↔
      holds site ∧ ∀ child ∈ site.children, ∀ other ∈ child.preorder, holds other := by
  rw [preorder_eq, List.forall_mem_cons]
  simp only [List.forall_mem_flatMap]

theorem induction {motive : Site → Prop}
    (step : ∀ site, (∀ child ∈ site.children, motive child) → motive site) (site : Site) :
    motive site :=
  step site fun child _member => induction step child
termination_by site.own.height
decreasing_by exact height_lt_of_mem_children _member

theorem stored_of_mem_preorder {site : Site} (stored : site.own.Stored) :
    ∀ other ∈ site.preorder, other.own.Stored := by
  induction site using induction with
  | step site ih =>
      rw [forall_mem_preorder_iff]
      refine ⟨stored, fun child member => ih child member ?_⟩
      obtain ⟨key, _, same⟩ := List.mem_map.mp member
      rw [← same]
      exact site.own.stored_below key

/-! ### What a site resolves to -/

def default? (site : Site) (key : String) : Option Value :=
  site.lineage.reverse.findSome? fun own => (own.below "default").get? key

def option? (site : Site) (key : String) : Option Value :=
  (site.own.get? key).or (site.default? key)

/-- The options that only defaults give a site, in the order of
their first appearance on its line. -/
def inheritedKeys (site : Site) : List String :=
  (site.lineage.flatMap fun own => (own.below "default").keys).eraseDups.filter (!site.own.has ·)

/-- The options of a site in order: its own but for its
subtasks, then those that only defaults give. -/
def resolved (site : Site) : Fields Value :=
  (site.own.fields.filter fun field => !isSubtaskKey field.1) ++
    site.inheritedKeys.filterMap fun key => (site.default? key).map (key, ·)

def inherited (site : Site) : Config := handedDown (site.above.map (·.2))

def options (site : Site) : Config := optionsOf site.inherited site.own

theorem handDown_eq (site : Site) : handDown site.inherited site.own = handedDown site.lineage := by
  rw [lineage, handedDown_append, inherited]

theorem get?_handDown_eq (site : Site) (key : String) :
    (handDown site.inherited site.own).get? key = site.default? key := by
  rw [handDown_eq, get?_handedDown, default?]

theorem inherited_child (site : Site) (key : String) :
    (site.child key).inherited = handDown site.inherited site.own := by
  rw [handDown_eq, inherited, child, List.map_append, lineage]
  rfl

theorem get?_options {site : Site} (stored : site.own.Stored) (key : String) :
    site.options.get? key = if isSubtaskKey key then none else site.option? key := by
  rw [options, get?_optionsOf stored, get?_handDown_eq, option?]

theorem stored_options {site : Site} (stored : site.own.Stored) : site.options.Stored :=
  stored_optionsOf (stored_handedDown _) stored

def Bare (site : Site) : Prop := ∀ key, isSubtaskKey key = true → site.default? key = none

theorem bare_iff (site : Site) :
    site.Bare ↔ (handDown site.inherited site.own).subtaskKeys = [] := by
  simp only [Bare, Config.subtaskKeys_eq_nil_iff, get?_handDown_eq]

/-- Whether no `default` at a site or below it declares a subtask. -/
def PlainDefaults (site : Site) : Prop :=
  ∀ other ∈ site.preorder, (other.own.below "default").subtaskKeys = []

theorem plainDefaults_iff (site : Site) :
    site.PlainDefaults ↔ (site.own.below "default").subtaskKeys = [] ∧
      ∀ key ∈ site.own.subtaskKeys, (site.child key).PlainDefaults := by
  unfold PlainDefaults
  rw [forall_mem_preorder_iff, children, List.forall_mem_map]

theorem subtaskKeys_handDown_eq_nil {inherited own : Config} (stored : inherited.Stored)
    (bare : inherited.subtaskKeys = []) (plain : (own.below "default").subtaskKeys = []) :
    (handDown inherited own).subtaskKeys = [] := by
  rw [Config.subtaskKeys_eq_nil_iff] at bare plain ⊢
  intro key isSubtask
  rw [get?_handDown stored, bare key isSubtask, plain key isSubtask]
  rfl

theorem bare_of_plainDefaults {site : Site} (bare : site.inherited.subtaskKeys = [])
    (plain : site.PlainDefaults) :
    ∀ other ∈ site.preorder, other.Bare := by
  induction site using induction with
  | step site ih =>
      obtain ⟨here, below⟩ := (forall_mem_preorder_iff site _).mp plain
      have stored : site.inherited.Stored := stored_handedDown _
      have down := subtaskKeys_handDown_eq_nil stored bare here
      refine (forall_mem_preorder_iff site _).mpr ⟨(bare_iff site).mpr down, fun child member => ?_⟩
      obtain ⟨key, _, same⟩ := List.mem_map.mp member
      refine ih child member ?_ (below child member)
      rw [← same, inherited_child, down]

theorem bare_of_plainDefaults_root {name : String} {own : Config}
    (plain : (root name own).PlainDefaults) :
    ∀ other ∈ (root name own).preorder, other.Bare := bare_of_plainDefaults rfl plain

theorem inheritedKeys_eq (site : Site) :
    site.inheritedKeys = (handDown site.inherited site.own).keys.removeAll site.own.keys := by
  rw [handDown_eq, keys_handedDown, List.removeAll, inheritedKeys]
  rfl

theorem inheritedKeys_nodup (site : Site) : site.inheritedKeys.Nodup := by
  rw [inheritedKeys_eq]
  exact List.Nodup.sublist List.filter_sublist (Config.distinct _)

theorem isSubtaskKey_of_mem_inheritedKeys {site : Site} (bare : site.Bare) {key : String}
    (member : key ∈ site.inheritedKeys) : isSubtaskKey key = false := by
  rw [inheritedKeys_eq] at member
  have present := (Config.get?_ne_none_iff _ key).mpr (List.mem_filter.mp member).1
  rw [get?_handDown_eq] at present
  cases isSubtask : isSubtaskKey key with
  | false => rfl
  | true => exact absurd (bare key isSubtask) present

theorem get?_own_of_mem_inheritedKeys {site : Site} {key : String}
    (member : key ∈ site.inheritedKeys) :
    site.own.get? key = none := by
  have missing := (List.mem_filter.mp member).2
  rw [Config.get?, Fields.get?_eq_none_iff, ← Fields.has_eq_true_iff]
  simpa [Config.has] using missing

theorem keys_options {site : Site} (stored : site.own.Stored) (bare : site.Bare) :
    site.options.keys = site.own.keys.filter (!isSubtaskKey ·) ++ site.inheritedKeys := by
  have ownOnce : site.own.keys.eraseDups = site.own.keys :=
    Fields.eraseDups_eq_self site.own.distinct
  have once : site.inheritedKeys.eraseDups = site.inheritedKeys :=
    Fields.eraseDups_eq_self site.inheritedKeys_nodup
  have plain : site.inheritedKeys.filter (!isSubtaskKey ·) = site.inheritedKeys := by
    apply List.filter_eq_self.mpr
    intro key member
    rw [isSubtaskKey_of_mem_inheritedKeys bare member]
    rfl
  rw [options, keys_optionsOf stored, List.eraseDups_append, ← inheritedKeys_eq, once, ownOnce,
    List.filter_append, plain]

/-- The walk finds the options that the line of a site says, in that order. -/
theorem fields_options {site : Site} (stored : site.own.Stored) (bare : site.Bare) :
    site.options.fields = site.resolved := by
  -- Fields are their names in order with the value of each, so either half is compared name by
  -- name.
  have own : (site.own.keys.filter (!isSubtaskKey ·)).filterMap
      (fun key => (site.options.get? key).map (key, ·)) =
        site.own.fields.filter fun field => !isSubtaskKey field.1 := by
    have kept : Fields.Distinct (site.own.fields.filter fun field => !isSubtaskKey field.1) :=
      List.Nodup.sublist (List.Sublist.map _ List.filter_sublist) site.own.distinct
    rw [Fields.eq_filterMap_keys kept, Fields.keys_filter (fun name => !isSubtaskKey name)]
    apply List.filterMap_congr
    intro key member
    obtain ⟨present, isOption⟩ := List.mem_filter.mp member
    obtain ⟨value, found⟩ := Option.ne_none_iff_exists'.mp
      ((Config.get?_ne_none_iff _ key).mpr present)
    have isPlain : isSubtaskKey key = false := by simpa using isOption
    rw [get?_options stored, option?, Fields.get?_filter (fun name => !isSubtaskKey name),
      found, isPlain]
    rw [Config.get?] at found
    rw [found]
    rfl
  have gaps : site.inheritedKeys.filterMap (fun key => (site.options.get? key).map (key, ·)) =
      site.inheritedKeys.filterMap fun key => (site.default? key).map (key, ·) := by
    apply List.filterMap_congr
    intro key member
    rw [get?_options stored, option?, isSubtaskKey_of_mem_inheritedKeys bare member,
      get?_own_of_mem_inheritedKeys member]
    rfl
  calc site.options.fields
      = site.options.keys.filterMap fun key => (site.options.get? key).map (key, ·) :=
        Fields.eq_filterMap_keys site.options.distinct
    _ = site.resolved := by
      rw [keys_options stored bare, List.filterMap_append, own, gaps, resolved]

end Site

/-! ### Tasks and groups -/

/-- Whether an option name makes its node a task: `type`, or an operator that ends in `>`
or `>=`. -/
def MakesTask (key : String) : Prop :=
  key = "type" ∨ key = "type=" ∨ ['>'] <:+ key.toList ∨ ['>', '='] <:+ key.toList

theorem isOperatorKey_iff (key : String) :
    isOperatorKey key = true ↔ ['>'] <:+ key.toList ∨ ['>', '='] <:+ key.toList := by
  have one : ['>'] <:+ key.toList ↔ ['>'] <+: key.toList.reverse := by
    rw [← List.reverse_prefix]
    rfl
  have two : ['>', '='] <:+ key.toList ↔ ['=', '>'] <+: key.toList.reverse := by
    rw [← List.reverse_prefix]
    rfl
  rw [one, two, isOperatorKey]
  split
  · rename_i tail shape
    exact iff_of_true rfl (Or.inl ⟨tail, shape.symm⟩)
  · rename_i tail shape
    exact iff_of_true rfl (Or.inr ⟨tail, shape.symm⟩)
  · rename_i notGreater notGreaterEqual
    apply iff_of_false Bool.false_ne_true
    rintro (⟨tail, shape⟩ | ⟨tail, shape⟩)
    · exact notGreater tail shape.symm
    · exact notGreaterEqual tail shape.symm

theorem isTaskKey_iff (key : String) : isTaskKey key = true ↔ MakesTask key := by
  rw [isTaskKey, MakesTask, Bool.or_eq_true, Bool.or_eq_true, isOperatorKey_iff, or_assoc,
    decide_eq_true_iff, decide_eq_true_iff]

theorem isTask_iff (config : Config) :
    config.isTask = true ↔ ∃ key, config.get? key ≠ none ∧ MakesTask key := by
  rw [Config.isTask, List.any_eq_true]
  apply exists_congr
  intro key
  rw [Config.get?_ne_none_iff, isTaskKey_iff]

namespace Site

def IsTask (site : Site) : Prop :=
  ∃ key, site.option? key ≠ none ∧ isSubtaskKey key = false ∧ MakesTask key

theorem isTask_options_iff {site : Site} (stored : site.own.Stored) :
    site.options.isTask = true ↔ site.IsTask := by
  rw [isTask_iff]
  apply exists_congr
  intro key
  rw [get?_options stored]
  cases isSubtaskKey key <;> simp

/-! ### What a definition must say at a site -/

/-- What a definition that compiles says at every site. A group that runs its subtasks in parallel
lets them wait for earlier ones only; any other group has no `after`, which otherwise nothing
reads. -/
structure Accepted (site : Site) : Prop where
  default_mapping : ReadsAsMapping (site.own.get? "default")
  bare : site.Bare
  subtask_mapping : ∀ key ∈ site.own.subtaskKeys, ReadsAsMapping (site.own.get? key)
  task_alone : site.IsTask → site.own.subtaskKeys = []
  parallel_truth : ¬site.IsTask → ∃ truth, ReadsAs truth (site.option? "parallel")
  after_earlier : ¬site.IsTask → ReadsAs true (site.option? "parallel") →
    ∀ before key later, site.own.subtaskKeys = before ++ key :: later →
      DependsOn before ((site.child key).option? "after")
  after_parallel : ¬site.IsTask → ReadsAs false (site.option? "parallel") →
    site.option? "after" = none

theorem accepted_of_task {site : Site} (readable : ReadsAsMapping (site.own.get? "default"))
    (bare : site.Bare) (subtasks : ∀ key ∈ site.own.subtaskKeys, ReadsAsMapping (site.own.get? key))
    (task : site.IsTask) (alone : site.own.subtaskKeys = []) : site.Accepted where
  default_mapping := readable
  bare := bare
  subtask_mapping := subtasks
  task_alone := fun _ => alone
  parallel_truth := fun group => absurd task group
  after_earlier := fun group => absurd task group
  after_parallel := fun group => absurd task group

theorem accepted_of_group {site : Site} (readable : ReadsAsMapping (site.own.get? "default"))
    (bare : site.Bare) (subtasks : ∀ key ∈ site.own.subtaskKeys, ReadsAsMapping (site.own.get? key))
    (group : ¬site.IsTask) (truth : ∃ truth, ReadsAs truth (site.option? "parallel"))
    (earlier : ReadsAs true (site.option? "parallel") →
      ∀ before key later, site.own.subtaskKeys = before ++ key :: later →
        DependsOn before ((site.child key).option? "after"))
    (parallel : ReadsAs false (site.option? "parallel") → site.option? "after" = none) :
    site.Accepted where
  default_mapping := readable
  bare := bare
  subtask_mapping := subtasks
  task_alone := fun task => absurd task group
  parallel_truth := fun _ => truth
  after_earlier := fun _ => earlier
  after_parallel := fun _ => parallel

end Site
end TaskGraph.Compiler
