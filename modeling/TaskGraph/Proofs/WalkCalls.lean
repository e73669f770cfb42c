import TaskGraph.Proofs.Refusals
set_option autoImplicit false

/-! The calls of the walk over a definition. The traced walk is the walk with a record of its calls,
each as the site that it was made for, so that the names above it are those of the calls under way.
Where no `default` declares a subtask, each call is made for a node of the definition and no node is
walked twice, so the walk comes to an end whatever the defaults add to its nodes, and never goes
deeper than the definition does. -/

namespace TaskGraph.Compiler

/-! ### The traced walk -/

structure Traced (α : Type) where
  result : α
  calls : List Site

def tracedBelow (visit : Nat → String → Config → Traced Walk) : Nat → List (String × Config) →
    Traced Below
  | _, [] => ⟨⟨[], none⟩, []⟩
  | index, (name, config) :: rest =>
      let walk := visit index name config
      match walk.result.failure with
      | some cause => ⟨⟨[walk.result.nodes], some cause⟩, walk.calls⟩
      | none =>
          let below := tracedBelow visit (index + walk.result.nodes.length) rest
          ⟨⟨walk.result.nodes :: below.result.blocks, below.result.failure⟩,
            walk.calls ++ below.calls⟩

def traced : Nat → List (String × Config) → Nat → Option Holder → Config → String →
    Config → Traced Walk
  | 0, above, _, _, _, name, own => ⟨⟨[], some .endless⟩, [⟨above, name, own⟩]⟩
  | depth + 1, above, index, parent, inherited, name, own =>
      match resolve inherited own with
      | .error cause => ⟨⟨[], some (.option cause)⟩, [⟨above, name, own⟩]⟩
      | .ok resolved =>
          if resolved.options.isTask then
            if resolved.subtasks.isEmpty then
              ⟨⟨[⟨name, index, parent, [], .task, resolved.options⟩], none⟩, [⟨above, name, own⟩]⟩
            else ⟨⟨[], some (Error.taskWithSubtasks own).raised⟩, [⟨above, name, own⟩]⟩
          else
            let below := tracedBelow
              (fun place => traced depth (above ++ [(name, own)]) place
                (some ⟨index, name⟩) resolved.defaults)
              (index + 1) resolved.subtasks
            ⟨closeGroup ⟨name, index, parent, [], .group, resolved.options⟩ below.result,
              ⟨above, name, own⟩ :: below.calls⟩

theorem result_tracedBelow {visit : Nat → String → Config → Traced Walk}
    {plain : Nat → String → Config → Walk}
    (same : ∀ index name config, (visit index name config).result = plain index name config)
    (index : Nat) (subtasks : List (String × Config)) :
    (tracedBelow visit index subtasks).result = walkBelow plain index subtasks := by
  induction subtasks generalizing index with
  | nil => rfl
  | cons subtask rest ih =>
      obtain ⟨name, config⟩ := subtask
      rw [tracedBelow, walkBelow, ← same]
      cases failure : (visit index name config).result.failure with
      | some cause => rfl
      | none =>
          dsimp only
          rw [ih]

/-- Keeping record does not change what the walk gives. -/
theorem result_traced (depth : Nat) (above : List (String × Config)) (index : Nat)
    (parent : Option Holder) (inherited : Config) (name : String) (own : Config) :
    (traced depth above index parent inherited name own).result =
      walk depth index parent inherited name own := by
  induction depth generalizing above index parent inherited name own with
  | zero => rfl
  | succ depth ih =>
      rw [traced, walk]
      cases resolve inherited own with
      | error cause => rfl
      | ok resolved =>
          by_cases isTask : resolved.options.isTask = true
          · simp only [if_pos isTask]
            split <;> rfl
          · simp only [if_neg isTask]
            rw [result_tracedBelow fun _ _ _ => ih ..]

namespace Site

/-! ### The nodes of a definition -/

/-- How many subtasks lie one in the other below a site, at most. -/
def nesting (site : Site) : Nat :=
  (site.children.attach.map fun child => nesting child.1 + 1).foldr max 0
termination_by site.own.height
decreasing_by exact height_lt_of_mem_children child.2

theorem nesting_eq (site : Site) :
    site.nesting = (site.children.map fun child => child.nesting + 1).foldr max 0 := by
  rw [nesting, List.attach_map_val (f := fun child : Site => child.nesting + 1)]

theorem nesting_le_iff (site : Site) (bound : Nat) :
    site.nesting ≤ bound ↔ ∀ child ∈ site.children, child.nesting < bound := by
  rw [nesting_eq]
  induction site.children with
  | nil => exact iff_of_true (Nat.zero_le _) nofun
  | cons child rest ih =>
      rw [List.map_cons, List.foldr_cons, Nat.max_le, ih, List.forall_mem_cons, Nat.succ_le_iff]

theorem nesting_lt_of_mem_children {site child : Site} (member : child ∈ site.children) :
    child.nesting < site.nesting := (nesting_le_iff site _).mp (Nat.le_refl _) child member

theorem nesting_le_height (site : Site) : site.nesting ≤ site.own.height := by
  induction site using induction with
  | step site ih =>
      refine (nesting_le_iff site _).mpr fun child member => ?_
      have lower := height_lt_of_mem_children member
      have inner := ih child member
      omega

theorem path_prefix_of_mem_preorder {site other : Site} (member : other ∈ site.preorder) :
    site.path <+: other.path := by
  induction site using induction with
  | step site ih =>
      rw [preorder_eq] at member
      rcases List.mem_cons.mp member with here | below
      · subst here
        exact List.prefix_rfl
      · obtain ⟨child, isChild, inside⟩ := List.mem_flatMap.mp below
        obtain ⟨key, _, same⟩ := List.mem_map.mp isChild
        have longer := ih child isChild inside
        rw [← same, path_child] at longer
        exact (List.prefix_append _ _).trans longer

/-- No node stands twice among a node and those below it: the
subtasks of a group have different names. -/
theorem nodup_preorder (site : Site) : site.preorder.Nodup := by
  induction site using induction with
  | step site ih =>
      rw [preorder_eq, List.nodup_cons]
      constructor
      · intro member
        obtain ⟨child, isChild, inside⟩ := List.mem_flatMap.mp member
        obtain ⟨key, _, same⟩ := List.mem_map.mp isChild
        have shorter := (path_prefix_of_mem_preorder inside).length_le
        rw [← same, path_child, List.length_append, List.length_singleton] at shorter
        omega
      · refine List.nodup_flatMap.mpr ⟨ih, ?_⟩
        rw [children, List.pairwise_map]
        refine List.Pairwise.imp (fun {key later} different => ?_) site.own.subtaskKeys_nodup
        -- A node below two subtasks would have a path that begins with both of theirs.
        intro other below belowLater
        have first := path_prefix_of_mem_preorder below
        have second := path_prefix_of_mem_preorder belowLater
        rw [path_child] at first second
        have same := (List.prefix_of_prefix_length_le first second (by simp)).eq_of_length (by simp)
        rw [List.append_cancel_left_eq, List.cons.injEq] at same
        exact different same.1

theorem length_path_le {site other : Site} (member : other ∈ site.preorder) :
    other.path.length ≤ site.path.length + site.nesting := by
  induction site using induction with
  | step site ih =>
      rw [preorder_eq] at member
      rcases List.mem_cons.mp member with here | below
      · rw [here]
        omega
      · obtain ⟨child, isChild, inside⟩ := List.mem_flatMap.mp below
        obtain ⟨key, _, same⟩ := List.mem_map.mp isChild
        have reached := ih child isChild inside
        have fewer := nesting_lt_of_mem_children isChild
        rw [← same, path_child, List.length_append, List.length_singleton, same] at reached
        omega

/-! ### The calls for a site -/

def tracedFrom (depth index : Nat) (parent : Option Holder) (site : Site) : Traced Walk :=
  traced depth site.above index parent site.inherited site.name site.own

def tracedHeld (depth : Nat) (site : Site) (holder index : Nat) (keys : List String) :
    Traced Below :=
  tracedBelow
    (fun place => traced depth (site.above ++ [(site.name, site.own)]) place
      (some ⟨holder, site.name⟩) (handDown site.inherited site.own))
    index (keys.map fun key => (key, site.own.below key))

theorem tracedHeld_cons (depth : Nat) (site : Site) (holder index : Nat) (key : String)
    (rest : List String) :
    tracedHeld depth site holder index (key :: rest) =
      let walk := tracedFrom depth index (some ⟨holder, site.name⟩) (site.child key)
      match walk.result.failure with
      | some cause => ⟨⟨[walk.result.nodes], some cause⟩, walk.calls⟩
      | none =>
          let below := tracedHeld depth site holder (index + walk.result.nodes.length) rest
          ⟨⟨walk.result.nodes :: below.result.blocks, below.result.failure⟩,
            walk.calls ++ below.calls⟩ := by
  have first : tracedFrom depth index (some ⟨holder, site.name⟩) (site.child key) =
      traced depth (site.above ++ [(site.name, site.own)]) index (some ⟨holder, site.name⟩)
        (handDown site.inherited site.own) key (site.own.below key) := by
    rw [tracedFrom, inherited_child]
    rfl
  rw [tracedHeld, List.map_cons, tracedBelow, first]
  rfl

theorem tracedFrom_succ (depth index : Nat) (parent : Option Holder) {site : Site}
    (stored : site.own.Stored) (bare : site.Bare) :
    tracedFrom (depth + 1) index parent site =
      match resolve site.inherited site.own with
      | .error cause => ⟨⟨[], some (.option cause)⟩, [site]⟩
      | .ok _ =>
          if site.options.isTask then
            if site.own.subtaskKeys = [] then
              ⟨⟨[⟨site.name, index, parent, [], .task, site.options⟩], none⟩, [site]⟩
            else ⟨⟨[], some (Error.taskWithSubtasks site.own).raised⟩, [site]⟩
          else
            let below := tracedHeld depth site index (index + 1) site.own.subtaskKeys
            ⟨closeGroup ⟨site.name, index, parent, [], .group, site.options⟩ below.result,
              site :: below.calls⟩ := by
  rw [tracedFrom, traced]
  cases found : resolve site.inherited site.own with
  | error cause => rfl
  | ok resolved =>
      obtain ⟨_, _, same⟩ := (resolve_eq_ok_iff_of_bare stored
        ((bare_iff site).mp bare) resolved).mp found
      simp only [same, List.isEmpty_iff, List.map_eq_nil_iff]
      rfl

/-- A site is walked alone, or with its subtasks; then all of them are mappings. -/
theorem calls_tracedFrom_succ (depth index : Nat) (parent : Option Holder) {site : Site}
    (stored : site.own.Stored) (bare : site.Bare) :
    (tracedFrom (depth + 1) index parent site).calls = [site] ∨
      (∀ key ∈ site.own.subtaskKeys, ReadsAsMapping (site.own.get? key)) ∧
        (tracedFrom (depth + 1) index parent site).calls =
          site :: (tracedHeld depth site index (index + 1) site.own.subtaskKeys).calls := by
  rw [tracedFrom_succ depth index parent stored bare]
  cases found : resolve site.inherited site.own with
  | error cause => exact Or.inl rfl
  | ok resolved =>
      obtain ⟨_, readable, _⟩ :=
        (resolve_eq_ok_iff_of_bare stored ((bare_iff site).mp bare) resolved).mp found
      by_cases isTask : site.options.isTask = true
      · simp only [if_pos isTask]
        split <;> exact Or.inl rfl
      · refine Or.inr ⟨readable, ?_⟩
        simp only [if_neg isTask]

theorem stored_of_mem_children {site child : Site} (member : child ∈ site.children) :
    child.own.Stored := by
  obtain ⟨key, _, same⟩ := List.mem_map.mp member
  rw [← same]
  exact site.own.stored_below key

theorem singleton_sublist_preorder (site : Site) : [site].Sublist site.preorder := by
  rw [preorder_eq]
  exact (List.nil_sublist _).cons_cons site

theorem calls_tracedHeld_sublist {depth : Nat} {site : Site} {holder index : Nat}
    {keys : List String} (each : ∀ key ∈ keys, ∀ place parent,
      (tracedFrom depth place parent (site.child key)).calls.Sublist (site.child key).preorder) :
    (tracedHeld depth site holder index keys).calls.Sublist
      ((keys.map site.child).flatMap preorder) := by
  induction keys generalizing index with
  | nil => exact List.Sublist.slnil
  | cons key rest ih =>
      obtain ⟨first, later⟩ := List.forall_mem_cons.mp each
      have here := first index (some ⟨holder, site.name⟩)
      rw [tracedHeld_cons, List.map_cons, List.flatMap_cons]
      dsimp only
      split
      · exact here.trans (List.sublist_append_left _ _)
      · exact here.append (ih later)

/-- The calls made for a site are for it and for sites below it,
in their order and each at most once. -/
theorem calls_sublist_preorder (depth index : Nat) (parent : Option Holder) {site : Site}
    (stored : site.own.Stored) (bare : ∀ other ∈ site.preorder, other.Bare) :
    (tracedFrom depth index parent site).calls.Sublist site.preorder := by
  induction depth generalizing site index parent with
  | zero => exact singleton_sublist_preorder site
  | succ depth ih =>
      obtain ⟨here, below⟩ := (forall_mem_preorder_iff site _).mp bare
      rcases calls_tracedFrom_succ depth index parent stored here with only | ⟨_, all⟩
      · rw [only]
        exact singleton_sublist_preorder site
      · rw [all, preorder_eq]
        refine List.Sublist.cons_cons site
          (calls_tracedHeld_sublist fun key declared place parent => ?_)
        have isChild : site.child key ∈ site.children := List.mem_map_of_mem declared
        exact ih place parent (stored_of_mem_children isChild) (below _ isChild)

/-- A node of a definition, given by its root: the root, or what the `+`
key of a node declares with null or a mapping. -/
inductive Declares (root : Site) : Site → Prop where
  | self : Declares root root
  | child {site : Site} {key : String} : Declares root site → key ∈ site.own.subtaskKeys →
      ReadsAsMapping (site.own.get? key) → Declares root (site.child key)

theorem declares_of_mem_tracedHeld {root site : Site} {depth holder index : Nat}
    {keys : List String} (each : ∀ key ∈ keys, ∀ place parent,
      ∀ call ∈ (tracedFrom depth place parent (site.child key)).calls, Declares root call) :
    ∀ call ∈ (tracedHeld depth site holder index keys).calls, Declares root call := by
  induction keys generalizing index with
  | nil => exact nofun
  | cons key rest ih =>
      obtain ⟨first, later⟩ := List.forall_mem_cons.mp each
      have here := first index (some ⟨holder, site.name⟩)
      rw [tracedHeld_cons]
      dsimp only
      split
      · exact here
      · exact List.forall_mem_append.mpr ⟨here, ih later⟩

theorem declares_of_mem_calls {root : Site} (depth index : Nat) (parent : Option Holder)
    {site : Site} (stored : site.own.Stored) (bare : ∀ other ∈ site.preorder, other.Bare)
    (declared : Declares root site) :
    ∀ call ∈ (tracedFrom depth index parent site).calls, Declares root call := by
  induction depth generalizing site index parent with
  | zero => exact List.forall_mem_singleton.mpr declared
  | succ depth ih =>
      obtain ⟨here, below⟩ := (forall_mem_preorder_iff site _).mp bare
      rcases calls_tracedFrom_succ depth index parent stored here with only | ⟨readable, all⟩
      · rw [only]
        exact List.forall_mem_singleton.mpr declared
      · rw [all]
        refine List.forall_mem_cons.mpr
          ⟨declared, declares_of_mem_tracedHeld fun key member place parent => ?_⟩
        have isChild : site.child key ∈ site.children := List.mem_map_of_mem member
        have reached := declared.child member (readable key member)
        exact ih place parent (stored_of_mem_children isChild) (below _ isChild) reached

theorem tracedHeld_congr {depth other : Nat} {site : Site} {holder index : Nat} {keys : List String}
    (each : ∀ key ∈ keys, ∀ place parent,
      tracedFrom depth place parent (site.child key) = tracedFrom other place parent
        (site.child key)) :
    tracedHeld depth site holder index keys = tracedHeld other site holder index keys := by
  induction keys generalizing index with
  | nil => rfl
  | cons key rest ih =>
      obtain ⟨first, later⟩ := List.forall_mem_cons.mp each
      rw [tracedHeld_cons, tracedHeld_cons, first]
      simp only [ih later]

/-- Any two bounds that the nesting of a site stays below give the same walk with the same calls. -/
theorem tracedFrom_congr {depth other : Nat} (index : Nat) (parent : Option Holder) {site : Site}
    (stored : site.own.Stored) (bare : ∀ other ∈ site.preorder, other.Bare)
    (enough : site.nesting < depth) (enoughOther : site.nesting < other) :
    tracedFrom depth index parent site = tracedFrom other index parent site := by
  induction site using induction generalizing depth other index parent with
  | step site ih =>
      obtain ⟨here, below⟩ := (forall_mem_preorder_iff site _).mp bare
      obtain ⟨depth, rfl⟩ := Nat.exists_eq_succ_of_ne_zero (Nat.ne_zero_of_lt enough)
      obtain ⟨other, rfl⟩ := Nat.exists_eq_succ_of_ne_zero (Nat.ne_zero_of_lt enoughOther)
      have held : tracedHeld depth site index (index + 1) site.own.subtaskKeys =
          tracedHeld other site index (index + 1) site.own.subtaskKeys := by
        refine tracedHeld_congr fun key declared place parent => ?_
        have isChild : site.child key ∈ site.children := List.mem_map_of_mem declared
        have fewer := nesting_lt_of_mem_children isChild
        exact ih _ isChild place parent (stored_of_mem_children isChild) (below _ isChild)
          (by omega) (by omega)
      rw [tracedFrom_succ depth index parent stored here,
        tracedFrom_succ other index parent stored here, held]

end Site

/-! ### The walk ends -/

theorem raised_ne_endless {cause : Error} (ends : cause ≠ .endless) : cause.raised ≠ .endless := by
  unfold Error.raised
  split
  · exact ends
  · exact (Error.noConfusion ·)

/-- No check reports that a definition goes on without end. -/
theorem error_ne_endless {site : Site} {check : Check} (member : check ∈ site.checks) :
    check.error ≠ .endless := by
  have entering (site : Site) : ∀ check ∈ site.enterChecks, check.error ≠ .endless := by
    rw [Site.enterChecks, Site.mappingChecks, List.forall_mem_append, List.forall_mem_cons,
      List.forall_mem_map, List.forall_mem_singleton]
    exact ⟨⟨(Error.noConfusion ·), fun _ _ => (Error.noConfusion ·)⟩,
      raised_ne_endless (Error.noConfusion ·)⟩
  have subtasks (site : Site) (before keys : List String) :
      ∀ check ∈ site.subtaskChecks before keys, check.error ≠ .endless := by
    induction keys generalizing before with
    | nil => exact List.forall_mem_nil _
    | cons key rest ih =>
        rw [Site.subtaskChecks, Site.listChecks, Site.earlierChecks, List.forall_mem_append,
          List.forall_mem_append, List.forall_mem_cons, List.forall_mem_map, List.forall_mem_map]
        exact ⟨⟨⟨(Error.noConfusion ·), fun _ _ => (Error.noConfusion ·)⟩,
          fun _ _ => (Error.noConfusion ·)⟩, ih _⟩
  have leaving (group : Site) : ∀ check ∈ group.leaveChecks, check.error ≠ .endless := by
    rw [Site.leaveChecks, List.forall_mem_append, List.forall_mem_cons, List.forall_mem_map,
      List.forall_mem_singleton]
    exact ⟨⟨(Error.noConfusion ·), subtasks group _ _⟩, (Error.noConfusion ·)⟩
  obtain ⟨visit, _, inside⟩ := List.mem_flatMap.mp member
  cases visit with
  | enter other => exact entering other check inside
  | leave group => exact leaving group check inside

theorem walkRoot_failure_ne_endless {name : String} {root : Config} (stored : root.Stored)
    (plain : (Site.root name root).PlainDefaults) :
    (walkRoot name root).failure ≠ some .endless := by
  exact (finds_walkRoot stored plain).ne_some fun check member => error_ne_endless member

theorem compile_ne_endless {name : String} {root : Config} (stored : root.Stored)
    (plain : (Site.root name root).PlainDefaults) :
    (compile name root).result ≠ .error .endless := by
  have finds := finds_compile stored plain
  have never : failureOf (compile name root).result ≠ some .endless := by
    refine finds.ne_some ?_
    rw [definitionChecks, taskChecks, List.forall_mem_append, List.forall_mem_append,
      List.forall_mem_singleton, List.forall_mem_singleton]
    exact ⟨⟨fun check member => error_ne_endless member, (Error.noConfusion ·)⟩,
      (Error.noConfusion ·)⟩
  intro endless
  rw [endless] at never
  exact never rfl

def tracedRoot (depth : Nat) (name : String) (root : Config) : Traced Walk :=
  traced depth [] 0 none Config.empty name root

/-- A definition in which no `default` declares a subtask is walked to an end that no bound decides.
The walk is called at most once for each node of the definition and for nothing else, and no more
calls are under way at a time than the subtasks that lie one in the other, and one. -/
theorem calls_of_plainDefaults {name : String} {definition : Value} {root : Config}
    (isRoot : Config.ofDefinition definition = .ok root)
    (plain : (Site.root name root).PlainDefaults) :
    (compileValue (.text name) definition).result ≠ .error .endless ∧
      (walkRoot name root).failure ≠ some .endless ∧
      ∀ depth, (Site.root name root).nesting < depth →
        walk depth 0 none Config.empty name root = walkRoot name root ∧
        (tracedRoot depth name root).result = walkRoot name root ∧
        (tracedRoot depth name root).calls.Sublist (Site.root name root).preorder ∧
        (tracedRoot depth name root).calls.Nodup ∧
        ∀ call ∈ (tracedRoot depth name root).calls,
          Site.Declares (Site.root name root) call ∧
            call.path.length ≤ (Site.root name root).nesting + 1 := by
  have stored := Config.stored_ofDefinition isRoot
  have bare := Site.bare_of_plainDefaults_root plain
  rw [compileValue_of_root isRoot]
  refine ⟨compile_ne_endless stored plain, walkRoot_failure_ne_endless stored plain,
    fun depth enough => ?_⟩
  have deep := Nat.lt_of_le_of_lt (Site.nesting_le_height (Site.root name root))
    (height_lt_depthBound root)
  have same : tracedRoot depth name root = tracedRoot (depthBound root) name root :=
    Site.tracedFrom_congr 0 none stored bare enough deep
  have result : (tracedRoot depth name root).result = walkRoot name root := by
    rw [same]
    exact result_traced ..
  have sublist : (tracedRoot depth name root).calls.Sublist (Site.root name root).preorder :=
    Site.calls_sublist_preorder depth 0 none stored bare
  refine ⟨(result_traced ..).symm.trans result, result, sublist,
    sublist.nodup (Site.nodup_preorder _), fun call member => ⟨?_, ?_⟩⟩
  · exact Site.declares_of_mem_calls depth 0 none stored bare .self call member
  · have reached := Site.length_path_le (sublist.subset member)
    have alone : (Site.root name root).path.length = 1 := rfl
    omega

theorem calls_draft :
    ∃ root, Config.ofDefinition draft = .ok root ∧
      (compileValue (.text "draft") draft).result ≠ .error .endless ∧
      (tracedRoot (depthBound root) "draft" root).result = walkRoot "draft" root ∧
      (tracedRoot (depthBound root) "draft" root).calls.Nodup := by
  obtain ⟨root, isRoot, plain⟩ := plainDefaults_draft
  have enough := Nat.lt_of_le_of_lt (Site.nesting_le_height (Site.root "draft" root))
    (height_lt_depthBound root)
  obtain ⟨ends, _, bounded⟩ := calls_of_plainDefaults isRoot plain
  obtain ⟨_, result, _, once, _⟩ := bounded (depthBound root) enough
  exact ⟨root, isRoot, ends, result, once⟩

end TaskGraph.Compiler
