import TaskGraph.Proofs.Acceptance
import TaskGraph.Proofs.Checks
set_option autoImplicit false

/-! What a walk visits. Where no `default` declares a subtask, the walk makes the checks of a
definition in their order and ends at the first one that does not hold. A node is added, and
reported, when all that is checked on entering it holds; so what was added by then are the sites
that were entered, in preorder and each under its place. -/

namespace TaskGraph

/-! ### Reading options -/

namespace Config

theorem nested_cases (config : Config) (key : String) :
    ReadsAsMapping (config.get? key) ∧ config.nested key = .ok (config.below key) ∨
      ¬ReadsAsMapping (config.get? key) ∧
        config.nested key = .error (.notNested key (config.shown key) config) := by
  by_cases readable : ReadsAsMapping (config.get? key)
  · exact Or.inl ⟨readable, nested_eq_below readable⟩
  · refine Or.inr ⟨readable, ?_⟩
    unfold nested shown
    unfold ReadsAsMapping at readable
    split at readable <;> simp_all

theorem bool_cases (config : Config) (key : String) :
    (∃ truth, ReadsAs truth (config.get? key) ∧ config.bool key false = .ok truth) ∨
      (¬∃ truth, ReadsAs truth (config.get? key)) ∧
        config.bool key false = .error (Error.notBoolean key (config.shown key) config).raised := by
  cases read : config.bool key false with
  | ok truth => exact Or.inl ⟨truth, (bool_eq_ok_iff config key truth).mp read, rfl⟩
  | error cause =>
      refine Or.inr ⟨?_, ?_⟩
      · rintro ⟨truth, reads⟩
        rw [(bool_eq_ok_iff config key truth).mpr reads] at read
        cases read
      · unfold bool at read
        unfold shown
        split at read <;> simp_all
        split at read <;> simp_all [Error.raised, Error.isWritable, Value.isWritable]

end Config

namespace Compiler

def failureOf {α : Type} : Except Error α → Option Error
  | .ok _ => none
  | .error cause => some cause

theorem failureOf_map {α β : Type} (f : α → β) (result : Except Error α) :
    failureOf (result.map f) = failureOf result := by
  cases result <;> rfl

theorem failureOf_mapError_map {ε α β : Type} (g : ε → Error) (f : α → β) (result : Except ε α) :
    failureOf ((result.map f).mapError g) = failureOf (result.mapError g) := by
  cases result <;> rfl

theorem finds_namesOf (site : Site) (items : List Value) :
    Finds
        (items.map fun item => ⟨(Config.nameOf? item).isSome = true,
          .option (Config.Error.notNames "after" item site.options).raised⟩)
        (failureOf ((Config.namesOf items).mapError fun item =>
          .option (Config.Error.notNames "after" item site.options).raised)) ∧
      ∀ names, Config.namesOf items = .ok names → names = items.filterMap Config.nameOf? := by
  induction items with
  | nil => exact ⟨(finds_nil_iff _).mpr rfl, fun names read => by cases read; rfl⟩
  | cons item rest ih =>
      obtain ⟨finds, listed⟩ := ih
      rw [List.map_cons, finds_cons_iff, Config.namesOf, List.mapM_cons, ← Config.namesOf,
        List.filterMap_cons]
      cases given : Config.nameOf? item with
      | none => exact ⟨Or.inr ⟨by simp, rfl⟩, fun names read => by cases read⟩
      | some name =>
          cases others : Config.namesOf rest with
          | error found =>
              rw [others] at finds
              exact ⟨Or.inl ⟨rfl, finds⟩, fun names read => by cases read⟩
          | ok found =>
              rw [others] at finds
              refine ⟨Or.inl ⟨rfl, finds⟩, fun names read => ?_⟩
              cases read
              rw [listed found others]

theorem get?_options_plain {site : Site} (stored : site.own.Stored) {key : String}
    (plain : isSubtaskKey key = false) : site.options.get? key = site.option? key := by
  rw [Site.get?_options stored, plain]
  rfl

theorem finds_names {site : Site} (stored : site.own.Stored) :
    Finds site.listChecks (failureOf ((site.options.names "after").mapError .option)) ∧
      ∀ names, site.options.names "after" = .ok names →
        names = (itemsOf (site.option? "after")).filterMap Config.nameOf? := by
  have after : site.options.get? "after" = site.option? "after" :=
    get?_options_plain stored (by decide)
  rw [Site.listChecks, finds_cons_iff, Config.names, after]
  cases site.option? "after" with
  | none => exact ⟨Or.inl ⟨trivial, nofun⟩, fun names read => by cases read; rfl⟩
  | some value =>
      cases value with
      | null => exact ⟨Or.inl ⟨trivial, nofun⟩, fun names read => by cases read; rfl⟩
      | list items =>
          obtain ⟨finds, listed⟩ := finds_namesOf site items
          cases read : Config.namesOf items with
          | error item =>
              rw [read] at finds
              simp only [read]
              exact ⟨Or.inl ⟨trivial, finds⟩, nofun⟩
          | ok found =>
              rw [read] at finds
              simp only [read]
              refine ⟨Or.inl ⟨trivial, finds⟩, fun names given => ?_⟩
              cases given
              exact listed found read
      | _ => exact ⟨Or.inr ⟨id, rfl⟩, nofun⟩

/-! ### Upstreams -/

theorem finds_siblingIndexes (earlier : Fields Nat) (before : List String)
    (known : ∀ name, name ∈ before ↔ name ∈ earlier.keys) (config : Config) (names : List String) :
    Finds (names.map fun name => ⟨name ∈ before, .unknownDependency name config⟩)
      (failureOf (siblingIndexes earlier config names)) := by
  induction names with
  | nil => exact (finds_nil_iff _).mpr rfl
  | cons name rest ih =>
      rw [List.map_cons, finds_cons_iff, siblingIndexes]
      cases found : earlier.get? name with
      | none =>
          have unknown := (Fields.get?_eq_none_iff name earlier).mp found
          exact Or.inr ⟨fun member => unknown ((known name).mp member), rfl⟩
      | some index =>
          have present := (Fields.get?_ne_none_iff name earlier).mp (by simp [found])
          refine Or.inl ⟨(known name).mpr present, ?_⟩
          rw [failureOf_map]
          exact ih

/-- The upstreams of subtasks that run in parallel, one subtask at a time. -/
theorem finds_namedUpstreams (site : Site) (holder index : Nat) (earlier : Fields Nat)
    (before keys : List String) (known : ∀ name, name ∈ before ↔ name ∈ earlier.keys) :
    Finds (site.subtaskChecks before keys)
      (failureOf (namedUpstreams earlier
        ((Spot.place site holder index [] keys).map Spot.node))) := by
  induction keys generalizing index earlier before with
  | nil => exact (finds_nil_iff _).mpr rfl
  | cons key rest ih =>
      have stored : (site.child key).own.Stored := site.own.stored_below key
      obtain ⟨findsList, listed⟩ := finds_names stored
      have config : (Spot.seat site holder index [] key).node.config = (site.child key).options :=
        rfl
      have entry : (Spot.seat site holder index [] key).node.name = key := rfl
      have knownNext : ∀ name, name ∈ before ++ [key] ↔
          name ∈ (earlier.put key (Spot.seat site holder index [] key).node.index).keys := by
        intro name
        rw [Fields.mem_keys_put, List.mem_append, List.mem_singleton, known, or_comm]
      rw [Site.subtaskChecks, Spot.place, List.map_cons, namedUpstreams, List.append_assoc]
      simp only [List.headD_nil, List.tail_nil, config, entry]
      cases read : (site.child key).options.names "after" with
      | error cause =>
          rw [read] at findsList
          exact Reports.append findsList _
      | ok names =>
          rw [read] at findsList
          refine finds_append findsList ?_
          have findsEarlier : Finds ((site.child key).earlierChecks before)
              (failureOf (siblingIndexes earlier (site.child key).options names)) := by
            rw [listed names read]
            exact finds_siblingIndexes earlier before known (site.child key).options _
          cases resolved : siblingIndexes earlier (site.child key).options names with
          | error cause =>
              rw [resolved] at findsEarlier
              simp only [resolved]
              exact Reports.append findsEarlier _
          | ok upstreams =>
              rw [resolved] at findsEarlier
              simp only [resolved]
              refine finds_append findsEarlier ?_
              rw [failureOf_map]
              exact ih _ _ _ knownNext

theorem finds_upstreamsOf {spot : Spot} (stored : spot.own.Stored) :
    Finds spot.leaveChecks (failureOf
      (upstreamsOf spot.options (spot.unlinked.map Spot.node))) := by
  have parallelAt : spot.options.get? "parallel" = spot.option? "parallel" :=
    get?_options_plain stored (by decide)
  have afterAt : spot.options.get? "after" = spot.option? "after" :=
    get?_options_plain stored (by decide)
  have read := spot.options.bool_cases "parallel"
  rw [Config.shown, parallelAt] at read
  rw [Site.leaveChecks, List.cons_append, upstreamsOf]
  rcases read with ⟨truth, reads, isTruth⟩ | ⟨unreadable, isError⟩
  · refine finds_cons ⟨truth, reads⟩ ?_
    rw [isTruth]
    cases truth with
    | true =>
        have known : ∀ name, name ∈ ([] : List String) ↔ name ∈ Fields.keys ([] : Fields Nat) :=
          fun _ => Iff.rfl
        have named := finds_namedUpstreams spot.toSite spot.index (spot.index + 1)
          [] [] spot.own.subtaskKeys known
        have subtasks := Finds.map_onlyIf reads named
        have last : Finds [(⟨ReadsAs false (spot.option? "parallel") → spot.option? "after" = none,
            .afterWithoutParallel spot.options⟩ : Check)] none := by
          refine finds_cons (fun readsFalse => ?_) ((finds_nil_iff none).mpr rfl)
          cases reads.unique readsFalse
        cases given : namedUpstreams [] (spot.unlinked.map Spot.node) with
        | error cause =>
            rw [Spot.unlinked] at given
            rw [given] at subtasks
            exact Reports.append subtasks _
        | ok links =>
            rw [Spot.unlinked] at given
            rw [given] at subtasks
            exact finds_append subtasks last
    | false =>
        have notTrue : ¬ReadsAs true (spot.option? "parallel") := fun readsTrue => by
          cases reads.unique readsTrue
        refine finds_append (finds_map_onlyIf_of_not notTrue _) ?_
        have present : spot.options.has "after" = true ↔ spot.option? "after" ≠ none := by
          rw [← afterAt, Config.get?_ne_none_iff, Config.has, Fields.has_eq_true_iff]
          rfl
        by_cases waits : spot.options.has "after" = true
        · rw [if_pos waits]
          have broken : ¬(ReadsAs false (spot.option? "parallel") → spot.option? "after" = none) :=
            fun alone => present.mp waits (alone reads)
          exact finds_broken broken []
        · rw [if_neg waits]
          refine finds_cons (fun _ => ?_) ((finds_nil_iff none).mpr rfl)
          exact not_not.mp fun found => waits (present.mpr found)
  · rw [isError]
    exact finds_broken unreadable _

/-! ### One site -/

theorem finds_nestedAll (config : Config) (keys : List String) :
    Finds (keys.map fun key =>
        ⟨ReadsAsMapping (config.get? key), .option (.notNested key (config.shown key) config)⟩)
      (failureOf ((nestedAll config keys).mapError Error.option)) := by
  induction keys with
  | nil => exact (finds_nil_iff _).mpr rfl
  | cons key rest ih =>
      rw [List.map_cons, nestedAll]
      rcases config.nested_cases key with ⟨readable, read⟩ | ⟨unreadable, read⟩
      · refine finds_cons readable ?_
        rw [read, failureOf_mapError_map]
        exact ih
      · rw [read]
        exact finds_broken unreadable _

/-- The configuration that a site cannot be read in is its own for its
`default`, and the filled one for a subtask. -/
theorem finds_resolve {site : Site} (stored : site.own.Stored) (bare : site.Bare) :
    Finds site.mappingChecks (failureOf
      ((resolve site.inherited site.own).mapError Error.option)) := by
  have down := (Site.bare_iff site).mp bare
  have same : ∀ key ∈ site.own.subtaskKeys, site.filled.get? key = site.own.get? key := by
    intro key member
    have missing := (Config.subtaskKeys_eq_nil_iff _).mp down key
      ((site.own.mem_subtaskKeys key).mp member).2
    rw [Site.filled, get?_filledWith stored, missing, Option.or_none]
  have checks : (site.own.subtaskKeys.map fun key => (⟨ReadsAsMapping (site.own.get? key),
      .option (.notNested key (site.own.shown key) site.filled)⟩ : Check)) =
      site.own.subtaskKeys.map fun key => ⟨ReadsAsMapping (site.filled.get? key),
        .option (.notNested key (site.filled.shown key) site.filled)⟩ := by
    apply List.map_congr_left
    intro key member
    rw [Config.shown, Config.shown, same key member]
  have nested := finds_nestedAll site.filled site.own.subtaskKeys
  rw [Site.mappingChecks, checks, resolve_eq, subtaskKeys_filledWith stored down]
  rcases site.own.nested_cases "default" with ⟨readable, read⟩ | ⟨unreadable, read⟩
  · refine finds_cons readable ?_
    rw [read, failureOf_mapError_map]
    exact nested
  · rw [read]
    exact finds_broken unreadable _

/-! ### Visits -/

def Visit.Passes (visit : Visit) : Prop := ∀ check ∈ visit.checks, check.holds

def Visit.entered? : Visit → Option Site
  | enter site => some site
  | leave _ => none

def entered (visits : List Visit) : List Site := visits.filterMap Visit.entered?

theorem entered_append (visits more : List Visit) :
    entered (visits ++ more) = entered visits ++ entered more :=
  List.filterMap_append

theorem entered_visits (site : Site) : entered site.visits = site.preorder := by
  induction site using Site.induction with
  | step site ih =>
      have leaving : entered (if site.IsTask then [] else [.leave site]) = [] := by split <;> rfl
      have below : entered (site.children.flatMap Site.visits) =
          site.children.flatMap Site.preorder := by
        rw [entered, List.filterMap_flatMap]
        exact List.flatMap_congr ih
      rw [Site.visits_eq, entered_append, leaving, List.append_nil, Site.preorder_eq, ← below]
      rfl

/-- How far visits go until a cause ends them: all pass, or those before
the first one with a check that does not hold. -/
def StopsAt (visits passed : List Visit) : Option Error → Prop
  | none => passed = visits ∧ ∀ visit ∈ visits, visit.Passes
  | some cause =>
      ∃ visit later, visits = passed ++ visit :: later ∧ (∀ before ∈ passed, before.Passes) ∧
      Reports visit.checks cause

section
variable {visits more passed : List Visit} {failure : Option Error}

theorem StopsAt.append (passes : ∀ visit ∈ visits, visit.Passes)
    (stops : StopsAt more passed failure) :
    StopsAt (visits ++ more) (visits ++ passed) failure := by
  cases failure with
  | none =>
      obtain ⟨rfl, passesMore⟩ := stops
      exact ⟨rfl, List.forall_mem_append.mpr ⟨passes, passesMore⟩⟩
  | some cause =>
      obtain ⟨visit, later, rfl, passesMore, reports⟩ := stops
      exact ⟨visit, later, (List.append_assoc ..).symm,
        List.forall_mem_append.mpr ⟨passes, passesMore⟩, reports⟩

theorem StopsAt.stays {cause : Error} (stops : StopsAt visits passed (some cause))
    (more : List Visit) :
    StopsAt (visits ++ more) passed (some cause) := by
  obtain ⟨visit, later, rfl, passes, reports⟩ := stops
  exact ⟨visit, later ++ more, by rw [List.append_assoc, List.cons_append], passes, reports⟩

theorem StopsAt.begins (stops : StopsAt visits passed failure) : passed <+: visits := by
  cases failure with
  | none =>
      obtain ⟨rfl, _⟩ := stops
      exact List.prefix_refl passed
  | some cause =>
      obtain ⟨visit, later, rfl, _⟩ := stops
      exact List.prefix_append passed _

theorem StopsAt.finds (stops : StopsAt visits passed failure) :
    Finds (visits.flatMap Visit.checks) failure := by
  cases failure with
  | none => exact List.forall_mem_flatMap.mpr stops.2
  | some cause =>
      obtain ⟨visit, later, rfl, passes, reports⟩ := stops
      rw [List.flatMap_append, List.flatMap_cons]
      exact finds_append (List.forall_mem_flatMap.mpr passes) (reports.append _)

end

/-! ### Reports of additions -/

namespace Site

def group? (site : Site) : Option String := site.above.getLast?.map (·.1)

def addition (site : Site) (index : Nat) : Event :=
  .added (if site.IsTask then .task else .group) site.name index site.group?

end Site

def additions (index : Nat) (sites : List Site) : List Event :=
  sites.mapIdx fun place site => site.addition (index + place)

theorem additions_append (index : Nat) (sites others : List Site) :
    additions index (sites ++ others) = additions index sites ++ additions
      (index + sites.length) others := by
  rw [additions, additions, additions, List.mapIdx_append]
  congr 2
  funext place site
  rw [Nat.add_assoc, Nat.add_comm place]

theorem length_additions (index : Nat) (sites : List Site) :
    (additions index sites).length = sites.length :=
  List.length_mapIdx

/-- Whether nodes that were added along visits, from an index on, are those that the visits enter
before a cause ends them. -/
def Logs (visits : List Visit) (index : Nat) (nodes : List Node) (failure : Option Error) : Prop :=
  ∃ passed, StopsAt visits passed failure ∧ nodes.map Node.event = additions index (entered passed)

section
variable {visits more : List Visit} {index : Nat} {nodes others : List Node}
    {failure : Option Error}

theorem Logs.length_eq (logs : Logs visits index nodes none) :
    nodes.length = (entered visits).length := by
  obtain ⟨passed, ⟨rfl, _⟩, same⟩ := logs
  have lengths := congrArg List.length same
  rw [List.length_map, length_additions] at lengths
  exact lengths

theorem Logs.append (logs : Logs visits index nodes none)
    (logsMore : Logs more (index + nodes.length) others failure) :
    Logs (visits ++ more) index (nodes ++ others) failure := by
  have lengths := logs.length_eq
  obtain ⟨_, ⟨whole, passes⟩, same⟩ := logs
  obtain ⟨passed, stops, sameMore⟩ := logsMore
  rw [whole] at same
  refine ⟨visits ++ passed, stops.append passes, ?_⟩
  rw [List.map_append, same, sameMore, entered_append, additions_append, lengths]

theorem Logs.stays {cause : Error} (logs : Logs visits index nodes (some cause))
    (more : List Visit) :
    Logs (visits ++ more) index nodes (some cause) := by
  obtain ⟨passed, stops, same⟩ := logs
  exact ⟨passed, stops.stays more, same⟩

theorem Logs.congr (logs : Logs visits index nodes failure)
    (same : others.map Node.event = nodes.map Node.event) :
    Logs visits index others failure := by
  obtain ⟨passed, stops, sameNodes⟩ := logs
  exact ⟨passed, stops, same.trans sameNodes⟩

theorem logs_nil (index : Nat) : Logs [] index [] none := ⟨[], ⟨rfl, nofun⟩, rfl⟩

theorem logs_of_passes {visit : Visit} (passes : visit.Passes)
    (same : nodes.map Node.event = additions index (entered [visit])) :
    Logs [visit] index nodes none :=
  ⟨[visit], ⟨rfl, List.forall_mem_singleton.mpr passes⟩, same⟩

theorem logs_of_reports {visit : Visit} {cause : Error} (reports : Reports visit.checks cause)
    (index : Nat) :
    Logs [visit] index [] (some cause) := ⟨[], ⟨visit, [], rfl, nofun, reports⟩, rfl⟩

end

/-! ### Reports of linked nodes -/

theorem events_linkBlock (upstreams : List Nat) (block : List Node) :
    (linkBlock upstreams block).map Node.event = block.map Node.event := by
  cases block <;> rfl

/-- The upstreams that a group gives are no part of any report. -/
theorem events_linkBlocks {links : List (List Nat)} {blocks : List (List Node)}
    (enough : links.length = blocks.length) :
    (linkBlocks links blocks).flatten.map Node.event = blocks.flatten.map Node.event := by
  induction blocks generalizing links with
  | nil =>
      rw [List.length_nil, List.length_eq_zero_iff] at enough
      rw [enough]
      rfl
  | cons block rest ih =>
      cases links with
      | nil => cases enough
      | cons upstreams others =>
          have inner : (linkBlocks others rest).flatten.map Node.event =
              rest.flatten.map Node.event :=
            ih (by simpa using enough)
          rw [linkBlocks, List.flatten_cons, List.flatten_cons, List.map_append,
            List.map_append, inner, events_linkBlock]

namespace Spot

/-! ### The walk -/

theorem event_node {spot : Spot} (stored : spot.own.Stored)
    (held : spot.group.map (·.name) = spot.group?) :
    spot.node.event = spot.addition spot.index := by
  have kind : spot.node.kind = if spot.IsTask then .task else .group :=
    if_congr (Site.isTask_options_iff stored) rfl rfl
  rw [Node.event, kind, Site.addition, ← held]
  rfl

theorem group_of_mem_unlinked {spot other : Spot} (member : other ∈ spot.unlinked) :
    other.group.map (·.name) = other.group? := by
  obtain ⟨child, _, _⟩ := mem_unlinked member
  obtain ⟨key, _, same⟩ := List.mem_map.mp child
  rw [group_of_mem_place member, Site.group?, ← same, Site.child, List.getLast?_concat]
  rfl

theorem logs_walkHeld {depth : Nat} {site : Site} {holder index : Nat} {keys : List String}
    (each : ∀ other ∈ place site holder index [] keys,
      Logs other.toSite.visits other.index (walkFrom depth other).nodes
        (walkFrom depth other).failure) :
    Logs ((keys.map site.child).flatMap Site.visits) index
      (walkHeld depth site holder index keys).blocks.flatten
      (walkHeld depth site holder index keys).failure := by
  induction keys generalizing index with
  | nil => exact logs_nil index
  | cons key rest ih =>
      rw [place, List.headD_nil, List.tail_nil, List.forall_mem_cons] at each
      obtain ⟨logs, later⟩ := each
      let walked := walk depth index (some ⟨holder, site.name⟩) (site.child key).inherited key
        (site.own.below key)
      have first : Logs (site.child key).visits index walked.nodes walked.failure := logs
      rw [List.map_cons, List.flatMap_cons, walkHeld, List.map_cons, walkBelow,
        ← site.inherited_child key]
      cases failure : walked.failure with
      | some cause =>
          rw [failure] at first
          simp only [List.flatten_singleton]
          exact first.stays _
      | none =>
          rw [failure] at first
          have counted := first.length_eq
          rw [entered_visits] at counted
          have inner := ih later
          rw [← counted, walkHeld, ← site.inherited_child key] at inner
          simp only [List.flatten_cons]
          exact first.append inner

theorem events_closeGroup (spot : Spot) :
    (closeGroup spot.node ⟨spot.unlinked.map nodes, none⟩).nodes.map Node.event =
      (spot.node :: (spot.unlinked.map nodes).flatten).map Node.event := by
  simp only [closeGroup, upstreamsOf_heads]
  cases given : upstreamsOf spot.options (spot.unlinked.map node) with
  | error cause => rfl
  | ok links =>
      have enough : links.length = (spot.unlinked.map nodes).length := by
        have keys := congrArg List.length
          (names_place spot.toSite spot.index (spot.index + 1) [] spot.own.subtaskKeys)
        rw [List.length_map, List.length_map, ← unlinked] at keys
        rw [length_links given, ← keys, List.length_map]
      rw [List.map_cons, List.map_cons, events_linkBlocks enough]

theorem failure_closeGroup (spot : Spot) :
    (closeGroup spot.node ⟨spot.unlinked.map nodes, none⟩).failure =
      failureOf (upstreamsOf spot.options (spot.unlinked.map node)) := by
  simp only [closeGroup, upstreamsOf_heads]
  cases upstreamsOf spot.options (spot.unlinked.map node) <;> rfl

theorem logs_enter {spot : Spot} (stored : spot.own.Stored)
    (held : spot.group.map (·.name) = spot.group?) (passes : (Visit.enter spot.toSite).Passes) :
    Logs [.enter spot.toSite] spot.index [spot.node] none := by
  refine logs_of_passes passes ?_
  rw [List.map_singleton, event_node stored held]
  rfl

theorem logs_leave {spot : Spot} (stored : spot.own.Stored) (index : Nat) :
    Logs [.leave spot.toSite] index []
      (failureOf (upstreamsOf spot.options (spot.unlinked.map node))) := by
  have finds := finds_upstreamsOf stored
  cases given : upstreamsOf spot.options (spot.unlinked.map node) with
  | error cause =>
      rw [given] at finds
      have reports : Reports (Visit.leave spot.toSite).checks cause := finds
      exact logs_of_reports reports index
  | ok links =>
      rw [given] at finds
      exact logs_of_passes finds rfl

/-- A group is reported when it is entered, and leaving it adds nothing. -/
theorem logs_closeGroup {depth : Nat} {spot : Spot} (stored : spot.own.Stored)
    (entering : Logs [.enter spot.toSite] spot.index [spot.node] none)
    (each : ∀ other ∈ spot.unlinked,
      Logs other.toSite.visits other.index (walkFrom depth other).nodes
        (walkFrom depth other).failure ∧
        ((walkFrom depth other).failure = none → walkFrom depth other = ⟨other.nodes, none⟩)) :
    Logs ([.enter spot.toSite] ++ spot.children.flatMap Site.visits ++ [.leave spot.toSite])
      spot.index
      (closeGroup spot.node (walkHeld depth spot.toSite spot.index
        (spot.index + 1) spot.own.subtaskKeys)).nodes
      (closeGroup spot.node (walkHeld depth spot.toSite spot.index
        (spot.index + 1) spot.own.subtaskKeys)).failure := by
  have below := logs_walkHeld fun other member => (each other member).1
  have inside := entering.append below
  cases failure : (walkHeld depth spot.toSite spot.index
    (spot.index + 1) spot.own.subtaskKeys).failure with
  | some cause =>
      simp only [failure] at inside
      simp only [closeGroup, failure]
      exact inside.stays _
  | none =>
      have complete : ∀ other ∈ spot.unlinked, walkFrom depth other = ⟨other.nodes, none⟩ ∧ True :=
        walkHeld_ended (fun other member ended => ⟨(each other member).2 ended, trivial⟩) failure
      have walked := walkHeld_eq fun other member => (complete other member).1
      simp only [walked] at inside
      rw [walked]
      have whole := inside.append (logs_leave stored _)
      have ended := failure_closeGroup spot
      rw [unlinked] at ended
      rw [ended]
      refine whole.congr ?_
      rw [List.append_nil]
      exact events_closeGroup spot

/-- A walk that is deep enough reports the sites that it enters before a check does not hold. -/
theorem logs_walkFrom {depth : Nat} (spot : Spot) (stored : spot.own.Stored)
    (fresh : spot.upstreams = []) (enough : spot.own.height < depth)
    (bare : ∀ site ∈ spot.toSite.preorder, site.Bare)
    (held : spot.group.map (·.name) = spot.group?) :
    Logs spot.toSite.visits spot.index (walkFrom depth spot).nodes
      (walkFrom depth spot).failure := by
  induction depth generalizing spot with
  | zero => cases enough
  | succ depth ih =>
      obtain ⟨here, below⟩ := (Site.forall_mem_preorder_iff spot.toSite _).mp bare
      have findsResolve := finds_resolve stored here
      have visits : spot.toSite.visits = [.enter spot.toSite] ++
          spot.children.flatMap Site.visits ++
          if spot.IsTask then [] else [.leave spot.toSite] := Site.visits_eq spot.toSite
      rw [visits]
      cases found : resolve spot.inherited spot.own with
      | error cause =>
          rw [found] at findsResolve
          have reports : Reports (Visit.enter spot.toSite).checks (.option cause) :=
            findsResolve.append _
          rw [walkFrom, walk, List.append_assoc]
          simp only [found]
          exact (logs_of_reports reports spot.index).stays _
      | ok resolved =>
          rw [found] at findsResolve
          have passes (alone : spot.IsTask → spot.own.subtaskKeys = []) :
              (Visit.enter spot.toSite).Passes :=
            List.forall_mem_append.mpr ⟨findsResolve, List.forall_mem_singleton.mpr alone⟩
          rw [walkFrom_succ stored here fresh found]
          by_cases isTask : spot.options.isTask = true
          · have task := (Site.isTask_options_iff stored).mp isTask
            rw [if_pos isTask, if_pos task]
            by_cases alone : spot.own.subtaskKeys = []
            · have childless : spot.children = [] := by rw [Site.children, alone, List.map_nil]
              rw [if_pos alone, childless]
              exact logs_enter stored held (passes fun _ => alone)
            · have broken : ¬(spot.IsTask → spot.own.subtaskKeys = []) :=
                fun holds => alone (holds task)
              have reports : Reports (Visit.enter spot.toSite).checks
                  (Error.taskWithSubtasks spot.own).raised :=
                finds_append findsResolve (finds_broken broken [])
              rw [if_neg alone, List.append_assoc]
              exact (logs_of_reports reports spot.index).stays _
          · have isGroup : ¬spot.IsTask := fun task =>
              isTask ((Site.isTask_options_iff stored).mpr task)
            rw [if_neg isTask, if_neg isGroup]
            refine logs_closeGroup stored
              (logs_enter stored held (passes fun task => absurd task isGroup)) ?_
            intro other member
            obtain ⟨child, storedChild, unset⟩ := mem_unlinked member
            have lower := Site.height_lt_of_mem_children child
            refine ⟨ih other storedChild unset (by omega) (below _ child)
              (group_of_mem_unlinked member), ?_⟩
            exact fun ended => (accepted_of_walkFrom other storedChild unset ended).1

end Spot

theorem logs_walkRoot {name : String} {root : Config} (stored : root.Stored)
    (plain : (Site.root name root).PlainDefaults) :
    Logs (Site.root name root).visits 0 (walkRoot name root).nodes (walkRoot name root).failure :=
  Spot.logs_walkFrom (Spot.root name root) stored rfl (height_lt_depthBound root)
    (Site.bare_of_plainDefaults_root plain) rfl

/-- The walk over a definition ends at the first check of its sites that does not hold. -/
theorem finds_walkRoot {name : String} {root : Config} (stored : root.Stored)
    (plain : (Site.root name root).PlainDefaults) :
    Finds (Site.root name root).checks (walkRoot name root).failure := by
  obtain ⟨_, stops, _⟩ := logs_walkRoot stored plain
  exact stops.finds

end Compiler
end TaskGraph
