import TaskGraph.Compiler.Compile
import TaskGraph.Proofs.Site
set_option autoImplicit false

/-! The graph of a definition. A spot is a site with its place in the graph: its index, the group
that holds it and its upstreams. The layout of a spot lists it and all spots below it; each group
places its subtasks one after the other, each after all that is below the one before. The walk over
a definition comes to its end exactly if every site is accepted, and then it has added the nodes of
the layout. -/

namespace TaskGraph.Compiler

structure Spot extends Site where
  index : Nat
  group : Option Holder
  upstreams : List Nat

namespace Spot

def root (name : String) (own : Config) : Spot := ⟨Site.root name own, 0, none, []⟩

def node (spot : Spot) : Node :=
  ⟨spot.name, spot.index, spot.group, spot.upstreams, if spot.options.isTask then
    .task else .group, spot.options⟩

def seat (site : Site) (holder index : Nat) (upstreams : List Nat) (key : String) : Spot :=
  ⟨site.child key, index, some ⟨holder, site.name⟩, upstreams⟩

/-- Subtasks of a group from an index on, with the upstreams that it gives them. -/
def place (site : Site) (holder : Nat) : Nat → List (List Nat) → List String → List Spot
  | _, _, [] => []
  | index, links, key :: rest =>
      seat site holder index (links.headD []) key ::
        place site holder (index + (site.child key).preorder.length) links.tail rest

def unlinked (spot : Spot) : List Spot :=
  place spot.toSite spot.index (spot.index + 1) [] spot.own.subtaskKeys

def links (spot : Spot) : List (List Nat) :=
  match upstreamsOf spot.options (spot.unlinked.map node) with
  | .ok links => links
  | .error _ => []

def held (spot : Spot) : List Spot :=
  place spot.toSite spot.index (spot.index + 1) spot.links spot.own.subtaskKeys

theorem toSite_place (site : Site) (holder index : Nat) (links : List (List Nat))
    (keys : List String) :
    (place site holder index links keys).map toSite = keys.map site.child := by
  induction keys generalizing index links with
  | nil => rfl
  | cons key rest ih =>
      rw [place, List.map_cons, List.map_cons, ih]
      rfl

theorem toSite_held (spot : Spot) : spot.held.map toSite = spot.children := toSite_place ..

theorem toSite_mem_children {spot other : Spot} (member : other ∈ spot.held) :
    other.toSite ∈ spot.children := by
  rw [← toSite_held]
  exact List.mem_map_of_mem member

def layout (spot : Spot) : List Spot := spot :: spot.held.attach.flatMap fun other => layout other.1
termination_by spot.own.height
decreasing_by exact Site.height_lt_of_mem_children (toSite_mem_children other.2)

theorem layout_eq (spot : Spot) : spot.layout = spot :: spot.held.flatMap layout := by
  rw [layout, List.flatMap_subtype (g := layout) (by intros; rfl), List.unattach_attach]

theorem induction {motive : Spot → Prop}
    (step : ∀ spot, (∀ other ∈ spot.held, motive other) → motive spot) (spot : Spot) :
    motive spot :=
  step spot fun other _member => induction step other
termination_by spot.own.height
decreasing_by exact Site.height_lt_of_mem_children (toSite_mem_children _member)

/-- The graph has one spot for each site, in the same order. -/
theorem toSite_layout (spot : Spot) : spot.layout.map toSite = spot.toSite.preorder := by
  induction spot using induction with
  | step spot ih =>
      rw [layout_eq, Site.preorder_eq, List.map_cons, List.map_flatMap, ← toSite_held,
        List.flatMap_map]
      congr 1
      exact List.flatMap_congr fun other member => ih other member

theorem length_layout (spot : Spot) : spot.layout.length = spot.toSite.preorder.length := by
  rw [← toSite_layout, List.length_map]

/-! ### The upstreams of the subtasks of a group -/

theorem names_place (site : Site) (holder index : Nat) (links : List (List Nat))
    (keys : List String) :
    ((place site holder index links keys).map node).map (·.name) = keys := by
  induction keys generalizing index links with
  | nil => rfl
  | cons key rest ih =>
      rw [place, List.map_cons, List.map_cons, ih]
      rfl

theorem request_seat (site : Site) (holder index : Nat) (upstreams : List Nat) (key : String) :
    (seat site holder index upstreams key).node.request =
      (key, (site.child key).option? "after") := by
  have plain : isSubtaskKey "after" = false := by decide
  have after : (site.child key).options.get? "after" =
      if isSubtaskKey "after" then none else (site.child key).option? "after" :=
    Site.get?_options (site.own.stored_below key) "after"
  rw [plain] at after
  exact Prod.ext rfl after

theorem requests_place (site : Site) (holder index : Nat) (links : List (List Nat))
    (keys : List String) :
    ((place site holder index links keys).map node).map Node.request =
      keys.map fun key => (key, (site.child key).option? "after") := by
  induction keys generalizing index links with
  | nil => rfl
  | cons key rest ih => rw [place, List.map_cons, List.map_cons, ih, request_seat, List.map_cons]

theorem upstreamsOf_unlinked_iff (spot : Spot) (links : List (List Nat)) :
    upstreamsOf spot.options (spot.unlinked.map node) = .ok links ↔
      ∃ parallel, ReadsAs parallel (spot.options.get? "parallel") ∧
        (parallel = false → spot.options.get? "after" = none) ∧
          Linked parallel [] (spot.unlinked.map node) links := by
  have names := names_place spot.toSite spot.index (spot.index + 1) [] spot.own.subtaskKeys
  refine upstreamsOf_eq_ok_iff spot.options ?_ ?_ links
  · rw [unlinked, names]
    exact spot.own.subtaskKeys_nodup
  · intro child member
    have declared : child.name ∈ spot.own.subtaskKeys := by
      rw [← names]
      exact List.mem_map_of_mem member
    exact ((spot.own.mem_subtaskKeys _).mp declared).2

theorem length_links {spot : Spot} {links : List (List Nat)}
    (given : upstreamsOf spot.options (spot.unlinked.map node) = .ok links) :
    links.length = spot.own.subtaskKeys.length := by
  obtain ⟨_, _, _, linked⟩ := (upstreamsOf_unlinked_iff spot links).mp given
  have names := congrArg List.length
    (names_place spot.toSite spot.index (spot.index + 1) [] spot.own.subtaskKeys)
  rw [List.length_map] at names
  rw [linked.length_eq, unlinked, names]

theorem exists_linked_true_unlinked_iff (spot : Spot) :
    (∃ links, Linked true [] (spot.unlinked.map node) links) ↔
      ∀ before key later, spot.own.subtaskKeys = before ++ key :: later →
        DependsOn before ((spot.child key).option? "after") := by
  rw [exists_linked_true_iff, unlinked, requests_place]
  constructor
  · intro obeys before key later shape
    have request := obeys (before.map fun key => (key, (spot.child key).option? "after")) key _
      (later.map fun key => (key, (spot.child key).option? "after"))
        (by rw [shape, List.map_append]; rfl)
    simpa [Function.comp_def] using request
  · intro obeys earlier name after later shape
    obtain ⟨before, rest, split, sameBefore, sameRest⟩ := List.map_eq_append_iff.mp shape
    obtain ⟨key, others, splitRest, sameKey, _⟩ := List.map_eq_cons_iff.mp sameRest
    rw [Prod.mk.injEq] at sameKey
    have request := obeys before key others (by rw [split, splitRest])
    rw [← sameBefore, ← sameKey.2]
    simpa [Function.comp_def] using request

/-- A group can give upstreams exactly if its own options and those of its subtasks allow it. -/
theorem exists_upstreamsOf_iff {spot : Spot} (stored : spot.own.Stored) :
    (∃ links, upstreamsOf spot.options (spot.unlinked.map node) = .ok links) ↔
      (∃ truth, ReadsAs truth (spot.option? "parallel")) ∧
      (ReadsAs true (spot.option? "parallel") →
        ∀ before key later, spot.own.subtaskKeys = before ++ key :: later →
          DependsOn before ((spot.child key).option? "after")) ∧
      (ReadsAs false (spot.option? "parallel") → spot.option? "after" = none) := by
  have parallelAt : spot.options.get? "parallel" = spot.option? "parallel" :=
    Site.get?_options stored _
  have afterAt : spot.options.get? "after" = spot.option? "after" := Site.get?_options stored _
  have obeyed := exists_linked_true_unlinked_iff spot
  simp only [upstreamsOf_unlinked_iff, parallelAt, afterAt]
  constructor
  · rintro ⟨links, parallel, reads, alone, linked⟩
    refine ⟨⟨parallel, reads⟩, fun readsTrue => ?_,
      fun readsFalse => alone (reads.unique readsFalse)⟩
    have same := reads.unique readsTrue
    subst same
    exact obeyed.mp ⟨links, linked⟩
  · rintro ⟨⟨parallel, reads⟩, obeys, alone⟩
    cases parallel with
    | true =>
        obtain ⟨links, linked⟩ := obeyed.mpr (obeys reads)
        exact ⟨links, true, reads, fun impossible => Bool.noConfusion impossible, linked⟩
    | false =>
        obtain ⟨links, linked⟩ := exists_linked_false [] (spot.unlinked.map node)
        exact ⟨links, false, reads, fun _ => alone reads, linked⟩

/-! ### The walk -/

def walkFrom (depth : Nat) (spot : Spot) : Walk :=
  walk depth spot.index spot.group spot.inherited spot.name spot.own

def nodes (spot : Spot) : List Node := spot.layout.map node

theorem nodes_eq (spot : Spot) : spot.nodes = spot.node :: spot.held.flatMap nodes := by
  rw [nodes, layout_eq, List.map_cons, List.map_flatMap]
  rfl

theorem length_nodes (spot : Spot) : spot.nodes.length = spot.toSite.preorder.length := by
  rw [nodes, List.length_map, length_layout]

/-- The upstreams of a spot are its own matter: nothing below it depends on them. -/
theorem linkBlock_nodes (spot : Spot) (upstreams : List Nat) :
    linkBlock upstreams spot.nodes = nodes { spot with upstreams } := by
  rw [nodes_eq, nodes_eq]
  rfl

theorem linkBlocks_place (site : Site) (holder index : Nat) (links : List (List Nat))
    (keys : List String) (enough : links.length = keys.length) :
    linkBlocks links ((place site holder index [] keys).map nodes) =
      (place site holder index links keys).map nodes := by
  induction keys generalizing index links with
  | nil =>
      rw [List.length_nil, List.length_eq_zero_iff] at enough
      rw [enough]
      rfl
  | cons key rest ih =>
      cases links with
      | nil => cases enough
      | cons upstreams others =>
          have inner := ih (index + (site.child key).preorder.length) others (by simpa using enough)
          rw [place, place, List.map_cons, List.map_cons, linkBlocks, linkBlock_nodes]
          exact congrArg (nodes (seat site holder index upstreams key) :: ·) inner

theorem heads_nodes (spots : List Spot) :
    (spots.map nodes).filterMap List.head? = spots.map node := by
  rw [List.filterMap_map, ← List.filterMap_eq_map]
  apply List.filterMap_congr
  intro other _
  rw [Function.comp_apply, nodes_eq]
  rfl

theorem upstreamsOf_heads (spot : Spot) :
    upstreamsOf spot.node.config ((spot.unlinked.map nodes).filterMap List.head?) =
      upstreamsOf spot.options (spot.unlinked.map node) := by
  rw [heads_nodes]
  rfl

theorem closeGroup_eq {spot : Spot} {links : List (List Nat)}
    (given : upstreamsOf spot.options (spot.unlinked.map node) = .ok links) :
    closeGroup spot.node ⟨spot.unlinked.map nodes, none⟩ = ⟨spot.nodes, none⟩ := by
  have same : spot.links = links := by rw [Spot.links, given]
  simp only [closeGroup, upstreamsOf_heads, given]
  rw [unlinked, linkBlocks_place _ _ _ links _ (length_links given), nodes_eq, held,
    same, List.flatMap_def]

theorem exists_of_closeGroup {spot : Spot}
    (ended : (closeGroup spot.node ⟨spot.unlinked.map nodes, none⟩).failure = none) :
    ∃ links, upstreamsOf spot.options (spot.unlinked.map node) = .ok links := by
  cases given : upstreamsOf spot.options (spot.unlinked.map node) with
  | ok links => exact ⟨links, rfl⟩
  | error cause =>
      simp only [closeGroup, upstreamsOf_heads, given] at ended
      cases ended

def walkHeld (depth : Nat) (site : Site) (holder index : Nat) (keys : List String) : Below :=
  walkBelow (fun place => walk depth place (some ⟨holder, site.name⟩)
    (handDown site.inherited site.own))
    index (keys.map fun key => (key, site.own.below key))

theorem walkHeld_eq {depth : Nat} {site : Site} {holder index : Nat} {keys : List String}
    (each : ∀ other ∈ place site holder index [] keys, walkFrom depth other = ⟨other.nodes, none⟩) :
    walkHeld depth site holder index keys =
      ⟨(place site holder index [] keys).map nodes, none⟩ := by
  induction keys generalizing index with
  | nil => rfl
  | cons key rest ih =>
      rw [place, List.forall_mem_cons] at each
      have first : walk depth index (some ⟨holder, site.name⟩) (site.child key).inherited key
          (site.own.below key) = ⟨(seat site holder index [] key).nodes, none⟩ := each.1
      -- The next block starts after the nodes of this one, and that is where `place` puts it.
      have inner := ih each.2
      rw [walkHeld] at inner
      rw [walkHeld, List.map_cons, walkBelow, ← site.inherited_child key, first]
      simp only [length_nodes]
      rw [site.inherited_child key]
      exact congrArg (fun below : Below => Below.mk (_ :: below.blocks) below.failure) inner

theorem walkHeld_ended {depth : Nat} {site : Site} {holder index : Nat} {keys : List String}
    {holds : Spot → Prop}
    (each : ∀ other ∈ place site holder index [] keys, (walkFrom depth other).failure = none →
      walkFrom depth other = ⟨other.nodes, none⟩ ∧ holds other)
    (ended : (walkHeld depth site holder index keys).failure = none) :
    ∀ other ∈ place site holder index [] keys, walkFrom depth other = ⟨other.nodes, none⟩ ∧
      holds other := by
  induction keys generalizing index with
  | nil =>
      intro other member
      cases member
  | cons key rest ih =>
      rw [place, List.forall_mem_cons] at each ⊢
      rw [walkHeld, List.map_cons, walkBelow, ← site.inherited_child key] at ended
      cases failure : (walkFrom depth (seat site holder index [] key)).failure with
      | some cause =>
          change (walk depth index (some ⟨holder, site.name⟩) (site.child key).inherited key
            (site.own.below key)).failure = some cause at failure
          simp only [failure] at ended
          cases ended
      | none =>
          have here := each.1 failure
          have first : walk depth index (some ⟨holder, site.name⟩) (site.child key).inherited key
              (site.own.below key) = ⟨(seat site holder index [] key).nodes, none⟩ := here.1
          rw [first] at ended
          simp only [length_nodes] at ended
          rw [site.inherited_child key] at ended
          exact ⟨here, ih each.2 ended⟩

end Spot
end TaskGraph.Compiler
