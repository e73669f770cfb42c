import Mathlib.Data.List.Nodup
import TaskGraph.Proofs.WalkOutcome
set_option autoImplicit false

/-! The order of a layout. Spots stand at the places that their indexes name, what is below a spot
fills the indexes right after it, and a group holds exactly the spots that name it as their group.
The upstreams of a spot are earlier spots of its own group. -/

namespace TaskGraph.Compiler

namespace Spot

/-! ### Indexes -/

/-- Blocks that each count from their first index on, one after the other, count on together. -/
theorem indexes_place {site : Site} {holder index : Nat} {links : List (List Nat)}
    {keys : List String} (each : ∀ other ∈ place site holder index links keys,
      other.layout.map (·.index) = List.range' other.index other.layout.length) :
    ((place site holder index links keys).flatMap layout).map (·.index) =
      List.range' index ((place site holder index links keys).flatMap layout).length := by
  induction keys generalizing index links with
  | nil => rfl
  | cons key rest ih =>
      rw [place, List.forall_mem_cons] at each
      have inner := ih each.2
      rw [place, List.flatMap_cons, List.map_append, List.length_append, each.1,
        inner, length_layout]
      exact List.range'_append_1

theorem indexes_layout (spot : Spot) :
    spot.layout.map (·.index) = List.range' spot.index spot.layout.length := by
  induction spot using induction with
  | step spot ih =>
      rw [layout_eq, List.map_cons, List.length_cons, List.range'_succ, held, indexes_place ih]

theorem pairwise_index_lt (spot : Spot) : spot.layout.Pairwise fun left right =>
  left.index < right.index := by
  apply List.pairwise_map.mp
  rw [indexes_layout]
  exact List.pairwise_lt_range'

theorem nodup_layout (spot : Spot) : spot.layout.Nodup :=
  (pairwise_index_lt spot).imp fun before same => by
    rw [same] at before
    exact absurd before (Nat.lt_irrefl _)

theorem eq_of_index_eq {root spot other : Spot} (member : spot ∈ root.layout)
    (memberOther : other ∈ root.layout) (same : spot.index = other.index) : spot = other := by
  refine List.inj_on_of_nodup_map ?_ member memberOther same
  rw [indexes_layout]
  exact List.nodup_range'

theorem mem_layout_bounds {spot other : Spot} (member : other ∈ spot.layout) :
    spot.index ≤ other.index ∧ other.index < spot.index + spot.layout.length := by
  rw [← List.mem_range'_1, ← indexes_layout]
  exact List.mem_map_of_mem member

/-! ### Groups and what they hold -/

theorem mem_layout_self (spot : Spot) : spot ∈ spot.layout := by
  rw [layout_eq]
  exact List.mem_cons_self

theorem layout_sublist_of_mem_held {spot other : Spot} (member : other ∈ spot.held) :
    other.layout.Sublist spot.layout := by
  rw [layout_eq spot, List.flatMap_def]
  exact (List.sublist_flatten_of_mem (List.mem_map_of_mem member)).cons _

theorem layout_sublist {root spot : Spot} (member : spot ∈ root.layout) :
    spot.layout.Sublist root.layout := by
  induction root using induction with
  | step root ih =>
      rw [layout_eq root] at member
      rcases List.mem_cons.mp member with here | below
      · rw [here]
      · obtain ⟨other, held, inside⟩ := List.mem_flatMap.mp below
        exact (ih other held inside).trans (layout_sublist_of_mem_held held)

theorem sublist_flatMap_layout (spots : List Spot) : spots.Sublist (spots.flatMap layout) := by
  induction spots with
  | nil => exact .slnil
  | cons spot rest ih =>
      rw [List.flatMap_cons, layout_eq, List.cons_append]
      exact (ih.trans (List.sublist_append_right _ _)).cons_cons spot

theorem held_sublist (spot : Spot) : spot.held.Sublist spot.layout := by
  rw [layout_eq]
  exact (sublist_flatMap_layout spot.held).cons spot

theorem mem_layout_of_held {root spot other : Spot} (member : spot ∈ root.layout)
    (inside : other ∈ spot.held) :
    other ∈ root.layout :=
  (layout_sublist member).subset ((held_sublist spot).subset inside)

/-- Every spot but the first is held by a group of the layout. -/
theorem eq_or_held {root spot : Spot} (member : spot ∈ root.layout) :
    spot = root ∨ ∃ group ∈ root.layout, spot ∈ group.held := by
  induction root using induction with
  | step root ih =>
      rw [layout_eq] at member
      rcases List.mem_cons.mp member with here | below
      · exact Or.inl here
      · obtain ⟨other, held, inside⟩ := List.mem_flatMap.mp below
        apply Or.inr
        rcases ih other held inside with same | ⟨group, memberGroup, heldThere⟩
        · exact ⟨root, mem_layout_self root, same ▸ held⟩
        · exact ⟨group, (layout_sublist_of_mem_held held).subset memberGroup, heldThere⟩

theorem group_of_mem_place {site : Site} {holder index : Nat} {links : List (List Nat)}
    {keys : List String} {other : Spot} (member : other ∈ place site holder index links keys) :
    other.group = some ⟨holder, site.name⟩ := by
  induction keys generalizing index links with
  | nil => cases member
  | cons key rest ih =>
      rcases List.mem_cons.mp member with here | later
      · rw [here]
        rfl
      · exact ih later

theorem group_of_mem_held {spot other : Spot} (member : other ∈ spot.held) :
    other.group = some ⟨spot.index, spot.name⟩ := group_of_mem_place member

theorem index_lt_of_mem_held {spot other : Spot} (member : other ∈ spot.held) :
    spot.index < other.index := by
  have ordered := pairwise_index_lt spot
  rw [layout_eq, List.pairwise_cons] at ordered
  exact ordered.1 other ((sublist_flatMap_layout spot.held).subset member)

/-- What is below a spot is what has an index right after it. -/
theorem mem_layout_iff {root spot other : Spot} (member : spot ∈ root.layout)
    (memberOther : other ∈ root.layout) :
    other ∈ spot.layout ↔ spot.index ≤ other.index ∧
      other.index < spot.index + spot.layout.length := by
  refine ⟨mem_layout_bounds, fun within => ?_⟩
  have listed : other.index ∈ spot.layout.map (·.index) := by
    rw [indexes_layout, List.mem_range'_1]
    exact within
  obtain ⟨found, inside, same⟩ := List.mem_map.mp listed
  have equal := eq_of_index_eq ((layout_sublist member).subset inside) memberOther same
  exact equal ▸ inside

theorem layout_end_le {root spot : Spot} (member : spot ∈ root.layout) :
    spot.index + spot.layout.length ≤ root.index + root.layout.length := by
  have positive : 0 < spot.layout.length := List.length_pos_of_mem (mem_layout_self spot)
  have listed : spot.index + (spot.layout.length - 1) ∈ spot.layout.map (·.index) := by
    rw [indexes_layout, List.mem_range'_1]
    omega
  obtain ⟨last, inside, isLast⟩ := List.mem_map.mp listed
  have bounds := mem_layout_bounds ((layout_sublist member).subset inside)
  omega

def heldAt (index : Nat) (spot : Spot) : Bool := spot.group.map (·.index) = some index

theorem heldAt_iff {root spot other : Spot} (alone : root.group = none)
    (member : spot ∈ root.layout) (memberOther : other ∈ root.layout) :
    heldAt spot.index other = true ↔ other ∈ spot.held := by
  rw [heldAt, decide_eq_true_iff]
  constructor
  · intro named
    rcases eq_or_held memberOther with same | ⟨group, memberGroup, held⟩
    · rw [same, alone] at named
      cases named
    · rw [group_of_mem_held held, Option.map_some, Option.some.injEq] at named
      exact eq_of_index_eq memberGroup member named ▸ held
  · intro held
    rw [group_of_mem_held held]
    rfl

/-- The spots that name a spot as their group are those that it holds, in that order. -/
theorem filter_heldAt {root spot : Spot} (alone : root.group = none) (member : spot ∈ root.layout) :
    root.layout.filter (heldAt spot.index) = spot.held := by
  have sublist : spot.held.Sublist (root.layout.filter (heldAt spot.index)) := by
    have kept : spot.held.filter (heldAt spot.index) = spot.held :=
      List.filter_eq_self.mpr fun other held =>
        (heldAt_iff alone member (mem_layout_of_held member held)).mpr held
    rw [← kept]
    exact ((held_sublist spot).trans (layout_sublist member)).filter _
  -- Neither row repeats a spot and both hold the same ones, so the sublist is the whole.
  have nodup := nodup_layout root
  have same : (root.layout.filter (heldAt spot.index)).Perm spot.held := by
    refine (List.perm_ext_iff_of_nodup (nodup.sublist List.filter_sublist)
      ((nodup.sublist List.filter_sublist).sublist sublist)).mpr fun other => ⟨fun found =>
        ?_, fun held => sublist.subset held⟩
    obtain ⟨memberOther, named⟩ := List.mem_filter.mp found
    exact (heldAt_iff alone member memberOther).mp named
  exact (sublist.eq_of_length same.length_eq.symm).symm

/-! ### Upstreams -/

theorem waits_place {parallel : Bool} {site : Site} {holder index : Nat} {before : Fields Nat}
    {links : List (List Nat)} {keys : List String}
    (linked : Linked parallel before ((place site holder index [] keys).map node) links)
    {earlier : List Spot} {other : Spot} {later : List Spot}
    (shape : place site holder index links keys = earlier ++ other :: later) :
    Waits parallel (before ++ earlier.map fun spot => (spot.name, spot.index))
      (other.options.get? "after") other.upstreams := by
  induction keys generalizing index before links earlier with
  | nil => cases earlier <;> cases shape
  | cons key rest ih =>
      cases linked with
      | cons waits linkedRest =>
          rw [place] at shape
          cases earlier with
          | nil =>
              rw [List.nil_append, List.cons.injEq] at shape
              rw [← shape.1, List.map_nil, List.append_nil]
              exact waits
          | cons head tail =>
              rw [List.cons_append, List.cons.injEq] at shape
              have rule := ih linkedRest shape.2
              rw [List.append_assoc, List.singleton_append] at rule
              rw [← shape.1]
              exact rule

/-- The rule by which the subtasks of an accepted group wait for each other. -/
theorem waits_held {spot : Spot} (stored : spot.own.Stored) (accepted : spot.Accepted)
    (isGroup : ¬spot.IsTask) :
    ∃ parallel, ReadsAs parallel (spot.options.get? "parallel") ∧
      ∀ earlier other later, spot.held = earlier ++ other :: later →
        Waits parallel (earlier.map fun spot => (spot.name, spot.index))
          (other.options.get? "after") other.upstreams := by
  obtain ⟨links, given⟩ := (exists_upstreamsOf_iff stored).mpr
    ⟨accepted.parallel_truth isGroup, accepted.after_earlier isGroup,
      accepted.after_parallel isGroup⟩
  obtain ⟨parallel, reads, _, linked⟩ := (upstreamsOf_unlinked_iff spot links).mp given
  have same : spot.links = links := by rw [Spot.links, given]
  refine ⟨parallel, reads, fun earlier other later shape => ?_⟩
  rw [held, same] at shape
  exact waits_place linked shape

theorem not_isTask_of_mem_held {spot other : Spot} (accepted : spot.Accepted)
    (member : other ∈ spot.held) :
    ¬spot.IsTask := by
  intro task
  rw [held, accepted.task_alone task] at member
  cases member

theorem upstreams_of_mem_held {spot other : Spot} (stored : spot.own.Stored)
    (accepted : spot.Accepted) (member : other ∈ spot.held) :
    (∀ upstream ∈ other.upstreams, ∃ earlier ∈ spot.held,
      earlier.index = upstream ∧ earlier.index < other.index) ∧ other.upstreams.Nodup := by
  obtain ⟨_, _, rule⟩ := waits_held stored accepted (not_isTask_of_mem_held accepted member)
  obtain ⟨before, later, shape⟩ := List.append_of_mem member
  have waits := rule before other later shape
  refine ⟨fun upstream inside => ?_, waits.nodup⟩
  have known := waits.mem_before inside
  rw [List.map_map] at known
  obtain ⟨earlier, among, same⟩ := List.mem_map.mp known
  have ordered : spot.held.Pairwise fun left right => left.index < right.index :=
    (pairwise_index_lt spot).sublist (held_sublist spot)
  rw [shape, List.pairwise_append] at ordered
  refine ⟨earlier, ?_, same, ordered.2.2 earlier among other List.mem_cons_self⟩
  rw [shape]
  exact List.mem_append_left _ among

/-! ### The sites of a layout -/

theorem toSite_mem_preorder {root spot : Spot} (member : spot ∈ root.layout) :
    spot.toSite ∈ root.toSite.preorder := by
  rw [← toSite_layout]
  exact List.mem_map_of_mem member

theorem stored_of_mem_layout {root spot : Spot} (stored : root.own.Stored)
    (member : spot ∈ root.layout) :
    spot.own.Stored := Site.stored_of_mem_preorder stored _ (toSite_mem_preorder member)

end Spot
end TaskGraph.Compiler
