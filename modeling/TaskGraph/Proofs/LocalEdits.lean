import Mathlib.Algebra.Ring.Nat
import TaskGraph.Proofs.Counterparts
import TaskGraph.Proofs.TaskTree
set_option autoImplicit false

/-! Edits inside one subtask. Two definitions that differ only in what one subtask holds compile
into the same tasks outside of it: what the subtask says reaches neither the groups above it nor
their other subtasks, and only moves the indexes of what comes after it. -/

namespace TaskGraph

theorem forall₂_append_iff {α β : Type} {related : α → β → Prop} {left others : List α}
    {right facing : List β} (even : left.length = right.length) :
    List.Forall₂ related (left ++ others) (right ++ facing) ↔
      List.Forall₂ related left right ∧ List.Forall₂ related others facing := by
  constructor
  · intro rows
    have first := List.forall₂_take_append _ _ _ rows
    have second := List.forall₂_drop_append _ _ _ rows
    rw [← even, List.take_left] at first
    rw [← even, List.drop_left] at second
    exact ⟨first, second⟩
  · intro rows
    exact List.rel_append rows.1 rows.2

namespace Config

/-- Two configurations with the same options in the same order,
of which at most one has another value. -/
structure SameBut (key : String) (own other : Config) : Prop where
  keys : own.keys = other.keys
  elsewhere : ∀ option, option ≠ key → own.get? option = other.get? option

/-- Two nodes that differ in what the subtask at the end of a path holds, and nowhere else. -/
inductive EditedAt : List String → Config → Config → Prop
  | here {key : String} {own other : Config} : key ∈ own.subtaskKeys → SameBut key own other →
      EditedAt [key] own other
  | further {key : String} {path : List String} {own other : Config} : key ∈ own.subtaskKeys →
      SameBut key own other →
      EditedAt path (own.below key) (other.below key) → EditedAt (key :: path) own other

namespace SameBut

variable {key : String} {own other : Config} (same : SameBut key own other)

include same

theorem subtaskKeys : own.subtaskKeys = other.subtaskKeys := by
  rw [Config.subtaskKeys, Config.subtaskKeys, same.keys]

theorem below {option : String} (elsewhere : option ≠ key) :
    own.below option = other.below option :=
  below_congr (same.elsewhere option elsewhere)

end SameBut

end Config

namespace Compiler

theorem handDown_of_sameBut {key : String} {own other : Config}
    (same : Config.SameBut key own other) (isSubtask : isSubtaskKey key = true)
    (inherited : Config) : handDown inherited own = handDown inherited other := by
  have elsewhere : "default" ≠ key := fun equal => by
    rw [← equal] at isSubtask
    cases isSubtask
  rw [handDown, handDown, same.below elsewhere]

/-- What a subtask holds is no option of its group. -/
theorem optionsOf_of_sameBut {key : String} {own other : Config}
    (same : Config.SameBut key own other) (isSubtask : isSubtaskKey key = true)
    (stored : own.Stored) (storedOther : other.Stored) (inherited : Config) :
    optionsOf inherited own = optionsOf inherited other := by
  have handed := handDown_of_sameBut same isSubtask inherited
  refine Config.eq_of_fields ?_ rfl
  refine Fields.eq_of_keys_of_get? (optionsOf inherited own).distinct
    (optionsOf inherited other).distinct ?_ ?_
  · have keys := keys_optionsOf stored inherited
    have keysOther := keys_optionsOf storedOther inherited
    rw [same.keys, handed, ← keysOther] at keys
    exact keys
  · intro option
    have value := get?_optionsOf stored inherited option
    have valueOther := get?_optionsOf storedOther inherited option
    rw [Config.get?] at value valueOther
    rw [value, valueOther, handed]
    split
    · rfl
    · rename_i isOption
      rw [same.elsewhere option fun equal => isOption (equal ▸ isSubtask)]

/-! ### Sites outside of the edit -/

namespace Site

structure Alongside (site other : Site) : Prop where
  name : site.name = other.name
  inherited : site.inherited = other.inherited

structure Unaffected (site other : Site) : Prop extends Alongside site other where
  own : site.own = other.own

/-- Two sites of one name that inherit the same and, but for those of one name, declare the same. -/
structure UnaffectedBut (key : String) (site other : Site) : Prop extends Alongside site other where
  own : site.name ≠ key → site.own = other.own

structure SameTask (site other : Site) : Prop where
  name : site.name = other.name
  options : site.options = other.options

def span (site : Site) (keys : List String) : Nat :=
  (keys.map fun key => (site.child key).preorder.length).sum

theorem span_cons (site : Site) (key : String) (keys : List String) :
    site.span (key :: keys) = (site.child key).preorder.length + site.span keys := by
  rw [span, List.map_cons, List.sum_cons]
  rfl

theorem Unaffected.sameTask {site other : Site} (both : site.Unaffected other) :
    site.SameTask other where
  name := both.name
  options := by rw [options, options, both.inherited, both.own]

end Site

theorem agreement_unaffected : Agreement Site.Unaffected where
  name := fun both => both.name
  subtasks := fun both => congrArg Config.subtaskKeys both.own
  child := fun {site other} both key _ => by
    refine ⟨⟨rfl, ?_⟩, congrArg (fun own => own.below key) both.own⟩
    rw [Site.inherited_child, Site.inherited_child, both.inherited, both.own]
  parallel := fun both => congrArg (fun options => options.get? "parallel") both.sameTask.options
  after := fun both => congrArg (fun options => options.get? "after") both.sameTask.options

namespace Site

section

variable {site other : Site} {key : String} (both : site.Alongside other)
    (same : Config.SameBut key site.own other.own)
  (isSubtask : isSubtaskKey key = true)

include both same isSubtask

theorem child_unaffectedBut (name : String) :
    (site.child name).UnaffectedBut key (other.child name) := by
  refine ⟨⟨rfl, ?_⟩, fun elsewhere => same.below elsewhere⟩
  rw [inherited_child, inherited_child, both.inherited, handDown_of_sameBut same isSubtask]

theorem span_eq {keys : List String} (elsewhere : key ∉ keys) :
    site.span keys = other.span keys := by
  rw [span, span]
  congr 1
  apply List.map_congr_left
  intro name member
  have child := child_unaffectedBut both same isSubtask name
  have unaffected : (site.child name).Unaffected (other.child name) :=
    ⟨child.toAlongside, child.own fun equal => elsewhere (equal ▸ member)⟩
  exact (agreement_unaffected.preorder unaffected).length_eq

theorem sameTask_of_sameBut (stored : site.own.Stored) (storedOther : other.own.Stored) :
    site.SameTask other where
  name := both.name
  options := by
    rw [options, options, ← both.inherited, optionsOf_of_sameBut same isSubtask stored storedOther]

end

end Site

/-! ### Places in a group -/

namespace Spot

theorem place_append (site : Site) (holder index : Nat) (links : List (List Nat))
    (keys others : List String) :
    place site holder index links (keys ++ others) = place site holder index links keys ++
      place site holder (index + site.span keys) (links.drop keys.length) others := by
  induction keys generalizing index links with
  | nil => rfl
  | cons key rest ih =>
      rw [List.cons_append, place, place, ih, Site.span_cons, List.cons_append, Nat.add_assoc,
        List.length_cons, List.drop_tail]

theorem mem_place_bounds {site : Site} {holder index : Nat} {links : List (List Nat)}
    {keys : List String} {child : Spot} (member : child ∈ place site holder index links keys) :
    index ≤ child.index ∧ child.index + child.toSite.preorder.length ≤ index + site.span keys := by
  induction keys generalizing index links with
  | nil => cases member
  | cons key rest ih =>
      rw [Site.span_cons]
      rcases List.mem_cons.mp member with here | later
      · rw [here]
        change index ≤ index ∧ index + (site.child key).preorder.length ≤ _
        omega
      · have within := ih later
        omega

theorem length_flatMap_place (site : Site) (holder index : Nat) (links : List (List Nat))
    (keys : List String) :
    ((place site holder index links keys).flatMap layout).length = site.span keys := by
  induction keys generalizing index links with
  | nil => rfl
  | cons key rest ih =>
      rw [place, List.flatMap_cons, List.length_append, ih, length_layout, Site.span_cons]
      rfl

theorem name_mem_of_mem_place {site : Site} {holder index : Nat} {links : List (List Nat)}
    {keys : List String} {child : Spot} (member : child ∈ place site holder index links keys) :
    child.name ∈ keys := by
  have inside : child.toSite ∈ keys.map site.child :=
    toSite_place site holder index links keys ▸ List.mem_map_of_mem member
  obtain ⟨key, among, same⟩ := List.mem_map.mp inside
  rw [← same]
  exact among

structure Splits (spot : Spot) (key : String) (early late : List String) (earlier : List Spot)
    (child : Spot) (later : List Spot) : Prop where
  held : spot.held = earlier ++ child :: later
  site : child.toSite = spot.child key
  index : child.index = spot.index + 1 + spot.span early
  count : earlier.length = early.length
  length_earlier : (earlier.flatMap layout).length = spot.span early
  length_later : (later.flatMap layout).length = spot.span late
  before : ∀ sibling ∈ earlier, sibling.index + sibling.layout.length ≤ child.index ∧
    sibling.name ∈ early
  after : ∀ sibling ∈ later, child.index + child.layout.length ≤ sibling.index ∧ sibling.name ∈ late

theorem exists_splits {spot : Spot} {key : String} {early late : List String}
    (declared : spot.own.subtaskKeys = early ++ key :: late) :
    ∃ earlier child later, spot.Splits key early late earlier child later := by
  have held := place_append spot.toSite spot.index (spot.index + 1) spot.links early (key :: late)
  rw [← declared, place] at held
  refine ⟨_, _, _, held, rfl, rfl, ?_, length_flatMap_place .., length_flatMap_place .., ?_, ?_⟩
  · have sites := congrArg List.length
      (toSite_place spot.toSite spot.index (spot.index + 1) spot.links early)
    rw [List.length_map, List.length_map] at sites
    exact sites
  · intro sibling member
    rw [length_layout]
    exact ⟨(mem_place_bounds member).2, name_mem_of_mem_place member⟩
  · intro sibling member
    rw [length_layout]
    exact ⟨(mem_place_bounds member).1, name_mem_of_mem_place member⟩

theorem Splits.layout_eq {spot child : Spot} {key : String} {early late : List String}
    {earlier later : List Spot} (splits : spot.Splits key early late earlier child later) :
    spot.layout = spot :: earlier.flatMap layout ++ (child.layout ++ later.flatMap layout) := by
  rw [Spot.layout_eq, splits.held, List.flatMap_append, List.flatMap_cons]
  rfl

end Spot

/-! ### The renumbering -/

/-- A renumbering that keeps the indexes up to a first one and moves those that follow a stretch
from there on to follow a stretch of another length. -/
structure Shifts (renumber : Nat → Nat) (first less more : Nat) : Prop where
  before : ∀ i, i ≤ first → renumber i = i
  after : ∀ i, first + less ≤ i → renumber i + less = i + more

theorem exists_shifts (first : Nat) {less : Nat} (more : Nat) (positive : 0 < less) :
    ∃ renumber, Shifts renumber first less more := by
  refine ⟨fun i => if i ≤ first then i else i - less + more, fun i early => if_pos early,
    fun i late => ?_⟩
  have notEarly : ¬i ≤ first := by omega
  simp only [if_neg notEarly]
  omega

theorem Shifts.separates {renumber : Nat → Nat} {first less more : Nat}
    (shifts : Shifts renumber first less more) (positive : 0 < more) {indexes : List Nat}
    (apart : ∀ i ∈ indexes, i ≤ first ∨ first + less ≤ i) :
    Separates renumber indexes := by
  intro i inside j among same
  rcases apart i inside with early | late <;> rcases apart j among with earlyOther | lateOther
  · rw [shifts.before i early, shifts.before j earlyOther] at same
    exact same
  · have moved := shifts.after j lateOther
    rw [← same, shifts.before i early] at moved
    omega
  · have moved := shifts.after i late
    rw [same, shifts.before j earlyOther] at moved
    omega
  · have moved := shifts.after i late
    have movedOther := shifts.after j lateOther
    omega

/-! ### One edit -/

namespace Spot

structure Across (alike : Site → Site → Prop) (renumber : Nat → Nat) (spot other : Spot) :
    Prop extends
    Beside alike renumber spot other where
  upstreams : spot.options.get? "after" = other.options.get? "after" →
    other.upstreams = spot.upstreams.map renumber

structure Cut (top facing spot other : Spot) : Prop where
  mem : top ∈ spot.layout
  memOther : facing ∈ other.layout
  index : facing.index = top.index
  sizes : spot.layout.length + facing.layout.length = other.layout.length + top.layout.length
  rows : ∀ renumber, Shifts renumber top.index top.layout.length facing.layout.length →
    Across Site.Alongside renumber spot other → ∃ before later beforeOther laterOther,
      spot.layout = before ++ (top.layout ++ later) ∧
        other.layout = beforeOther ++ (facing.layout ++ laterOther) ∧
        List.Forall₂ (Counterpart Site.SameTask renumber) (before ++ later)
          (beforeOther ++ laterOther)

theorem Cut.refl {spot other : Spot} (index : other.index = spot.index) :
    Cut spot other spot other where
  mem := mem_layout_self spot
  memOther := mem_layout_self other
  index := index
  sizes := Nat.add_comm _ _
  rows := fun _ _ _ => ⟨[], [], [], [], by simp, by simp, .nil⟩

section

variable {top facing spot other child counterpart : Spot} {key : String} {early late : List String}
  {earlier later earlierOther laterOther : List Spot} {renumber : Nat → Nat}

/-- Where the subtasks of a group stand to a spot at or below one of them. -/
theorem Splits.cases (splits : spot.Splits key early late earlier child later)
    (mem : top ∈ child.layout) {sibling : Spot} (member : sibling ∈ spot.held) :
    (sibling.index + sibling.layout.length ≤ top.index ∧ sibling.name ∈ early) ∨ sibling = child ∨
      (top.index + top.layout.length ≤ sibling.index ∧ sibling.name ∈ late) := by
  have first := (mem_layout_bounds mem).1
  have last := layout_end_le mem
  rw [splits.held] at member
  rcases List.mem_append.mp member with inEarlier | rest
  · have before := splits.before sibling inEarlier
    exact Or.inl ⟨by omega, before.2⟩
  · rcases List.mem_cons.mp rest with here | inLater
    · exact Or.inr (Or.inl here)
    · have after := splits.after sibling inLater
      exact Or.inr (Or.inr ⟨by omega, after.2⟩)

structure Edit (key : String) (spot other : Spot) : Prop where
  alongside : spot.toSite.Alongside other.toSite
  index : other.index = spot.index
  declared : key ∈ spot.own.subtaskKeys
  same : Config.SameBut key spot.own other.own
  stored : spot.own.Stored
  storedOther : other.own.Stored
  accepted : ∀ site ∈ spot.toSite.preorder, site.Accepted
  acceptedOther : ∀ site ∈ other.toSite.preorder, site.Accepted

namespace Edit

variable (edit : Edit key spot other)

include edit

theorem isSubtask : isSubtaskKey key = true := ((spot.own.mem_subtaskKeys key).mp edit.declared).2

theorem sameTask : spot.toSite.SameTask other.toSite :=
  Site.sameTask_of_sameBut edit.alongside edit.same edit.isSubtask edit.stored edit.storedOther

theorem unaffectedBut (name : String) : (spot.child name).UnaffectedBut key (other.child name) :=
  Site.child_unaffectedBut edit.alongside edit.same edit.isSubtask name

theorem size_child {name : String} (elsewhere : name ≠ key) :
    (spot.child name).preorder.length = (other.child name).preorder.length := by
  have child := edit.unaffectedBut name
  have unaffected : (spot.child name).Unaffected (other.child name) :=
    ⟨child.toAlongside, child.own elsewhere⟩
  exact (agreement_unaffected.preorder unaffected).length_eq

theorem layouts {spots facings : List Spot} {less more : Nat}
    (rows : List.Forall₂ (Across (Site.UnaffectedBut key) renumber) spots facings)
    (within : ∀ sibling ∈ spots, sibling ∈ spot.held ∧ sibling.name ≠ key)
    (withinOther : ∀ sibling ∈ facings, sibling ∈ other.held)
    (moves : ∀ sibling ∈ spots, ∀ i, sibling.index ≤ i → i ≤ sibling.index + sibling.layout.length →
      renumber i + less = i + more) :
    List.Forall₂ (Counterpart Site.SameTask renumber) (spots.flatMap layout)
      (facings.flatMap layout) := by
  refine forall₂_flatMap rows fun sibling member siblingOther memberOther across => ?_
  obtain ⟨held, named⟩ := within sibling member
  have heldOther := withinOther siblingOther memberOther
  have unaffected : sibling.toSite.Unaffected siblingOther.toSite :=
    ⟨across.alike.toAlongside, across.alike.own named⟩
  have both : Counterpart Site.Unaffected renumber sibling siblingOther :=
    ⟨⟨unaffected, across.index, across.group⟩,
      across.upstreams (agreement_unaffected.after unaffected)⟩
  have accepted := ((Site.forall_mem_preorder_iff _ _).mp edit.accepted).2
  have acceptedOther := ((Site.forall_mem_preorder_iff _ _).mp edit.acceptedOther).2
  have inner := agreement_unaffected.layout both (stored_of_mem_held held)
    (stored_of_mem_held heldOther) (accepted _ (toSite_mem_children held))
    (acceptedOther _ (toSite_mem_children heldOther)) (moves sibling member)
  exact inner.imp fun _ _ counterparts => counterparts.imp fun _ _ => Site.Unaffected.sameTask

end Edit

section

variable (edit : Edit key spot other) (splits : spot.Splits key early late earlier child later)
  (splitsOther : other.Splits key early late earlierOther counterpart laterOther)
  (elsewhere : key ∉ early ++ late)

include edit splits splitsOther elsewhere

theorem Edit.index_child : counterpart.index = child.index := by
  have early := Site.span_eq edit.alongside edit.same edit.isSubtask fun inside =>
    elsewhere (List.mem_append_left _ inside)
  rw [splits.index, splitsOther.index, edit.index, early]

theorem Edit.sizes
    (sizes : child.layout.length + facing.layout.length =
      counterpart.layout.length + top.layout.length) :
    spot.layout.length + facing.layout.length = other.layout.length + top.layout.length := by
  have early := Site.span_eq edit.alongside edit.same edit.isSubtask fun inside =>
    elsewhere (List.mem_append_left _ inside)
  have late := Site.span_eq edit.alongside edit.same edit.isSubtask fun inside =>
    elsewhere (List.mem_append_right _ inside)
  rw [splits.layout_eq, splitsOther.layout_eq]
  simp only [List.length_append, List.length_cons, splits.length_earlier, splits.length_later,
    splitsOther.length_earlier, splitsOther.length_later]
  omega

/-- The subtasks of the groups are side by side, also the edited one. -/
theorem Edit.across (cut : Cut top facing child counterpart)
    (shifts : Shifts renumber top.index top.layout.length facing.layout.length) :
    List.Forall₂ (Across (Site.UnaffectedBut key) renumber) spot.held other.held := by
  have first := (mem_layout_bounds cut.mem).1
  have last := layout_end_le cut.mem
  have start := splits.index
  have even := edit.index
  have sizes := cut.sizes
  have rows : List.Forall₂ (Beside (Site.UnaffectedBut key) renumber) spot.held other.held := by
    have keepSpot := shifts.before spot.index (by omega)
    have keepStart := shifts.before (spot.index + 1) (by omega)
    rw [held, held, ← edit.same.subtaskKeys]
    refine beside_place (fun name _ => edit.unaffectedBut name) (by omega)
      (by omega) fun sibling member => ?_
    have size : (spot.child sibling.name).preorder.length = sibling.layout.length := by
      rw [length_layout, toSite_eq_child member]
      rfl
    -- What is earlier stays, the edited subtask starts where it did, and what is later moves by the
    -- difference in size.
    rcases splits.cases cut.mem member with ⟨before, named⟩ | here | ⟨after, named⟩
    · have sizeOther := edit.size_child fun equal =>
        elsewhere (List.mem_append_left _ (equal ▸ named))
      have moved := shifts.before sibling.index (by omega)
      have movedEnd := shifts.before (sibling.index + (spot.child sibling.name).preorder.length)
        (by omega)
      omega
    · have name : child.name = key := congrArg Site.name splits.site
      have sizeOther := length_layout counterpart
      rw [splitsOther.site] at sizeOther
      rw [here, name] at size ⊢
      have moved := shifts.before child.index first
      have movedEnd := shifts.after (child.index + (spot.child key).preorder.length) (by omega)
      omega
    · have sizeOther := edit.size_child fun equal =>
        elsewhere (List.mem_append_right _ (equal ▸ named))
      have moved := shifts.after sibling.index after
      have movedEnd := shifts.after (sibling.index + (spot.child sibling.name).preorder.length)
        (by omega)
      omega
  refine forall₂_of_splits rows ?_
  intro before sibling rest beforeOther siblingOther restOther shape shapeOther preceding beside
  refine ⟨beside, fun after => ?_⟩
  have accepted := (Site.forall_mem_preorder_iff _ _).mp edit.accepted
  have acceptedOther := (Site.forall_mem_preorder_iff _ _).mp edit.acceptedOther
  refine upstreams_eq_map edit.stored edit.storedOther accepted.1 acceptedOther.1
    shape shapeOther ?_ after ?_ ?_
  · exact congrArg (fun options => options.get? "parallel") edit.sameTask.options
  · exact (map_eq_map_of_forall₂ preceding fun a b same => Prod.ext same.alike.name
      same.index.symm).symm
  · refine shifts.separates (List.length_pos_of_mem (mem_layout_self facing)) fun i inside => ?_
    obtain ⟨sibling, among, rfl⟩ := List.mem_map.mp inside
    rcases splits.cases cut.mem (shape ▸ List.mem_append_left _ among) with
      ⟨before, _⟩ | here | ⟨after, _⟩
    · exact Or.inl (by omega)
    · exact Or.inl (here ▸ first)
    · exact Or.inr after

/-- Around an edited subtask the layouts are alike if they are within it. -/
theorem Edit.cut (cut : Cut top facing child counterpart) : Cut top facing spot other where
  mem := (layout_sublist_of_mem_held
    (splits.held ▸ List.mem_append_right _ List.mem_cons_self)).subset cut.mem
  memOther := (layout_sublist_of_mem_held
    (splitsOther.held ▸ List.mem_append_right _ List.mem_cons_self)).subset cut.memOther
  index := cut.index
  sizes := edit.sizes splits splitsOther elsewhere cut.sizes
  rows := fun renumber shifts across => by
    have rows := edit.across splits splitsOther elsewhere cut shifts
    rw [splits.held, splitsOther.held,
      forall₂_append_iff (splits.count.trans splitsOther.count.symm), List.forall₂_cons] at rows
    obtain ⟨rowsEarlier, acrossChild, rowsLater⟩ := rows
    obtain ⟨before, after, beforeOther, afterOther, shape, shapeOther, inner⟩ :=
      cut.rows renumber shifts ⟨⟨acrossChild.alike.toAlongside, acrossChild.index,
        acrossChild.group⟩, acrossChild.upstreams⟩
    have group : Counterpart Site.SameTask renumber spot other := by
      have after := congrArg (fun options => options.get? "after") edit.sameTask.options
      exact ⟨⟨edit.sameTask, across.index, across.group⟩, across.upstreams after⟩
    have first := (mem_layout_bounds cut.mem).1
    have last := layout_end_le cut.mem
    have keeps : ∀ sibling ∈ earlier, ∀ i, sibling.index ≤ i →
        i ≤ sibling.index + sibling.layout.length →
        renumber i + 0 = i + 0 := by
      intro sibling member i _ early
      have before := (splits.before sibling member).1
      exact shifts.before i (by omega)
    have moves : ∀ sibling ∈ later, ∀ i, sibling.index ≤ i →
        i ≤ sibling.index + sibling.layout.length →
        renumber i + top.layout.length = i + facing.layout.length := by
      intro sibling member i late _
      have after := (splits.after sibling member).1
      exact shifts.after i (by omega)
    have layoutsEarlier : List.Forall₂ (Counterpart Site.SameTask renumber) (earlier.flatMap layout)
        (earlierOther.flatMap layout) := by
      refine edit.layouts rowsEarlier (fun sibling member => ⟨?_, fun equal => ?_⟩)
        (fun sibling member => ?_) keeps
      · exact splits.held ▸ List.mem_append_left _ member
      · exact elsewhere (List.mem_append_left _ (equal ▸ (splits.before sibling member).2))
      · exact splitsOther.held ▸ List.mem_append_left _ member
    have layoutsLater : List.Forall₂ (Counterpart Site.SameTask renumber) (later.flatMap layout)
        (laterOther.flatMap layout) := by
      refine edit.layouts rowsLater (fun sibling member => ⟨?_, fun equal => ?_⟩)
        (fun sibling member => ?_) moves
      · exact splits.held ▸ List.mem_append_right _ (List.mem_cons_of_mem _ member)
      · exact elsewhere (List.mem_append_right _ (equal ▸ (splits.after sibling member).2))
      · exact splitsOther.held ▸ List.mem_append_right _ (List.mem_cons_of_mem _ member)
    refine ⟨spot :: earlier.flatMap layout ++ before, after ++ later.flatMap layout,
      other :: earlierOther.flatMap layout ++ beforeOther,
        afterOther ++ laterOther.flatMap layout, ?_, ?_, ?_⟩
    · rw [splits.layout_eq, shape]
      simp only [List.append_assoc]
    · rw [splitsOther.layout_eq, shapeOther]
      simp only [List.append_assoc]
    · have rows := List.rel_append (List.Forall₂.cons group layoutsEarlier)
        (List.rel_append inner layoutsLater)
      simp only [List.append_assoc] at rows ⊢
      exact rows

end

end

/-- Two definitions that differ at the end of a path have layouts
that are alike but for what is there. -/
theorem exists_cut {path : List String} {spot other : Spot}
    (edited : Config.EditedAt path spot.own other.own)
    (alongside : spot.toSite.Alongside other.toSite) (index : other.index = spot.index)
    (stored : spot.own.Stored) (storedOther : other.own.Stored)
    (accepted : ∀ site ∈ spot.toSite.preorder, site.Accepted)
    (acceptedOther : ∀ site ∈ other.toSite.preorder, site.Accepted) :
    ∃ top facing, top.path = spot.path ++ path ∧ facing.path = other.path ++ path ∧
      Cut top facing spot other := by
  -- Down the path: a cut below the subtask of a group is one of the group, too.
  induction path generalizing spot other with
  | nil => cases edited
  | cons key rest ih =>
      have edit : Edit key spot other := by
        cases edited with
        | here declared same =>
            exact ⟨alongside, index, declared, same, stored, storedOther, accepted, acceptedOther⟩
        | further declared same _ =>
            exact ⟨alongside, index, declared, same, stored, storedOther, accepted, acceptedOther⟩
      obtain ⟨early, late, declared⟩ := List.append_of_mem edit.declared
      have elsewhere : key ∉ early ++ late := by
        have once := spot.own.subtaskKeys_nodup
        rw [declared, List.nodup_middle] at once
        exact (List.nodup_cons.mp once).1
      obtain ⟨earlier, child, later, splits⟩ := exists_splits declared
      obtain ⟨earlierOther, facing, laterOther, splitsOther⟩ :=
        exists_splits (edit.same.subtaskKeys.symm.trans declared)
      have indexChild := edit.index_child splits splitsOther elsewhere
      have path : child.path = spot.path ++ [key] := splits.site ▸ Site.path_child _ _
      have pathOther : facing.path = other.path ++ [key] := splitsOther.site ▸ Site.path_child _ _
      cases edited with
      | here _ _ =>
          exact ⟨child, facing, path, pathOther, edit.cut splits splitsOther elsewhere
            (.refl indexChild)⟩
      | further _ _ below =>
          have held : child ∈ spot.held := splits.held ▸ List.mem_append_right _ List.mem_cons_self
          have heldOther : facing ∈ other.held :=
            splitsOther.held ▸ List.mem_append_right _ List.mem_cons_self
          have own : child.own = spot.own.below key := congrArg Site.own splits.site
          have ownOther : facing.own = other.own.below key := congrArg Site.own splitsOther.site
          have inner : child.toSite.Alongside facing.toSite := by
            rw [splits.site, splitsOther.site]
            exact (edit.unaffectedBut key).toAlongside
          obtain ⟨top, bottom, pathTop, pathBottom, cut⟩ :=
            ih (own ▸ ownOther ▸ below) inner indexChild (stored_of_mem_held held)
            (stored_of_mem_held heldOther)
            (((Site.forall_mem_preorder_iff _ _).mp accepted).2 _ (toSite_mem_children held))
            (((Site.forall_mem_preorder_iff _ _).mp acceptedOther).2 _
            (toSite_mem_children heldOther))
          rw [path, List.append_assoc] at pathTop
          rw [pathOther, List.append_assoc] at pathBottom
          exact ⟨top, bottom, pathTop, pathBottom, edit.cut splits splitsOther elsewhere cut⟩

end Spot

end Compiler

/-! ### Workflows -/

open Classical in
noncomputable def TaskList.without (list : TaskList) (top : Task) : List Task :=
  list.tasks.filter fun task => ¬(task = top ∨ list.Descends task top)

theorem TaskList.mem_without_iff {list : TaskList} {top task : Task} :
    task ∈ list.without top ↔ task ∈ list.tasks ∧ ¬(task = top ∨ list.Descends task top) := by
  simp only [without, List.mem_filter, decide_eq_true_eq]

structure Task.Renumbered (renumber : Nat → Nat) (task other : Task) : Prop where
  name : other.name = task.name
  kind : other.kind = task.kind
  config : other.config = task.config
  index : other.index = renumber task.index
  parent : other.parent = task.parent.map fun group => Int.ofNat (renumber group.toNat)
  upstreams : other.upstreams = task.upstreams.map renumber

namespace Compiler

theorem renumbered_of_counterpart {renumber : Nat → Nat} {spot other : Spot} {task facing : Task}
    (both : Counterpart Site.SameTask renumber spot other) (lowers : Lowers spot.node task)
    (lowersOther : Lowers other.node facing) : task.Renumbered renumber facing where
  name := lowersOther.name.trans (both.alike.name.symm.trans lowers.name.symm)
  kind := by rw [lowers.kind, lowersOther.kind, Spot.node, Spot.node, both.alike.options]
  config := by rw [lowers.config, lowersOther.config, Spot.node, Spot.node, both.alike.options]
  index := lowersOther.index.trans (both.index.trans (congrArg renumber lowers.index.symm))
  parent := both.parent_eq lowers lowersOther
  upstreams := lowersOther.upstreams.trans
    (both.upstreams.trans (congrArg (List.map renumber) lowers.upstreams.symm))

theorem Spot.filter_layout {root spot : Spot} {before later : List Spot}
    (shape : root.layout = before ++ (spot.layout ++ later)) (keep : Spot → Bool)
    (keeps : ∀ other ∈ root.layout, keep other = true ↔ other ∉ spot.layout) :
    root.layout.filter keep = before ++ later := by
  have once := root.nodup_layout
  rw [shape] at once keeps ⊢
  have apart := (List.nodup_append.mp once).2.2
  have apartLater := (List.nodup_append.mp (List.nodup_append.mp once).2.1).2.2
  have kept : before.filter keep = before := List.filter_eq_self.mpr fun other member =>
    (keeps other (List.mem_append_left _ member)).mpr fun inside =>
      apart other member other (List.mem_append_left _ inside) rfl
  have dropped : spot.layout.filter keep = [] :=
    List.filter_eq_nil_iff.mpr fun other member isKept =>
    (keeps other (List.mem_append_right _ (List.mem_append_left _ member))).mp isKept member
  have keptLater : later.filter keep = later := List.filter_eq_self.mpr fun other member =>
    (keeps other (List.mem_append_right _ (List.mem_append_right _ member))).mpr fun inside =>
      apartLater other inside other member rfl
  rw [List.filter_append, List.filter_append, kept, dropped, keptLater, List.nil_append]

namespace Compiled

variable {name : String} {root : Config} {workflow : Workflow}
    (compiled : Compiled name root workflow) {spot : Spot}
  {top : Task}

include compiled

theorem mem_layout_iff_descends (member : spot ∈ (Spot.root name root).layout)
    (memberTop : top ∈ workflow.tasks.tasks) (both : Lowers spot.node top) {other : Spot}
    {task : Task} (memberOther : other ∈ (Spot.root name root).layout)
    (memberTask : task ∈ workflow.tasks.tasks) (bothOther : Lowers other.node task) :
    other ∈ spot.layout ↔ task = top ∨ workflow.tasks.Descends task top := by
  constructor
  · intro inside
    rcases compiled.eq_or_descends member both other inside task memberTask bothOther
      with same | below
    · apply Or.inl
      apply TaskList.eq_of_index_eq memberTask memberTop
      rw [bothOther.index, both.index, same]
    · exact Or.inr below
  · rintro (same | below)
    · have index : other.index = spot.index := bothOther.index.symm.trans (same ▸ both.index)
      exact Spot.eq_of_index_eq memberOther member index ▸ Spot.mem_layout_self spot
    · exact compiled.mem_layout_of_descends below spot member both other memberOther bothOther

theorem lowers_without (member : spot ∈ (Spot.root name root).layout)
    (memberTop : top ∈ workflow.tasks.tasks) (both : Lowers spot.node top)
    {before later : List Spot}
    (shape : (Spot.root name root).layout = before ++ (spot.layout ++ later)) :
    List.Forall₂ (fun spot : Spot => Lowers spot.node) (before ++ later)
      (workflow.tasks.without top) := by
  classical
  have rows : List.Forall₂ (fun (other : Spot) (task : Task) => other ∈
      (Spot.root name root).layout ∧
      task ∈ workflow.tasks.tasks ∧ Lowers other.node task)
        (Spot.root name root).layout workflow.tasks.tasks := by
    refine forall₂_of_splits compiled.lowers ?_
    intro _ other _ _ task _ split splitTasks _ lowers
    refine ⟨?_, ?_, lowers⟩
    · exact split ▸ List.mem_append_right _ List.mem_cons_self
    · exact splitTasks ▸ List.mem_append_right _ List.mem_cons_self
  have kept := Spot.filter_layout shape (fun other => other ∉ spot.layout) fun other _ =>
    decide_eq_true_iff
  rw [← kept, TaskList.without]
  refine (List.rel_filter (fun other task lowers => ?_) rows).imp fun _ _ lowers => lowers.2.2
  refine Iff.trans decide_eq_true_iff (Iff.trans ?_ decide_eq_true_iff.symm)
  exact not_congr (compiled.mem_layout_iff_descends member memberTop both lowers.1
    lowers.2.1 lowers.2.2)

theorem mem_without_of_not_mem_layout (member : spot ∈ (Spot.root name root).layout)
    (memberTop : top ∈ workflow.tasks.tasks) (both : Lowers spot.node top) {other : Spot}
    (memberOther : other ∈ (Spot.root name root).layout) (outside : other ∉ spot.layout) :
    ∃ task ∈ workflow.tasks.without top, task.index = other.index := by
  obtain ⟨task, memberTask, bothOther⟩ := compiled.exists_task memberOther
  have notBelow := fun below => outside
    ((compiled.mem_layout_iff_descends member memberTop both memberOther memberTask bothOther).mpr
      below)
  exact ⟨task, TaskList.mem_without_iff.mpr ⟨memberTask, notBelow⟩, bothOther.index⟩

/-- What is outside of a subtask is held by a group outside of it, and
waits for what is outside of it or for its top. -/
theorem refers_without (member : spot ∈ (Spot.root name root).layout)
    (memberTop : top ∈ workflow.tasks.tasks) (both : Lowers spot.node top) {task : Task}
    (outside : task ∈ workflow.tasks.without top) :
    (∀ group, task.parent = some group → ∃ holder ∈ workflow.tasks.without top,
      group = (holder.index : Int)) ∧
      ∀ upstream ∈ task.upstreams,
        upstream = top.index ∨ ∃ earlier ∈ workflow.tasks.without top,
          earlier.index = upstream := by
  obtain ⟨memberTask, notBelow⟩ := TaskList.mem_without_iff.mp outside
  obtain ⟨other, memberOther, bothOther⟩ := compiled.exists_spot memberTask
  have notInside := fun inside => notBelow
    ((compiled.mem_layout_iff_descends member memberTop both memberOther memberTask bothOther).mp
      inside)
  have parent : task.parent = other.group.map fun group => Int.ofNat group.index := bothOther.parent
  have upstreams : task.upstreams = other.upstreams := bothOther.upstreams
  rw [parent, upstreams]
  rcases Spot.eq_or_held memberOther with isRoot | ⟨holder, memberHolder, held⟩
  · rw [isRoot]
    exact ⟨fun _ found => (nomatch found), fun _ found => (nomatch found)⟩
  · have holderOutside : holder ∉ spot.layout := fun inside =>
      notInside (Spot.mem_layout_of_held inside held)
    constructor
    · intro group found
      rw [Spot.group_of_mem_held held] at found
      obtain ⟨found', outsideHolder, index⟩ :=
        compiled.mem_without_of_not_mem_layout member memberTop both memberHolder holderOutside
      exact ⟨found', outsideHolder, index ▸ (Option.some.inj found).symm⟩
    · intro upstream waited
      obtain ⟨earlier, heldEarlier, isUpstream, _⟩ :=
        (Spot.upstreams_of_mem_held (Spot.stored_of_mem_layout compiled.stored memberHolder)
          (compiled.accepted _ (Spot.toSite_mem_preorder memberHolder)) held).1 upstream waited
      have memberEarlier := Spot.mem_layout_of_held memberHolder heldEarlier
      by_cases inside : earlier ∈ spot.layout
      · apply Or.inl
        rcases Spot.eq_or_held inside with isTop | ⟨group, memberGroup, heldThere⟩
        · rw [← isUpstream, isTop]
          exact both.index.symm
        · -- Its group is that of the waiting task, and so is not below the top.
          have groups := (Spot.group_of_mem_held heldThere).symm.trans
            (Spot.group_of_mem_held heldEarlier)
          have index : group.index = holder.index := congrArg Holder.index (Option.some.inj groups)
          have same := Spot.eq_of_index_eq ((Spot.layout_sublist member).subset memberGroup)
            memberHolder index
          exact absurd (same ▸ memberGroup) holderOutside
      · obtain ⟨found, outsideEarlier, index⟩ :=
          compiled.mem_without_of_not_mem_layout member memberTop both memberEarlier inside
        exact Or.inr ⟨found, outsideEarlier, index.trans isUpstream⟩

end Compiled

/-- What an edit of the subtask at the end of a path leaves as it was: all tasks but those of the
subtask are the same, in the same order, with their indexes renumbered. They name only each other
and the top of the subtask. -/
structure SameOutside (path : List String) (list other : TaskList) (top counterpart : Task)
    (renumber : Nat → Nat) :
    Prop where
  reaches : list.Reaches path top
  reachesOther : other.Reaches path counterpart
  index : counterpart.index = renumber top.index
  tasks : List.Forall₂ (Task.Renumbered renumber) (list.without top) (other.without counterpart)
  parent : ∀ task ∈ list.without top, ∀ group, task.parent = some group →
    ∃ holder ∈ list.without top, group = (holder.index : Int)
  upstreams : ∀ task ∈ list.without top, ∀ upstream ∈ task.upstreams,
    upstream = top.index ∨ ∃ earlier ∈ list.without top, earlier.index = upstream

/-- Two definitions that differ only in what one subtask holds
compile into the same tasks outside of it. -/
theorem exists_sameOutside {definition other : Value} {root rootOther : Config}
    (isRoot : Config.ofDefinition definition = .ok root)
    (isOther : Config.ofDefinition other = .ok rootOther) {path : List String}
    (edited : Config.EditedAt path root rootOther) {name : String} {workflow facing : Workflow}
    (result : (compileValue (.text name) definition).result = .ok workflow)
    (resultOther : (compileValue (.text name) other).result = .ok facing) :
    ∃ top counterpart renumber,
      SameOutside (name :: path) workflow.tasks facing.tasks top counterpart renumber := by
  have compiled := compiled_of_compileValue isRoot result
  have compiledOther := compiled_of_compileValue isOther resultOther
  have alongside : (Spot.root name root).toSite.Alongside (Spot.root name rootOther).toSite :=
    ⟨rfl, rfl⟩
  have index : (Spot.root name rootOther).index = (Spot.root name root).index := rfl
  obtain ⟨spot, spotOther, path, pathOther, cut⟩ :
      ∃ top facing : Spot, top.path = name :: path ∧ facing.path = name :: path ∧
        top.Cut facing (Spot.root name root) (Spot.root name rootOther) :=
    Spot.exists_cut edited alongside index compiled.stored compiledOther.stored compiled.accepted
      compiledOther.accepted
  obtain ⟨top, memberTop, both⟩ := compiled.exists_task cut.mem
  obtain ⟨counterpart, memberOther, bothOther⟩ := compiledOther.exists_task cut.memOther
  have positive : 0 < spot.layout.length := List.length_pos_of_mem (Spot.mem_layout_self spot)
  -- The top of the subtask keeps its index, so what waits for it still does.
  obtain ⟨renumber, shifts⟩ := exists_shifts spot.index spotOther.layout.length positive
  have across : Spot.Across Site.Alongside renumber (Spot.root name root)
      (Spot.root name rootOther) :=
    ⟨⟨alongside, (shifts.before 0 (Nat.zero_le _)).symm, rfl⟩, fun _ => rfl⟩
  obtain ⟨before, later, beforeOther, laterOther, shape, shapeOther, rows⟩ :=
    cut.rows renumber shifts across
  refine ⟨top, counterpart, renumber, ?_⟩
  exact
    { reaches := path ▸ compiled.reaches cut.mem memberTop both
      reachesOther := pathOther ▸ compiledOther.reaches cut.memOther memberOther bothOther
      index := by
        have index : top.index = spot.index := both.index
        have indexOther : counterpart.index = spotOther.index := bothOther.index
        rw [index, indexOther, shifts.before spot.index (Nat.le_refl _), cut.index]
      tasks := forall₂_transport rows (compiled.lowers_without cut.mem memberTop both shape)
        (compiledOther.lowers_without cut.memOther memberOther bothOther shapeOther)
        fun _ _ _ _ => renumbered_of_counterpart
      parent := fun task outside => (compiled.refers_without cut.mem memberTop both outside).1
      upstreams := fun task outside => (compiled.refers_without cut.mem memberTop both outside).2 }

def releaseEdited : Value :=
  .mapping
    [(.text "default", .mapping [(.text "retries", .int 2)]),
      (.text "+prepare", .mapping [(.text "sh>", .text "make")]),
      (.text "+publish", .mapping
        [(.text "parallel", .text "True"),
          (.text "+docs", .mapping
            [(.text "default", .mapping [(.text "retries", .int 5)]),
              (.text "+api", .mapping [(.text "sh>", .text "make api")]),
              (.text "+guide", .mapping [(.text "sh>", .text "make guide")])]),
          (.text "+site", .mapping
            [(.text "sh>", .text "make site"), (.text "retries", .null),
              (.text "after", .list [.text "+docs"])])])]

theorem exists_sameOutside_release :
    ∃ root rootOther workflow facing, Config.ofDefinition release = .ok root ∧
      Config.ofDefinition releaseEdited = .ok rootOther ∧
      Config.EditedAt ["+publish", "+docs"] root rootOther ∧
      (compileValue (.text "release") release).result = .ok workflow ∧
      (compileValue (.text "release") releaseEdited).result = .ok facing ∧
      ∃ top counterpart renumber,
        SameOutside ["release", "+publish", "+docs"] workflow.tasks facing.tasks
          top counterpart renumber := by
  obtain ⟨root, isRoot⟩ : ∃ root, Config.ofDefinition release = .ok root := ⟨_, rfl⟩
  obtain ⟨rootOther, isOther⟩ : ∃ root, Config.ofDefinition releaseEdited = .ok root := ⟨_, rfl⟩
  obtain ⟨workflow, result⟩ :
      ∃ workflow, (compileValue (.text "release") release).result = .ok workflow := ⟨_, rfl⟩
  obtain ⟨facing, resultOther⟩ :
      ∃ workflow, (compileValue (.text "release") releaseEdited).result = .ok workflow := ⟨_, rfl⟩
  have edited : Config.EditedAt ["+publish", "+docs"] root rootOther := by
    cases isRoot
    cases isOther
    refine .further (List.mem_cons_of_mem _ List.mem_cons_self)
      ⟨rfl, fun option elsewhere => ?publish⟩
      (.here List.mem_cons_self ⟨rfl, fun option elsewhere => ?docs⟩)
    case publish =>
      change Fields.get? option [("default", _), ("+prepare", _), ("+publish", _)] =
        Fields.get? option [("default", _), ("+prepare", _), ("+publish", _)]
      simp only [Fields.get?_cons, if_neg (Ne.symm elsewhere)]
    case docs =>
      change Fields.get? option [("parallel", _), ("+docs", _), ("+site", _)] =
        Fields.get? option [("parallel", _), ("+docs", _), ("+site", _)]
      simp only [Fields.get?_cons, if_neg (Ne.symm elsewhere)]
  exact ⟨root, rootOther, workflow, facing, isRoot, isOther, edited, result, resultOther,
    exists_sameOutside isRoot isOther edited result resultOther⟩

end Compiler
end TaskGraph
