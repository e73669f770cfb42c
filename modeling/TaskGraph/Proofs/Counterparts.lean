import TaskGraph.Proofs.Lowering
set_option autoImplicit false

/-! Two graphs side by side. Where two definitions have the same subtasks in the same order, and the
options that decide dependencies agree, their layouts agree spot by spot: one is the other with its
indexes renumbered. -/

namespace TaskGraph

/-! ### Rows side by side -/

section

variable {α β γ δ : Type} {related : α → β → Prop}

theorem forall₂_flatMap {also : γ → δ → Prop} {left : List α} {right : List β} {f : α → List γ}
    {g : β → List δ} (rows : List.Forall₂ related left right)
    (each : ∀ a ∈ left, ∀ b ∈ right, related a b → List.Forall₂ also (f a) (g b)) :
    List.Forall₂ also (left.flatMap f) (right.flatMap g) := by
  induction rows with
  | nil => exact .nil
  | cons head _ ih =>
      rw [List.flatMap_cons, List.flatMap_cons]
      refine List.rel_append (each _ List.mem_cons_self _ List.mem_cons_self head)
        (ih fun a inside b among => ?_)
      exact each a (List.mem_cons_of_mem _ inside) b (List.mem_cons_of_mem _ among)

/-- What holds of two items because of the rows before them holds of all items side by side. -/
theorem forall₂_of_splits {stronger : α → β → Prop} {left : List α} {right : List β}
    (rows : List.Forall₂ related left right)
    (each : ∀ before a later before' b later', left = before ++ a :: later →
      right = before' ++ b :: later' →
      List.Forall₂ related before before' → related a b → stronger a b) :
    List.Forall₂ stronger left right := by
  induction rows with
  | nil => exact .nil
  | @cons a b _ _ head rest ih =>
      refine .cons (each [] a _ [] b _ rfl rfl .nil head) (ih ?_)
      intro before c later before' d later' split split' earlier here
      exact each (a :: before) c later (b :: before') d later' (by rw [split, List.cons_append])
        (by rw [split', List.cons_append]) (.cons head earlier) here

theorem forall₂_transport {ofLeft : α → γ → Prop} {ofRight : β → δ → Prop} {carried : γ → δ → Prop}
    {left : List α} {right : List β} {leftImage : List γ} {rightImage : List δ}
    (rows : List.Forall₂ related left right) (lefts : List.Forall₂ ofLeft left leftImage)
    (rights : List.Forall₂ ofRight right rightImage)
    (each : ∀ a b c d, related a b → ofLeft a c → ofRight b d → carried c d) :
    List.Forall₂ carried leftImage rightImage := by
  induction rows generalizing leftImage rightImage with
  | nil =>
      cases lefts
      cases rights
      exact .nil
  | cons head _ ih =>
      cases lefts with
      | cons first others =>
          cases rights with
          | cons firstRight othersRight =>
              exact .cons (each _ _ _ _ head first firstRight) (ih others othersRight)

end

/-! ### Renumbering -/

theorem Fields.get?_map {α β : Type} (f : α → β) (key : String) (fields : Fields α) :
    get? key (fields.map fun field => (field.1, f field.2)) = (get? key fields).map f := by
  induction fields with
  | nil => rfl
  | cons field rest ih =>
      rw [List.map_cons, get?_cons, get?_cons, ih]
      split <;> rfl

theorem ListsNames.unique {names others : List String} {value : Option Value}
    (lists : ListsNames names value) (listsOthers : ListsNames others value) : names = others := by
  unfold ListsNames at lists listsOthers
  split at lists
  · exact lists.trans listsOthers.symm
  · exact lists.trans listsOthers.symm
  · exact List.map_injective_iff.mpr (fun _ _ same => Value.text.inj same)
      (lists.symm.trans listsOthers)
  · exact lists.elim

namespace Compiler

def Separates (renumber : Nat → Nat) (indexes : List Nat) : Prop :=
  ∀ i ∈ indexes, ∀ j ∈ indexes, renumber i = renumber j → i = j

theorem Separates.subset {renumber : Nat → Nat} {indexes others : List Nat}
    (apart : Separates renumber indexes) (subset : others ⊆ indexes) : Separates renumber others :=
  fun i inside j among => apart i (subset inside) j (subset among)

theorem eraseDups_map {renumber : Nat → Nat} : ∀ {indexes : List Nat}, Separates renumber indexes →
    (indexes.map renumber).eraseDups = indexes.eraseDups.map renumber
  | [], _ => rfl
  | index :: rest, apart => by
      have shorter := List.length_filter_le (fun other => !other == index) rest
      have later : (rest.map renumber).filter (fun other => !other == renumber index) =
          (rest.filter fun other => !other == index).map renumber := by
        rw [List.filter_map]
        congr 1
        apply List.filter_congr
        intro other member
        have same : renumber other = renumber index ↔ other = index :=
          ⟨apart other (List.mem_cons_of_mem _ member) index List.mem_cons_self,
            fun equal => by rw [equal]⟩
        by_cases here : other = index <;> simp [same, here]
      have inside : (rest.filter fun other => !other == index) ⊆ index :: rest :=
        fun other member => List.mem_cons_of_mem _ (List.mem_of_mem_filter member)
      rw [List.map_cons, List.eraseDups_cons, List.eraseDups_cons, List.map_cons, later,
        eraseDups_map (apart.subset inside)]
termination_by indexes => indexes.length
decreasing_by
  simp only [List.length_cons]
  omega

theorem Waits.unique {parallel : Bool} {before : Fields Nat} {after : Option Value}
    {upstreams others : List Nat} (waits : Waits parallel before after upstreams)
    (waitsOthers : Waits parallel before after others) :
    upstreams = others := by
  cases parallel with
  | false => exact Eq.trans waits waitsOthers.symm
  | true =>
      obtain ⟨names, lists, _, same⟩ := waits
      obtain ⟨found, listsFound, _, sameOthers⟩ := waitsOthers
      rw [same, sameOthers, lists.unique listsFound]

/-- Who waits for renumbered siblings has renumbered upstreams. -/
theorem Waits.renumber {parallel : Bool} {before : Fields Nat} {after : Option Value}
    {upstreams : List Nat} {renumber : Nat → Nat} (apart : Separates renumber (before.map (·.2)))
    (waits : Waits parallel before after upstreams) :
    Waits parallel (before.map fun entry => (entry.1, renumber entry.2)) after
      (upstreams.map renumber) := by
  cases parallel with
  | false =>
      rw [Waits] at waits ⊢
      rw [waits, List.getLast?_map]
      cases before.getLast? <;> rfl
  | true =>
      obtain ⟨names, lists, known, same⟩ := waits
      have keys : Fields.keys (before.map fun entry => (entry.1, renumber entry.2)) =
          before.keys := by
        simp [Fields.keys, Function.comp_def]
      have found : names.filterMap (fun name => before.get? name) ⊆ before.map (·.2) := by
        intro index member
        obtain ⟨name, _, isIndex⟩ := List.mem_filterMap.mp member
        exact List.mem_map_of_mem (Fields.mem_of_get?_eq_some isIndex)
      refine ⟨names, lists, keys ▸ known, ?_⟩
      simp only [Fields.get?_map]
      rw [same, ← eraseDups_map (apart.subset found), List.map_filterMap]

/-! ### Spots -/

/-- Whether two spots are on alike sites, with the place and the
group of one renumbered in the other. -/
structure Beside (alike : Site → Site → Prop) (renumber : Nat → Nat)
    (spot other : Spot) : Prop where
  alike : alike spot.toSite other.toSite
  index : other.index = renumber spot.index
  group : other.group.map (·.index) = spot.group.map fun group => renumber group.index

structure Counterpart (alike : Site → Site → Prop) (renumber : Nat → Nat) (spot other : Spot) :
    Prop extends
    Beside alike renumber spot other where
  upstreams : other.upstreams = spot.upstreams.map renumber

section

variable {alike : Site → Site → Prop} {renumber : Nat → Nat} {spot other : Spot}

theorem Counterpart.parent_eq (both : Counterpart alike renumber spot other) {task facing : Task}
    (lowers : Lowers spot.node task) (lowersOther : Lowers other.node facing) :
    facing.parent = task.parent.map fun group => Int.ofNat (renumber group.toNat) := by
  have parent : facing.parent = other.group.map fun group => Int.ofNat group.index :=
    lowersOther.parent
  have group := congrArg (Option.map Int.ofNat) both.group
  rw [Option.map_map, Option.map_map] at group
  rw [parent, lowers.parent, Option.map_map]
  exact group

theorem Counterpart.imp {also : Site → Site → Prop}
    (implies : ∀ site other, alike site other → also site other)
    (both : Counterpart alike renumber spot other) : Counterpart also renumber spot other where
  alike := implies _ _ both.alike
  index := both.index
  group := both.group
  upstreams := both.upstreams

namespace Spot

theorem toSite_eq_child {child : Spot} (member : child ∈ spot.held) :
    child.toSite = spot.child child.name := by
  obtain ⟨key, _, same⟩ := List.mem_map.mp (toSite_mem_children member)
  have isKey : child.name = key := by rw [← same]; rfl
  rw [isKey, same]

theorem stored_of_mem_held {child : Spot} (member : child ∈ spot.held) : child.own.Stored := by
  have isChild : child.own = spot.own.below child.name := congrArg Site.own (toSite_eq_child member)
  exact isChild ▸ spot.own.stored_below _

theorem name_mem_subtaskKeys {child : Spot} (member : child ∈ spot.held) :
    child.name ∈ spot.own.subtaskKeys := by
  obtain ⟨key, declared, same⟩ := List.mem_map.mp (toSite_mem_children member)
  rw [← same]
  exact declared

/-- Subtasks that are alike are side by side if the renumbering
carries the end of each to the end of the other. -/
theorem beside_place {site facing : Site} {holder place' index index' : Nat}
    {links links' : List (List Nat)} {keys : List String}
    (each : ∀ key ∈ keys, alike (site.child key) (facing.child key))
    (held : place' = renumber holder) (start : index' = renumber index)
    (spans : ∀ child ∈ place site holder index links keys,
      renumber (child.index + (site.child child.name).preorder.length) =
        renumber child.index + (facing.child child.name).preorder.length) :
    List.Forall₂ (Beside alike renumber) (place site holder index links keys)
      (place facing place' index' links' keys) := by
  induction keys generalizing index index' links links' with
  | nil => exact .nil
  | cons key rest ih =>
      rw [place, List.forall_mem_cons] at spans
      obtain ⟨here, later⟩ := List.forall_mem_cons.mp each
      rw [place, place]
      refine .cons ⟨here, start, congrArg some held⟩ (ih later ?_ spans.2)
      rw [start]
      exact spans.1.symm

/-- Two subtasks that ask for the same siblings, in groups that run their subtasks in the same way,
have upstreams that differ by the renumbering of the siblings before them. -/
theorem upstreams_eq_map {child facing : Spot} {before later before' later' : List Spot}
    (stored : spot.own.Stored) (storedOther : other.own.Stored) (accepted : spot.Accepted)
    (acceptedOther : other.Accepted) (held : spot.held = before ++ child :: later)
    (heldOther : other.held = before' ++ facing :: later')
    (parallel : spot.options.get? "parallel" = other.options.get? "parallel")
    (after : child.options.get? "after" = facing.options.get? "after")
    (entries : (before'.map fun spot => (spot.name, spot.index)) =
      before.map fun spot => (spot.name, renumber spot.index))
    (apart : Separates renumber (before.map (·.index))) :
    facing.upstreams = child.upstreams.map renumber := by
  have inHeld : child ∈ spot.held := held ▸ List.mem_append_right _ List.mem_cons_self
  have inOther : facing ∈ other.held := heldOther ▸ List.mem_append_right _ List.mem_cons_self
  obtain ⟨truth, reads, rule⟩ := waits_held stored accepted (not_isTask_of_mem_held accepted inHeld)
  obtain ⟨truth', reads', rule'⟩ :=
    waits_held storedOther acceptedOther (not_isTask_of_mem_held acceptedOther inOther)
  rw [← parallel] at reads'
  have waits := rule before child later held
  have waits' := rule' before' facing later' heldOther
  rw [← reads.unique reads', ← after, entries] at waits'
  have apartBefore : Separates renumber
      ((before.map fun spot => (spot.name, spot.index)).map (·.2)) := by
    rw [List.map_map]
    exact apart
  have renumbered := waits.renumber apartBefore
  rw [List.map_map] at renumbered
  exact waits'.unique renumbered

end Spot

end

/-! ### Layouts -/

/-- A relation between the sites of two definitions that passes to their subtasks, which are the
same, and keeps the options that decide dependencies. -/
structure Agreement (alike : Site → Site → Prop) : Prop where
  name : ∀ {site other : Site}, alike site other → site.name = other.name
  subtasks : ∀ {site other : Site}, alike site other → site.own.subtaskKeys = other.own.subtaskKeys
  child : ∀ {site other : Site}, alike site other →
    ∀ key ∈ site.own.subtaskKeys, alike (site.child key) (other.child key)
  parallel : ∀ {site other : Site}, alike site other →
    site.options.get? "parallel" = other.options.get? "parallel"
  after : ∀ {site other : Site}, alike site other →
    site.options.get? "after" = other.options.get? "after"

namespace Agreement

variable {alike : Site → Site → Prop} (agreement : Agreement alike)

include agreement

theorem children {site other : Site} (both : alike site other) :
    List.Forall₂ alike site.children other.children := by
  rw [Site.children, Site.children, ← agreement.subtasks both, List.forall₂_map_left_iff,
    List.forall₂_map_right_iff]
  exact List.forall₂_same.mpr (agreement.child both)

theorem preorder {site other : Site} (both : alike site other) :
    List.Forall₂ alike site.preorder other.preorder := by
  induction site using Site.induction generalizing other with
  | step site ih =>
      rw [Site.preorder_eq, Site.preorder_eq]
      exact .cons both (forall₂_flatMap (agreement.children both) fun child member _ _ here =>
        ih child member here)

/-- Spots side by side have layouts side by side if the renumbering
moves all indexes of the one by the same distance. -/
theorem layout {renumber : Nat → Nat} {spot other : Spot}
    (both : Counterpart alike renumber spot other) (stored : spot.own.Stored)
    (storedOther : other.own.Stored) (accepted : ∀ site ∈ spot.toSite.preorder, site.Accepted)
    (acceptedOther : ∀ site ∈ other.toSite.preorder, site.Accepted) {less more : Nat}
    (moves : ∀ i, spot.index ≤ i → i ≤ spot.index + spot.layout.length →
      renumber i + less = i + more) :
    List.Forall₂ (Counterpart alike renumber) spot.layout other.layout := by
  induction spot using Spot.induction generalizing other with
  | step spot ih =>
      obtain ⟨here, below⟩ := (Site.forall_mem_preorder_iff _ _).mp accepted
      obtain ⟨hereOther, belowOther⟩ := (Site.forall_mem_preorder_iff _ _).mp acceptedOther
      have ends : ∀ child ∈ spot.held, spot.index ≤ child.index ∧
          child.index + child.layout.length ≤ spot.index + spot.layout.length := fun child member =>
        ⟨Nat.le_of_lt (Spot.index_lt_of_mem_held member),
          Spot.layout_end_le ((Spot.held_sublist spot).subset member)⟩
      have rows : List.Forall₂ (Beside alike renumber) spot.held other.held := by
        have positive : 0 < spot.layout.length := List.length_pos_of_mem (Spot.mem_layout_self spot)
        have first := moves spot.index (Nat.le_refl _) (by omega)
        have second := moves (spot.index + 1) (by omega) (by omega)
        have index := both.index
        rw [Spot.held, Spot.held, ← agreement.subtasks both.alike]
        refine Spot.beside_place (agreement.child both.alike) index (by omega) fun child member =>
          ?_
        have within := ends child member
        have declared := Spot.name_mem_subtaskKeys member
        have size := (agreement.preorder (agreement.child both.alike child.name declared)).length_eq
        rw [Spot.length_layout, Spot.toSite_eq_child member] at within
        have start := moves child.index within.1 (by omega)
        have stop := moves (child.index + (spot.child child.name).preorder.length)
          (by omega) within.2
        omega
      have counterparts : List.Forall₂ (Counterpart alike renumber) spot.held other.held := by
        refine forall₂_of_splits rows ?_
        intro before child later before' facing later' held heldOther earlier beside
        have inside : ∀ sibling ∈ before, sibling ∈ spot.held := fun sibling member =>
          held ▸ List.mem_append_left _ member
        refine ⟨beside, Spot.upstreams_eq_map stored storedOther here hereOther held heldOther
          (agreement.parallel both.alike) (agreement.after beside.alike) ?_ ?_⟩
        · exact (map_eq_map_of_forall₂ earlier fun a b same =>
            Prod.ext (agreement.name same.alike) same.index.symm).symm
        · intro i memberI j memberJ same
          obtain ⟨left, amongLeft, rfl⟩ := List.mem_map.mp memberI
          obtain ⟨right, amongRight, rfl⟩ := List.mem_map.mp memberJ
          have endsLeft := ends left (inside left amongLeft)
          have endsRight := ends right (inside right amongRight)
          have movedLeft := moves left.index endsLeft.1 (by omega)
          have movedRight := moves right.index endsRight.1 (by omega)
          omega
      rw [Spot.layout_eq, Spot.layout_eq]
      refine .cons both (forall₂_flatMap counterparts fun child member facing memberOther beside =>
        ?_)
      refine ih child member beside (Spot.stored_of_mem_held member)
        (Spot.stored_of_mem_held memberOther) (below _ (Spot.toSite_mem_children member))
        (belowOther _ (Spot.toSite_mem_children memberOther))
        fun i after before => ?_
      have within := ends child member
      exact moves i (by omega) (by omega)

end Agreement

end Compiler
end TaskGraph
