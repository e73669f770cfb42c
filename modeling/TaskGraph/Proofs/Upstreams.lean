import Mathlib.Data.List.Nodup
import TaskGraph.Compiler.Node
import TaskGraph.Proofs.OptionReading
set_option autoImplicit false

/-! The upstreams that a group gives to its children, as a rule about each child and the siblings
before it: a group that runs its children one by one lets each wait for the last sibling before it,
a parallel group lets each wait for the siblings it names, in the order of first mention and each
once. A group gives upstreams exactly if its own options allow the rule and every child obeys it. -/

namespace TaskGraph.Compiler

/-! ### Lists without repetition -/

theorem eraseDups_filter {α : Type} [BEq α] [LawfulBEq α] (keep : α → Bool) (items : List α) :
    (items.filter keep).eraseDups = items.eraseDups.filter keep := by
  cases items with
  | nil => rfl
  | cons item rest =>
      have shorter := List.length_filter_le (fun other => !other == item) rest
      have inner := eraseDups_filter keep (rest.filter fun other => !other == item)
      rw [List.eraseDups_cons, List.filter_cons, List.filter_cons]
      by_cases kept : keep item = true
      · rw [if_pos kept, if_pos kept, List.eraseDups_cons, ← inner]
        simp only [List.filter_filter, Bool.and_comm]
      · have same : (rest.filter fun other => !other == item).filter keep = rest.filter keep := by
          rw [List.filter_filter]
          apply List.filter_congr
          intro other _
          by_cases here : other = item
          · simp [here, kept]
          · simp [here]
        rw [if_neg kept, if_neg kept, ← inner, same]
termination_by items.length
decreasing_by
  simp only [List.length_cons]
  omega

theorem nodup_eraseDups (items : List Nat) : items.eraseDups.Nodup := by
  cases items with
  | nil => exact List.nodup_nil
  | cons item rest =>
      have shorter := List.length_filter_le (fun other => !other == item) rest
      rw [List.eraseDups_cons, List.nodup_cons]
      refine ⟨fun member => ?_, nodup_eraseDups _⟩
      simp at member
termination_by items.length
decreasing_by
  simp only [List.length_cons]
  omega

/-! ### Reading the names of siblings -/

theorem namesOf_texts (names : List String) : Config.namesOf (names.map .text) = .ok names := by
  induction names with
  | nil => rfl
  | cons name rest ih =>
      rw [Config.namesOf] at ih ⊢
      rw [List.map_cons, List.mapM_cons, ih]
      rfl

/-- An item that gives the name of a subtask is a text: a number gives digits. -/
theorem eq_text_of_nameOf? {item : Value} {name : String} (given : Config.nameOf? item = some name)
    (isSubtask : isSubtaskKey name = true) : item = .text name := by
  unfold Config.nameOf? at given
  split at given
  · rw [Option.some.injEq] at given
    rw [given]
  · split at given
    · rw [Option.some.injEq] at given
      rw [← given, isSubtaskKey_toString] at isSubtask
      cases isSubtask
    · cases given
  · cases given

theorem eq_texts_of_namesOf {items : List Value} {names : List String}
    (read : Config.namesOf items = .ok names)
    (subtasks : ∀ name ∈ names, isSubtaskKey name = true) :
    items = names.map .text := by
  induction items generalizing names with
  | nil =>
      cases read
      rfl
  | cons item rest ih =>
      rw [Config.namesOf, List.mapM_cons, ← Config.namesOf] at read
      cases given : Config.nameOf? item with
      | none =>
          rw [given] at read
          cases read
      | some name =>
          cases others : Config.namesOf rest with
          | error found =>
              rw [given, others] at read
              cases read
          | ok found =>
              rw [given, others] at read
              cases read
              obtain ⟨isSubtask, laterSubtasks⟩ := List.forall_mem_cons.mp subtasks
              rw [eq_text_of_nameOf? given isSubtask, ih others laterSubtasks, List.map_cons]

theorem names_eq_ok_iff (config : Config) (key : String) (names : List String)
    (subtasks : ∀ name ∈ names, isSubtaskKey name = true) :
    config.names key = .ok names ↔ ListsNames names (config.get? key) := by
  unfold Config.names ListsNames
  cases config.get? key with
  | none => simp [eq_comm]
  | some value =>
      cases value with
      | null => simp [eq_comm]
      | list items =>
          constructor
          · intro read
            cases given : Config.namesOf items with
            | error item =>
                simp only [given] at read
                cases read
            | ok found =>
                simp only [given, Except.ok.injEq] at read
                rw [read] at given
                exact eq_texts_of_namesOf given subtasks
          · intro texts
            simp only [texts, namesOf_texts]
      | _ => simp

/-! ### The rule for one child -/

/-- The upstreams of a child, given the names and indexes of the siblings before it and its own
option `after`. -/
def Waits (parallel : Bool) (before : Fields Nat) (after : Option Value)
    (upstreams : List Nat) : Prop :=
  match parallel with
  | false => upstreams = (before.getLast?.map (·.2)).toList
  | true => ∃ names, ListsNames names after ∧ (∀ name ∈ names, name ∈ before.keys) ∧
      upstreams = (names.filterMap fun name => before.get? name).eraseDups

theorem siblingIndexes_eq_ok_iff (before : Fields Nat) (config : Config) (names : List String)
    (upstreams : List Nat) :
    siblingIndexes before config names = .ok upstreams ↔
      (∀ name ∈ names, name ∈ before.keys) ∧
        upstreams = (names.filterMap fun name => before.get? name).eraseDups := by
  induction names generalizing upstreams with
  | nil => simp [siblingIndexes, eq_comm]
  | cons name rest ih =>
      unfold siblingIndexes
      cases found : before.get? name with
      | none =>
          have unknown := (Fields.get?_eq_none_iff name before).mp found
          simp [unknown]
      | some index =>
          have known : name ∈ before.keys :=
            (Fields.get?_ne_none_iff name before).mp (by simp [found])
          have once (others : List Nat) :
              index :: others.eraseDups.filter (· ≠ index) = (index :: others).eraseDups := by
            rw [List.eraseDups_cons, eraseDups_filter]
            congr 2
            funext other
            by_cases same : other = index <;> simp [same]
          simp only [List.filterMap_cons, found, List.forall_mem_cons, known, true_and]
          cases inner : siblingIndexes before config rest with
          | error cause =>
              have stuck : ¬∀ name ∈ rest, name ∈ before.keys := fun all => by
                have done := (ih _).mpr ⟨all, rfl⟩
                rw [inner] at done
                cases done
              simp [Except.map, stuck]
          | ok others =>
              obtain ⟨all, same⟩ := (ih others).mp inner
              simp only [Except.map, Except.ok.injEq, same, once]
              exact ⟨fun equal => ⟨all, equal.symm⟩, fun both => both.2.symm⟩

theorem child_names_iff {before : Fields Nat}
    (subtasks : ∀ name ∈ before.keys, isSubtaskKey name = true) (config : Config)
    (upstreams : List Nat) :
    (∃ names, config.names "after" = .ok names ∧
        siblingIndexes before config names = .ok upstreams) ↔
      Waits true before (config.get? "after") upstreams := by
  simp only [Waits, siblingIndexes_eq_ok_iff]
  constructor
  · rintro ⟨names, read, known, same⟩
    have listed := (names_eq_ok_iff config "after" names fun name member =>
      subtasks name (known name member)).mp read
    exact ⟨names, listed, known, same⟩
  · rintro ⟨names, listed, known, same⟩
    have read := (names_eq_ok_iff config "after" names fun name member =>
      subtasks name (known name member)).mpr listed
    exact ⟨names, read, known, same⟩

theorem Waits.mem_before {parallel : Bool} {before : Fields Nat} {after : Option Value}
    {upstreams : List Nat} (waits : Waits parallel before after upstreams) {upstream : Nat}
    (member : upstream ∈ upstreams) :
    upstream ∈ before.map (·.2) := by
  cases parallel with
  | false =>
      rw [Waits] at waits
      rw [waits, Option.mem_toList, Option.map_eq_some_iff] at member
      obtain ⟨last, isLast, same⟩ := member
      exact List.mem_map.mpr ⟨last, List.mem_of_getLast? isLast, same⟩
  | true =>
      obtain ⟨names, _, _, same⟩ := waits
      rw [same, List.mem_eraseDups, List.mem_filterMap] at member
      obtain ⟨name, _, found⟩ := member
      exact List.mem_map.mpr ⟨(name, upstream), Fields.mem_of_get?_eq_some found, rfl⟩

theorem Waits.nodup {parallel : Bool} {before : Fields Nat} {after : Option Value}
    {upstreams : List Nat} (waits : Waits parallel before after upstreams) : upstreams.Nodup := by
  cases parallel with
  | false =>
      rw [Waits] at waits
      rw [waits]
      cases before.getLast? with
      | none => exact List.nodup_nil
      | some last => exact List.nodup_singleton _
  | true =>
      obtain ⟨names, _, _, same⟩ := waits
      rw [same]
      exact nodup_eraseDups _

/-! ### The rule for all children of a group -/

def Node.entry (node : Node) : String × Nat := (node.name, node.index)

inductive Linked (parallel : Bool) : Fields Nat → List Node → List (List Nat) → Prop
  | nil (before : Fields Nat) : Linked parallel before [] []
  | cons {before : Fields Nat} {child : Node} {rest : List Node} {upstreams : List Nat}
      {others : List (List Nat)} :
      Waits parallel before (child.config.get? "after") upstreams →
        Linked parallel (before ++ [child.entry]) rest others →
          Linked parallel before (child :: rest) (upstreams :: others)

theorem Linked.length_eq {parallel : Bool} {before : Fields Nat} {children : List Node}
    {links : List (List Nat)} (linked : Linked parallel before children links) :
    links.length = children.length := by
  induction linked with
  | nil => rfl
  | cons _ _ ih => rw [List.length_cons, List.length_cons, ih]

theorem put_eq_append {before : Fields Nat} {key : String} (fresh : key ∉ before.keys)
    (index : Nat) :
    before.put key index = before ++ [(key, index)] := by
  induction before with
  | nil => rfl
  | cons field rest ih =>
      rw [Fields.keys_cons, List.mem_cons, not_or] at fresh
      rw [Fields.put, if_neg (Ne.symm fresh.1), ih fresh.2, List.cons_append]

/-- One child at a time: its names are read, then looked up,
and its later siblings may name it too. -/
theorem namedUpstreams_cons_eq_ok_iff (before : Fields Nat) (child : Node) (rest : List Node)
    (links : List (List Nat)) :
    namedUpstreams before (child :: rest) = .ok links ↔
      ∃ upstreams others,
        (∃ names, child.config.names "after" = .ok names ∧
          siblingIndexes before child.config names = .ok upstreams) ∧
        namedUpstreams (before.put child.name child.index) rest = .ok others ∧
          links = upstreams :: others := by
  rw [namedUpstreams.eq_2]
  constructor
  · intro found
    cases read : child.config.names "after" with
    | error cause =>
        simp only [read] at found
        cases found
    | ok names =>
        cases resolved : siblingIndexes before child.config names with
        | error cause =>
            simp only [read, resolved] at found
            cases found
        | ok upstreams =>
            cases after : namedUpstreams (before.put child.name child.index) rest with
            | error cause =>
                simp only [read, resolved, after] at found
                cases found
            | ok others =>
                simp only [read, resolved, after] at found
                cases found
                exact ⟨upstreams, others, ⟨names, rfl, resolved⟩, rfl, rfl⟩
  · rintro ⟨upstreams, others, ⟨names, read, resolved⟩, after, same⟩
    simp only [read, resolved, after, same]
    rfl

theorem namedUpstreams_eq_ok_iff {before : Fields Nat} {children : List Node}
    (distinct : (before.keys ++ children.map (·.name)).Nodup)
    (subtasks : ∀ name ∈ before.keys ++ children.map (·.name), isSubtaskKey name = true)
    (links : List (List Nat)) :
    namedUpstreams before children = .ok links ↔ Linked true before children links := by
  induction children generalizing before links with
  | nil =>
      constructor
      · intro found
        cases found
        exact .nil before
      · intro linked
        cases linked
        rfl
  | cons child rest ih =>
      have fresh : child.name ∉ before.keys := fun present =>
        (List.nodup_append.mp distinct).2.2 _ present _ List.mem_cons_self rfl
      -- A child that was linked moves to the names that its later siblings may use.
      have shifted : (before ++ [child.entry]).keys ++ rest.map (·.name) =
          before.keys ++ (child :: rest).map (·.name) := by
        simp [Node.entry]
      have inner : ∀ links, namedUpstreams (before ++ [child.entry]) rest = .ok links ↔
          Linked true (before ++ [child.entry]) rest links :=
            ih (shifted ▸ distinct) (shifted ▸ subtasks)
      have known : ∀ name ∈ before.keys, isSubtaskKey name = true :=
        fun name member => subtasks name (List.mem_append_left _ member)
      rw [namedUpstreams_cons_eq_ok_iff, put_eq_append fresh, ← Node.entry]
      simp only [child_names_iff known, inner]
      constructor
      · rintro ⟨upstreams, others, waits, linkedRest, same⟩
        rw [same]
        exact .cons waits linkedRest
      · intro linked
        cases linked with
        | cons waits linkedRest => exact ⟨_, _, waits, linkedRest, rfl⟩

theorem linked_false_iff (before : Fields Nat) (children : List Node) (links : List (List Nat)) :
    Linked false before children links ↔
      links = chainedUpstreams (before.getLast?.map (·.2)).toList children := by
  induction children generalizing before links with
  | nil =>
      constructor
      · intro linked
        cases linked
        rfl
      · intro same
        rw [same]
        exact .nil before
  | cons child rest ih =>
      have last : ((before ++ [child.entry]).getLast?.map (·.2)).toList = [child.index] := by
        simp [Node.entry]
      rw [chainedUpstreams, ← last]
      constructor
      · intro linked
        cases linked with
        | cons waits linkedRest =>
            rw [Waits] at waits
            rw [waits, (ih _ _).mp linkedRest]
      · intro same
        rw [same]
        exact .cons rfl ((ih _ _).mpr rfl)

/-- A group gives upstreams to its children exactly if its `parallel` reads as a truth value, it has
no `after` of its own unless it runs them in parallel, and every child obeys the rule. -/
theorem upstreamsOf_eq_ok_iff (group : Config) {children : List Node}
    (distinct : (children.map (·.name)).Nodup)
    (subtasks : ∀ child ∈ children, isSubtaskKey child.name = true) (links : List (List Nat)) :
    upstreamsOf group children = .ok links ↔
      ∃ parallel, ReadsAs parallel (group.get? "parallel") ∧
        (parallel = false → group.get? "after" = none) ∧ Linked parallel [] children links := by
  have absent : group.has "after" = false ↔ group.get? "after" = none := by
    rw [Config.get?, Fields.get?_eq_none_iff, Config.has, ← Fields.has_eq_true_iff,
      Bool.not_eq_true]
  have named : namedUpstreams [] children = .ok links ↔ Linked true [] children links :=
    namedUpstreams_eq_ok_iff (by simpa using distinct) (by simpa using subtasks) links
  unfold upstreamsOf
  constructor
  · intro found
    cases read : group.bool "parallel" false with
    | error cause =>
        simp only [read] at found
        cases found
    | ok parallel =>
        have reads := (Config.bool_eq_ok_iff group "parallel" parallel).mp read
        refine ⟨parallel, reads, ?_⟩
        cases parallel with
        | true =>
            simp only [read] at found
            exact ⟨fun impossible => (Bool.noConfusion impossible), named.mp found⟩
        | false =>
            simp only [read] at found
            split at found
            · cases found
            · rename_i missing
              cases found
              exact ⟨fun _ => absent.mp (by simpa using missing), (linked_false_iff _ _ _).mpr rfl⟩
  · rintro ⟨parallel, reads, alone, linked⟩
    have read := (Config.bool_eq_ok_iff group "parallel" parallel).mpr reads
    cases parallel with
    | true =>
        simp only [read]
        exact named.mpr linked
    | false =>
        simp only [read, absent.mpr (alone rfl), (linked_false_iff _ _ _).mp linked]
        rfl

/-- The name of a child and its own option `after`, which is all that the rule reads of it. -/
def Node.request (node : Node) : String × Option Value := (node.name, node.config.get? "after")

/-- Children that name only siblings before them can be linked in parallel, and only those. -/
theorem exists_linked_true_iff (before : Fields Nat) (children : List Node) :
    (∃ links, Linked true before children links) ↔
      ∀ earlier name after later, children.map Node.request = earlier ++ (name, after) :: later →
        DependsOn (before.keys ++ earlier.map (·.1)) after := by
  induction children generalizing before with
  | nil =>
      refine iff_of_true ⟨[], .nil before⟩ fun earlier name after later shape => ?_
      cases earlier <;> cases shape
  | cons child rest ih =>
      have inner := ih (before ++ [child.entry])
      have known : (before ++ [child.entry]).keys = before.keys ++ [child.name] := by
        rw [Fields.keys_append]
        rfl
      constructor
      · rintro ⟨_, linked⟩ earlier name after later shape
        cases linked with
        | cons waits linkedRest =>
            cases earlier with
            | nil =>
                cases shape
                obtain ⟨names, listed, all, _⟩ := waits
                exact ⟨names, listed, by simpa using all⟩
            | cons head tail =>
                rw [List.map_cons, List.cons_append, List.cons.injEq] at shape
                have deeper := inner.mp ⟨_, linkedRest⟩ tail name after later shape.2
                rw [known, List.append_assoc, List.singleton_append] at deeper
                rw [List.map_cons, ← shape.1]
                exact deeper
      · intro obeys
        obtain ⟨names, listed, all⟩ := obeys [] child.name _ (rest.map Node.request) rfl
        obtain ⟨others, linked⟩ := inner.mpr fun earlier name after later shape => by
          have deeper := obeys (child.request :: earlier) name after later
            (by rw [List.map_cons, shape, List.cons_append])
          rw [known, List.append_assoc, List.singleton_append]
          exact deeper
        exact ⟨_, .cons ⟨names, listed, by simpa using all, rfl⟩ linked⟩

theorem exists_linked_false (before : Fields Nat) (children : List Node) :
    ∃ links, Linked false before children links :=
  ⟨_, (linked_false_iff before children _).mpr rfl⟩

end TaskGraph.Compiler
