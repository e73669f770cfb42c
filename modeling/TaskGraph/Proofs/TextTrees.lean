import TaskGraph.Proofs.BuiltConfigs
set_option autoImplicit false

/-! Configurations as trees of mappings with text keys. Storing a value makes one of every mapping
and configuration in it, but takes the members of tuples and sets as they are. So what operations
build is such a tree up to its tuples and sets, and the contents of these come unchanged from the
values that the operations were given. -/

namespace TaskGraph

namespace Value

/-- A value without configurations in which every mapping has
texts as keys, also within tuples and sets. -/
inductive IsTextTree : Value → Prop
  | null : IsTextTree null
  | bool (truth : Bool) : IsTextTree (bool truth)
  | int (number : Int) : IsTextTree (int number)
  | float (number : Binary64) : IsTextTree (float number)
  | text (content : String) : IsTextTree (text content)
  | bytes (content : List UInt8) : IsTextTree (bytes content)
  | date (day : Date) : IsTextTree (date day)
  | moment (time : DateTime) : IsTextTree (moment time)
  | list {items : List Value} : (∀ item ∈ items, IsTextTree item) → IsTextTree (list items)
  | tuple {items : List Value} : (∀ item ∈ items, IsTextTree item) → IsTextTree (tuple items)
  | set {members : List Value} : (∀ member ∈ members, IsTextTree member) → IsTextTree (set members)
  | mapping {entries : List (Value × Value)} : (∀ entry ∈ entries, ∃ name, entry.1 = .text name) →
      (∀ entry ∈ entries, IsTextTree entry.2) → IsTextTree (mapping entries)

/-- Whether a value has a tuple or a set in it, within lists,
mappings and configurations at most. -/
inductive Seals : Value → Value → Prop
  | tuple (items : List Value) : Seals (tuple items) (tuple items)
  | set (members : List Value) : Seals (set members) (set members)
  | inner {whole part held : Value} : part ∈ whole.parts → Seals part held → Seals whole held

theorem IsTextTree.part {whole part : Value} (tree : whole.IsTextTree)
    (member : part ∈ whole.parts) :
    part.IsTextTree := by
  cases tree with
  | list each => exact each part member
  | mapping _ each =>
      obtain ⟨entry, inside, rfl⟩ := List.mem_map.mp member
      exact each entry inside
  | _ => cases member

theorem IsTextTree.held {whole held : Value} (tree : whole.IsTextTree) (seals : whole.Seals held) :
    held.IsTextTree := by
  induction seals with
  | tuple items => exact tree
  | set members => exact tree
  | inner member _ ih => exact ih (tree.part member)

theorem IsTextTree.ofFields {fields : Fields Value} (each : ∀ field ∈ fields, field.2.IsTextTree) :
    (ofFields fields).IsTextTree :=
  .mapping (List.forall_mem_map.mpr fun field _ => ⟨field.1, rfl⟩) (List.forall_mem_map.mpr each)

/-- What is sealed in the stored form of a value is sealed in the value. -/
theorem Seals.of_normalise {value held : Value} (seals : value.normalise.Seals held) :
    value.Seals held := by
  generalize stored : value.normalise = form at seals
  induction seals generalizing value with
  | tuple items =>
      cases value with
      | tuple others =>
          cases stored
          exact .tuple items
      | _ => cases stored
  | set members =>
      cases value with
      | set others =>
          cases stored
          exact .set members
      | _ => cases stored
  | inner member _ ih =>
      rw [← stored] at member
      obtain ⟨part, inside, same⟩ := exists_of_mem_parts_normalise member
      exact .inner inside (ih same.symm)

theorem IsTextTree.ofWrites {parts : List Value} {writes : List (String × Value)}
    (each : ∀ part ∈ parts, part.normalise.IsTextTree)
    (stored : ∀ field ∈ writes, ∃ part ∈ parts, field.2 = part.normalise) :
    (Value.ofFields (Fields.ofWrites writes)).IsTextTree := by
  refine .ofFields fun field member => ?_
  obtain ⟨part, inside, same⟩ := stored field (Fields.mem_of_mem_ofWrites member)
  rw [same]
  exact each part inside

/-- The stored form of a value is a tree with text keys if all
that is sealed in the value is one. -/
theorem isTextTree_normalise (value : Value) (sealed : ∀ held, value.Seals held → held.IsTextTree) :
    value.normalise.IsTextTree := by
  induction value with
  | null => exact .null
  | bool truth => exact .bool truth
  | int number => exact .int number
  | float number => exact .float number
  | text content => exact .text content
  | bytes content => exact .bytes content
  | date day => exact .date day
  | moment time => exact .moment time
  | tuple items => exact sealed _ (.tuple items)
  | set members => exact sealed _ (.set members)
  | list items each =>
      rw [normalise, normaliseList_eq_map]
      exact .list (List.forall_mem_map.mpr fun item member =>
        each item member fun held seals => sealed held (.inner member seals))
  | mapping entries _ each =>
      have parts : ∀ part ∈ (mapping entries).parts, part.normalise.IsTextTree :=
        List.forall_mem_map.mpr fun entry member => each entry member fun held seals =>
          sealed held (.inner (List.mem_map_of_mem member) seals)
      exact .ofWrites parts fun _ => exists_of_mem_normaliseEntries
  | config fields frozen each =>
      have parts : ∀ part ∈ (config fields frozen).parts, part.normalise.IsTextTree :=
        List.forall_mem_map.mpr fun field member => each field member fun held seals =>
          sealed held (.inner (List.mem_map_of_mem member) seals)
      exact .ofWrites parts fun _ => exists_of_mem_normaliseFields

end Value

namespace Config

variable {given : Value → Prop}

theorem PartOf.exists_seals {part held : Value} (isPart : PartOf given part)
    (seals : part.Seals held) :
    ∃ value, given value ∧ value.Seals held := by
  induction isPart with
  | @given value isGiven => exact ⟨value, isGiven, seals⟩
  | inner _ member ih => exact ih (.inner member seals)

theorem Built.exists_seals {config : Config} (built : Built given config) {held : Value}
    (seals : config.toMapping.Seals held) : ∃ value, given value ∧ value.Seals held := by
  cases seals with
  | inner member seals =>
      rw [parts_toMapping] at member
      obtain ⟨field, inside, rfl⟩ := List.mem_map.mp member
      obtain ⟨part, isPart, same⟩ := built.storedPart field inside
      rw [same] at seals
      exact isPart.exists_seals seals.of_normalise

/-- A configuration that operations built is a tree with text keys exactly if all that is sealed in
it is one, and what is sealed in it is sealed in values that the operations were given; so it is
such a tree if all that is sealed in these is. -/
theorem isTextTree_of_built {config : Config} (built : Built given config) :
    (config.toMapping.IsTextTree ↔ ∀ held, config.toMapping.Seals held → held.IsTextTree) ∧
      (∀ held, config.toMapping.Seals held → ∃ value, given value ∧ value.Seals held) ∧
      ((∀ value, given value → ∀ held, value.Seals held → held.IsTextTree) →
        config.toMapping.IsTextTree) := by
  have stored : config.toMapping.normalise = config.toMapping :=
    Value.normalise_ofFields config.distinct built.stored
  have whole (sealed : ∀ held, config.toMapping.Seals held → held.IsTextTree) :
      config.toMapping.IsTextTree := by
    rw [← stored]
    exact config.toMapping.isTextTree_normalise sealed
  refine ⟨⟨fun tree held => tree.held, whole⟩, fun held => built.exists_seals,
    fun sealed => whole fun held seals => ?_⟩
  obtain ⟨value, isGiven, inside⟩ := built.exists_seals seals
  exact sealed value isGiven held inside

def pairs : Value :=
  .mapping [(.text "steps", .list [.tuple [.text "a", .mapping [(.int 1, .text "x")]]])]

theorem isTextTree_of_built_pairs :
    ∃ config, Built (· = pairs) config ∧ config.toMapping = pairs ∧
      (config.toMapping.IsTextTree ↔ ∀ held, config.toMapping.Seals held → held.IsTextTree) ∧
      ∀ held, config.toMapping.Seals held → pairs.Seals held := by
  have built : Built (· = pairs) _ := .new rfl rfl
  obtain ⟨trees, provenance, _⟩ := isTextTree_of_built built
  refine ⟨_, built, rfl, trees, fun held seals => ?_⟩
  obtain ⟨value, rfl, inside⟩ := provenance held seals
  exact inside

/-- A key that is no text and a configuration stay what they are within a tuple. -/
theorem not_isTextTree_of_tuples :
    (∃ config, ofValue pairs = .ok config ∧ ¬config.toMapping.IsTextTree) ∧
    ∃ config, ofValue (.mapping [(.text "a", .tuple [empty.toValue])]) = .ok config ∧
      ¬config.toMapping.IsTextTree := by
  refine ⟨⟨_, rfl, fun tree => ?_⟩, ⟨_, rfl, fun tree => ?_⟩⟩
  · have steps := (tree.part List.mem_cons_self).part List.mem_cons_self
    cases steps with
    | tuple each =>
        have inner := each _ (List.mem_cons_of_mem _ List.mem_cons_self)
        cases inner with
        | mapping named _ =>
            obtain ⟨name, same⟩ := named _ List.mem_cons_self
            cases same
  · have wrapped := tree.part List.mem_cons_self
    cases wrapped with
    | tuple each =>
        have inner := each _ List.mem_cons_self
        cases inner

end Config
end TaskGraph
