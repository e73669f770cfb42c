import TaskGraph.Proofs.DistinctMembers
import TaskGraph.Proofs.WritableValues
import TaskGraph.Schema.Compiled
set_option autoImplicit false

/-! What the keywords of a schema tell of a value. A keyword has a condition of its own, and it
finds nothing in a value exactly if the condition holds; a schema is met if those of all its
keywords do. Where it finds something the way there can be shown, and the check goes on to its end
unless a number has too many digits to be shown. -/

namespace TaskGraph

namespace Value

/-! ### Keys that are texts -/

theorem same_text_iff {name : String} {key : Value} :
    same key (text name) = true ↔ key = text name := by
  constructor
  · intro equal
    cases key with
    | text content => exact congrArg text (beq_iff_eq.mp equal)
    | bool truth =>
        cases truth <;> cases equal
    | int number => cases equal
    | float number =>
        change sameNumber (float number) (text name) = true at equal
        unfold sameNumber at equal
        cases whole : (float number).wholeNumber? <;> rw [whole] at equal <;> cases equal
    | _ => cases equal
  · intro equal
    rw [equal]
    exact beq_self_eq_true name

theorem isSome_lookup?_text {name : String} {entries : List (Value × Value)} :
    (lookup? (text name) entries).isSome = true ↔ text name ∈ entries.map Prod.fst := by
  rw [lookup?, Option.isSome_map, List.find?_isSome, List.mem_map]
  constructor
  · rintro ⟨entry, member, equal⟩
    exact ⟨entry, member, same_text_iff.mp equal⟩
  · rintro ⟨entry, member, equal⟩
    exact ⟨entry, member, same_text_iff.mpr equal⟩

theorem isSome_lookup?_entriesOf {key : Value} {members : List (String × Value)} :
    (lookup? key (entriesOf members)).isSome = true ↔ ∃ name ∈ members.map Prod.fst,
      key = text name := by
  have equal (name : String) : same (text name) key = true ↔ key = text name := by
    cases key with
    | text content =>
        exact beq_iff_eq.trans ⟨fun same => congrArg text same.symm,
          fun same => (text.inj same).symm⟩
    | _ =>
        constructor <;> intro impossible <;> cases impossible
  rw [lookup?, Option.isSome_map, List.find?_isSome]
  constructor
  · rintro ⟨entry, member, found⟩
    obtain ⟨field, inside, isField⟩ := List.mem_map.mp member
    rw [← isField] at found
    exact ⟨field.1, List.mem_map_of_mem inside, (equal field.1).mp found⟩
  · rintro ⟨name, member, isName⟩
    obtain ⟨field, inside, same⟩ := List.mem_map.mp member
    exact ⟨(text field.1, field.2), List.mem_map_of_mem inside, (equal field.1).mpr (same ▸ isName)⟩

theorem isWritable_of_lookup? {key value : Value} {entries : List (Value × Value)}
    (found : lookup? key entries = some value) (writable : (mapping entries).isWritable = true) :
    value.isWritable = true := by
  obtain ⟨entry, member, same⟩ := Option.map_eq_some_iff.mp found
  rw [← same]
  exact ((areEntriesWritable_iff entries).mp writable entry (List.mem_of_find?_eq_some member)).2

end Value

namespace Schema

/-! ### Outcomes that tell whether something holds -/

/-- Whether an outcome tells if something holds of a value: nothing was found exactly if it does,
the ways to all that was found can be shown, and only where the value cannot be shown does the check
break off. -/
structure Outcome.Tells (value : Value) (holds : Prop) (outcome : Outcome) : Prop where
  clean_iff : outcome = .clean ↔ holds
  shown : ∀ violation ∈ outcome.violations, ∀ step ∈ violation.path, ∃ content,
    step.text = .ok content
  unreadable : ∀ fault, outcome.fault = some fault → fault = .unreadable ∧ value.isWritable = false

namespace Outcome

theorem eq_clean {outcome : Outcome} (noViolation : outcome.violations = [])
    (noFault : outcome.fault = none) :
    outcome = .clean := by
  obtain ⟨violations, fault⟩ := outcome
  cases noViolation
  cases noFault
  rfl

namespace Tells

variable {value : Value} {holds others : Prop}

theorem congr {outcome : Outcome} (tells : Tells value holds outcome) (same : holds ↔ others) :
    Tells value others outcome :=
  ⟨tells.clean_iff.trans same, tells.shown, tells.unreadable⟩

theorem clean (met : holds) : Tells value holds .clean where
  clean_iff := iff_of_true rfl met
  shown := fun _ member => by cases member
  unreadable := fun _ impossible => by cases impossible

theorem say {shown : List Value} {message : String} (fails : ¬holds)
    (writes : value.isWritable = true → ∀ item ∈ shown, item.isWritable = true) :
    Tells value holds (.say shown message) := by
  unfold Outcome.say
  by_cases writable : shown.all Value.isWritable = true
  · rw [if_pos writable]
    refine ⟨iff_of_false (fun impossible => ?_) fails, fun violation member step inside => ?_,
      fun _ impossible => ?_⟩
    · cases impossible
    · rw [List.mem_singleton.mp member] at inside
      cases inside
    · cases impossible
  · rw [if_neg writable]
    refine ⟨iff_of_false (fun impossible => ?_) fails, fun violation member => ?_,
      fun fault isFault => ?_⟩
    · cases impossible
    · cases member
    · refine ⟨(Option.some.inj isFault).symm, Bool.eq_false_iff.mpr fun shows => ?_⟩
      exact writable (List.all_eq_true.mpr (writes shows))

theorem demand {met : Bool} {shown : List Value} {message : String} (same : met = true ↔ holds)
    (writes : value.isWritable = true → ∀ item ∈ shown, item.isWritable = true) :
    Tells value holds (.demand met shown message) := by
  cases met with
  | true => exact clean (same.mp rfl)
  | false => exact say (fun met => Bool.false_ne_true (same.mpr met)) writes

/-- A row of checks tells whether what each of them tells holds. -/
theorem cons {α : Type} {brief : Bool} {check : α → Outcome} {item : α} {rest : List α}
    (first : Tells value holds (check item)) (later : Tells value others (each brief check rest)) :
    Tells value (holds ∧ others) (each brief check (item :: rest)) := by
  rw [each]
  -- A fault ends the row, and so does a violation where one is enough; else both parts count.
  cases broken : (check item).fault with
  | some fault =>
      have fails : ¬(holds ∧ others) := by
        rintro ⟨met, _⟩
        rw [first.clean_iff.mpr met] at broken
        cases broken
      have dirty : check item ≠ .clean := fun isClean => by
        rw [isClean] at broken
        cases broken
      exact ⟨iff_of_false dirty fails, first.shown, first.unreadable⟩
  | none =>
      by_cases enough : (brief && !(check item).violations.isEmpty) = true
      · rw [if_pos (by simp [enough])]
        have dirty : check item ≠ .clean := fun isClean => by
          rw [isClean, Bool.and_eq_true] at enough
          exact absurd enough.2 (by decide)
        exact ⟨iff_of_false dirty fun met => dirty (first.clean_iff.mpr met.1), first.shown,
          first.unreadable⟩
      · rw [if_neg (by simp [enough])]
        have joined : (check item).followedBy (each brief check rest) =
            ⟨(check item).violations ++ (each brief check rest).violations,
              (each brief check rest).fault⟩ := by
          unfold followedBy
          rw [broken]
        rw [joined]
        refine ⟨?_, fun violation member => ?_, later.unreadable⟩
        · rw [← first.clean_iff, ← later.clean_iff]
          constructor
          · intro isClean
            obtain ⟨here, there⟩ := List.append_eq_nil_iff.mp (congrArg Outcome.violations isClean)
            exact ⟨eq_clean here broken, eq_clean there (congrArg Outcome.fault isClean)⟩
          · rintro ⟨here, there⟩
            rw [here, there]
            rfl
        · rcases List.mem_append.mp member with here | there
          · exact first.shown violation here
          · exact later.shown violation there

theorem nil {α : Type} {brief : Bool} {check : α → Outcome} :
    Tells value True (each brief check []) := clean trivial

theorem each {α : Type} {brief : Bool} {check : α → Outcome} {items : List α} {condition : α → Prop}
    (tells : ∀ item ∈ items, Tells value (condition item) (check item)) :
    Tells value (∀ item ∈ items, condition item) (each brief check items) := by
  induction items with
  | nil => exact clean fun _ member => by cases member
  | cons item rest ih =>
      obtain ⟨first, later⟩ := List.forall_mem_cons.mp tells
      exact (cons first (ih later)).congr List.forall_mem_cons.symm

/-- What is found in a part of a value tells of the whole. -/
theorem within {part : Value} {outcome : Outcome} {step : Step} {content : String}
    (isShown : step.text = .ok content) (writes : value.isWritable = true → part.isWritable = true)
    (tells : Tells part holds outcome) :
    Tells value holds (outcome.within step) := by
  have moved : outcome.within step =
      { outcome with violations := outcome.violations.map (.within step) } := by
    unfold Outcome.within
    split
    · cases isShown
    · rfl
  rw [moved]
  refine ⟨?_, fun violation member later inside => ?_, fun fault isFault => ?_⟩
  · rw [← tells.clean_iff]
    constructor
    · intro isClean
      exact eq_clean (List.map_eq_nil_iff.mp (congrArg Outcome.violations isClean))
        (congrArg Outcome.fault isClean)
    · intro isClean
      rw [isClean]
      rfl
  · obtain ⟨inner, among, same⟩ := List.mem_map.mp member
    rw [← same] at inside
    rcases List.mem_cons.mp inside with isFirst | isLater
    · exact ⟨content, isFirst ▸ isShown⟩
    · exact tells.shown inner among later isLater
  · obtain ⟨isUnreadable, unwritable⟩ := tells.unreadable fault isFault
    refine ⟨isUnreadable, ?_⟩
    rw [Bool.eq_false_iff] at unwritable ⊢
    exact fun shows => unwritable (writes shows)

end Tells
end Outcome

open Outcome

/-! ### Schemas within schemas -/

/-- Whether a schema that is part of a root schema is met exactly by the values with a property, if
it may lead to others so often. -/
def Judges (root : Value) (steps : Nat) (schema : Value) (condition : Value → Prop) : Prop :=
  ∀ mode value, Tells value (condition value) (examineAt root steps mode schema value)

/-- Whether a schema, given by its keywords, has neither an address nor a dialect of its own. -/
def IsInner (members : List (String × Value)) : Prop :=
  keyword? "$id" (Value.entriesOf members) = none ∧
    keyword? "$schema" (Value.entriesOf members) = none

variable {root : Value} {steps : Nat} {mode : Mode}

/-- What a schema holds is looked at in the mode of the schema. -/
theorem part_eq_within {members : List (String × Value)} (inner : IsInner members)
    (step : Step) (value : Value) :
    (checkerIn (examineAt root steps) mode).part step (Value.ofFields members) value =
      (examineAt root steps mode (Value.ofFields members) value).within step := by
  obtain ⟨noId, noDialect⟩ := inner
  have entered : enter mode.base (Value.ofFields members) = .ok mode.base := by
    rw [enter, Value.ofFields, idOf, noId]
    rfl
  have plain : entryFault? (Value.ofFields members) = none := by
    rw [Value.ofFields, entryFault?, noDialect]
    rfl
  change ((checkerIn (examineAt root steps) mode).outcome (Value.ofFields members) value).within
    step = _
  unfold Checker.outcome checkerIn
  simp only [entered, Outcome.given, plain]

theorem tells_part {members : List (String × Value)} {condition : Value → Prop}
    (inner : IsInner members) (judges : Judges root steps (Value.ofFields members) condition)
    {step : Step} {content : String} (isShown : step.text = .ok content) {value part : Value}
    (writes : value.isWritable = true → part.isWritable = true) :
    Tells value (condition part)
      ((checkerIn (examineAt root steps) mode).part step (Value.ofFields members) part) := by
  rw [part_eq_within inner]
  exact (judges mode part).within isShown writes

/-- The keywords of a schema are looked at in their order. -/
theorem examineAt_ofFields (members : List (String × Value)) (value : Value) :
    examineAt root (steps + 1) mode (Value.ofFields members) value =
      .each mode.brief (fun (entry : Value × Value) => match entry.1 with
        | .text name =>
            keywordOutcome (contextIn (examineAt root steps) root steps mode
              (Value.ofFields members))
            (Value.entriesOf members) name entry.2 value
        | _ => .clean) (Value.entriesOf members) :=
  rfl

theorem judges_of_keywords {members : List (String × Value)} {condition : Value → Prop}
    (keywords : ∀ mode value, Tells value (condition value)
      (.each mode.brief (fun (entry : Value × Value) => match entry.1 with
        | .text name =>
            keywordOutcome (contextIn (examineAt root steps) root steps mode
              (Value.ofFields members))
            (Value.entriesOf members) name entry.2 value
        | _ => .clean) (Value.entriesOf members))) :
    Judges root (steps + 1) (Value.ofFields members) condition := by
  intro mode value
  rw [examineAt_ofFields]
  exact keywords mode value

section

variable {context : Context} {schema : List (Value × Value)} {value : Value}

/-! ### Types -/

theorem isOfSome_eq_ok {names : List String} {condition : String → Prop}
    (typed : ∀ name ∈ names, ∃ found, hasType? name value = some found ∧
      (found = true ↔ condition name)) :
    ∃ found, isOfSome value (names.map .text) = .ok found ∧
      (found = true ↔ ∃ name ∈ names, condition name) := by
  induction names with
  | nil => exact ⟨false, rfl, by simp⟩
  | cons name rest ih =>
      obtain ⟨⟨here, isHere, same⟩, later⟩ := List.forall_mem_cons.mp typed
      obtain ⟨found, isFound, others⟩ := ih later
      rw [List.map_cons, isOfSome, isOfType, isHere]
      cases here with
      | true => exact ⟨true, rfl, iff_of_true rfl ⟨name, List.mem_cons_self, same.mp rfl⟩⟩
      | false =>
          refine ⟨found, isFound, others.trans ?_⟩
          rw [List.exists_mem_cons_iff, or_iff_right fun met => Bool.false_ne_true (same.mpr met)]

theorem tells_types {wanted : Value} (names : List String) (condition : String → Prop)
    (given : typeNames? wanted = some (names.map .text))
    (typed : ∀ name ∈ names, ∃ found, hasType? name value = some found ∧
      (found = true ↔ condition name)) :
    Tells value (∃ name ∈ names, condition name)
      (keywordOutcome context schema "type" wanted value) := by
  obtain ⟨found, isFound, same⟩ := isOfSome_eq_ok typed
  change Tells value _ (typeKeyword wanted value)
  unfold typeKeyword
  rw [given, Outcome.taking, isFound, Outcome.given]
  refine .demand same fun writable item member => ?_
  rcases List.mem_cons.mp member with isValue | isName
  · exact isValue ▸ writable
  · obtain ⟨name, _, isText⟩ := List.mem_map.mp isName
    rw [← isText]
    rfl

theorem tells_type {name : String} {holds : Prop}
    (typed : ∃ found, hasType? name value = some found ∧ (found = true ↔ holds)) :
    Tells value holds (keywordOutcome context schema "type" (.text name) value) := by
  refine (tells_types [name] (fun _ => holds) rfl ?_).congr ?_
  · exact fun _ member => List.mem_singleton.mp member ▸ typed
  · exact ⟨fun ⟨_, _, met⟩ => met, fun met => ⟨name, List.mem_singleton_self name, met⟩⟩

theorem hasType?_object :
    ∃ found, hasType? "object" value = some found ∧
      (found = true ↔ ∃ entries, value = .mapping entries) := by
  cases value <;> exact ⟨_, rfl, by simp⟩

theorem hasType?_array :
    ∃ found, hasType? "array" value = some found ∧
      (found = true ↔ ∃ items, value = .list items) := by
  cases value <;> exact ⟨_, rfl, by simp⟩

theorem hasType?_string :
    ∃ found, hasType? "string" value = some found ∧
      (found = true ↔ ∃ content, value = .text content) := by
  cases value <;> exact ⟨_, rfl, by simp⟩

theorem hasType?_boolean :
    ∃ found, hasType? "boolean" value = some found ∧
      (found = true ↔ ∃ truth, value = .bool truth) := by
  cases value <;> exact ⟨_, rfl, by simp⟩

theorem hasType?_null :
    ∃ found, hasType? "null" value = some found ∧ (found = true ↔ value = .null) := by
  cases value <;> exact ⟨_, rfl, by simp⟩

theorem hasType?_integer :
    ∃ found, hasType? "integer" value = some found ∧
      (found = true ↔ ∃ number, Value.IsInteger number value) := by
  cases value with
  | float number =>
      refine ⟨_, rfl, Option.isSome_iff_exists.trans (exists_congr fun whole => ?_)⟩
      simp [Value.IsInteger]
  | _ => exact ⟨_, rfl, by simp [Value.IsInteger]⟩

/-! ### Numbers and sizes -/

theorem isWritable_zero : TaskGraph.isWritable 0 = true := by
  rw [TaskGraph.isWritable]
  generalize mostDigits = digits
  exact decide_eq_true (Nat.pow_pos (by decide))

theorem tells_minimum {limit : Int} (written : TaskGraph.isWritable limit = true) :
    Tells value (∀ number, numberOf? value = some number → number.lt (.exact (limit : Rat)) = false)
      (keywordOutcome context schema "minimum" (.int limit) value) := by
  change Tells value _ (boundKeyword _ _ (.int limit) value)
  unfold boundKeyword
  cases isNumber : numberOf? value with
  | none => exact .clean fun _ impossible => by cases impossible
  | some number =>
      refine .demand ?_ fun writable item member => ?_
      · rw [Bool.not_eq_true']
        exact ⟨fun inside _ same => Option.some.inj same ▸ inside, fun inside => inside number rfl⟩
      · rcases List.mem_cons.mp member with isValue | isLimit
        · exact isValue ▸ writable
        · rw [List.mem_singleton.mp isLimit]
          exact written

theorem tells_minLength {least : Int} :
    Tells value (∀ content, value = .text content → least ≤ content.length)
      (keywordOutcome context schema "minLength" (.int least) value) := by
  cases value with
  | text content =>
      change Tells _ _ (leastKeyword content.length _ (.int least) (.text content))
      refine .demand ?_ fun _ item member => ?_
      · rw [Bool.not_eq_true', Magnitude.lt, decide_eq_false_iff_not, Rat.not_lt]
        constructor
        · intro enough _ same
          rw [← Value.text.inj same]
          exact_mod_cast enough
        · intro enough
          exact_mod_cast enough content rfl
      · rw [List.mem_singleton.mp member]
        rfl
  | _ => exact .clean fun _ impossible => by cases impossible

theorem tells_enum {allowed : List Value} (written : ∀ item ∈ allowed, item.isWritable = true) :
    Tells value (∃ other ∈ allowed, Value.alike other value = true)
      (keywordOutcome context schema "enum" (.list allowed) value) := by
  change Tells value _ (enumKeyword (.list allowed) value)
  refine .demand List.any_eq_true fun writable item member => ?_
  rcases List.mem_cons.mp member with isValue | isAllowed
  · exact isValue ▸ writable
  · rw [List.mem_singleton.mp isAllowed]
    exact (Value.areWritable_iff allowed).mpr written

/-! ### Lists -/

theorem tells_uniqueItems :
    Tells value (∀ items, value = .list items → Value.areDistinct items = true)
      (keywordOutcome context schema "uniqueItems" (.bool true) value) := by
  cases value with
  | list items =>
      change Tells _ _ (uniqueKeyword (.bool true) items)
      refine .demand ?_ fun writable item member => ?_
      · exact ⟨fun distinct _ same => Value.list.inj same ▸ distinct,
          fun distinct => distinct items rfl⟩
      · exact List.mem_singleton.mp member ▸ writable
  | _ => exact .clean fun _ impossible => by cases impossible

theorem map_snd_itemsFrom (items : List Value) : (itemsFrom 0 items).map Prod.snd = items := by
  unfold itemsFrom
  rw [List.map_map, List.drop_zero]
  exact List.zipIdx_map_fst 0 items

/-- The items of a list are looked at one by one where no schema is for the first ones. -/
theorem tells_items {members : List (String × Value)} {condition : Value → Prop}
    (inner : IsInner members) (judges : Judges root steps (Value.ofFields members) condition)
    (all : keyword? "prefixItems" schema = none) {outer : Value} :
    Tells value (∀ items, value = .list items → ∀ item ∈ items, condition item)
      (keywordOutcome (contextIn (examineAt root steps) root steps mode outer) schema "items"
        (Value.ofFields members)
        value) := by
  cases value with
  | list items =>
      change Tells _ _ (itemsKeyword (checkerIn (examineAt root steps) mode) schema
        (Value.ofFields members) items)
      have first : ((keyword? "prefixItems" schema).getD (.list [])).count? = some 0 := by
        rw [all]
        rfl
      rw [itemsKeyword, first, Outcome.taking]
      have placed : (∀ item ∈ itemsFrom 0 items, condition item.2) ↔
          ∀ others, Value.list items = .list others → ∀ item ∈ others, condition item := by
        constructor
        · intro each others same item member
          rw [← Value.list.inj same, ← map_snd_itemsFrom items] at member
          obtain ⟨pair, inside, isItem⟩ := List.mem_map.mp member
          exact isItem ▸ each pair inside
        · intro each pair inside
          refine each items rfl pair.2 ?_
          rw [← map_snd_itemsFrom items]
          exact List.mem_map_of_mem inside
      split
      · rename_i short
        refine .clean (placed.mp ?_)
        rw [List.length_eq_zero_iff.mp (Nat.le_zero.mp short)]
        exact fun _ impossible => by cases impossible
      · refine Tells.congr (.each fun item member => tells_part inner judges rfl fun writable => ?_)
          placed
        refine (Value.areWritable_iff items).mp writable item.2 ?_
        rw [← map_snd_itemsFrom items]
        exact List.mem_map_of_mem member
  | _ => exact .clean fun _ impossible => by cases impossible

/-! ### Mappings -/

theorem tells_required (names : List String) :
    Tells value (∀ entries, value = .mapping entries → ∀ name ∈ names,
      .text name ∈ entries.map Prod.fst)
      (keywordOutcome context schema "required" (.list (names.map .text)) value) := by
  cases value with
  | mapping entries =>
      change Tells _ _ (requiredKeyword (.list (names.map .text)) entries)
      have present : (∀ key ∈ names.map Value.text, (Value.lookup? key entries).isSome = true) ↔
          ∀ others, Value.mapping entries = .mapping others → ∀ name ∈ names,
            .text name ∈ others.map Prod.fst := by
        rw [List.forall_mem_map]
        constructor
        · intro each others same name member
          rw [← Value.mapping.inj same]
          exact Value.isSome_lookup?_text.mp (each name member)
        · intro each name member
          exact Value.isSome_lookup?_text.mpr (each entries rfl name member)
      refine Tells.congr (.each fun key member => ?_) present
      obtain ⟨name, _, isText⟩ := List.mem_map.mp member
      rw [← isText]
      refine .demand Iff.rfl fun _ item shown => ?_
      rw [List.mem_singleton.mp shown]
      rfl
  | _ => exact .clean fun _ impossible => by cases impossible

theorem keepAll_eq_ok {α : Type} {test : α → Except Fault Bool} {kept : α → Bool} {items : List α}
    (each : ∀ item ∈ items, test item = .ok (kept item)) :
    keepAll test items = .ok (items.filter kept) := by
  induction items with
  | nil => rfl
  | cons item rest ih =>
      obtain ⟨first, later⟩ := List.forall_mem_cons.mp each
      rw [keepAll, first, ih later, List.filter_cons]
      cases kept item <;> rfl

theorem mem_sortByText {values : List Value} {item : Value} (member : item ∈ sortByText values) :
    item ∈ values := by
  have mem_insert (added : Value) (row : List Value) (inside : item ∈ insertByText added row) :
      item ∈ added :: row := by
    induction row with
    | nil => exact inside
    | cons first rest ih =>
        rw [insertByText] at inside
        split at inside
        · exact inside
        · rcases List.mem_cons.mp inside with isFirst | later
          · exact isFirst ▸ List.mem_cons_of_mem _ List.mem_cons_self
          · rcases List.mem_cons.mp (ih later) with isAdded | isOther
            · exact isAdded ▸ List.mem_cons_self
            · exact List.mem_cons_of_mem _ (List.mem_cons_of_mem _ isOther)
  induction values using List.reverseRecOn with
  | nil => exact member
  | append_singleton before last ih =>
      rw [sortByText, List.foldl_append] at member
      rcases List.mem_cons.mp (mem_insert last _ member) with isLast | earlier
      · exact List.mem_append_right _ (List.mem_singleton.mpr isLast)
      · exact List.mem_append_left _ (ih earlier)

theorem additional_eq_ok {members : List (String × Value)}
    (named : keyword? "properties" schema = some (Value.ofFields members))
    (noPattern : keyword? "patternProperties" schema = none) (entries : List (Value × Value)) :
    additional schema entries =
      .ok (entries.filter fun entry =>
        !(Value.lookup? entry.1 (Value.entriesOf members)).isSome) := by
  have shared : sharedPattern schema = .ok "" := by
    unfold sharedPattern
    rw [noPattern]
    rfl
  unfold additional
  rw [shared, named]
  refine keepAll_eq_ok fun entry _ => ?_
  unfold isAdditional
  cases found : Value.lookup? entry.1 (Value.entriesOf members) with
  | none => simp [Value.ofFields, isNamed, found]
  | some value => simp [Value.ofFields, isNamed, found]

theorem tells_noOthers {members : List (String × Value)}
    (named : keyword? "properties" schema = some (Value.ofFields members))
    (noPattern : keyword? "patternProperties" schema = none) :
    Tells value (∀ entries, value = .mapping entries → ∀ key ∈ entries.map Prod.fst,
        ∃ name ∈ members.map Prod.fst, key = .text name)
      (keywordOutcome context schema "additionalProperties" (.bool false) value) := by
  cases value with
  | mapping entries =>
      change Tells _ _ (additionalKeyword context.checker schema (.bool false) entries)
      rw [additionalKeyword, additional_eq_ok named noPattern, Outcome.given]
      have none_left : (entries.filter fun entry =>
            !(Value.lookup? entry.1 (Value.entriesOf members)).isSome) = [] ↔
          ∀ others, Value.mapping entries = .mapping others → ∀ key ∈ others.map Prod.fst,
            ∃ name ∈ members.map Prod.fst, key = .text name := by
        rw [List.filter_eq_nil_iff]
        constructor
        · intro each others same key member
          rw [← Value.mapping.inj same] at member
          obtain ⟨entry, inside, isKey⟩ := List.mem_map.mp member
          have found := each entry inside
          rw [Bool.not_eq_true', Bool.not_eq_false] at found
          exact isKey ▸ Value.isSome_lookup?_entriesOf.mp found
        · intro each entry inside
          rw [Bool.not_eq_true', Bool.not_eq_false]
          exact Value.isSome_lookup?_entriesOf.mpr
            (each entries rfl entry.1 (List.mem_map_of_mem inside))
      generalize extras : (entries.filter fun entry =>
        !(Value.lookup? entry.1 (Value.entriesOf members)).isSome) = left at none_left ⊢
      dsimp only
      split
      · rename_i isNone
        exact .clean (none_left.mp (List.isEmpty_iff.mp isNone))
      · rename_i isSome
        rw [noPattern]
        refine .say (fun holds => isSome (List.isEmpty_iff.mpr (none_left.mpr holds)))
          fun writable item member => ?_
        obtain ⟨entry, among, isItem⟩ := List.mem_map.mp (mem_sortByText member)
        rw [← extras] at among
        rw [← isItem]
        exact ((Value.areEntriesWritable_iff entries).mp writable entry
          (List.mem_of_mem_filter among)).1
  | _ => exact .clean fun _ impossible => by cases impossible

theorem tells_property {members : List (String × Value)} {condition : Value → Prop}
    (inner : IsInner members) (judges : Judges root steps (Value.ofFields members) condition)
    (name : String) {entries : List (Value × Value)} :
    Tells (.mapping entries) (∀ part, Value.lookup? (.text name) entries = some part →
      condition part)
      (match Value.lookup? (.text name) entries with
        | some part =>
            (checkerIn (examineAt root steps) mode).part (.key (.text name))
              (Value.ofFields members) part
        | none => .clean) := by
  cases found : Value.lookup? (.text name) entries with
  | none => exact .clean fun _ impossible => by cases impossible
  | some part =>
      refine Tells.congr (tells_part inner judges rfl (Value.isWritable_of_lookup? found)) ?_
      exact ⟨fun met _ same => Option.some.inj same ▸ met, fun each => each part rfl⟩

theorem tells_properties {members : List (String × Value)} {condition : List (Value × Value) → Prop}
    {outer : Value} (each : ∀ entries, Tells (.mapping entries) (condition entries)
      (.each mode.brief (fun (member : Value × Value) => match Value.lookup? member.1 entries with
        | some part => (checkerIn (examineAt root steps) mode).part (.key member.1) member.2 part
        | none => .clean) (Value.entriesOf members))) :
    Tells value (∀ entries, value = .mapping entries → condition entries)
      (keywordOutcome (contextIn (examineAt root steps) root steps mode outer) schema "properties"
        (Value.ofFields members) value) := by
  cases value with
  | mapping entries =>
      refine (each entries).congr ?_
      exact ⟨fun met _ same => Value.mapping.inj same ▸ met, fun met => met entries rfl⟩
  | _ => exact .clean fun _ impossible => by cases impossible

end
end Schema
end TaskGraph
