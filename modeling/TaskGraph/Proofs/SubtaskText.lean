import Mathlib.Data.List.TakeWhile
import TaskGraph.Definition
import TaskGraph.Proofs.Margins
import TaskGraph.Proofs.OutlineNodes
import TaskGraph.Proofs.Acceptance
import TaskGraph.Proofs.WritableValues
set_option autoImplicit false

/-! Definitions written as a list of subtasks. The key of a subtask is a plain scalar, and a plain
scalar may be read as a number and may be too long for a key. Where neither happens, the workflow
has a task for each subtask of the text, in order. -/

namespace TaskGraph

namespace Yaml

/-! ### Words with a sign -/

def inName (c : Char) : Bool := c.isAlphanum || c = '_'

variable {word : List Char}

theorem toNat_of_inName {c : Char} (inside : inName c = true) : 48 ≤ c.toNat ∧ c.toNat ≤ 122 := by
  change (((decide (65 ≤ c.val ∧ c.val ≤ 90) || (decide (97 ≤ c.val) && decide (c.val ≤ 122))) ||
    (decide (48 ≤ c.val) && decide (c.val ≤ 57))) || decide (c = '_')) = true at inside
  simp only [Bool.or_eq_true, Bool.and_eq_true, decide_eq_true_eq, UInt32.le_iff_toNat_le] at inside
  change (((65 ≤ c.toNat ∧ c.toNat ≤ 90) ∨ (97 ≤ c.toNat ∧ c.toNat ≤ 122)) ∨
    (48 ≤ c.toNat ∧ c.toNat ≤ 57)) ∨
    c = '_' at inside
  rcases inside with range | rfl
  · omega
  · decide

theorem ne_of_inName {c d : Char} (inside : inName c = true)
    (outside : inName d = false) : c ≠ d := by
  rintro rfl
  rw [inside] at outside
  cases outside

theorem inWord_of_inName {c : Char} (inside : inName c = true) : inWord c = true := by
  refine (inWord_iff c).mpr ⟨?_, ?_, ne_of_inName inside (by decide),
    ne_of_inName inside (by decide)⟩
  · have range := toNat_of_inName inside
    have visible : 0x20 ≤ c.toNat ∧ c.toNat ≤ 0x7e := by omega
    simp [isAllowed, visible]
  · have differs (d : Char) (outside : inName d = false) : decide (c = d) = false :=
      decide_eq_false (ne_of_inName inside outside)
    rw [atBlank, isBreak, differs ' ' (by decide), differs '\t' (by decide),
      differs '\n' (by decide), differs '\r' (by decide), differs '\x85' (by decide),
      differs '\u2028' (by decide), differs '\u2029' (by decide)]
    rfl

theorem plainWord_plus (inside : ∀ c ∈ word, inName c = true) : PlainWord ('+' :: word) :=
  ⟨⟨'+', word, rfl, by decide⟩,
    List.forall_mem_cons.mpr ⟨by decide, fun c member => inWord_of_inName (inside c member)⟩⟩

theorem dropLastFeed_plus (inside : ∀ c ∈ word, inName c = true) :
    dropLastFeed ('+' :: word) = '+' :: word := by
  refine if_neg fun last => ?_
  have member : '\n' ∈ '+' :: word := List.mem_of_getLast? (beq_iff_eq.mp last)
  rcases List.mem_cons.mp member with same | inWord
  · exact absurd same (by decide)
  · exact absurd rfl (ne_of_inName (inside _ inWord) (by decide))

theorem not_contains_plus {words : List (List Char)}
    (others : ∀ other ∈ words, other.head? ≠ some '+') :
    words.contains ('+' :: word) = false := by
  rw [Bool.eq_false_iff, ne_eq, List.contains_iff_mem]
  exact fun member => others _ member rfl

/-- A word without a point is no number with a point. -/
theorem isFloat_plus (inside : ∀ c ∈ word, inName c = true) : isFloat ('+' :: word) = false := by
  have noPoint (c : Char) (member : c ∈ word) : c ≠ '.' :=
    ne_of_inName (inside c member) (by decide)
  have notPointed : isPointed word = false := by
    unfold isPointed
    split
    · rename_i rest shape
      have member : '.' ∈ word := (List.dropWhile_sublist _).subset (shape ▸ List.mem_cons_self)
      exact absurd rfl (noPoint _ member)
    · rfl
  have notSixties : isPointedSixties word = false := by
    have whole : word.dropWhile (· ≠ '.') = [] :=
      List.dropWhile_eq_nil_iff.mpr fun c member => decide_eq_true (noPoint c member)
    unfold isPointedSixties
    dsimp only
    rw [whole]
  have notInfinite : infiniteWords.contains word = false := by
    rw [Bool.eq_false_iff, ne_eq, List.contains_iff_mem]
    intro member
    have point : ∀ other ∈ infiniteWords, '.' ∈ other := by decide
    exact noPoint _ (point word member) rfl
  have notNan : nanWords.contains ('+' :: word) = false := not_contains_plus (by decide)
  have digits : dropSign ('+' :: word) = word := rfl
  simp only [isFloat, digits, notPointed, notSixties, notInfinite, notNan, Bool.or_self]
  rfl

theorem isTimestamp_plus (word : List Char) : isTimestamp ('+' :: word) = false := rfl

/-- A word behind a plus sign is a text unless it is an integer. -/
theorem resolve_plus (inside : ∀ c ∈ word, inName c = true)
    (notInteger : isInteger ('+' :: word) = false) :
    resolve ('+' :: word) = .text := by
  have notFeed : ('+' :: word) ≠ ['\n'] := fun same => absurd (List.cons.inj same).1 (by decide)
  have notTruth : truthWords.contains ('+' :: word) = false := not_contains_plus (by decide)
  have notNull : nullWords.contains ('+' :: word) = false := not_contains_plus (by decide)
  have notMark (c : Char) (rest : List Char) (differs : '+' ≠ c) : ¬('+' :: word) = c :: rest :=
    fun same => differs (List.cons.inj same).1
  simp only [resolve, if_neg notFeed, dropLastFeed_plus inside, notTruth, isFloat_plus inside,
    notInteger, notNull, isTimestamp_plus, if_neg Bool.false_ne_true,
    if_neg (notMark '<' ['<'] (by decide)), if_neg (notMark '=' [] (by decide)),
    if_neg (not_or.mpr ⟨notMark '!' [] (by decide),
    not_or.mpr ⟨notMark '&' [] (by decide), notMark '*' [] (by decide)⟩⟩)]

end Yaml

namespace Definition

open Yaml Text

/-! ### Lists of subtasks -/

/-- A name of letters, digits and underscores whose key in a text is
short enough and is not read as an integer. -/
structure IsTaskWord (name : String) : Prop where
  inside : ∀ c ∈ name.toList, inName c = true
  short : name.length ≤ 1023
  notInteger : isInteger ('+' :: name.toList) = false

def subtaskLines (width : Nat) (name : String) : List (List Char) :=
  [("+" ++ name ++ ":").toList, List.replicate (width + 1) ' ' ++ "sh>: x".toList]

/-- The text of a definition whose subtasks have the given names, behind a margin. -/
def listing (margin width : Nat) (names : List String) : List Char :=
  textOfLines (behind margin (names.flatMap (subtaskLines width)))

example : String.ofList (listing 0 1 ["a", "b"]) = "+a:\n  sh>: x\n+b:\n  sh>: x\n" := by decide

def keyWords (names : List String) : List (List Char) := names.map fun name => '+' :: name.toList

def subtaskFields (names : List String) : Fields Value :=
  names.map fun name => ("+" ++ name, .ofFields [("sh>", .text "x")])

variable {names : List String}

theorem toList_plus (name : String) : ("+" ++ name).toList = '+' :: name.toList :=
  String.toList_append

theorem plus_injective {name other : String} (same : "+" ++ name = "+" ++ other) :
    name = other := by
  have lists := congrArg String.toList same
  rw [toList_plus, toList_plus] at lists
  exact String.toList_injective (List.cons.inj lists).2

theorem toList_keyLine (name : String) :
    ("+" ++ name ++ ":").toList = '+' :: (name.toList ++ [':']) := by
  rw [String.toList_append, toList_plus]
  rfl

/-- Behind no margin, the text is an outline. -/
theorem textOfLines_subtaskLines (width : Nat) (names : List String) :
    textOfLines (names.flatMap (subtaskLines width)) =
      outlineText width "sh>".toList "x".toList (keyWords names) := by
  rw [keyWords]
  induction names with
  | nil => rfl
  | cons name rest ih =>
      rw [textOfLines, outlineText] at ih ⊢
      rw [List.flatMap_cons, List.flatMap_append, ih, List.map_cons, List.flatMap_cons,
        subtaskLines, toList_keyLine, entryText]
      simp

theorem dedent_listing (margin width : Nat)
    (words : ∀ name ∈ names, ∀ c ∈ name.toList, inName c = true) :
    dedent (listing margin width names) = outlineText width "sh>".toList "x".toList
      (keyWords names) := by
  rw [← textOfLines_subtaskLines, listing]
  apply dedent_behind
  · rw [List.forall_mem_flatMap]
    refine fun name member => List.forall_mem_cons.mpr ⟨?_, List.forall_mem_singleton.mpr ?_⟩
    · rw [toList_keyLine]
      intro feed
      rcases List.mem_cons.mp feed with same | later
      · exact absurd same (by decide)
      · rcases List.mem_append.mp later with inside | last
        · exact absurd rfl (ne_of_inName (words name member _ inside) (by decide))
        · exact absurd (List.mem_singleton.mp last) (by decide)
    · intro feed
      rcases List.mem_append.mp feed with space | inside
      · exact absurd (List.eq_of_mem_replicate space) (by decide)
      · exact absurd inside (by decide)
  · intro line first
    cases names with
    | nil => cases first
    | cons name rest =>
        obtain rfl : ("+" ++ name ++ ":").toList = line := Option.some.inj first
        rw [toList_keyLine]
        rfl
  · rw [List.forall_mem_flatMap]
    refine fun name member => List.forall_mem_cons.mpr ⟨?_, List.forall_mem_singleton.mpr ?_⟩
    · rw [toList_keyLine]
      rfl
    · rw [List.all_append, all_isIndent_replicate]
      rfl

/-! ### The definition of a text -/

theorem keys_subtaskFields (names : List String) :
    (subtaskFields names).keys = names.map ("+" ++ ·) := by
  rw [subtaskFields, Fields.keys, List.map_map]
  rfl

theorem distinct_subtaskFields (distinct : names.Nodup) : (subtaskFields names).Distinct := by
  rw [Fields.Distinct, keys_subtaskFields]
  exact List.Pairwise.map _ (fun _ _ other same => other (plus_injective same)) distinct

theorem normalise_of_mem_subtaskFields (names : List String) :
    ∀ field ∈ subtaskFields names, field.2.normalise = field.2 :=
  List.forall_mem_map.mpr fun _ _ => rfl

def subtaskValue (names : List String) : Value := if names.isEmpty then .null
    else .ofFields (subtaskFields names)

def subtaskConfig (names : List String) : Config := .ofWrites (subtaskFields names)

theorem load_listing (margin width : Nat) (words : ∀ name ∈ names, IsTaskWord name)
    (distinct : names.Nodup) :
    Yaml.load (dedent (listing margin width names)) = .ok (subtaskValue names) := by
  have plainInner : PlainWord "sh>".toList :=
    ⟨⟨'s', ['h', '>'], rfl, by decide⟩, List.all_eq_true.mp (by decide)⟩
  have plainValue : PlainWord "x".toList :=
    ⟨⟨'x', [], rfl, by decide⟩, List.all_eq_true.mp (by decide)⟩
  have plainKeys : ∀ key ∈ keyWords names, PlainWord key ∧ key.length ≤ 1024 :=
    List.forall_mem_map.mpr fun name member =>
      ⟨plainWord_plus (words name member).inside, Nat.succ_le_succ (words name member).short⟩
  have textKeys : ∀ key ∈ keyWords names, resolve key = .text :=
    List.forall_mem_map.mpr fun name member =>
      resolve_plus (words name member).inside (words name member).notInteger
  have differ : (keyWords names).Nodup :=
    List.Pairwise.map _ (fun _ _ other same => other
      (String.toList_injective (List.cons.inj same).2)) distinct
  have fields : outlineFields "sh>".toList "x".toList (keyWords names) = subtaskFields names := by
    rw [outlineFields, keyWords, List.map_map]
    refine List.map_congr_left fun name _ => ?_
    have key : String.ofList ('+' :: name.toList) = "+" ++ name := by
      rw [← toList_plus, String.ofList_toList]
    exact congrArg (·, _) key
  rw [dedent_listing margin width fun name member => (words name member).inside,
    load_outlineText (by decide) (by decide) plainInner plainValue
      (by decide) width plainKeys textKeys differ, fields,
    subtaskValue, keyWords, List.isEmpty_map]

theorem isWritable_subtaskValue (names : List String) : (subtaskValue names).isWritable = true := by
  rw [subtaskValue]
  split
  · rfl
  · exact (Value.isWritable_ofFields _).mpr (List.forall_mem_map.mpr fun _ _ => rfl)

theorem ofWrites_normalise_subtaskFields (names : List String) :
    Config.ofWrites (Value.normaliseEntries (Value.entriesOf (subtaskFields names))) =
      subtaskConfig names := by
  rw [Value.normaliseEntries_entriesOf, Value.normaliseFields_eq_self
    (normalise_of_mem_subtaskFields _), subtaskConfig]

theorem parse_listing (margin width : Nat) (words : ∀ name ∈ names, IsTaskWord name)
    (distinct : names.Nodup) (source : String) :
    parse (dedent (listing margin width names)) source = .ok (subtaskConfig names) := by
  have writable := Value.areKeysWritable_of_isWritable (isWritable_subtaskValue names)
  unfold parse
  rw [load_listing margin width words distinct]
  cases names with
  | nil => rfl
  | cons name rest =>
      have built := Config.ofValue_mapping writable
      rw [ofWrites_normalise_subtaskFields] at built
      exact congrArg (Except.mapError fun _ => Error.longKey source) built

/-! ### The workflow of a text -/

theorem keys_subtaskConfig (distinct : names.Nodup) :
    (subtaskConfig names).keys = names.map ("+" ++ ·) := by
  have fields : (subtaskConfig names).fields = subtaskFields names :=
    Fields.ofWrites_eq_self (distinct_subtaskFields distinct)
  rw [Config.keys, fields, keys_subtaskFields]

theorem get?_subtaskConfig {key : String} (member : key ∈ (subtaskConfig names).keys) :
    (subtaskConfig names).get? key = some (.ofFields [("sh>", .text "x")]) := by
  obtain ⟨value, found⟩ := Option.ne_none_iff_exists'.mp
    ((Config.get?_ne_none_iff _ key).mpr member)
  have written := Fields.mem_of_mem_ofWrites (Fields.mem_of_get?_eq_some found)
  obtain ⟨name, _, same⟩ := List.mem_map.mp written
  rw [found, ← (Prod.mk.inj same).2]

theorem below_subtaskConfig {key : String} (member : key ∈ (subtaskConfig names).keys) :
    (subtaskConfig names).below key = Config.ofWrites [("sh>", .text "x")] := by
  rw [Config.below, get?_subtaskConfig member]
  rfl

/-- A text that lists subtasks compiles to a workflow with a task
for each of them, in order, after the root. -/
theorem names_of_listing (margin width : Nat) {title : String} (titled : title ≠ "")
    {names : List String} (words : ∀ name ∈ names, IsTaskWord name) (distinct : names.Nodup) :
    ∃ workflow, compileText (listing margin width names) title = .ok workflow ∧
      workflow.tasks.size = names.length + 1 ∧ workflow.tasks.names = title :: names.map
        ("+" ++ ·) := by
  have keys := keys_subtaskConfig distinct
  have stored : (subtaskConfig names).Stored :=
    Config.stored_ofWrites (normalise_of_mem_subtaskFields names)
  have subtasks : ∀ key ∈ (subtaskConfig names).keys,
      isSubtaskKey key = true ∧ ReadsAsMapping ((subtaskConfig names).get? key) := by
    intro key member
    refine ⟨?_, get?_subtaskConfig member ▸ trivial⟩
    rw [keys] at member
    obtain ⟨name, _, rfl⟩ := List.mem_map.mp member
    rw [isSubtaskKey, toList_plus]
    rfl
  have tasks : ∀ key ∈ (subtaskConfig names).keys, ((subtaskConfig names).below key).isTask = true ∧
      ((subtaskConfig names).below key).subtaskKeys = [] ∧
        ((subtaskConfig names).below key).get? "default" = none := by
    intro key member
    rw [below_subtaskConfig member]
    decide
  obtain ⟨workflow, result, tasks⟩ := Compiler.exists_names_eq titled stored subtasks tasks
  rw [keys] at tasks
  refine ⟨workflow, ?_, ?_, tasks⟩
  · rw [compileText, parse_listing margin width words distinct]
    dsimp only
    rw [result]
  · have count := congrArg List.length tasks
    rwa [TaskList.names, List.length_map, List.length_cons, List.length_map] at count

theorem names_of_listing_release :
    ∃ workflow, compileText "  +fetch:\n    sh>: x\n  +09:\n    sh>: x\n".toList "release" =
      .ok workflow ∧
      workflow.tasks.size = 3 ∧ workflow.tasks.names = ["release", "+fetch", "+09"] := by
  have words : ∀ name ∈ ["fetch", "09"], IsTaskWord name := by
    refine List.forall_mem_cons.mpr ⟨⟨List.all_eq_true.mp (by decide), by decide, by decide⟩, ?_⟩
    exact List.forall_mem_singleton.mpr ⟨List.all_eq_true.mp (by decide), by decide, by decide⟩
  have text : "  +fetch:\n    sh>: x\n  +09:\n    sh>: x\n".toList =
      listing 2 1 ["fetch", "09"] := by decide
  rw [text]
  exact names_of_listing 2 1 (by decide) words (by decide)

theorem listing_singleton (name : String) :
    listing 0 1 [name] = '+' :: (name.toList ++ ":\n  sh>: x\n".toList) := by
  simp [listing, textOfLines, behind, subtaskLines]

def longName : List Char := List.replicate 1024 'a'

/-- The subtask of a key that is read as an integer is lost, and a
text with a key that is too long is refused. -/
theorem integerKey_lost_longKey_refused :
    (∀ c ∈ "1".toList, inName c = true) ∧ (∀ c ∈ longName, inName c = true) ∧
      (∃ workflow, compileText (listing 0 1 ["1"]) "test" = .ok workflow ∧
        workflow.tasks.names = ["test"]) ∧
      ∀ workflow, compileText (listing 0 1 [String.ofList longName]) "test" ≠ .ok workflow := by
  have lost : (compileText (listing 0 1 ["1"]) "test").toOption.map (·.tasks.names) =
      some ["test"] := by decide +kernel
  -- Evaluated from its characters, since appending strings of this length takes too long.
  have refused :
      (compileText ('+' :: (longName ++ ":\n  sh>: x\n".toList)) "test").toOption.isNone =
        true := by
    decide +kernel
  refine ⟨List.all_eq_true.mp (by decide), fun _ member => List.eq_of_mem_replicate member ▸ by
    decide, ?_, ?_⟩
  · cases compiled : compileText (listing 0 1 ["1"]) "test" with
    | error failure =>
        rw [compiled] at lost
        cases lost
    | ok workflow =>
        rw [compiled] at lost
        exact ⟨workflow, rfl, Option.some.inj lost⟩
  · intro workflow compiled
    rw [listing_singleton, String.toList_ofList] at compiled
    rw [compiled] at refused
    cases refused

end Definition

end TaskGraph
