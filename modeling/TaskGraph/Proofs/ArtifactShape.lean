import TaskGraph.Proofs.Findings
import TaskGraph.Proofs.SchemaKeywords
set_option autoImplicit false

/-! What the schema of compiled workflows accepts, said of a value alone: a mapping with three keys,
whose tasks are mappings with seven keys. Whatever else a value is like, the check says so in at
least one line, or breaks off at a number that has too many digits for one. -/

namespace TaskGraph

namespace Value

/-- Whether a value is a number that can count something. Whole
floats can, and truth values are no numbers. -/
def Counts (value : Value) : Prop := ∃ number : Nat, IsInteger number value

def HasExactly (names : List String) (entries : List (Value × Value)) : Prop :=
  ∀ key, key ∈ entries.map Prod.fst ↔ ∃ name ∈ names, key = text name

def Under (entries : List (Value × Value)) (name : String) (condition : Value → Prop) : Prop :=
  ∃ part, lookup? (text name) entries = some part ∧ condition part

structure TaskShape (entries : List (Value × Value)) : Prop where
  keys : HasExactly ["name", "index", "parent_index", "upstream_indexes", "kind",
    "is_group", "config"] entries
  name : Under entries "name" fun part => ∃ name, part = text name ∧ name ≠ ""
  index : Under entries "index" Counts
  parent : Under entries "parent_index" fun part => part = null ∨ Counts part
  upstreams : Under entries "upstream_indexes" fun part => ∃ items numbers, part = list items ∧
    List.Forall₂ (fun item (number : Nat) => IsInteger number item) items numbers ∧ numbers.Nodup
  kind : Under entries "kind" fun part => part = text "task" ∨ part = text "group"
  group : Under entries "is_group" fun part => ∃ truth, part = bool truth
  config : Under entries "config" fun part => ∃ settings, part = mapping settings

def IsTask (value : Value) : Prop := ∃ entries, value = mapping entries ∧ TaskShape entries

structure ArtifactShape (entries : List (Value × Value)) : Prop where
  keys : HasExactly ["name", "meta", "tasks"] entries
  name : Under entries "name" fun part => ∃ name, part = text name
  metadata : Under entries "meta" fun part => ∃ fields, part = mapping fields
  tasks : Under entries "tasks" fun part => ∃ tasks, part = list tasks ∧ ∀ task ∈ tasks, IsTask task

/-- Whether a value is an artifact that the schema of compiled workflows accepts. -/
def IsArtifact (value : Value) : Prop := ∃ entries, value = mapping entries ∧ ArtifactShape entries

/-! ### Keys -/

theorem HasExactly.isSome_lookup? {names : List String} {entries : List (Value × Value)}
    (keys : HasExactly names entries) {name : String} (member : name ∈ names) :
    (lookup? (text name) entries).isSome = true :=
  isSome_lookup?_text.mpr ((keys (text name)).mpr ⟨name, member, rfl⟩)

/-- Under a key that is there, a condition on what stands there
says that something does and meets it. -/
theorem HasExactly.under_iff {names : List String} {entries : List (Value × Value)}
    (keys : HasExactly names entries) {name : String} (member : name ∈ names)
    {condition : Value → Prop} :
    (∀ part, lookup? (text name) entries = some part → condition part) ↔
      Under entries name condition := by
  obtain ⟨part, found⟩ := Option.isSome_iff_exists.mp (keys.isSome_lookup? member)
  constructor
  · intro each
    exact ⟨part, found, each part found⟩
  · rintro ⟨other, isOther, met⟩ value isValue
    rw [isOther] at isValue
    exact Option.some.inj isValue ▸ met

theorem hasExactly_iff {names : List String} {entries : List (Value × Value)} :
    HasExactly names entries ↔
      (∀ name ∈ names, text name ∈ entries.map Prod.fst) ∧
        ∀ key ∈ entries.map Prod.fst, ∃ name ∈ names, key = text name := by
  constructor
  · intro keys
    exact ⟨fun name member => (keys (text name)).mpr ⟨name, member, rfl⟩, fun key => (keys key).mp⟩
  · rintro ⟨required, noOthers⟩ key
    refine ⟨noOthers key, ?_⟩
    rintro ⟨name, member, isText⟩
    exact isText ▸ required name member

/-! ### Values of one type -/

/-- Beside the keyword for its type, what is said of all values of a type is said of one. -/
theorem exists_of_type_iff {α : Type} {make : α → Value} (injective : Function.Injective make)
    {value : Value} {condition : α → Prop} :
    ((∃ content, value = make content) ∧ ∀ content, value = make content → condition content) ↔
      ∃ content, value = make content ∧ condition content := by
  constructor
  · rintro ⟨⟨content, isMade⟩, each⟩
    exact ⟨content, isMade, each content isMade⟩
  · rintro ⟨content, isMade, met⟩
    refine ⟨⟨content, isMade⟩, fun other isOther => ?_⟩
    rw [injective (isOther.symm.trans isMade)]
    exact met

/-- The keywords for mappings together speak of the keys and of what stands under them. -/
theorem exists_mapping_iff {names : List String} {condition shape : List (Value × Value) → Prop}
    {value : Value} (same : ∀ entries, HasExactly names entries →
      (condition entries ↔ shape entries))
    (keys : ∀ entries, shape entries → HasExactly names entries) :
    ((∃ entries, value = mapping entries) ∧
      (∀ entries, value = mapping entries → ∀ name ∈ names, text name ∈ entries.map Prod.fst) ∧
      (∀ entries, value = mapping entries → ∀ key ∈ entries.map Prod.fst, ∃ name ∈ names,
        key = text name) ∧
      (∀ entries, value = mapping entries → condition entries) ∧ True) ↔
      ∃ entries, value = mapping entries ∧ shape entries := by
  rw [and_true, ← forall_and, ← forall_and]
  simp only [← imp_and]
  rw [exists_of_type_iff fun _ _ => mapping.inj]
  refine exists_congr fun entries => and_congr_right fun _ => ?_
  rw [← and_assoc, ← hasExactly_iff]
  constructor
  · rintro ⟨exact_keys, each⟩
    exact (same entries exact_keys).mp each
  · intro met
    exact ⟨keys entries met, (same entries (keys entries met)).mpr met⟩

/-! ### Numbers -/

theorem numberOf?_of_isInteger {number : Int} {value : Value} (whole : IsInteger number value) :
    Schema.numberOf? value = some (.exact number) := by
  have place := whole.magnitude?
  rcases whole with isInt | ⟨x, isFloat, _⟩
  · rw [isInt] at place ⊢
    exact place
  · rw [isFloat] at place ⊢
    exact place

theorem not_lt_zero_iff {number : Int} :
    Magnitude.lt (.exact number) (.exact ((0 : Int) : Rat)) = false ↔ 0 ≤ number := by
  rw [Magnitude.lt, decide_eq_false_iff_not, Rat.not_lt]
  exact_mod_cast Iff.rfl

theorem counts_iff {value : Value} :
    (∃ number, IsInteger number value) ∧
        (∀ number, Schema.numberOf? value = some number →
          number.lt (.exact ((0 : Int) : Rat)) = false) ↔
      Counts value := by
  constructor
  · rintro ⟨⟨number, whole⟩, bounded⟩
    have positive : 0 ≤ number := not_lt_zero_iff.mp (bounded _ (numberOf?_of_isInteger whole))
    refine ⟨number.toNat, ?_⟩
    rw [Int.toNat_of_nonneg positive]
    exact whole
  · rintro ⟨number, whole⟩
    refine ⟨⟨number, whole⟩, fun other isOther => ?_⟩
    rw [numberOf?_of_isInteger whole] at isOther
    rw [← Option.some.inj isOther]
    exact not_lt_zero_iff.mpr (Int.natCast_nonneg number)

theorem forall_counts_iff {items : List Value} :
    (∀ item ∈ items, Counts item) ↔
      ∃ numbers : List Nat, List.Forall₂ (fun item (number : Nat) => IsInteger number item)
        items numbers := by
  constructor
  · intro each
    induction items with
    | nil => exact ⟨[], .nil⟩
    | cons item rest ih =>
        obtain ⟨⟨number, whole⟩, later⟩ := List.forall_mem_cons.mp each
        obtain ⟨numbers, rows⟩ := ih later
        exact ⟨number :: numbers, .cons whole rows⟩
  · rintro ⟨numbers, rows⟩ item member
    obtain ⟨number, _, whole⟩ := exists_right_of_forall₂ rows member
    exact ⟨number, whole⟩

theorem areDistinct_iff_of_counts {items : List Value} {numbers : List Nat}
    (rows : List.Forall₂ (fun item (number : Nat) => IsInteger number item) items numbers) :
    areDistinct items = true ↔ numbers.Nodup := by
  have whole : List.Forall₂ (fun item number => IsInteger number item) items
      (numbers.map Int.ofNat) :=
    List.forall₂_map_right_iff.mpr rows
  rw [areDistinct_iff whole]
  exact List.nodup_map_iff fun _ _ => Int.ofNat.inj

theorem alike_text_iff {content : String} {value : Value} :
    alike (text content) value = true ↔ value = text content := by
  cases value with
  | text other =>
      exact beq_iff_eq.trans ⟨fun equal => congrArg text equal.symm,
        fun equal => (text.inj equal).symm⟩
  | _ => constructor <;> intro impossible <;> cases impossible

end Value

namespace Schema

open Outcome Value

/-! ### The parts of a task -/

variable {root : Value} {steps : Nat}

theorem judges_index : Judges root (steps + 1) indexSchema Counts := by
  refine judges_of_keywords fun mode value => ?_
  refine Tells.congr (.cons (tells_type hasType?_integer)
    (.cons (tells_minimum isWritable_zero) .nil)) ?_
  rw [and_true]
  exact counts_iff

theorem judges_name :
    Judges root (steps + 1) (ofFields [("type", .text "string"), ("minLength", .int 1)])
      fun value => ∃ name, value = text name ∧ name ≠ "" := by
  refine judges_of_keywords fun mode value => ?_
  refine Tells.congr (.cons (tells_type hasType?_string) (.cons tells_minLength .nil)) ?_
  rw [and_true, exists_of_type_iff fun _ _ => text.inj]
  refine exists_congr fun name => and_congr_right fun _ => ?_
  rw [ne_eq, ← String.length_eq_zero_iff]
  omega

theorem judges_parent :
    Judges root (steps + 1) (ofFields [("type", .list [.text "integer", .text "null"]),
      ("minimum", .int 0)])
      fun value => value = null ∨ Counts value := by
  refine judges_of_keywords fun mode value => ?_
  let typed (name : String) : Prop := if name = "null" then value = null
    else ∃ number, IsInteger number value
  have each : ∀ name ∈ ["integer", "null"], ∃ found, hasType? name value = some found ∧
      (found = true ↔ typed name) :=
    List.forall_mem_cons.mpr ⟨hasType?_integer, List.forall_mem_singleton.mpr hasType?_null⟩
  refine Tells.congr (.cons (tells_types _ _ rfl each) (.cons (tells_minimum isWritable_zero) .nil))
    ?_
  have either : (∃ name ∈ ["integer", "null"], typed name) ↔ (∃ number, IsInteger number value) ∨
      value = null := by
    simp [typed]
  rw [either, and_true, or_and_right, counts_iff, or_comm]
  refine or_congr_left (and_iff_left_of_imp fun isNull number isNumber => ?_)
  rw [isNull] at isNumber
  cases isNumber

theorem judges_upstreams :
    Judges root (steps + 2)
      (ofFields [("type", .text "array"), ("items", indexSchema), ("uniqueItems", .bool true)])
      fun value => ∃ items numbers, value = list items ∧
        List.Forall₂ (fun item (number : Nat) => IsInteger number item) items numbers ∧
          numbers.Nodup := by
  refine judges_of_keywords fun mode value => ?_
  refine Tells.congr (.cons (tells_type hasType?_array)
    (.cons (tells_items ⟨rfl, rfl⟩ judges_index rfl) (.cons tells_uniqueItems .nil))) ?_
  rw [and_true, ← forall_and]
  simp only [← imp_and]
  rw [exists_of_type_iff fun _ _ => list.inj]
  refine exists_congr fun items => ?_
  rw [exists_and_left, forall_counts_iff]
  refine and_congr_right fun _ => ?_
  constructor
  · rintro ⟨⟨numbers, rows⟩, distinct⟩
    exact ⟨numbers, rows, (areDistinct_iff_of_counts rows).mp distinct⟩
  · rintro ⟨numbers, rows, distinct⟩
    exact ⟨⟨numbers, rows⟩, (areDistinct_iff_of_counts rows).mpr distinct⟩

theorem judges_kind :
    Judges root (steps + 1) (ofFields [("enum", .list [.text "task", .text "group"])])
      fun value => value = text "task" ∨ value = text "group" := by
  refine judges_of_keywords fun mode value => ?_
  have written : ∀ item ∈ [text "task", text "group"], item.isWritable = true :=
    List.forall_mem_cons.mpr ⟨rfl, List.forall_mem_singleton.mpr rfl⟩
  refine Tells.congr (.cons (tells_enum written) .nil) ?_
  simp only [List.mem_cons, List.not_mem_nil, or_false, exists_eq_or_imp, exists_eq_left,
    alike_text_iff, and_true]

theorem judges_truth :
    Judges root (steps + 1) (ofFields [("type", .text "boolean")]) fun value =>
      ∃ truth, value = bool truth :=
  judges_of_keywords fun _ _ =>
    Tells.congr (.cons (tells_type hasType?_boolean) .nil) (and_iff_left trivial)

theorem judges_text :
    Judges root (steps + 1) (ofFields [("type", .text "string")]) fun value =>
      ∃ content, value = text content :=
  judges_of_keywords fun _ _ =>
    Tells.congr (.cons (tells_type hasType?_string) .nil) (and_iff_left trivial)

theorem judges_object :
    Judges root (steps + 1) (ofFields [("type", .text "object")]) fun value =>
      ∃ entries, value = mapping entries :=
  judges_of_keywords fun _ _ =>
    Tells.congr (.cons (tells_type hasType?_object) .nil) (and_iff_left trivial)

/-! ### Tasks and artifacts -/

theorem judges_task : Judges root (steps + 3) taskSchema IsTask := by
  refine judges_of_keywords fun mode value => ?_
  refine Tells.congr (.cons (tells_type hasType?_object) (.cons
    (tells_required ["name", "index", "parent_index", "upstream_indexes", "kind",
      "is_group", "config"])
    (.cons (tells_noOthers rfl rfl) (.cons (tells_properties fun entries =>
      .cons (tells_property ⟨rfl, rfl⟩ judges_name "name")
        (.cons (tells_property ⟨rfl, rfl⟩ judges_index "index")
      (.cons (tells_property ⟨rfl, rfl⟩ judges_parent "parent_index")
      (.cons (tells_property ⟨rfl, rfl⟩ judges_upstreams "upstream_indexes")
      (.cons (tells_property ⟨rfl, rfl⟩ judges_kind "kind")
        (.cons (tells_property ⟨rfl, rfl⟩ judges_truth "is_group")
      (.cons (tells_property ⟨rfl, rfl⟩ judges_object "config") .nil))))))) .nil))))
    (exists_mapping_iff (fun entries keys => ?_) fun entries shape => shape.keys)
  constructor
  · rintro ⟨name, index, parent, upstreams, kind, group, config, -⟩
    exact {
      keys := keys
      name := (keys.under_iff (by simp)).mp name
      index := (keys.under_iff (by simp)).mp index
      parent := (keys.under_iff (by simp)).mp parent
      upstreams := (keys.under_iff (by simp)).mp upstreams
      kind := (keys.under_iff (by simp)).mp kind
      group := (keys.under_iff (by simp)).mp group
      config := (keys.under_iff (by simp)).mp config }
  · intro shape
    exact ⟨(keys.under_iff (by simp)).mpr shape.name, (keys.under_iff (by simp)).mpr shape.index,
      (keys.under_iff (by simp)).mpr shape.parent, (keys.under_iff (by simp)).mpr shape.upstreams,
      (keys.under_iff (by simp)).mpr shape.kind, (keys.under_iff (by simp)).mpr shape.group,
      (keys.under_iff (by simp)).mpr shape.config, trivial⟩

theorem judges_tasks :
    Judges root (steps + 4) (ofFields [("type", .text "array"), ("items", taskSchema)])
      fun value => ∃ tasks, value = list tasks ∧ ∀ task ∈ tasks, IsTask task := by
  refine judges_of_keywords fun mode value => ?_
  refine Tells.congr (.cons (tells_type hasType?_array)
    (.cons (tells_items ⟨rfl, rfl⟩ judges_task rfl) .nil)) ?_
  rw [and_true]
  exact exists_of_type_iff fun _ _ => list.inj

theorem judges_compiledWorkflow : Judges root (steps + 5) compiledWorkflow IsArtifact := by
  refine judges_of_keywords fun mode value => ?_
  refine Tells.congr (.cons (.clean trivial)
    (.cons (.clean trivial) (.cons (tells_type hasType?_object)
    (.cons (tells_required ["name", "meta", "tasks"])
    (.cons (tells_noOthers rfl rfl) (.cons (tells_properties fun entries =>
      .cons (tells_property ⟨rfl, rfl⟩ judges_text "name")
        (.cons (tells_property ⟨rfl, rfl⟩ judges_object "meta")
      (.cons (tells_property ⟨rfl, rfl⟩ judges_tasks "tasks") .nil))) .nil)))))) ?_
  rw [true_and, true_and]
  refine exists_mapping_iff (fun entries keys => ?_) fun entries shape => shape.keys
  constructor
  · rintro ⟨name, metadata, tasks, -⟩
    exact {
      keys := keys
      name := (keys.under_iff (by simp)).mp name
      metadata := (keys.under_iff (by simp)).mp metadata
      tasks := (keys.under_iff (by simp)).mp tasks }
  · intro shape
    exact ⟨(keys.under_iff (by simp)).mpr shape.name, (keys.under_iff (by simp)).mpr shape.metadata,
      (keys.under_iff (by simp)).mpr shape.tasks, trivial⟩

/-! ### What a check answers -/

theorem five_le_stepBound (schema value : Value) : 5 ≤ stepBound schema value := by
  have positive : 1 ≤ schema.size := by
    cases schema <;> simp [Value.size]
  have least : 3 * 2 ≤ (schema.size + 2) * (value.depth + 2) :=
    Nat.mul_le_mul (by omega) (by omega)
  rw [stepBound]
  omega

theorem findings_eq_map {entries : List (Value × Value)} {value : Value} {outcome : Outcome}
    (noId : idOf (.mapping entries) = .ok none)
    (isOutcome : examineAt (.mapping entries) (stepBound (.mapping entries) value)
      ⟨false, []⟩ (.mapping entries) value =
      outcome) (unbroken : outcome.fault = none) :
    findings (.mapping entries) value = (Finding.ofViolations outcome.violations).map
      Finding.sort := by
  rw [findings, noId]
  dsimp only [Option.getD_none]
  rw [isOutcome, Outcome.all, unbroken]

/-- A check passes if the schema is met. Otherwise there are
violations, unless it breaks off before all are known. -/
theorem validate_of_tells {entries : List (Value × Value)} {value : Value} {holds : Prop}
    (noId : idOf (.mapping entries) = .ok none)
    (tells : Tells value holds
      (examineAt (.mapping entries) (stepBound (.mapping entries) value) ⟨false, []⟩
        (.mapping entries) value)) :
    (holds ∧ validate value (.mapping entries) = .ok ()) ∨
      (¬holds ∧ ∃ error, validate value (.mapping entries) = .error (.violated error) ∧
        error.lines ≠ []) ∨
      (¬holds ∧ validate value (.mapping entries) = .error (.brokenOff .unreadable) ∧
        value.isWritable = false) := by
  generalize isOutcome : examineAt (.mapping entries)
    (stepBound (.mapping entries) value) ⟨false, []⟩ (.mapping entries) value = outcome at tells
  cases broken : outcome.fault with
  | some fault =>
      refine Or.inr (Or.inr ⟨fun met => ?_, ?_, (tells.unreadable fault broken).2⟩)
      · rw [tells.clean_iff.mpr met] at broken
        cases broken
      · rw [validate, findings, noId]
        dsimp only [Option.getD_none]
        rw [isOutcome, Outcome.all, broken, (tells.unreadable fault broken).1]
  | none =>
      have found := findings_eq_map noId isOutcome broken
      obtain ⟨lines, isLines, same⟩ := Finding.exists_ofViolations tells.shown
      rw [isLines] at found
      have kept := (Finding.sort_perm lines).length_eq
      rw [same] at kept
      cases sorted : Finding.sort lines with
      | nil =>
          have nothing : outcome.violations = [] := by
            rw [sorted] at kept
            exact List.length_eq_zero_iff.mp kept.symm
          refine Or.inl ⟨tells.clean_iff.mp (eq_clean nothing broken), ?_⟩
          rw [validate, found, Except.map, sorted]
      | cons first rest =>
          refine Or.inr (Or.inl ⟨fun met => ?_, ?_⟩)
          · rw [tells.clean_iff.mpr met, sorted] at kept
            cases kept
          · rw [validate, found, Except.map, sorted]
            exact ⟨_, rfl, List.cons_ne_nil _ _⟩

theorem validateCompiled_cases (data : Value) :
    (data.IsArtifact ∧ validateCompiled data none = .ok ()) ∨
      (¬data.IsArtifact ∧ ∃ error, validateCompiled data none = .error (.violated error) ∧
        error.lines ≠ []) ∨
      (¬data.IsArtifact ∧ validateCompiled data none = .error (.brokenOff .unreadable) ∧
        data.isWritable = false) := by
  refine validate_of_tells rfl ?_
  obtain ⟨steps, enough⟩ := Nat.exists_eq_add_of_le' (five_le_stepBound compiledWorkflow data)
  have tells : Tells data data.IsArtifact
      (examineAt compiledWorkflow (steps + 5) ⟨false, []⟩ compiledWorkflow data) :=
    judges_compiledWorkflow _ data
  rw [← enough] at tells
  exact tells

theorem validateCompiled_eq_ok_iff (data : Value) :
    validateCompiled data none = .ok () ↔ data.IsArtifact := by
  rcases validateCompiled_cases data with ⟨met, passed⟩ | ⟨fails, error, violated, _⟩
    | ⟨fails, brokenOff, _⟩
  · exact iff_of_true passed met
  · exact iff_of_false (fun passed => by cases passed.symm.trans violated) fails
  · exact iff_of_false (fun passed => by cases passed.symm.trans brokenOff) fails

/-- The schema of compiled workflows accepts the artifacts. What is none has violations, unless the
text of one would need that of a number with too many digits. -/
theorem validateCompiled_outcome (data : Value) :
    (validateCompiled data none = .ok () ↔ data.IsArtifact) ∧
      (¬data.IsArtifact →
        (∃ error, validateCompiled data none = .error (.violated error) ∧ error.lines ≠ [] ∧
          error.diagnostic.message = toString error.lines.length ++ " schema violation(s)") ∨
        (validateCompiled data none = .error (.brokenOff .unreadable) ∧
          data.isWritable = false)) := by
  refine ⟨validateCompiled_eq_ok_iff data, fun fails => ?_⟩
  rcases validateCompiled_cases data with ⟨met, _⟩ | ⟨_, error, violated, lines⟩
    | ⟨_, brokenOff, unwritable⟩
  · exact absurd met fails
  · exact Or.inl ⟨error, violated, lines, rfl⟩
  · exact Or.inr ⟨brokenOff, unwritable⟩

theorem each_of_clean {α : Type} {brief : Bool} {check : α → Outcome} {item : α} {rest : List α}
    (nothing : check item = .clean) :
    Outcome.each brief check (item :: rest) = Outcome.each brief check rest := by
  rw [Outcome.each, nothing]
  cases brief <;> rfl

theorem each_of_fail {α : Type} {brief : Bool} {check : α → Outcome} {item : α} {rest : List α}
    {fault : Fault} (broken : check item = .fail fault) :
    Outcome.each brief check (item :: rest) = .fail fault := by
  rw [Outcome.each, broken]
  rfl

/-- A number that is too long to be shown is no artifact, and the
check breaks off before it has said so. -/
theorem overlong_not_violated :
    ¬(Value.int (Int.ofNat (Nat.pow 10 mostDigits))).IsArtifact ∧
      ∀ error, validateCompiled (.int (Int.ofNat (Nat.pow 10 mostDigits))) none ≠
        .error (.violated error) := by
  have long : TaskGraph.isWritable (Int.ofNat (Nat.pow 10 mostDigits)) = false := by
    rw [TaskGraph.isWritable]
    generalize Nat.pow 10 mostDigits = most
    exact decide_eq_false (Nat.lt_irrefl most)
  generalize Int.ofNat (Nat.pow 10 mostDigits) = number at long ⊢
  constructor
  · rintro ⟨entries, isMapping, -⟩
    cases isMapping
  · intro error violated
    obtain ⟨steps, enough⟩ :=
      Nat.exists_eq_add_of_le' (five_le_stepBound compiledWorkflow (.int number))
    have refused (context : Context) (schema : List (Value × Value)) :
        keywordOutcome context schema "type" (.text "object") (.int number) =
          .fail .unreadable := by
      have names : typeNames? (.text "object") = some [.text "object"] := rfl
      have fits : isOfSome (.int number) [.text "object"] = .ok false := rfl
      change typeKeyword (.text "object") (.int number) = .fail .unreadable
      rw [typeKeyword, names, Outcome.taking, fits, Outcome.given, Outcome.demand,
        Outcome.say, List.all_cons, Value.isWritable, long]
      rfl
    have whole : examineAt compiledWorkflow (steps + 5) ⟨false, []⟩ compiledWorkflow
        (.int number) = .fail .unreadable := by
      change examineAt compiledWorkflow (steps + 4 + 1) ⟨false, []⟩ (Value.ofFields _) _ = _
      rw [examineAt_ofFields]
      refine Eq.trans (each_of_clean rfl) (Eq.trans (each_of_clean rfl) ?_)
      exact each_of_fail (refused _ _)
    have noId : idOf compiledWorkflow = .ok none := rfl
    unfold validateCompiled validate findings at violated
    rw [Option.getD_none, noId, enough] at violated
    dsimp only [Option.getD_none] at violated
    rw [whole] at violated
    cases violated

end Schema
end TaskGraph
