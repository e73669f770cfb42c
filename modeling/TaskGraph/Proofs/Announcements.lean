import TaskGraph.CommandLine.Run
import TaskGraph.Proofs.Printing
set_option autoImplicit false

/-! The lines and the table that report a success, as marked-up text. All that they say beside names
and paths is bare, so a table settles if every name in it settles on its own, and a green line if
the name or path in it settles above the tag that makes it green and leaves that tag open for the
one that ends it. -/

namespace TaskGraph

namespace Console

/-! ### Bare texts -/

theorem IsBare.append {front back : List Char} (bare : IsBare front) (bare' : IsBare back) :
    IsBare (front ++ back) :=
  fun c member => (List.mem_append.mp member).elim (bare c) (bare' c)

theorem isBare_of_isDigit {text : List Char} (digits : ∀ c ∈ text, c.isDigit = true) :
    IsBare text := by
  have other {c d : Char} (member : c ∈ text) (noDigit : d.isDigit = false) : c ≠ d := by
    intro same
    rw [← same, digits c member] at noDigit
    cases noDigit
  exact fun c member => ⟨other member rfl, other member rfl, other member rfl⟩

theorem isBare_natural (number : Nat) : IsBare (toString number).toList :=
  isBare_of_isDigit fun _ member => Nat.isDigit_of_mem_toDigits (by decide) (by decide)
    ((Nat.toList_repr : (toString number).toList = Nat.toDigits 10 number) ▸ member)

theorem isBare_integer (number : Int) : IsBare (toString number).toList := by
  rw [Int.toString_eq_repr, Int.repr_eq_if]
  split
  · exact isBare_natural _
  · rw [String.toList_append]
    exact IsBare.append (by decide) (isBare_natural _)

theorem isBare_intercalate {separator : String} (bare : IsBare separator.toList)
    {rows : List String} (each : ∀ row ∈ rows, IsBare row.toList) :
    IsBare (String.intercalate separator rows).toList := by
  rw [String.toList_intercalate]
  induction rows with
  | nil => exact fun _ member => absurd member List.not_mem_nil
  | cons row rest ih =>
      obtain ⟨first, others⟩ := List.forall_mem_cons.mp each
      cases rest with
      | nil =>
          rw [List.map_cons, List.map_nil, List.intercalate_singleton]
          exact first
      | cons next more =>
          rw [List.map_cons, List.map_cons, List.intercalate_cons_cons]
          exact (first.append bare).append (ih others)

variable {fine : Tag → Prop}

theorem isSettled_of_isBare {text : List Char} (bare : IsBare text) : IsSettled fine text := by
  rw [IsSettled, tagsOf_of_bare bare]
  exact .done fun _ member => absurd member List.not_mem_nil

theorem isSettled_bare_append {front : List Char} (bare : IsBare front) (text : List Char) :
    IsSettled fine (front ++ text) ↔ IsSettled fine text := by
  rw [IsSettled, tagsOf_bare_append bare, IsSettled]

/-! ### Green text -/

def green : Tag := ⟨['g', 'r', 'e', 'e', 'n'], none⟩

def greenEnd : Tag := ⟨['/', 'g', 'r', 'e', 'e', 'n'], none⟩

def greenMark : List Char := ['[', '/', 'g', 'r', 'e', 'e', 'n', ']']

theorem canonical?_green : Style.canonical? green.name = some green.name := by decide +kernel

theorem isFine_green : green.IsFine where
  readable := isReadable_of_canonical? canonical?_green
  closes := ⟨[green.style], rfl⟩

theorem settles_greenEnd (isFine : fine green) : Settles fine [green] [greenEnd] := by
  have settles : Settles fine ([] ++ green :: []) [greenEnd] :=
    .closing (rfl : greenEnd.closing? = some green.name) (by decide) canonical?_green
      (fun _ member => absurd member List.not_mem_nil) isFine
      (.done fun _ member => absurd member List.not_mem_nil)
  exact settles

theorem isSettled_colored_iff (text : List Char) :
    IsSettled fine (CommandLine.colored "green" text) ↔
      Settles fine [green] (tagsOf (text ++ greenMark)) := by
  have first : firstTag? (CommandLine.colored "green" text) =
      some ⟨[], 0, green.name, text ++ greenMark⟩ := rfl
  have tags : tagsOf (CommandLine.colored "green" text) = green :: tagsOf (text ++ greenMark) := by
    rw [tagsOf_eq, first]
    rfl
  rw [IsSettled, tags, settles_opening_iff rfl, canonical?_green]
  simp only [Option.some.injEq, exists_eq_left']

/-- The tags of green text that begins barely are those of the rest. -/
theorem isSettled_colored_bare_iff {front : List Char} (bare : IsBare front) (text : List Char) :
    IsSettled fine (CommandLine.colored "green" (front ++ text)) ↔
      Settles fine [green] (tagsOf (text ++ greenMark)) := by
  rw [isSettled_colored_iff, List.append_assoc, tagsOf_bare_append bare]

/-- Behind a text and a bare remark stands just the tag that ends the green. -/
theorem tagsOf_remarked {c : Char} {remark : List Char} (bare : IsBare remark)
    (first : remark.head? = some c) (notOpening : beginsTag c = false) (text : List Char) :
    tagsOf (text ++ (remark ++ greenMark)) = tagsOf text ++ [greenEnd] := by
  have apart : IsApart (remark ++ greenMark) := isApart_bare_append bare first notOpening _
  rw [tagsOf_append apart, tagsOf_bare_append bare]
  rfl

end Console

namespace CommandLine

open Console

variable {fine : Tag → Prop}

/-! ### What is reported -/

/-- The line for a valid definition settles if the name settles
in green and leaves the green open. -/
theorem isSettled_validLine_iff (workflow : Workflow) :
    IsSettled fine (validLine workflow) ↔
      Settles fine [green] (tagsOf workflow.name.toList ++ [greenEnd]) := by
  let count := toString workflow.tasks.size
  let remark := "' is valid (".toList ++ (count.toList ++ " tasks)".toList)
  have bare : IsBare remark :=
    IsBare.append (by decide) (IsBare.append (isBare_natural _) (by decide))
  have before : IsBare "✓ Workflow '".toList := by decide
  have parts : ("✓ Workflow '" ++ workflow.name ++ "' is valid (" ++ count ++ " tasks)").toList =
      "✓ Workflow '".toList ++ (workflow.name.toList ++ remark) := by
    simp only [String.toList_append, List.append_assoc, remark]
  have tags : tagsOf (workflow.name.toList ++ (remark ++ greenMark)) =
      tagsOf workflow.name.toList ++ [greenEnd] :=
    tagsOf_remarked bare (c := '\'') rfl (by decide) _
  rw [validLine, parts, isSettled_colored_bare_iff before, List.append_assoc, tags]

/-- The line for a written artifact settles if its path does in green, with what follows it. -/
theorem isSettled_writtenLine_iff (workflow : Workflow) (path : String) :
    IsSettled fine (writtenLine workflow path) ↔
      Settles fine [green] (tagsOf (path.toList ++ greenMark)) := by
  have bare : IsBare ("✓ Wrote ".toList ++ (toString workflow.tasks.size).toList ++
      " tasks to ".toList) :=
    IsBare.append (IsBare.append (by decide) (isBare_natural _)) (by decide)
  rw [writtenLine, String.toList_append, String.toList_append, String.toList_append]
  exact isSettled_colored_bare_iff bare _

theorem isBare_kind (kind : Kind) : IsBare kind.word.toList := by
  cases kind <;> decide

/-- The row of a task settles if its name does. -/
theorem isSettled_taskRow_iff (task : Task) :
    (∀ cell ∈ taskRow task, IsSettled fine cell) ↔ IsSettled fine task.name.toList := by
  have upstreams : IsBare (String.intercalate ", " (task.upstreams.map toString)).toList :=
    isBare_intercalate (by decide) (List.forall_mem_map.mpr fun _ _ => isBare_natural _)
  have index : IsSettled fine (toString task.index).toList := isSettled_of_isBare (isBare_natural _)
  have kind : IsSettled fine task.kind.word.toList := isSettled_of_isBare (isBare_kind task.kind)
  simp only [taskRow, List.forall_mem_cons]
  constructor
  · rintro ⟨_, name, _⟩
    exact name
  · intro name
    refine ⟨index, name, kind, isSettled_of_isBare ?parent, isSettled_of_isBare upstreams,
      fun _ member => absurd member List.not_mem_nil⟩
    case parent =>
      cases task.parent with
      | none => exact fun _ member => absurd member List.not_mem_nil
      | some parent => exact isBare_integer parent

/-- The table of a workflow settles if every name in it settles on its own. -/
theorem isSettled_workflowTable_iff (workflow : Workflow) :
    (workflowTable workflow).IsSettled fine ↔
      IsSettled fine workflow.name.toList ∧
        ∀ task ∈ workflow.tasks.tasks, IsSettled fine task.name.toList := by
  have bare : IsBare "Workflow ".toList := by decide
  have title : IsSettled fine ("Workflow " ++ workflow.name).toList ↔
      IsSettled fine workflow.name.toList := by
    rw [String.toList_append]
    exact isSettled_bare_append bare _
  refine and_congr title ?_
  rw [workflowTable, List.forall_mem_map]
  exact forall₂_congr fun task _ => isSettled_taskRow_iff task

end CommandLine
end TaskGraph
