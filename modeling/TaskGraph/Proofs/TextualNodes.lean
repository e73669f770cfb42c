import TaskGraph.Proofs.FieldWrites
import TaskGraph.Yaml.Load
set_option autoImplicit false

/-! Trees of texts. A tree whose mappings have texts as keys and whose scalars are texts has a
value, and different keys are collected as they stand. -/

namespace TaskGraph.Yaml

namespace Node

inductive IsTextual : Node → Prop
  | scalar (content : List Char) : IsTextual (.scalar .text content)
  | mapping {entries : List (Node × Node)} (keys : ∀ entry ∈ entries, ∃ content,
      entry.1 = .scalar .text content) (values : ∀ entry ∈ entries, IsTextual entry.2) :
      IsTextual (.mapping .mapping entries)

variable {entries : List (Node × Node)}

theorem mergedEntries_of_texts
    (keys : ∀ entry ∈ entries, ∃ content, entry.1 = .scalar .text content) :
    mergedEntries entries = .ok ([], entries) := by
  induction entries with
  | nil => rfl
  | cons entry rest ih =>
      obtain ⟨⟨content, isText⟩, others⟩ := List.forall_mem_cons.mp keys
      obtain ⟨key, value⟩ := entry
      dsimp only at isText
      have unmerged : ¬(Node.scalar .text content).tag = .merge := show ¬Tag.text = .merge by decide
      rw [mergedEntries, isText, if_neg unmerged, ih others]
      rfl

theorem entriesOf_of_texts (keys : ∀ entry ∈ entries, ∃ content, entry.1 = .scalar .text content) :
    (Node.mapping .mapping entries).entriesOf = .ok entries := by
  rw [entriesOf, mergedEntries_of_texts keys]
  rfl

theorem begin?_of_isTextual {node : Node} (textual : node.IsTextual) : node.begin? = .ok () := by
  cases textual <;> rfl

theorem beginEntries_of_texts (keys : ∀ entry ∈ entries, ∃ content, entry.1 = .scalar .text content)
    (values : ∀ entry ∈ entries, entry.2.IsTextual) : beginEntries entries = .ok () := by
  induction entries with
  | nil => rfl
  | cons entry rest ih =>
      obtain ⟨⟨content, isText⟩, others⟩ := List.forall_mem_cons.mp keys
      obtain ⟨first, later⟩ := List.forall_mem_cons.mp values
      obtain ⟨key, value⟩ := entry
      dsimp only at isText first
      have begun : (Node.scalar .text content).begin? = .ok () := rfl
      have noCollection : ¬isCollectionTag (Node.scalar .text content).tag = true :=
        Bool.false_ne_true
      rw [beginEntries, isText, begun]
      dsimp only
      rw [if_neg noCollection, begin?_of_isTextual first]
      exact ih others later

theorem exists_fill {node : Node} (textual : node.IsTextual) :
    ∃ held, node.fill = .ok held ∧ ∀ inner ∈ held, inner.IsTextual := by
  cases textual with
  | scalar content => exact ⟨[], rfl, nofun⟩
  | @mapping entries keys values =>
      refine ⟨entries.map (·.2), ?_, List.forall_mem_map.mpr values⟩
      change ((Node.mapping .mapping entries).entriesOf.bind fun entries =>
        (beginEntries entries).map fun _ => entries.map (·.2)) = _
      rw [entriesOf_of_texts keys]
      change (beginEntries entries).map _ = _
      rw [beginEntries_of_texts keys values]
      rfl

theorem exists_fillAll {nodes : List Node} (textual : ∀ node ∈ nodes, node.IsTextual) :
    ∃ held, fillAll nodes = .ok held ∧ ∀ inner ∈ held, inner.IsTextual := by
  induction nodes with
  | nil => exact ⟨[], rfl, nofun⟩
  | cons node rest ih =>
      obtain ⟨first, others⟩ := List.forall_mem_cons.mp textual
      obtain ⟨held, fills, each⟩ := exists_fill first
      obtain ⟨more, fillsMore, eachMore⟩ := ih others
      refine ⟨held ++ more, ?_, List.forall_mem_append.mpr ⟨each, eachMore⟩⟩
      rw [fillAll, fills, fillsMore]
      rfl

theorem fillLevels_of_isTextual (levels : Nat) {nodes : List Node}
    (textual : ∀ node ∈ nodes, node.IsTextual) :
    fillLevels levels nodes = .ok () := by
  induction levels generalizing nodes with
  | zero => rfl
  | succ levels ih =>
      obtain ⟨held, fills, each⟩ := exists_fillAll textual
      rw [fillLevels, fills]
      dsimp only
      split
      · rfl
      · exact ih each

/-- A tree of texts has a value. -/
theorem value_of_isTextual {node : Node} (textual : node.IsTextual) :
    node.value = .ok (valueAt (node.depth + 1) node) := by
  rw [value, check, begin?_of_isTextual textual]
  dsimp only
  rw [fillLevels_of_isTextual _ (List.forall_mem_singleton.mpr textual)]
  rfl

theorem valueAt_text (levels : Nat) (content : List Char) :
    valueAt levels (.scalar .text content) = .text (String.ofList content) := by
  cases levels <;> rfl

theorem valueAt_mapping (levels : Nat)
    (keys : ∀ entry ∈ entries, ∃ content, entry.1 = .scalar .text content) :
    valueAt (levels + 1) (.mapping .mapping entries) =
      .mapping (Value.collectEntries
        (entries.map fun entry => (valueAt levels entry.1, valueAt levels entry.2))) := by
  rw [valueAt, entriesOf_of_texts keys]
  rfl

end Node

end TaskGraph.Yaml

namespace TaskGraph.Value

/-! ### Collecting texts -/

theorem putEntry_fresh {name : String} {fields : Fields Value} (fresh : name ∉ fields.keys)
    (value : Value) :
    putEntry (.text name) value (entriesOf fields) = entriesOf (fields ++ [(name, value)]) := by
  induction fields with
  | nil => rfl
  | cons field rest ih =>
      rw [Fields.keys, List.map_cons, List.mem_cons, not_or] at fresh
      have differs : ¬same (.text field.1) (.text name) = true := by
        rw [same]
        simpa using Ne.symm fresh.1
      rw [entriesOf, List.map_cons, putEntry, if_neg differs, ← entriesOf, ih fresh.2]
      rfl

/-- Fields with different names are collected as they are. -/
theorem collectEntries_entriesOf {fields : Fields Value} (distinct : fields.Distinct) :
    collectEntries (entriesOf fields) = entriesOf fields := by
  have collect (done : Fields Value) : (done ++ fields).Distinct →
      (entriesOf fields).foldl (fun entries pair => putEntry pair.1 pair.2 entries)
        (entriesOf done) =
        entriesOf (done ++ fields) := by
    clear distinct
    induction fields generalizing done with
    | nil => simp [entriesOf]
    | cons field rest ih =>
        intro distinct
        have fresh : field.1 ∉ Fields.keys done := by
          rw [Fields.Distinct, Fields.keys_append, Fields.keys_cons] at distinct
          intro member
          exact (List.nodup_append.mp distinct).2.2 _ member _ List.mem_cons_self rfl
        have shape : done ++ field :: rest = (done ++ [field]) ++ rest :=
          List.append_cons done field rest
        rw [shape] at distinct ⊢
        rw [← ih (done ++ [field]) distinct, ← putEntry_fresh fresh]
        rfl
  exact collect [] distinct

end TaskGraph.Value
