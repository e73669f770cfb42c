import TaskGraph.Proofs.ReaderFaults
import TaskGraph.Proofs.WritableValues
import TaskGraph.Yaml.Load
set_option autoImplicit false

/-! Why a tree has no value. Where every scalar of a tree fits its type, only a breach of the format
can keep the tree from having a value, and a number in that value is too long to be written only if
it is the value of such a scalar. -/

namespace TaskGraph.Yaml

theorem Ends.getD {α : Type} {fails : Error → Prop} {holds : α → Prop} {result : Except Error α}
    (ends : Ends fails holds result) {default : α} (otherwise : holds default) :
    holds ((result.toOption).getD default) := by
  cases result with
  | ok value => exact ends
  | error cause => exact otherwise

theorem Ends.bind {α β : Type} {fails : Error → Prop} {holds : α → Prop} {after : β → Prop}
    {result : Except Error α} (ends : Ends fails holds result) {next : α → Except Error β}
    (follows : ∀ value, holds value → Ends fails after (next value)) :
    Ends fails after (result.bind next) := by
  cases result with
  | ok value => exact follows value ends
  | error cause => exact ends

def Error.IsBreach (cause : Error) : Prop := ∃ reason, cause = .malformed reason

theorem isBreach_malformed (reason : String) : (Error.malformed reason).IsBreach := ⟨reason, rfl⟩

namespace Node

inductive Within (root : Node) : Node → Prop where
  | self : Within root root
  | item {tag : Tag} {items : List Node} {item : Node} :
      Within root (.sequence tag items) → item ∈ items → Within root item
  | key {tag : Tag} {entries : List (Node × Node)} {entry : Node × Node} :
      Within root (.mapping tag entries) → entry ∈ entries → Within root entry.1
  | value {tag : Tag} {entries : List (Node × Node)} {entry : Node × Node} :
      Within root (.mapping tag entries) → entry ∈ entries → Within root entry.2

/-- Whether a node that stands for a scalar fits its type: it has a value that can be written, or
has none because it breaks the format. -/
def Fits (node : Node) : Prop :=
  isCollectionTag node.tag = false →
    Ends Error.IsBreach (fun value => value.isWritable = true) node.scalarOf

theorem fits_text (content : List Char) : (scalar .text content).Fits := fun _ => .ok rfl

theorem fits_asKey {node : Node} (fits : node.Fits) : node.asKey.Fits := by
  unfold asKey
  split
  · exact fits_text _
  · exact fun _ => .error (isBreach_malformed _)
  · rename_i entries
    intro _
    unfold scalarOf
    split
    · exact .ok rfl
    · exact .error (isBreach_malformed _)
  · exact fits

variable {root : Node}

/-! ### Merges -/

def Listed (root : Node) (entries : List (Node × Node)) : Prop :=
  ∀ entry ∈ entries, (∃ key, root.Within key ∧ entry.1 = key.asKey) ∧ root.Within entry.2

theorem Listed.append {entries others : List (Node × Node)} (listed : root.Listed entries)
    (more : root.Listed others) :
    root.Listed (entries ++ others) := List.forall_mem_append.mpr ⟨listed, more⟩

theorem Within.entries {tag : Tag} {entries : List (Node × Node)}
    (inside : root.Within (.mapping tag entries)) :
    ∀ entry ∈ entries, root.Within entry.1 ∧ root.Within entry.2 :=
  fun _ member => ⟨.key inside member, .value inside member⟩

mutual

theorem ends_mergedEntries : (entries : List (Node × Node)) →
    (∀ entry ∈ entries, root.Within entry.1 ∧ root.Within entry.2) →
      Ends Error.IsBreach (fun found => root.Listed found.1 ∧ root.Listed found.2)
        (mergedEntries entries)
  | [] => fun _ => by
      rw [mergedEntries]
      exact .ok ⟨List.forall_mem_nil _, List.forall_mem_nil _⟩
  | (key, value) :: rest => fun inside => by
      obtain ⟨⟨keyInside, valueInside⟩, others⟩ := List.forall_mem_cons.mp inside
      have later := ends_mergedEntries rest others
      rw [mergedEntries]
      split
      · have added := ends_sources value valueInside
        split
        · rename_i failed
          exact .error (added.failure failed)
        · rename_i failed _
          exact .error (later.failure failed)
        · rename_i merged further own found rest_
          obtain ⟨mergedLater, ownLater⟩ := later.value rest_
          exact .ok ⟨(added.value found).append mergedLater, ownLater⟩
      · refine later.map fun found kept => ⟨kept.1, ?_⟩
        exact List.forall_mem_cons.mpr ⟨⟨⟨key, keyInside, rfl⟩, valueInside⟩, kept.2⟩

theorem ends_sources : (node : Node) → root.Within node →
    Ends Error.IsBreach root.Listed (sources node)
  | mapping _ entries => fun inside => by
      rw [sources]
      exact (ends_mergedEntries entries inside.entries).map fun _ kept => kept.1.append kept.2
  | sequence _ items => fun inside => by
      rw [sources]
      exact ends_sourcesOf items fun item member => .item inside member
  | scalar _ _ => fun _ => by
      rw [sources]
      exact .error (isBreach_malformed _)

theorem ends_sourcesOf : (items : List Node) → (∀ item ∈ items, root.Within item) →
    Ends Error.IsBreach root.Listed (sourcesOf items)
  | [] => fun _ => by
      rw [sourcesOf]
      exact .ok (List.forall_mem_nil _)
  | mapping _ entries :: rest => fun inside => by
      obtain ⟨here, others⟩ := List.forall_mem_cons.mp inside
      have first := ends_mergedEntries entries here.entries
      have later := ends_sourcesOf rest others
      rw [sourcesOf]
      split
      · rename_i failed
        exact .error (first.failure failed)
      · rename_i failed _
        exact .error (later.failure failed)
      · rename_i merged own further found rest_
        obtain ⟨mergedListed, ownListed⟩ := first.value found
        exact .ok ((later.value rest_).append (mergedListed.append ownListed))
  | sequence _ _ :: _ => fun _ => by
      rw [sourcesOf]
      · exact .error (isBreach_malformed _)
      · nofun
  | scalar _ _ :: _ => fun _ => by
      rw [sourcesOf]
      · exact .error (isBreach_malformed _)
      · nofun

end

theorem Listed.fits {entries : List (Node × Node)} (listed : root.Listed entries)
    (fits : ∀ node, root.Within node → node.Fits) :
    ∀ entry ∈ entries, entry.1.Fits ∧ entry.2.Fits := by
  intro entry member
  obtain ⟨⟨key, inside, same⟩, value⟩ := listed entry member
  rw [same]
  exact ⟨fits_asKey (fits key inside), fits _ value⟩

variable (fits : ∀ node, root.Within node → node.Fits)

include fits

end Node
end TaskGraph.Yaml
