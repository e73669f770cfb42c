import TaskGraph.Proofs.HereditaryValues
import TaskGraph.Value.Members
set_option autoImplicit false

/-! Values with a text: no integer in them has more digits than can be written. This passes to all
parts of a value and to its stored form, and only such an integer can make the keys of a definition
or the message of a refusal impossible to write. -/

namespace TaskGraph

namespace Value

theorem areKeysWritable_of_isWritable {value : Value} (writable : value.isWritable = true) :
    value.areKeysWritable = true := by
  induction value with
  | list items each =>
      rw [isWritable, areWritable_iff] at writable
      rw [areKeysWritable, areItemKeysWritable_iff]
      exact fun item member => each item member (writable item member)
  | mapping entries _ each =>
      rw [isWritable, areEntriesWritable_iff] at writable
      rw [areKeysWritable, areEntryKeysWritable_iff]
      exact fun entry member =>
        ⟨(writable entry member).1, each entry member (writable entry member).2⟩
  | config fields _ each =>
      rw [isWritable, areFieldsWritable_iff] at writable
      rw [areKeysWritable, areFieldKeysWritable_iff]
      exact fun field member => each field member (writable field member)
  | _ => rfl

/-! ### Collections -/

def Table.IsFrom (members : List Value) (table : Table) : Prop :=
  ∀ entry ∈ table.listed, entry.value ∈ members

theorem Table.mem_listed_iff {table : Table} {entry : Hashed} :
    entry ∈ table.listed ↔ some entry ∈ table.toList := by
  rw [Table.listed, List.mem_filterMap]
  exact ⟨fun ⟨_, inside, same⟩ => same ▸ inside, fun inside => ⟨_, inside, rfl⟩⟩

theorem Table.isFrom_ofPlaces (members : List Value) (count : Nat) :
    (Table.ofPlaces count).IsFrom members := by
  intro entry inside
  rw [mem_listed_iff, Table.ofPlaces, Array.toList_replicate] at inside
  cases List.eq_of_mem_replicate inside

section
variable {members : List Value} {table : Table}

theorem Table.IsFrom.put (isFrom : table.IsFrom members) {entry : Hashed}
    (member : entry.value ∈ members) : (table.put entry).IsFrom members := by
  unfold Table.put
  split
  · exact isFrom
  · rename_i place _
    intro other inside
    rw [mem_listed_iff, Array.toList_setIfInBounds] at inside
    rcases List.mem_or_eq_of_mem_set inside with earlier | here
    · exact isFrom other (mem_listed_iff.mpr earlier)
    · cases here
      exact member

theorem Table.IsFrom.resize (isFrom : table.IsFrom members) (count : Nat) :
    (table.resize count).IsFrom members :=
  List.foldlRecOn table.listed Table.put (isFrom_ofPlaces members _)
    fun _ inner entry inside => inner.put (isFrom entry inside)

theorem Table.IsFrom.add (isFrom : table.IsFrom members) {entry : Hashed}
    (member : entry.value ∈ members) : (table.add entry).IsFrom members := by
  have wider := isFrom.put member
  unfold Table.add
  dsimp only
  split
  · exact wider
  · exact wider.resize _

end

end Value

/-! ### Refusals -/

namespace Compiler

end Compiler
end TaskGraph
