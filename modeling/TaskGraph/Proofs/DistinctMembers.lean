import Mathlib.Data.List.InsertIdx
import Mathlib.Data.List.Nodup
import TaskGraph.Proofs.Lowering
import TaskGraph.Schema.Distinct
set_option autoImplicit false

/-! Whether the members of a list are distinct. A row that is put in order keeps its members, and
where the order is that of numbers each of them comes before all greater ones. So for whole numbers,
written as integers or as floats, neighbours in order tell whether any two are equal. -/

namespace TaskGraph

namespace Value

/-! ### Rows put in order -/

theorem splitRun_append {less : Value → Value → Option Bool} {falling : Bool} {last : Value}
    {items run rest : List Value} (split : splitRun less falling last items = some (run, rest)) :
    run ++ rest = items := by
  induction items generalizing last run with
  | nil =>
      cases split
      rfl
  | cons item others ih =>
      rw [splitRun] at split
      cases order : less item last with
      | none =>
          simp only [order] at split
          cases split
      | some found =>
          simp only [order] at split
          split at split
          · cases inner : splitRun less falling item others with
            | none =>
                rw [inner] at split
                cases split
            | some parts =>
                obtain ⟨innerRun, innerRest⟩ := parts
                rw [inner] at split
                cases split
                rw [List.cons_append, ih inner]
          · cases split
            rfl

theorem firstRun?_perm {less : Value → Value → Option Bool} {items run rest : List Value}
    (split : firstRun? less items = some (run, rest)) : (run ++ rest).Perm items := by
  unfold firstRun? at split
  split at split
  · rename_i first second others
    split at split
    · cases split
    · rename_i falling _
      cases inner : splitRun less falling second others with
      | none =>
          rw [inner] at split
          cases split
      | some parts =>
          obtain ⟨innerRun, innerRest⟩ := parts
          have whole := splitRun_append inner
          rw [inner] at split
          cases split
          have same : (first :: second :: innerRun ++ rest).Perm (first :: second :: others) := by
            rw [List.cons_append, List.cons_append, whole]
          split
          · exact ((List.reverse_perm _).append_right _).trans same
          · exact same
  · cases split
    rw [List.append_nil]

theorem placeIn?_le {less : Value → Value → Option Bool} {item : Value} {sorted : Array Value}
    {steps low high place : Nat} (ordered : low ≤ high)
    (found : placeIn? less item sorted steps low high = some place) : place ≤ high := by
  induction steps generalizing low high with
  | zero =>
      cases found
      exact ordered
  | succ steps ih =>
      rw [placeIn?] at found
      split at found
      · cases found
        exact ordered
      · rename_i between
        dsimp only at found
        split at found
        · cases found
        · have reached := ih (by omega) found
          omega
        · exact ih (by omega) found

theorem toList_insertIdxIfInBounds (sorted : Array Value) (place : Nat) (item : Value) :
    (sorted.insertIdxIfInBounds place item).toList = sorted.toList.insertIdx place item := by
  have given := List.insertIdxIfInBounds_toArray sorted.toList place item
  rw [Array.toArray_toList] at given
  rw [given]

theorem insertAll?_perm {less : Value → Value → Option Bool} {items : List Value}
    {sorted result : Array Value} (inserted : insertAll? less items sorted = some result) :
    result.toList.Perm (sorted.toList ++ items) := by
  induction items generalizing sorted with
  | nil =>
      cases inserted
      rw [List.append_nil]
  | cons item rest ih =>
      rw [insertAll?] at inserted
      split at inserted
      · cases inserted
      · rename_i place found
        have within : place ≤ sorted.toList.length := placeIn?_le (Nat.zero_le _) found
        have inner := ih inserted
        rw [toList_insertIdxIfInBounds] at inner
        have moved : (item :: sorted.toList ++ rest).Perm (sorted.toList ++ item :: rest) :=
          List.perm_middle.symm
        exact inner.trans (((List.perm_insertIdx item _ within).append_right rest).trans moved)

/-- Putting values in order neither drops nor repeats one, whatever the order is. -/
theorem sortBy?_perm {less : Value → Value → Option Bool} {items sorted : List Value}
    (found : sortBy? less items = some sorted) : sorted.Perm items := by
  unfold sortBy? at found
  cases split : firstRun? less items with
  | none =>
      rw [split] at found
      cases found
  | some parts =>
      obtain ⟨run, rest⟩ := parts
      rw [split, Option.bind_some] at found
      obtain ⟨result, inserted, same⟩ := Option.map_eq_some_iff.mp found
      rw [← same]
      exact (insertAll?_perm inserted).trans (firstRun?_perm split)

/-! ### Rows in the order of a key -/

def OrdersBy (less : Value → Value → Option Bool) (key : Value → Int)
    (among : Value → Prop) : Prop :=
  ∀ left right, among left → among right → less left right = some (decide (key left < key right))

section

variable {less : Value → Value → Option Bool} {key : Value → Int} {among : Value → Prop}

theorem splitRun_pairwise (ordered : OrdersBy less key among) {falling : Bool} {last : Value}
    {items run rest : List Value} (first : among last) (each : ∀ item ∈ items, among item)
    (split : splitRun less falling last items = some (run, rest)) :
    (last :: run).Pairwise fun left right => decide (key right < key left) = falling := by
  induction items generalizing last run with
  | nil =>
      cases split
      exact List.pairwise_singleton _ _
  | cons item others ih =>
      obtain ⟨here, later⟩ := List.forall_mem_cons.mp each
      rw [splitRun, ordered item last here first] at split
      dsimp only at split
      split at split
      · rename_i step
        cases inner : splitRun less falling item others with
        | none =>
            rw [inner] at split
            cases split
        | some parts =>
            rw [inner] at split
            cases split
            have below := ih here later inner
            refine List.pairwise_cons.mpr ⟨?_, below⟩
            refine List.forall_mem_cons.mpr ⟨step, fun value member => ?_⟩
            have behind := (List.pairwise_cons.mp below).1 value member
            cases falling with
            | true =>
                simp only [decide_eq_true_eq] at step behind ⊢
                omega
            | false =>
                simp only [decide_eq_false_iff_not] at step behind ⊢
                omega
      · cases split
        exact List.pairwise_singleton _ _

theorem firstRun?_pairwise (ordered : OrdersBy less key among) {items run rest : List Value}
    (each : ∀ item ∈ items, among item) (split : firstRun? less items = some (run, rest)) :
    run.Pairwise fun left right => key left ≤ key right := by
  unfold firstRun? at split
  split at split
  · rename_i first second others
    obtain ⟨here, next, later⟩ : among first ∧ among second ∧ ∀ item ∈ others, among item := by
      simpa only [List.forall_mem_cons] using each
    rw [ordered second first next here] at split
    dsimp only at split
    cases inner : splitRun less (decide (key second < key first)) second others with
    | none =>
        rw [inner] at split
        cases split
    | some parts =>
        obtain ⟨innerRun, innerRest⟩ := parts
        rw [inner] at split
        cases split
        have whole : splitRun less (decide (key second < key first)) first (second :: others) =
            some (second :: innerRun, innerRest) := by
          rw [splitRun, ordered second first next here]
          dsimp only
          rw [if_pos rfl, inner]
          rfl
        have chain := splitRun_pairwise ordered here (List.forall_mem_cons.mpr ⟨next, later⟩) whole
        split
        · rename_i falling
          refine List.pairwise_reverse.mpr (chain.imp fun step => ?_)
          simp only [falling, decide_eq_true_eq] at step
          omega
        · rename_i rising
          refine chain.imp fun step => ?_
          simp only [rising, decide_eq_false_iff_not] at step
          omega
  · rename_i short
    cases split
    match items with
    | [] => exact List.Pairwise.nil
    | [item] => exact List.pairwise_singleton _ _
    | first :: second :: others => exact absurd rfl (short first second others)

theorem key_le_key {sorted : Array Value}
    (rising : sorted.toList.Pairwise fun left right => key left ≤ key right) {first second : Nat}
    (before : first ≤ second) (within : second < sorted.size) :
    key sorted[first] ≤ key sorted[second] := by
  rcases Nat.eq_or_lt_of_le before with same | strictly
  · simp only [same, Int.le_refl]
  · exact List.pairwise_iff_getElem.mp rising first second
      (Nat.lt_trans strictly within) within strictly

/-- Halving finds the place behind all members that are not greater. -/
theorem placeIn?_bounds (ordered : OrdersBy less key among) {item : Value} {sorted : Array Value}
    (isAmong : among item) (each : ∀ value ∈ sorted.toList, among value)
    (rising : sorted.toList.Pairwise fun left right => key left ≤ key right)
    {steps low high place : Nat} (enough : high - low ≤ steps) (order : low ≤ high)
    (inside : high ≤ sorted.size)
    (below : ∀ index (within : index < sorted.size), index < low → key sorted[index] ≤ key item)
    (above : ∀ index (within : index < sorted.size), high ≤ index → key item < key sorted[index])
    (found : placeIn? less item sorted steps low high = some place) :
    (∀ index (within : index < sorted.size), index < place → key sorted[index] ≤ key item) ∧
      ∀ index (within : index < sorted.size), place ≤ index → key item < key sorted[index] := by
  induction steps generalizing low high with
  | zero =>
      cases found
      have same : high = place := by omega
      exact ⟨below, same ▸ above⟩
  | succ steps ih =>
      rw [placeIn?] at found
      split at found
      · cases found
        have same : high = place := by omega
        exact ⟨below, same ▸ above⟩
      · rename_i between
        have middle : low + (high - low) / 2 < sorted.size := by omega
        have compared := ordered item sorted[low + (high - low) / 2] isAmong
          (each _ (Array.getElem_mem_toList middle))
        dsimp only at found
        rw [Array.getD_eq_getD_getElem?, Array.getElem?_eq_getElem middle, Option.getD_some,
          compared] at found
        split at found
        · rename_i none_found
          cases none_found
        · rename_i smaller
          simp only [Option.some.injEq, decide_eq_true_eq] at smaller
          refine ih (by omega) (by omega) (by omega) below (fun index within behind => ?_) found
          exact Int.lt_of_lt_of_le smaller (key_le_key rising behind within)
        · rename_i notSmaller
          simp only [Option.some.injEq, decide_eq_false_iff_not] at notSmaller
          refine ih (by omega) (by omega) inside (fun index within before => ?_) above found
          have lower := key_le_key rising (Nat.le_of_lt_succ before) middle
          omega

theorem pairwise_insertIdx {related : Value → Value → Prop} {row : List Value} {item : Value}
    {place : Nat} (within : place ≤ row.length) (rows : row.Pairwise related)
    (before : ∀ value ∈ row.take place, related value item)
    (after : ∀ value ∈ row.drop place, related item value) :
    (row.insertIdx place item).Pairwise related := by
  induction row generalizing place with
  | nil =>
      have first : place = 0 := Nat.le_zero.mp within
      rw [first]
      exact List.pairwise_singleton _ _
  | cons first rest ih =>
      cases place with
      | zero => exact List.pairwise_cons.mpr ⟨after, rows⟩
      | succ place =>
          obtain ⟨behind, others⟩ := List.pairwise_cons.mp rows
          obtain ⟨here, earlier⟩ := List.forall_mem_cons.mp before
          rw [List.insertIdx_succ_cons]
          refine List.pairwise_cons.mpr
            ⟨fun value member => ?_, ih (Nat.le_of_succ_le_succ within) others earlier after⟩
          rcases List.eq_or_mem_of_mem_insertIdx member with isItem | isOther
          · rw [isItem]
            exact here
          · exact behind value isOther

theorem insertAll?_pairwise (ordered : OrdersBy less key among) {items : List Value}
    {sorted result : Array Value} (new : ∀ item ∈ items, among item)
    (each : ∀ value ∈ sorted.toList, among value)
    (rising : sorted.toList.Pairwise fun left right => key left ≤ key right)
    (inserted : insertAll? less items sorted = some result) :
    result.toList.Pairwise fun left right => key left ≤ key right := by
  induction items generalizing sorted with
  | nil =>
      cases inserted
      exact rising
  | cons item rest ih =>
      obtain ⟨here, later⟩ := List.forall_mem_cons.mp new
      rw [insertAll?] at inserted
      split at inserted
      · cases inserted
      · rename_i place found
        have within : place ≤ sorted.toList.length := placeIn?_le (Nat.zero_le _) found
        obtain ⟨below, above⟩ := placeIn?_bounds ordered here each rising (Nat.le_refl _)
          (Nat.zero_le _) (Nat.le_refl _)
          (fun index _ negative => absurd negative (Nat.not_lt_zero _))
          (fun index inside outside => absurd inside (Nat.not_lt.mpr outside)) found
        have put := toList_insertIdxIfInBounds sorted place item
        have size := sorted.length_toList
        refine ih later (fun value member => ?_) ?_ inserted
        · rw [put] at member
          rcases List.eq_or_mem_of_mem_insertIdx member with isItem | isOther
          · rw [isItem]
            exact here
          · exact each value isOther
        · rw [put]
          refine pairwise_insertIdx within rising (fun value member => ?_) (fun value member => ?_)
          · obtain ⟨index, bounded, same⟩ := List.mem_take_iff_getElem.mp member
            rw [← same]
            exact below index (by omega) (by omega)
          · obtain ⟨index, bounded, same⟩ := List.mem_drop_iff_getElem.mp member
            rw [← same]
            exact Int.le_of_lt (above (place + index) (by omega) (Nat.le_add_right _ _))

/-- Values that are put in order by a key rise by it. -/
theorem sortBy?_pairwise (ordered : OrdersBy less key among) {items sorted : List Value}
    (each : ∀ item ∈ items, among item) (found : sortBy? less items = some sorted) :
    sorted.Pairwise fun left right => key left ≤ key right := by
  unfold sortBy? at found
  cases split : firstRun? less items with
  | none =>
      rw [split] at found
      cases found
  | some parts =>
      obtain ⟨run, rest⟩ := parts
      rw [split, Option.bind_some] at found
      obtain ⟨result, inserted, same⟩ := Option.map_eq_some_iff.mp found
      have members := firstRun?_perm split
      rw [← same]
      refine insertAll?_pairwise ordered (fun item member => ?_) (fun item member => ?_)
        (firstRun?_pairwise ordered each split) inserted
      · exact each item (members.mem_iff.mp (List.mem_append_right _ member))
      · exact each item (members.mem_iff.mp (List.mem_append_left _ member))

end

/-! ### Whole numbers -/

/-- Whether a value is a number that is equal to an integer. Truth values are no numbers. -/
def IsInteger (number : Int) (value : Value) : Prop :=
  value = int number ∨ ∃ x, value = float x ∧ x.toInt? = some number

theorem toRat?_of_toInt? {x : Binary64} {number : Int} (whole : x.toInt? = some number) :
    x.toRat? = some (number : Rat) := by
  unfold Binary64.toInt? at whole
  cases exact : x.toRat? with
  | none =>
      rw [exact] at whole
      cases whole
  | some q =>
      rw [exact] at whole
      dsimp only at whole
      split at whole
      · rename_i noFraction
        have same : q.num = number := Option.some.inj whole
        exact congrArg some (Rat.ext (same.trans (Rat.num_intCast number).symm)
          (noFraction.trans (Rat.den_intCast number).symm))
      · cases whole

theorem magnitude_of_toInt? {x : Binary64} {number : Int} (whole : x.toInt? = some number) :
    x.magnitude = .exact number := by
  have exact := toRat?_of_toInt? whole
  cases x with
  | finite negative significand exponent =>
      change Magnitude.exact ((Binary64.finite negative significand exponent).toRat?.getD 0) = _
      rw [exact]
      rfl
  | infinite negative => cases exact
  | nan tag => cases exact

theorem IsInteger.wholeNumber? {number : Int} {value : Value} (whole : IsInteger number value) :
    value.wholeNumber? = some number := by
  rcases whole with isInt | ⟨x, isFloat, same⟩
  · rw [isInt]
    rfl
  · rw [isFloat]
    exact same

theorem IsInteger.magnitude? {number : Int} {value : Value} (whole : IsInteger number value) :
    value.magnitude? = some (.exact number) := by
  rcases whole with isInt | ⟨x, isFloat, same⟩
  · rw [isInt]
    rfl
  · rw [isFloat]
    exact congrArg some (magnitude_of_toInt? same)

theorem alike_of_isInteger {first second : Int} {left right : Value} (isLeft : IsInteger first left)
    (isRight : IsInteger second right) : alike left right = (first == second) := by
  have leftWhole := isLeft.wholeNumber?
  have rightWhole := isRight.wholeNumber?
  have compared : alike left right = sameNumber left right := by
    rcases isLeft with isInt | ⟨x, isFloat, _⟩
    · rcases isRight with isInt' | ⟨y, isFloat', _⟩
      · rw [isInt, isInt']
        rfl
      · rw [isInt, isFloat']
        rfl
    · rcases isRight with isInt' | ⟨y, isFloat', _⟩
      · rw [isFloat, isInt']
        rfl
      · rw [isFloat, isFloat']
        rfl
  rw [compared]
  unfold sameNumber
  rw [leftWhole, rightWhole]

theorem memberBefore?_of_isInteger {first second : Int} {left right : Value}
    (isLeft : IsInteger first left) (isRight : IsInteger second right) :
    memberBefore? left right = some (decide (first < second)) := by
  have leftPlace := isLeft.magnitude?
  have rightPlace := isRight.magnitude?
  have compared : memberBefore? left right = left.magnitude?.bind fun p =>
    right.magnitude?.map p.lt := by
    rcases isLeft with isInt | ⟨x, isFloat, _⟩
    · rcases isRight with isInt' | ⟨y, isFloat', _⟩
      · rw [isInt, isInt']
        rfl
      · rw [isInt, isFloat']
        rfl
    · rcases isRight with isInt' | ⟨y, isFloat', _⟩
      · rw [isFloat, isInt']
        rfl
      · rw [isFloat, isFloat']
        rfl
  rw [compared, leftPlace, rightPlace]
  simp only [Option.bind_some, Option.map_some, Magnitude.lt, Rat.intCast_lt_intCast]

def integerKey (value : Value) : Int := value.wholeNumber?.getD 0

theorem IsInteger.integerKey {number : Int} {value : Value} (whole : IsInteger number value) :
    value.integerKey = number := by
  rw [Value.integerKey, whole.wholeNumber?, Option.getD_some]

theorem ordersBy_integerKey : OrdersBy memberBefore? integerKey fun value =>
  ∃ number, IsInteger number value := by
  intro left right isLeft isRight
  obtain ⟨first, isFirst⟩ := isLeft
  obtain ⟨second, isSecond⟩ := isRight
  rw [memberBefore?_of_isInteger isFirst isSecond, isFirst.integerKey, isSecond.integerKey]

theorem alike_eq_integerKey {left right : Value} (isLeft : ∃ number, IsInteger number left)
    (isRight : ∃ number, IsInteger number right) :
    alike left right = (left.integerKey == right.integerKey) := by
  obtain ⟨first, isFirst⟩ := isLeft
  obtain ⟨second, isSecond⟩ := isRight
  rw [alike_of_isInteger isFirst isSecond, isFirst.integerKey, isSecond.integerKey]

theorem hasAlike_eq_false_iff {values : List Value}
    (whole : ∀ value ∈ values, ∃ number, IsInteger number value) :
    hasAlike values = false ↔ (values.map integerKey).Nodup := by
  induction values with
  | nil => exact iff_of_true rfl List.nodup_nil
  | cons first rest ih =>
      obtain ⟨here, later⟩ := List.forall_mem_cons.mp whole
      have fresh : (rest.any fun other => alike first other) = false ↔
          first.integerKey ∉ rest.map integerKey := by
        rw [List.any_eq_false, List.mem_map]
        constructor
        · rintro different ⟨other, member, same⟩
          refine different other member ?_
          rw [alike_eq_integerKey here (later other member), same, beq_self_eq_true]
        · intro absent other member equal
          rw [alike_eq_integerKey here (later other member), beq_iff_eq] at equal
          exact absent ⟨other, member, equal.symm⟩
      rw [hasAlike, Bool.or_eq_false_iff, fresh, ih later, List.map_cons, List.nodup_cons]

/-- In a row that rises, equal numbers stand side by side. -/
theorem hasAlikeNeighbours_eq_false_iff {values : List Value}
    (whole : ∀ value ∈ values, ∃ number, IsInteger number value)
    (rising : values.Pairwise fun left right => left.integerKey ≤ right.integerKey) :
    hasAlikeNeighbours values = false ↔ (values.map integerKey).Nodup := by
  induction values with
  | nil => exact iff_of_true rfl List.nodup_nil
  | cons first rest ih =>
      obtain ⟨here, later⟩ := List.forall_mem_cons.mp whole
      obtain ⟨least, risingRest⟩ := List.pairwise_cons.mp rising
      have below := ih later risingRest
      cases rest with
      | nil => exact iff_of_true rfl (List.nodup_singleton _)
      | cons second others =>
          have fresh : alike first second = false ↔
              first.integerKey ∉ (second :: others).map integerKey := by
            rw [alike_eq_integerKey here (later second List.mem_cons_self), beq_eq_false_iff_ne,
              List.mem_map]
            constructor
            · rintro different ⟨other, member, same⟩
              have bound := least second List.mem_cons_self
              rcases List.mem_cons.mp member with isSecond | isOther
              · exact different (isSecond ▸ same.symm)
              · have step := (List.pairwise_cons.mp risingRest).1 other isOther
                omega
            · intro absent same
              exact absent ⟨second, List.mem_cons_self, same.symm⟩
          rw [hasAlikeNeighbours, Bool.or_eq_false_iff, fresh, below]
          exact List.nodup_cons.symm

/-- The members of a list of whole numbers are distinct exactly if the numbers are. -/
theorem areDistinct_iff {items : List Value} {numbers : List Int}
    (rows : List.Forall₂ (fun item number => IsInteger number item) items numbers) :
    areDistinct items = true ↔ numbers.Nodup := by
  have whole : ∀ item ∈ items, ∃ number, IsInteger number item := by
    intro item member
    obtain ⟨number, _, isNumber⟩ := exists_right_of_forall₂ rows member
    exact ⟨number, isNumber⟩
  have keys : items.map integerKey = numbers := by
    have same := map_eq_map_of_forall₂ (g := id) rows fun item number isNumber =>
      isNumber.integerKey
    rw [same, List.map_id]
  unfold areDistinct
  cases found : sortBy? memberBefore? items with
  | none =>
      dsimp only
      rw [Bool.not_eq_true', hasAlike_eq_false_iff whole, keys]
  | some sorted =>
      have same := sortBy?_perm found
      have wholeSorted : ∀ item ∈ sorted, ∃ number, IsInteger number item := fun item member =>
        whole item (same.mem_iff.mp member)
      have rising := sortBy?_pairwise ordersBy_integerKey whole found
      dsimp only
      rw [Bool.not_eq_true', hasAlikeNeighbours_eq_false_iff wholeSorted rising,
        (same.map integerKey).nodup_iff, keys]

end Value
end TaskGraph
