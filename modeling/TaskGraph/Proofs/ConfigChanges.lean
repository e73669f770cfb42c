import TaskGraph.Proofs.Overlays
set_option autoImplicit false

/-! Rows of calls that change a configuration in place. The names stand in the order in which each
last came in, those that one call brought in together as it gave them: writing over a present name
never moves it, and a name that was removed comes back at the end. A read-only configuration refuses
every call and stays as it is. -/

namespace TaskGraph.Config

/-! ### Calls -/

inductive Source where
  | config (other : Config)
  | mapping (entries : List (Value × Value))

namespace Source

def toValue : Source → Value
  | config other => other.toValue
  | mapping entries => .mapping entries

def writes : Source → List (String × Value)
  | config other => other.fields
  | mapping entries => Value.normaliseEntries entries

/-- Whether the keys that copying from it brings to texts can be written. -/
def isWritable : Source → Bool
  | config _ => true
  | mapping entries => (Value.mapping entries).areKeysWritable

theorem writesOf_toValue (source : Source) :
    writesOf source.toValue = if source.isWritable then .ok source.writes else .error .tooLong := by
  cases source <;> rfl

def keys : Source → List String
  | config other => other.keys
  | mapping entries => entries.map (·.1.plainText)

theorem keys_writes (source : Source) : Fields.keys source.writes = source.keys := by
  cases source with
  | config other => rfl
  | mapping entries =>
      change Fields.keys (Value.normaliseEntries entries) = entries.map (·.1.plainText)
      rw [Value.normaliseEntries_eq_map, Fields.keys, List.map_map]
      rfl

end Source

/-- A call that changes a configuration in place. -/
inductive Change where
  | set (key : String) (value : Value)
  | remove (key : String)
  | setAll (source : Source)
  | setAllMissing (source : Source)

namespace Change

def apply (config : Config) : Change → Except Error Config
  | set key value => config.set key value
  | remove key => config.remove key
  | setAll source => config.copyAll source.toValue
  | setAllMissing source => config.copyMissing source.toValue

/-- Whether the keys that a call brings to texts can be written. -/
def isWritable : Change → Bool
  | set _ value => value.areKeysWritable
  | remove _ => true
  | setAll source => source.isWritable
  | setAllMissing source => source.isWritable

/-- The configuration after a call; a call that is refused leaves it as it was. -/
def after (config : Config) (change : Change) : Config :=
  match change.apply config with
  | .ok result => result
  | .error _ => config

/-- The names under which a call writes, in the order in which it gives them. -/
def named : Change → List String
  | set key _ => [key]
  | remove _ => []
  | setAll source => source.keys
  | setAllMissing source => source.keys

theorem apply_of_frozen {config : Config} (frozen : config.frozen = true) (change : Change) :
    change.apply config = .error (.readOnly config) := by
  have refused : config.mutable = .error (.readOnly config) := by rw [Config.mutable, if_pos frozen]
  cases change <;> simp only [apply, Config.set, Config.remove, copyAll, copyMissing, refused] <;>
    rfl

def result (config : Config) : Change → Config
  | set key value => config.put key value
  | remove key => config.erase key
  | setAll source => config.overlay source.writes
  | setAllMissing source => config.fill source.writes

theorem apply_of_mutable {config : Config} (mutable : config.frozen = false) (change : Change) :
    change.apply config =
      if change.isWritable then .ok (change.result config) else .error .tooLong := by
  have granted : config.mutable = .ok config := by rw [Config.mutable, mutable]; rfl
  cases change with
  | set key value =>
      rw [apply, Config.set, granted]
      rfl
  | remove key =>
      rw [apply, Config.remove, granted]
      rfl
  | setAll source =>
      rw [apply, copyAll_of_mutable mutable, source.writesOf_toValue, isWritable]
      split <;> rfl
  | setAllMissing source =>
      rw [apply, copyMissing_of_mutable mutable, source.writesOf_toValue, isWritable]
      split <;> rfl

theorem apply_of_isWritable {config : Config} (mutable : config.frozen = false) (change : Change)
    (writable : change.isWritable = true) : change.apply config = .ok (change.result config) := by
  rw [apply_of_mutable mutable, writable]
  rfl

theorem after_of_frozen {config : Config} (frozen : config.frozen = true) (change : Change) :
    change.after config = config := by
  rw [after, apply_of_frozen frozen]

theorem after_of_mutable {config : Config} (mutable : config.frozen = false) (change : Change) :
    change.after config = if change.isWritable then change.result config else config := by
  rw [after, apply_of_mutable mutable]
  cases change.isWritable <;> rfl

theorem keys_result_overlay (config : Config) (source : Source) :
    (result config (.setAll source)).keys = Fields.joinKeys config.keys source.keys.eraseDups := by
  rw [← source.keys_writes]
  exact (Fields.keys_overlay config.distinct source.writes).trans
    (Fields.eraseDups_append_eq config.distinct)

theorem keys_result_fill (config : Config) (source : Source) :
    (result config (.setAllMissing source)).keys = Fields.joinKeys config.keys
      source.keys.eraseDups := by
  rw [← source.keys_writes]
  exact (Fields.keys_fill config.distinct source.writes).trans
    (Fields.eraseDups_append_eq config.distinct)

theorem keys_result_set (config : Config) (key : String) (value : Value) :
    (result config (.set key value)).keys = Fields.joinKeys config.keys [key] := by
  have written : (result config (.set key value)).keys =
      if key ∈ config.keys then config.keys else config.keys ++ [key] :=
        Fields.keys_put key value.normalise config.fields
  rw [written, Fields.joinKeys]
  by_cases present : key ∈ config.keys <;> simp [present]

theorem keys_result_remove (config : Config) (key : String) :
    (result config (.remove key)).keys = config.keys.filter (· != key) :=
  Fields.keys_filter (· != key) config.fields

/-- All that a call does to names: some of them stay in their order, and behind them come some that
it gives and that were absent, in the order in which it gives them. -/
def Follows (given before after : List String) : Prop :=
  ∃ kept added, after = kept ++ added ∧ kept.Sublist before ∧ added.Sublist given.eraseDups ∧
    ∀ key ∈ added, key ∉ before

theorem follows_of_sublist {given before after : List String} (kept : after.Sublist before) :
    Follows given before after :=
  ⟨after, [], (List.append_nil _).symm, kept, List.nil_sublist _, List.forall_mem_nil _⟩

theorem follows_joinKeys (given before : List String) :
    Follows given before (Fields.joinKeys before given.eraseDups) := by
  refine ⟨before, _, rfl, List.Sublist.refl _, List.filter_sublist, ?_⟩
  intro key member
  simpa using (List.mem_filter.mp member).2

theorem follows_keys_result (config : Config) (change : Change) :
    Follows change.named config.keys (change.result config).keys := by
  cases change with
  | set key value =>
      rw [keys_result_set]
      exact follows_joinKeys [key] config.keys
  | remove key =>
      rw [keys_result_remove]
      exact follows_of_sublist List.filter_sublist
  | setAll source =>
      rw [keys_result_overlay]
      exact follows_joinKeys source.keys config.keys
  | setAllMissing source =>
      rw [keys_result_fill]
      exact follows_joinKeys source.keys config.keys

/-- A call has its result, or leaves the configuration as it was. -/
theorem after_eq_or (config : Config) (change : Change) :
    change.after config = change.result config ∨ change.after config = config := by
  cases frozen : config.frozen with
  | true => exact Or.inr (after_of_frozen frozen change)
  | false =>
      rw [after_of_mutable frozen]
      cases change.isWritable with
      | true => exact Or.inl rfl
      | false => exact Or.inr rfl

theorem keys_after (config : Config) (change : Change) :
    Follows change.named config.keys (change.after config).keys := by
  rcases after_eq_or config change with same | same
  · rw [same]
    exact follows_keys_result config change
  · rw [same]
    exact follows_of_sublist (List.Sublist.refl _)

theorem frozen_after (config : Config) (change : Change) :
    (change.after config).frozen = config.frozen := by
  rcases after_eq_or config change with same | same
  · rw [same]
    cases change <;> rfl
  · rw [same]

end Change

/-! ### Rows of calls -/

def afterAll (config : Config) (changes : List Change) : Config :=
  changes.foldl (fun config change => change.after config) config

theorem afterAll_append_singleton (config : Config) (changes : List Change) (change : Change) :
    config.afterAll (changes ++ [change]) = change.after (config.afterAll changes) := by
  rw [afterAll, List.foldl_append]
  rfl

theorem afterAll_of_frozen {config : Config} (frozen : config.frozen = true)
    (changes : List Change) :
    config.afterAll changes = config := by
  induction changes with
  | nil => rfl
  | cons change rest ih =>
      rw [afterAll, List.foldl_cons, change.after_of_frozen frozen, ← afterAll, ih]

theorem frozen_afterAll (config : Config) (changes : List Change) :
    (config.afterAll changes).frozen = config.frozen := by
  induction changes using List.reverseRecOn with
  | nil => rfl
  | append_singleton changes change ih => rw [afterAll_append_singleton, Change.frozen_after, ih]

/-- Whether a name came in last with a call of a row, counted from one: it was absent before that
call and has been present since. Zero stands for the names that have been present from the start. -/
structure CameIn (config : Config) (changes : List Change) (key : String) (count : Nat) : Prop where
  counted : count ≤ changes.length
  absent : ∀ earlier, earlier + 1 = count → key ∉ (config.afterAll (changes.take earlier)).keys
  present : ∀ later, count ≤ later → later ≤ changes.length →
    key ∈ (config.afterAll (changes.take later)).keys

def givenAt (config : Config) (changes : List Change) : Nat → List String
  | 0 => config.keys
  | count + 1 => (changes[count]?.map Change.named).getD []

theorem CameIn.unique {config : Config} {changes : List Change} {key : String} {count other : Nat}
    (came : config.CameIn changes key count) (cameOther : config.CameIn changes key other) :
    count = other := by
  -- Before the later of two calls the name is absent, and since the earlier one it has been
  -- present.
  have noEarlier {first second : Nat} (cameFirst : config.CameIn changes key first)
      (cameSecond : config.CameIn changes key second) : second ≤ first := by
    by_contra before
    have bound := cameSecond.counted
    obtain ⟨place, same⟩ := Nat.exists_eq_succ_of_ne_zero (Nat.ne_zero_of_lt (Nat.not_le.mp before))
    exact cameSecond.absent place same.symm (cameFirst.present place (by omega) (by omega))
  exact Nat.le_antisymm (noEarlier cameOther came) (noEarlier came cameOther)

section
variable {config : Config} {changes : List Change} {key : String} {count : Nat}

theorem CameIn.snoc (came : config.CameIn changes key count) {change : Change}
    (stays : key ∈ (config.afterAll (changes ++ [change])).keys) :
    config.CameIn (changes ++ [change]) key count where
  counted := by
    have bound := came.counted
    rw [List.length_append]
    omega
  absent := fun earlier isBefore => by
    have bound := came.counted
    rw [List.take_append_of_le_length (by omega)]
    exact came.absent earlier isBefore
  present := fun later since within => by
    rw [List.length_append, List.length_singleton] at within
    rcases Nat.le_or_eq_of_le_succ within with inside | last
    · rw [List.take_append_of_le_length inside]
      exact came.present later since inside
    · rw [List.take_of_length_le (by simp [last])]
      exact stays

theorem cameIn_last {change : Change} (absent : key ∉ (config.afterAll changes).keys)
    (present : key ∈ (config.afterAll (changes ++ [change])).keys) :
    config.CameIn (changes ++ [change]) key (changes.length + 1) where
  counted := by simp
  absent := fun earlier isBefore => by
    rw [List.take_append_of_le_length (by omega), List.take_of_length_le (by omega)]
    exact absent
  present := fun later since within => by
    rw [List.take_of_length_le (by simpa using since)]
    exact present

theorem cameIn_start (present : key ∈ config.keys) : config.CameIn [] key 0 where
  counted := Nat.le_refl _
  absent := nofun
  present := fun later _ _ => by
    rw [List.take_nil]
    exact present

theorem givenAt_snoc (counted : count ≤ changes.length) (change : Change) :
    config.givenAt (changes ++ [change]) count = config.givenAt changes count := by
  cases count with
  | zero => rfl
  | succ place => rw [givenAt, givenAt, List.getElem?_append_left counted]

theorem givenAt_last (change : Change) :
    config.givenAt (changes ++ [change]) (changes.length + 1) = change.named := by
  rw [givenAt, List.getElem?_concat_length]
  rfl

end

/-- Whether one name came in before another: with an earlier call,
or with the same one, which gives it first. -/
def CameBefore (config : Config) (changes : List Change) (first second : String) : Prop :=
  ∃ count other, config.CameIn changes first count ∧ config.CameIn changes second other ∧
    (count < other ∨ count = other ∧
      [first, second].Sublist (config.givenAt changes count).eraseDups)

section
variable {config : Config} {changes : List Change}

theorem CameBefore.snoc {first second : String} (before : config.CameBefore changes first second)
    {change : Change} (staysFirst : first ∈ (config.afterAll (changes ++ [change])).keys)
    (staysSecond : second ∈ (config.afterAll (changes ++ [change])).keys) :
    config.CameBefore (changes ++ [change]) first second := by
  obtain ⟨count, other, cameFirst, cameSecond, earlier⟩ := before
  refine ⟨count, other, cameFirst.snoc staysFirst, cameSecond.snoc staysSecond, ?_⟩
  rw [givenAt_snoc cameFirst.counted]
  exact earlier

/-- Names that came in together stand in the order in which they were given. -/
theorem pairwise_of_cameIn {names : List String} {count : Nat}
    (came : ∀ key ∈ names, config.CameIn changes key count)
    (inOrder : names.Sublist (config.givenAt changes count).eraseDups) :
    names.Pairwise (config.CameBefore changes) := by
  apply List.pairwise_iff_forall_sublist.mpr
  intro first second pair
  have cameFirst := came first (pair.subset (by simp))
  have cameSecond := came second (pair.subset (by simp))
  exact ⟨count, count, cameFirst, cameSecond, Or.inr ⟨rfl, pair.trans inOrder⟩⟩

end

/-- After every row of calls the names stand in the order in which they came in. -/
theorem pairwise_cameBefore (config : Config) (changes : List Change) :
    (∀ key ∈ (config.afterAll changes).keys, ∃ count, config.CameIn changes key count) ∧
      (config.afterAll changes).keys.Pairwise (config.CameBefore changes) := by
  induction changes using List.reverseRecOn with
  | nil =>
      have once : config.keys.eraseDups = config.keys := Fields.eraseDups_eq_self config.distinct
      have came : ∀ key ∈ config.keys, config.CameIn [] key 0 := fun key => cameIn_start
      refine ⟨fun key present => ⟨0, came key present⟩, pairwise_of_cameIn came ?_⟩
      rw [givenAt, once]
      exact List.Sublist.refl _
  | append_singleton changes change ih =>
      obtain ⟨arrived, ordered⟩ := ih
      obtain ⟨kept, added, shape, isKept, isAdded, fresh⟩ :=
        change.keys_after (config.afterAll changes)
      rw [← afterAll_append_singleton] at shape
      have stays : ∀ key ∈ kept, key ∈ (config.afterAll (changes ++ [change])).keys := by
        intro key member
        rw [shape]
        exact List.mem_append_left _ member
      have came : ∀ key ∈ kept, ∃ count ≤ changes.length,
          config.CameIn (changes ++ [change]) key count := by
        intro key member
        obtain ⟨count, here⟩ := arrived key (isKept.subset member)
        exact ⟨count, here.counted, here.snoc (stays key member)⟩
      have comes : ∀ key ∈ added, config.CameIn (changes ++ [change]) key (changes.length + 1) := by
        intro key member
        apply cameIn_last (fresh key member)
        rw [shape]
        exact List.mem_append_right _ member
      rw [shape]
      constructor
      · intro key member
        rcases List.mem_append.mp member with old | new
        · obtain ⟨count, _, here⟩ := came key old
          exact ⟨count, here⟩
        · exact ⟨_, comes key new⟩
      · apply List.pairwise_append.mpr
        refine ⟨?kept, ?added, ?between⟩
        case kept =>
          apply (ordered.sublist isKept).imp_of_mem
          intro first second memberFirst memberSecond before
          exact before.snoc (stays first memberFirst) (stays second memberSecond)
        case added =>
          apply pairwise_of_cameIn comes
          rw [givenAt_last]
          exact isAdded
        case between =>
          intro first old second new
          obtain ⟨count, within, here⟩ := came first old
          exact ⟨count, _, here, comes second new, Or.inl (by omega)⟩

/-- What a row of calls leaves of a configuration: which names are there and in which order, what
one more call does to them, and that a read-only configuration takes none of the calls. -/
structure KeepsOrder (config : Config) (changes : List Change) : Prop where
  distinct : (config.afterAll changes).keys.Nodup
  present : ∀ key, key ∈ (config.afterAll changes).keys ↔ (config.afterAll changes).get? key ≠ none
  came : ∀ key ∈ (config.afterAll changes).keys, ∃! count, config.CameIn changes key count
  ordered : (config.afterAll changes).keys.Pairwise (config.CameBefore changes)
  overwriting : config.frozen = false → ∀ key value, key ∈ (config.afterAll changes).keys →
    value.areKeysWritable = true → ∃ result, (config.afterAll changes).set key value = .ok result ∧
      result.keys = (config.afterAll changes).keys ∧ result.get? key = some value.normalise
  overlaying : config.frozen = false → ∀ source : Source, source.isWritable = true →
    ∃ copied filled, (config.afterAll changes).copyAll source.toValue = .ok copied ∧
      (config.afterAll changes).copyMissing source.toValue = .ok filled ∧
      copied.keys = Fields.joinKeys (config.afterAll changes).keys source.keys.eraseDups ∧
      filled.keys = copied.keys
  returning : config.frozen = false → ∀ key, ∃ removed,
    (config.afterAll changes).remove key = .ok removed ∧ ∀ value, value.areKeysWritable = true →
      ∃ result, removed.set key value = .ok result ∧
        result.keys = (config.afterAll changes).keys.filter (· != key) ++ [key]
  refused : config.frozen = false → ∀ change : Change, change.isWritable = false →
    change.apply (config.afterAll changes) = .error .tooLong ∧
      change.after (config.afterAll changes) = config.afterAll changes
  readOnly : config.frozen = true → config.afterAll changes = config ∧ ∀ change : Change, ∃ cause,
    change.apply (config.afterAll changes) = .error cause ∧ cause.message = "Config is read-only"

/-- Every row of calls on every configuration keeps the order. -/
theorem keepsOrder (config : Config) (changes : List Change) : config.KeepsOrder changes where
  distinct := (config.afterAll changes).distinct
  present := fun key => ((config.afterAll changes).get?_ne_none_iff key).symm
  came := fun key present => by
    obtain ⟨count, here⟩ := (config.pairwise_cameBefore changes).1 key present
    exact ⟨count, here, fun _ other => other.unique here⟩
  ordered := (config.pairwise_cameBefore changes).2
  overwriting := fun mutable key value present writable => by
    have granted := (config.frozen_afterAll changes).trans mutable
    refine ⟨_, Change.apply_of_isWritable granted (.set key value) writable, ?_, ?_⟩
    · rw [Change.keys_result_set, Fields.joinKeys_of_subset (List.forall_mem_singleton.mpr present)]
    · exact (Fields.get?_put key key _ _).trans (if_pos rfl)
  overlaying := fun mutable source writable => by
    have granted := (config.frozen_afterAll changes).trans mutable
    refine ⟨_, _, Change.apply_of_isWritable granted (.setAll source) writable,
      Change.apply_of_isWritable granted (.setAllMissing source) writable,
      Change.keys_result_overlay _ source, ?_⟩
    rw [Change.keys_result_fill, Change.keys_result_overlay]
  returning := fun mutable key => by
    have granted := (config.frozen_afterAll changes).trans mutable
    let removed := Change.result (config.afterAll changes) (.remove key)
    have stays : removed.frozen = false := granted
    have names : removed.keys = (config.afterAll changes).keys.filter (· != key) :=
      Change.keys_result_remove _ key
    refine ⟨removed, Change.apply_of_isWritable granted (.remove key) rfl, fun value writable => ?_⟩
    refine ⟨_, Change.apply_of_isWritable stays (.set key value) writable, ?_⟩
    rw [Change.keys_result_set, names, Fields.joinKeys]
    simp
  refused := fun mutable change unwritable => by
    have granted := (config.frozen_afterAll changes).trans mutable
    rw [Change.apply_of_mutable granted, Change.after_of_mutable granted, unwritable]
    exact ⟨rfl, rfl⟩
  readOnly := fun frozen => by
    rw [afterAll_of_frozen frozen]
    exact ⟨rfl, fun change => ⟨_, change.apply_of_frozen frozen, rfl⟩⟩

example : ((ofWrites [("retry", .null), ("pool", .null)]).afterAll
    [.remove "retry", .set "pool" (.int 1),
      .setAll (.mapping [(.text "queue", .null), (.text "retry", .int 2)])]).keys =
        ["pool", "queue", "retry"] := by decide +kernel

end TaskGraph.Config
