import TaskGraph.Proofs.BlockTokens
import TaskGraph.Proofs.ReaderFaults
import TaskGraph.Proofs.TextualNodes
set_option autoImplicit false

/-! The tree and the value of an outline. -/

namespace TaskGraph.Yaml

def Node.plain (word : List Char) : Node := .scalar (resolve word) word

theorem Node.plain_of_text {word : List Char} (isText : resolve word = .text) :
    Node.plain word = .scalar .text word := by
  rw [plain, isText]

def entryNodes (inner value key : List Char) : Node × Node :=
  (.plain key, .mapping .mapping [(.plain inner, .plain value)])

namespace Reader

def on (tokens : List Token) : Reader := ⟨tokens, [], [], standardHandles⟩

variable {rest : List Token} {word inner value key : List Char}

theorem part_scalar (steps : Nat) (word : List Char) (rest : List Token) :
    part (steps + 2) true true [.key, .value, .blockEnd] (on (.scalar word true :: rest)) = .ok
      (.plain word, on rest) :=
  rfl

/-- Without an anchor and a tag, a block mapping is read as its entries. -/
theorem node_blockMappingStart (steps : Nat) (bare : Bool) (rest : List Token) :
    node (steps + 2) true bare (on (.blockMappingStart :: rest)) =
      match (blockEntries steps (on rest)).map fun found =>
        (Node.mapping .mapping found.1, found.2) with
      | .error cause => .error cause
      | .ok (made, reader) => .ok (made, reader) := rfl

theorem node_mapping (steps : Nat) (bare : Bool) {entries : List (Node × Node)} {after : List Token}
    (read : blockEntries steps (on rest) = .ok (entries, on after)) :
    node (steps + 2) true bare (on (.blockMappingStart :: rest)) = .ok
      (.mapping .mapping entries, on after) := by
  rw [node_blockMappingStart, read]
  rfl

theorem part_blockMappingStart (steps : Nat) (rest : List Token) :
    part steps true true [.key, .value, .blockEnd] (on (.blockMappingStart :: rest)) =
      node steps true true (on (.blockMappingStart :: rest)) := rfl

theorem blockEntries_key (steps : Nat) (key : List Char) {value : Node} {tokens after : List Token}
    (reads : part (steps + 2) true true [.key, .value, .blockEnd] (on tokens) = .ok
      (value, on after)) :
    blockEntries (steps + 3) (on (.key :: .scalar key true :: .value :: tokens)) =
      (blockEntries (steps + 2) (on after)).map fun found =>
        ((.plain key, value) :: found.1, found.2) := by
  have valued : valueAfter (steps + 2) true true [.key, .value, .blockEnd] (on (.value :: tokens)) =
      .ok (value, on after) :=
    reads
  have here : (on (.key :: .scalar key true :: .value :: tokens)).peek = .key := rfl
  have next : (on (.key :: .scalar key true :: .value :: tokens)).next = on
      (.scalar key true :: .value :: tokens) := rfl
  rw [blockEntries_succ, here]
  dsimp only
  rw [next, part_scalar]
  dsimp only
  rw [valued]

theorem blockEntries_end (steps : Nat) (rest : List Token) :
    blockEntries (steps + 1) (on (.blockEnd :: rest)) = .ok ([], on rest) := rfl

/-- The entries of an outline are read up to the end of its block. -/
theorem blockEntries_outline (keys : List (List Char)) (steps : Nat) (rest : List Token) :
    blockEntries (keys.length + steps + 7)
      (on (keys.flatMap (entryTokens inner value) ++ .blockEnd :: rest)) =
      .ok (keys.map (entryNodes inner value), on rest) := by
  induction keys generalizing steps with
  | nil => exact blockEntries_end _ _
  | cons key others ih =>
      have below (more : List Token) : part (others.length + steps + 7) true true
          [.key, .value, .blockEnd]
          (on (.blockMappingStart :: .key :: .scalar inner true :: .value ::
            .scalar value true :: .blockEnd :: more)) =
          .ok (.mapping .mapping [(.plain inner, .plain value)], on more) := by
        rw [part_blockMappingStart]
        refine node_mapping (others.length + steps + 5) true ?_
        rw [blockEntries_key (others.length + steps + 2) inner (part_scalar _ _ _),
          blockEntries_end]
        rfl
      -- An entry takes one step of the bound, and what is nested in it gets by with the seven left
      -- over.
      have entry := blockEntries_key (others.length + steps + 5) key
        (below (others.flatMap (entryTokens inner value) ++ .blockEnd :: rest))
      have count : (key :: others).length + steps + 7 = others.length + steps + 5 + 3 := by
        rw [List.length_cons]
        omega
      rw [count]
      refine entry.trans ?_
      rw [ih steps]
      rfl

/-- The document of an outline, if it has entries. -/
theorem document_outline {keys : List (List Char)} (some_ : keys ≠ []) {steps : Nat}
    (enough : keys.length + 9 ≤ steps) :
    document steps ⟨outlineTokens inner value keys, [], [], []⟩ =
      .ok (some (.mapping .mapping (keys.map (entryNodes inner value)))) := by
  obtain ⟨spare, rfl⟩ : ∃ spare, steps = keys.length + spare + 7 + 2 :=
    ⟨steps - (keys.length + 9), by omega⟩
  have tokens : outlineTokens inner value keys =
      .blockMappingStart :: (keys.flatMap (entryTokens inner value) ++ [.blockEnd, .streamEnd]) :=
    if_neg (by simpa using some_)
  have read : node (keys.length + spare + 7 + 2) true false (on (.blockMappingStart ::
      (keys.flatMap (entryTokens inner value) ++ [.blockEnd, .streamEnd]))) =
      .ok (.mapping .mapping (keys.map (entryNodes inner value)), on [.streamEnd]) :=
    node_mapping _ false (blockEntries_outline keys spare [.streamEnd])
  have last : lastDocument (keys.length + spare + 7 + 2) (on (.blockMappingStart ::
      (keys.flatMap (entryTokens inner value) ++ [.blockEnd, .streamEnd]))) =
      .ok (.mapping .mapping (keys.map (entryNodes inner value))) := by
    rw [lastDocument, read]
    rfl
  rw [tokens, document_eq]
  change (lastDocument (keys.length + spare + 7 + 2) (on (.blockMappingStart ::
    (keys.flatMap (entryTokens inner value) ++ [.blockEnd, .streamEnd])))).map some = _
  rw [last]
  rfl

end Reader

/-! ### The tree of a text -/

theorem length_flatMap_entryTokens (inner value : List Char) (keys : List (List Char)) :
    (keys.flatMap (entryTokens inner value)).length = 9 * keys.length := by
  induction keys with
  | nil => rfl
  | cons key rest ih =>
      have nine : (entryTokens inner value key).length = 9 := rfl
      rw [List.flatMap_cons, List.length_append, nine, ih, List.length_cons]
      omega

variable {inner value : List Char} (plainInner : PlainWord inner) (plainValue : PlainWord value)
  (shortInner : inner.length ≤ 1024) (width : Nat)
include plainInner plainValue shortInner

/-- The text of an outline is read as a mapping of mappings;
without entries it holds no document. -/
theorem nodeOf_outlineText {keys : List (List Char)}
    (plainKeys : ∀ key ∈ keys, PlainWord key ∧ key.length ≤ 1024) :
    nodeOf (outlineText width inner value keys) =
      .ok (if keys.isEmpty then none
        else some (.mapping .mapping (keys.map (entryNodes inner value)))) := by
  unfold nodeOf
  rw [tokensOf_outlineText plainInner plainValue shortInner width plainKeys]
  dsimp only
  cases keys with
  | nil => rfl
  | cons key rest =>
      have many : (outlineTokens inner value (key :: rest)).length = 9 *
          (key :: rest).length + 3 := by
        change (((key :: rest).flatMap (entryTokens inner value)) ++
          [Token.blockEnd, .streamEnd]).length + 1 = _
        rw [List.length_append, length_flatMap_entryTokens]
        rfl
      have some_ : (key :: rest).length = rest.length + 1 := rfl
      rw [Reader.document_outline (List.cons_ne_nil key rest) (by omega)]
      rfl

/-! ### The value of a text -/

omit plainInner plainValue shortInner

theorem two_le_depth_outline {keys : List (List Char)} (some_ : keys ≠ []) :
    2 ≤ (Node.mapping .mapping (keys.map (entryNodes inner value))).depth := by
  cases keys with
  | nil => exact absurd rfl some_
  | cons key rest =>
      rw [List.map_cons, entryNodes, Node.depth, Node.depthEntries, Node.depth]
      omega

variable (textInner : resolve inner = .text) (textValue : resolve value = .text)
include textInner textValue

theorem isTextual_outline {keys : List (List Char)} (textKeys : ∀ key ∈ keys, resolve key = .text) :
    (Node.mapping .mapping (keys.map (entryNodes inner value))).IsTextual := by
  refine .mapping (List.forall_mem_map.mpr fun key member =>
    ⟨key, Node.plain_of_text (textKeys key member)⟩) (List.forall_mem_map.mpr fun key member => ?_)
  rw [entryNodes, Node.plain_of_text textInner, Node.plain_of_text textValue]
  exact .mapping (List.forall_mem_singleton.mpr ⟨inner, rfl⟩)
    (List.forall_mem_singleton.mpr (.scalar value))

def outlineFields (inner value : List Char) (keys : List (List Char)) : Fields Value :=
  keys.map fun key => (String.ofList key,
    .ofFields [(String.ofList inner, .text (String.ofList value))])

theorem valueAt_entryNodes (levels : Nat) {key : List Char} (textKey : resolve key = .text) :
    ((entryNodes inner value key).1.valueAt (levels + 1),
      (entryNodes inner value key).2.valueAt (levels + 1)) =
      (Value.text (String.ofList key),
        Value.ofFields [(String.ofList inner, .text (String.ofList value))]) := by
  rw [entryNodes, Node.plain_of_text textKey, Node.plain_of_text textInner,
    Node.plain_of_text textValue, Node.valueAt_text,
    Node.valueAt_mapping _ (List.forall_mem_singleton.mpr ⟨inner, rfl⟩), List.map_singleton,
    Node.valueAt_text, Node.valueAt_text]
  rfl

/-- Where the words of an outline are texts and its keys differ,
its text has the value that it shows. -/
theorem load_outlineText (plainInner : PlainWord inner) (plainValue : PlainWord value)
    (shortInner : inner.length ≤ 1024) (width : Nat) {keys : List (List Char)}
    (plainKeys : ∀ key ∈ keys, PlainWord key ∧ key.length ≤ 1024)
    (textKeys : ∀ key ∈ keys, resolve key = .text) (distinct : keys.Nodup) :
    load (outlineText width inner value keys) =
      .ok (if keys.isEmpty then .null else .ofFields (outlineFields inner value keys)) := by
  unfold load
  rw [nodeOf_outlineText plainInner plainValue shortInner width plainKeys]
  cases shape : keys with
  | nil => rfl
  | cons key rest =>
      rw [← shape]
      have some_ : keys ≠ [] := shape ▸ List.cons_ne_nil key rest
      have filled : ¬keys.isEmpty = true := by simpa using some_
      obtain ⟨levels, depth⟩ : ∃ levels,
          (Node.mapping .mapping (keys.map (entryNodes inner value))).depth + 1 = levels + 3 :=
        ⟨_, (Nat.sub_add_cancel (Nat.succ_le_succ (two_le_depth_outline some_))).symm⟩
      have names : (outlineFields inner value keys).Distinct := by
        rw [Fields.Distinct, Fields.keys, outlineFields, List.map_map]
        exact List.Pairwise.map _
          (fun _ _ differ same => differ (String.ofList_injective same)) distinct
      have texts : ∀ entry ∈ keys.map (entryNodes inner value), ∃ content,
          entry.1 = .scalar .text content :=
        List.forall_mem_map.mpr fun key member => ⟨key, Node.plain_of_text (textKeys key member)⟩
      have entries : (keys.map (entryNodes inner value)).map (fun entry =>
          (entry.1.valueAt (levels + 2), entry.2.valueAt (levels + 2))) =
          Value.entriesOf (outlineFields inner value keys) := by
        rw [outlineFields, Value.entriesOf, List.map_map, List.map_map]
        exact List.map_congr_left fun key member =>
          valueAt_entryNodes textInner textValue _ (textKeys key member)
      rw [if_neg filled, if_neg filled]
      dsimp only
      rw [Node.value_of_isTextual (isTextual_outline textInner textValue textKeys),
        depth, Node.valueAt_mapping _ texts, entries, Value.collectEntries_entriesOf names]
      rfl

end TaskGraph.Yaml
