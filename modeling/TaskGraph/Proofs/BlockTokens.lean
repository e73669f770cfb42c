import TaskGraph.Proofs.PlainWords
set_option autoImplicit false

/-! The tokens of an outline: a block mapping of words, each with a block mapping of one entry below
it. The scanner reads an entry in five steps, two for each key and one for the word at the end, and
closes the inner block when the next line begins further out. -/

namespace TaskGraph.Yaml

/-- An entry of an outline: a key and, further in on the next line, an entry of one line. -/
def entryText (width : Nat) (inner value key : List Char) : List Char :=
  key ++ ':' :: '\n' :: (List.replicate (width + 1) ' ' ++
    (inner ++ ':' :: ' ' :: (value ++ ['\n'])))

def entryTokens (inner value key : List Char) : List Token :=
  [.key, .scalar key true, .value, .blockMappingStart, .key, .scalar inner true,
    .value, .scalar value true, .blockEnd]

namespace Lexer

open Cursor

def inBlocks (place : Cursor) (indent : Int) (outer : List Int) (allowed : Bool)
    (tokens : List Token) : Lexer :=
  ⟨place, 0, indent, outer, allowed, [], tokens, tokens.length⟩

variable {place : Cursor} {indent : Int} {outer : List Int} {allowed : Bool} {tokens : List Token}
variable {word rest : List Char} {index line column : Nat}

def Settles (lexer ready : Lexer) : Prop :=
  ∃ kept, (lexer.skipToToken (lexer.place.size + 1)).dropStale = .ok kept ∧
    kept.unwind kept.place.column = ready

theorem run_step {lexer ready after : Lexer} (settles : lexer.Settles ready) {c : Char}
    (here : ready.place.peek = some c) (reads : ready.readToken c = .ok after) (steps : Nat) :
    run (steps + 1) lexer = run steps after := by
  obtain ⟨kept, keeps, closes⟩ := settles
  rw [run, keeps]
  dsimp only
  rw [closes, here]
  dsimp only
  rw [reads]

theorem unwind_of_le {lexer : Lexer} {bound : Int} (within : lexer.indent ≤ bound) :
    lexer.unwind bound = lexer := by
  unfold unwind
  split
  · cases shape : lexer.outerIndents with
    | nil => rfl
    | cons outer others => rw [closeBlocks, if_neg (Int.not_lt.mpr within)]
  · rfl

/-! ### Between tokens -/

theorem skipToToken_spaces (stops : Stops rest) (count steps : Nat) {lexer : Lexer}
    (here : lexer.place = before (List.replicate count ' ' ++ rest) index line column) :
    lexer.skipToToken (steps + 1) =
      { lexer with place := before rest (index + count) line (column + count) } := by
  have shown : ¬((before rest (index + count) line (column + count)).peek == some '#') = true := by
    cases rest with
    | nil => exact Bool.false_ne_true
    | cons c more => simpa [peek, before, renumber, Cursor.start] using (stops c more rfl).2.1
  have inline : (before rest (index + count) line (column + count)).lineBreak? = none :=
    lineBreak?_of_not fun c more same => (stops c more same).2.2
  rw [skipToToken, here, skipSpaces_before stops, if_neg shown, inline]

/-- Where a token comes next there is nothing to skip. -/
theorem skipToToken_stay (stops : Stops rest) (steps : Nat) {lexer : Lexer}
    (here : lexer.place = before rest index line column) :
    lexer.skipToToken (steps + 1) = lexer := by
  rw [skipToToken_spaces stops 0 steps here, Nat.add_zero, Nat.add_zero, ← here]

theorem skipToToken_feed (steps : Nat) {lexer : Lexer}
    (here : lexer.place = before ('\n' :: rest) index line column) :
    lexer.skipToToken (steps + 1) =
      skipToToken steps { lexer with
        place := before rest (index + 1) (line + 1) 0, keyAllowed :=
  lexer.keyAllowed || lexer.flowLevel = 0 } := by
  have stay : (before ('\n' :: rest) index line column).skipSpaces = before
      ('\n' :: rest) index line column :=
    skipWhile_of_not fun c more same => (List.cons.inj same).1 ▸ rfl
  have shown : ¬((before ('\n' :: rest) index line column).peek == some '#') = true :=
    Bool.false_ne_true
  rw [skipToToken, here, stay, if_neg shown, lineBreak?_feed]

/-! ### Words -/

theorem readToken_word {c : Char} (opens : opensWord c = true) (lexer : Lexer) :
    lexer.readToken c = lexer.plain := by
  have begins (inFlow : Bool) (after : Option Char) : beginsPlain inFlow c after = true := by
    have notBlank := ((inWord_iff c).mp (inWord_of_opensWord opens)).2.1
    rw [opensWord, Bool.and_eq_true, Bool.not_eq_true'] at opens
    rw [beginsPlain, notBlank, opens.2]
    rfl
  have differs (d : Char) (closed : opensWord d = false) : c ≠ d := ne_of_opensWord opens closed
  unfold readToken
  simp only [differs '%' rfl, differs '-' rfl, differs '.' rfl, differs '[' rfl,
    differs '\x7b' rfl, differs ']' rfl, differs '\x7d' rfl, differs ',' rfl, differs '?' rfl,
    differs ':' rfl, differs '*' rfl, differs '&' rfl, differs '!' rfl, differs '|' rfl,
    differs '>' rfl, differs '\'' rfl, differs '"' rfl, begins, decide_false, Bool.false_and,
    Bool.false_eq_true, if_false, if_true]

/-- A key that has begun and is not too far back can still become one. -/
theorem dropStale_of_fresh {lexer : Lexer} {candidate : KeyCandidate}
    (only : lexer.candidates = [(0, candidate)]) (sameLine : candidate.line = lexer.place.line)
    (near : lexer.place.index - candidate.index ≤ 1024) :
    lexer.dropStale = .ok lexer := by
  have fresh : isStale lexer.place candidate = false := by
    simp [isStale, sameLine, near]
  unfold dropStale
  rw [only]
  simp only [List.any_cons, List.any_nil, fresh, Bool.false_and, Bool.or_false,
    if_neg Bool.false_ne_true, List.filter_cons, List.filter_nil, Bool.not_false, if_true]
  rw [← only]

theorem readToken_colon {lexer : Lexer} (outside : lexer.flowLevel = 0)
    (blank : atBlank (lexer.place.peekAt 1) = true) :
    lexer.readToken ':' = lexer.valueMark := by
  unfold readToken
  simp [outside, blank]

/-! ### Keys -/

/-- The columns of the blocks around what stands at a column,
which opens a block if it stands further in. -/
def outerAt (column : Nat) (indent : Int) (outer : List Int) : List Int :=
  if indent < column then indent :: outer else outer

def keyTokens (column : Nat) (indent : Int) (word : List Char) (tokens : List Token) : List Token :=
  .value :: .scalar word true :: .key :: if indent < column then
    .blockMappingStart :: tokens else tokens

def atColon (rest word : List Char) (index line column : Nat) (indent : Int) (outer : List Int)
    (tokens : List Token) :
    Lexer :=
  ⟨before (':' :: rest) (index + word.length) line (column + word.length), 0, indent, outer, false,
    [(0, ⟨tokens.length, indent = column, index, line, column⟩)], .scalar word true :: tokens,
      tokens.length + 1⟩

theorem plain_key (plain : PlainWord word) {c : Char} (blank : atBlank (some c) = true) :
    (inBlocks (before (word ++ ':' :: c :: rest) index line column) indent outer true
        tokens).plain =
      .ok (atColon (c :: rest) word index line column indent outer tokens) := by
  have step : (inBlocks (before (word ++ ':' :: c :: rest) index line column) indent
      outer true tokens).plain =
      let read := plainText false (indent + 1) ((word ++ ':' :: c :: rest).length + 1) []
        (before (word ++ ':' :: c :: rest) index line column)
      .ok ⟨read.place, 0, indent, outer, read.broken,
        [(0, ⟨tokens.length, indent = column, index, line, column⟩)],
        .scalar read.content true :: tokens, tokens.length + 1⟩ := rfl
  rw [step, plainText_key plain _ _ blank]
  rfl

theorem valueMark_atColon (within : indent ≤ column) :
    (atColon rest word index line column indent outer tokens).valueMark =
      .ok (inBlocks (before rest (index + word.length + 1) line (column + word.length + 1)) column
        (outerAt column indent outer) false (keyTokens column indent word tokens)) := by
  have passed : (before (':' :: rest) (index + word.length) line (column + word.length)).next =
      before rest (index + word.length + 1) line (column + word.length + 1) :=
        next_before (by decide) (by decide)
  have one : tokens.length + 1 - tokens.length = 1 := Nat.add_sub_cancel_left _ _
  have two : tokens.length + 1 + 1 - tokens.length = 2 := by omega
  unfold valueMark atColon
  simp only [List.lookup_cons_self, List.filter, emitAt, openBlock, one, two, List.take, List.drop]
  by_cases inner : indent < column
  · simp [inner, outerAt, keyTokens, allowKey, skip, Cursor.skip, passed, emit, inBlocks]
  · have same : indent = column := by omega
    simp [same, outerAt, keyTokens, allowKey, skip, Cursor.skip, passed, emit, inBlocks]

theorem settles_atColon (within : indent ≤ column) (short : word.length ≤ 1024) :
    (atColon rest word index line column indent outer tokens).Settles
      (atColon rest word index line column indent outer tokens) := by
  refine ⟨atColon rest word index line column indent outer tokens, ?_, unwind_of_le ?_⟩
  · rw [skipToToken_stay (stops_colon rest) _ rfl]
    refine dropStale_of_fresh rfl rfl ?_
    change index + word.length - index ≤ 1024
    omega
  · change indent ≤ ((column + word.length : Nat) : Int)
    omega

/-- A key and its colon are read in two steps, if the key is not too long. -/
theorem run_key {lexer : Lexer} {c : Char}
    (settles : lexer.Settles (inBlocks (before (word ++ ':' :: c :: rest) index line column)
      indent outer true tokens))
    (plain : PlainWord word) (short : word.length ≤ 1024) (blank : atBlank (some c) = true)
    (within : indent ≤ column) (steps : Nat) :
    run (steps + 2) lexer =
      run steps (inBlocks (before (c :: rest) (index + word.length + 1) line
        (column + word.length + 1)) column
        (outerAt column indent outer) false (keyTokens column indent word tokens)) := by
  obtain ⟨first, others, shape, opens⟩ := plain.opens
  have here : (before (word ++ ':' :: c :: rest) index line column).peek = some first := by
    rw [shape]
    rfl
  have colon : (atColon (c :: rest) word index line column indent outer tokens).readToken ':' =
      .ok (inBlocks (before (c :: rest) (index + word.length + 1) line (column + word.length + 1))
        column (outerAt column indent outer) false (keyTokens column indent word tokens)) := by
    have after : (atColon (c :: rest) word index line column indent outer tokens).place.peekAt 1 =
        some c := rfl
    exact (readToken_colon rfl (after ▸ blank)).trans (valueMark_atColon within)
  rw [run_step settles here ((readToken_word opens _).trans (plain_key plain blank)),
    run_step (settles_atColon within short) rfl colon]

/-! ### Entries -/

/-- A word at the end of a line is read in one step, and a key may begin the next line. -/
theorem run_line {lexer : Lexer}
    (settles : lexer.Settles (inBlocks (before (word ++ '\n' :: rest) index line column)
      indent outer false tokens))
    (plain : PlainWord word) (further : 0 ≤ indent) (begins : BeginsWord rest) (steps : Nat) :
    run (steps + 1) lexer =
      run steps (inBlocks (before rest (index + word.length + 1) (line + 1) 0) indent outer true
        (.scalar word true :: tokens)) := by
  obtain ⟨first, others, shape, opens⟩ := plain.opens
  have here : (before (word ++ '\n' :: rest) index line column).peek = some first := by
    rw [shape]
    rfl
  have step : (inBlocks (before (word ++ '\n' :: rest) index line column) indent
      outer false tokens).plain =
      let read := plainText false (indent + 1) ((word ++ '\n' :: rest).length + 1) []
        (before (word ++ '\n' :: rest) index line column)
      .ok ⟨read.place, 0, indent, outer, read.broken, [], .scalar read.content true :: tokens,
        tokens.length + 1⟩ := rfl
  refine run_step settles here ?_ steps
  rw [readToken_word opens, step, plainText_line plain _ (by omega) begins]
  rfl

variable {width : Nat} {inner value key more : List Char}

theorem entryText_append (width : Nat) (inner value key more : List Char) :
    entryText width inner value key ++ more =
    key ++ ':' :: '\n' :: (List.replicate (width + 1) ' ' ++
      (inner ++ ':' :: ' ' :: (value ++ '\n' :: more))) := by
  simp [entryText]

theorem settles_further (begins : BeginsWord rest) (further : indent ≤ (width + 1 : Nat)) :
    (inBlocks (before ('\n' :: (List.replicate (width + 1) ' ' ++ rest)) index line column)
      indent outer false
        tokens).Settles
      (inBlocks (before rest (index + 1 + (width + 1)) (line + 1) (width + 1)) indent
        outer true tokens) := by
  refine ⟨_, ?_, unwind_of_le further⟩
  -- What follows the line gets a name, so that the bound of steps stays a sum.
  generalize indented : List.replicate (width + 1) ' ' ++ rest = below
  have feed : (inBlocks (before ('\n' :: below) index line column) indent outer false
      tokens).skipToToken
        (below.length + 1 + 1) =
      (inBlocks (before below (index + 1) (line + 1) 0) indent outer true tokens).skipToToken
        (below.length + 1) :=
    skipToToken_feed _ rfl
  have spaces : (inBlocks (before below (index + 1) (line + 1) 0) indent outer true
      tokens).skipToToken (below.length + 1) =
      inBlocks (before rest (index + 1 + (width + 1)) (line + 1) (0 + (width + 1)))
        indent outer true tokens := by
    rw [← indented]
    exact skipToToken_spaces (stops_of_beginsWord begins) (width + 1) _ rfl
  rw [Nat.zero_add] at spaces
  change ((inBlocks (before ('\n' :: below) index line column) indent outer false
    tokens).skipToToken (below.length + 1 + 1)).dropStale = _
  rw [feed, spaces]
  rfl

theorem settles_beside (begins : BeginsWord rest) (within : indent ≤ column) :
    (inBlocks (before (' ' :: rest) index line column) indent outer false tokens).Settles
      (inBlocks (before rest (index + 1) line (column + 1)) indent outer false tokens) := by
  have further : indent ≤ ((column + 1 : Nat) : Int) := by omega
  refine ⟨_, ?_, unwind_of_le further⟩
  have space : (inBlocks (before (' ' :: rest) index line column) indent outer false
      tokens).skipToToken
        (rest.length + 1 + 1) =
      inBlocks (before rest (index + 1) line (column + 1)) indent outer false tokens :=
    skipToToken_spaces (stops_of_beginsWord begins) 1 _ rfl
  change ((inBlocks (before (' ' :: rest) index line column) indent outer false tokens).skipToToken
    (rest.length + 1 + 1)).dropStale = _
  rw [space]
  rfl

/-- An entry is read in five steps. -/
theorem run_entry {lexer : Lexer}
    (settles : lexer.Settles
      (inBlocks (before (entryText width inner value key ++ more) index line 0) indent
        outer true tokens))
    (plainKey : PlainWord key) (plainInner : PlainWord inner) (plainValue : PlainWord value)
    (shortKey : key.length ≤ 1024) (shortInner : inner.length ≤ 1024) (within : indent ≤ 0)
    (begins : BeginsWord more) (steps : Nat) :
    ∃ after, run (steps + 5) lexer =
      run steps (inBlocks (before more after (line + 2) 0) (width + 1 : Nat)
        (0 :: outerAt 0 indent outer) true
        (.scalar value true :: keyTokens (width + 1) 0 inner (keyTokens 0 indent key tokens))) := by
  have opened : outerAt (width + 1) (0 : Nat) (outerAt 0 indent outer) = 0 ::
      outerAt 0 indent outer :=
    if_pos (Int.natCast_pos.mpr (Nat.succ_pos width))
  have further : ((0 : Nat) : Int) ≤ (width + 1 : Nat) := Int.natCast_nonneg _
  rw [entryText_append] at settles
  rw [run_key settles plainKey shortKey rfl within (steps + 1 + 2),
    run_key (settles_further (plainInner.beginsWord _) further) plainInner shortInner rfl further
      (steps + 1),
    run_line (settles_beside (plainValue.beginsWord _) (by omega)) plainValue
      (Int.natCast_nonneg _) begins steps, opened]
  exact ⟨_, rfl⟩

/-! ### Outlines -/

/-- After an entry the inner block is closed at the next one. -/
theorem settles_entry (begins : BeginsWord rest) :
    (inBlocks (before rest index line 0) (width + 1 : Nat) [0, -1] true tokens).Settles
      (inBlocks (before rest index line 0) 0 [-1] true (.blockEnd :: tokens)) := by
  refine ⟨inBlocks (before rest index line 0) (width + 1 : Nat) [0, -1] true tokens, ?_, ?_⟩
  · rw [skipToToken_stay (stops_of_beginsWord begins) _ rfl]
    rfl
  · have closes : (0 : Int) < (width + 1 : Nat) := Int.natCast_pos.mpr (Nat.succ_pos width)
    change closeBlocks 0 [0, -1] _ = _
    rw [closeBlocks]
    exact if_pos closes

theorem run_end (index line width : Nat) (tokens : List Token) (steps : Nat) :
    run (steps + 1) (inBlocks (before [] index line 0) (width + 1 : Nat) [0, -1] true tokens) =
      tokens.reverse ++ [.blockEnd, .blockEnd, .streamEnd] := by
  obtain ⟨kept, keeps, closes⟩ :
      (inBlocks (before [] index line 0) (width + 1 : Nat) [0, -1] true tokens).Settles
    (inBlocks (before [] index line 0) 0 [-1] true (.blockEnd :: tokens)) := settles_entry .nil
  rw [run, keeps]
  dsimp only
  rw [closes]
  change (Token.streamEnd :: .blockEnd :: .blockEnd :: tokens).reverse = _
  simp

theorem beginsWord_outline {keys : List (List Char)}
    (plainKeys : ∀ key ∈ keys, PlainWord key ∧ key.length ≤ 1024) :
    BeginsWord (keys.flatMap (entryText width inner value)) := by
  cases keys with
  | nil => exact .nil
  | cons key rest =>
      rw [List.flatMap_cons, entryText_append]
      exact (plainKeys key List.mem_cons_self).1.beginsWord _

/-- The tokens up to the end of an entry, in the order in which they were added. -/
theorem reverse_entry (width : Nat) (inner value key : List Char) (tokens : List Token) :
    (Token.scalar value true :: keyTokens (width + 1) 0 inner (keyTokens 0 0 key tokens)).reverse ++
        [.blockEnd] =
      tokens.reverse ++ entryTokens inner value key := by
  simp [keyTokens, entryTokens]

section Outline

variable (plainInner : PlainWord inner) (plainValue : PlainWord value)
    (shortInner : inner.length ≤ 1024)
include plainInner plainValue shortInner

/-- After the first entry of an outline, each further one closes the block of the one before it. -/
theorem run_outline {keys : List (List Char)}
    (plainKeys : ∀ key ∈ keys, PlainWord key ∧ key.length ≤ 1024) (index line : Nat)
    (tokens : List Token) (steps : Nat) :
    run (steps + 1 + 5 * keys.length)
      (inBlocks (before (keys.flatMap (entryText width inner value)) index line 0)
        (width + 1 : Nat) [0, -1] true tokens) =
      tokens.reverse ++ .blockEnd ::
        (keys.flatMap (entryTokens inner value) ++ [.blockEnd, .streamEnd]) := by
  induction keys generalizing index line tokens with
  | nil => exact run_end index line width tokens steps
  | cons key rest ih =>
      -- The entry before left its block open; the line that begins here closes it.
      have settles :
          (inBlocks (before ((key :: rest).flatMap (entryText width inner value)) index line 0)
          (width + 1 : Nat) [0, -1] true tokens).Settles (inBlocks
          (before ((key :: rest).flatMap (entryText width inner value)) index line 0) 0 [-1] true
            (.blockEnd :: tokens)) := settles_entry (beginsWord_outline plainKeys)
      obtain ⟨⟨plainKey, shortKey⟩, others⟩ := List.forall_mem_cons.mp plainKeys
      have count : steps + 1 + 5 * (key :: rest).length = steps + 1 + 5 * rest.length + 5 := by
        rw [List.length_cons]
        omega
      have stays : outerAt 0 0 [-1] = [-1] := rfl
      rw [List.flatMap_cons] at settles ⊢
      obtain ⟨after, read⟩ := run_entry settles plainKey plainInner plainValue shortKey shortInner
        (Int.le_refl 0) (beginsWord_outline others) (steps + 1 + 5 * rest.length)
      rw [count, read, stays, ih others, List.append_cons, reverse_entry]
      simp

end Outline

end Lexer

def outlineText (width : Nat) (inner value : List Char) (keys : List (List Char)) : List Char :=
  keys.flatMap (entryText width inner value)

def outlineTokens (inner value : List Char) (keys : List (List Char)) : List Token :=
  if keys.isEmpty then [.streamEnd]
  else .blockMappingStart :: (keys.flatMap (entryTokens inner value) ++ [.blockEnd, .streamEnd])

theorem length_outlineText (width : Nat) (inner value : List Char) (keys : List (List Char)) :
    5 * keys.length ≤ (outlineText width inner value keys).length := by
  induction keys with
  | nil => exact Nat.zero_le _
  | cons key rest ih =>
      rw [outlineText] at ih ⊢
      rw [List.flatMap_cons, List.length_append, List.length_cons]
      simp only [entryText, List.length_append, List.length_cons, List.length_replicate,
        List.length_nil]
      omega

theorem isAllowed_outlineText {inner value : List Char} (plainInner : PlainWord inner)
    (plainValue : PlainWord value) (width : Nat) {keys : List (List Char)}
    (plainKeys : ∀ key ∈ keys, PlainWord key ∧ key.length ≤ 1024) :
    (outlineText width inner value keys).all isAllowed = true := by
  have ofWord {word : List Char} (plain : PlainWord word) : word.all isAllowed = true :=
    List.all_eq_true.mpr fun c member => ((inWord_iff c).mp (plain.inside c member)).1
  have spaces : (List.replicate (width + 1) ' ').all isAllowed = true :=
    List.all_eq_true.mpr fun c member => List.eq_of_mem_replicate member ▸ by decide
  rw [outlineText, List.all_flatMap, List.all_eq_true]
  intro key member
  simp only [entryText, List.all_append, List.all_cons, List.all_nil,
    ofWord (plainKeys key member).1, ofWord plainInner, ofWord plainValue, spaces]
  decide

open Cursor Lexer in
/-- The scanner finds the tokens of an outline in its text. -/
theorem tokensOf_outlineText {inner value : List Char} (plainInner : PlainWord inner)
    (plainValue : PlainWord value) (shortInner : inner.length ≤ 1024) (width : Nat)
    {keys : List (List Char)} (plainKeys : ∀ key ∈ keys, PlainWord key ∧ key.length ≤ 1024) :
    tokensOf (outlineText width inner value keys) = outlineTokens inner value keys := by
  have begins : BeginsWord (outlineText width inner value keys) := beginsWord_outline plainKeys
  have unmarked : ¬((outlineText width inner value keys).head? == some byteOrderMark) = true := by
    cases shape : outlineText width inner value keys with
    | nil => exact Bool.false_ne_true
    | cons c more =>
        have inside := inWord_of_opensWord (begins c more shape)
        simpa using ((inWord_iff c).mp inside).2.2.2
  unfold tokensOf
  rw [if_pos (isAllowed_outlineText plainInner plainValue width plainKeys)]
  dsimp only
  rw [if_neg unmarked]
  cases keys with
  | nil => rfl
  | cons key rest =>
      obtain ⟨⟨plainKey, shortKey⟩, others⟩ := List.forall_mem_cons.mp plainKeys
      have enough := length_outlineText width inner value (key :: rest)
      obtain ⟨spare, count⟩ : ∃ spare, (outlineText width inner value (key :: rest)).length + 2 =
          spare + 1 + 5 * rest.length + 5 := by
        rw [List.length_cons] at enough
        exact ⟨(outlineText width inner value (key :: rest)).length + 1 - 5 * (rest.length + 1), by
          omega⟩
      have start : Lexer.start (outlineText width inner value (key :: rest)) =
          inBlocks (before (entryText width inner value key ++ outlineText width inner value rest)
            0 0 0) (-1) [] true [] :=
        rfl
      have settles : (Lexer.start (outlineText width inner value (key :: rest))).Settles (inBlocks
          (before (entryText width inner value key ++ outlineText width inner value rest) 0 0 0)
            (-1) [] true []) := by
        refine ⟨Lexer.start (outlineText width inner value (key :: rest)), ?_,
          unwind_of_le (show (-1 : Int) ≤ 0 by decide)⟩
        rw [skipToToken_stay (stops_of_beginsWord begins) _ rfl]
        rfl
      have opened : outerAt 0 (-1) [] = [-1] := rfl
      obtain ⟨after, read⟩ := run_entry settles plainKey plainInner plainValue shortKey
        shortInner (by decide) (beginsWord_outline others) (spare + 1 + 5 * rest.length)
      rw [count, read, opened, outlineText, run_outline plainInner plainValue shortInner others]
      simp [keyTokens, outlineTokens, entryTokens]

end TaskGraph.Yaml
