import TaskGraph.Console.Markup
set_option autoImplicit false

/-! The tags of marked-up text in its surroundings. Plain text in front of markup adds no tag, and
text behind it adds its own tags only, as long as it neither begins a tag nor ends one that the
markup left open. -/

namespace TaskGraph.Console

/-! ### The tags of a text -/

def tagsAmong : List Piece → List Tag
  | [] => []
  | .plain _ :: rest => tagsAmong rest
  | .tag body :: rest => Tag.ofBody body :: tagsAmong rest

def tagsOf (markup : List Char) : List Tag := tagsAmong (pieces markup)

def FoundTag.tags (found : FoundTag) : List Tag := if found.slashes % 2 = 1 then [] else
    [Tag.ofBody found.body]

theorem tagsAmong_append (front back : List Piece) :
    tagsAmong (front ++ back) = tagsAmong front ++ tagsAmong back := by
  induction front with
  | nil => rfl
  | cons piece rest ih =>
      cases piece with
      | plain text => exact ih
      | tag body => rw [List.cons_append, tagsAmong, tagsAmong, ih, List.cons_append]

theorem tagsAmong_plainPiece (text : List Char) : tagsAmong (plainPiece text) = [] := by
  unfold plainPiece
  split <;> rfl

theorem tagsAmong_pieces (found : FoundTag) : tagsAmong found.pieces = found.tags := by
  rw [FoundTag.pieces, tagsAmong_append, tagsAmong_append, tagsAmong_plainPiece,
    tagsAmong_plainPiece, FoundTag.tags]
  by_cases odd : found.slashes % 2 = 1
  · rw [if_pos odd, if_pos odd]
    rfl
  · rw [if_neg odd, if_neg odd]
    rfl

theorem length_upToBracket? {text body after : List Char}
    (found : upToBracket? text = some (body, after)) :
    after.length < text.length := by
  induction text generalizing body with
  | nil => cases found
  | cons c rest ih =>
      rw [upToBracket?] at found
      split at found
      · cases found
        exact Nat.lt_succ_self _
      · split at found
        · cases found
        · obtain ⟨⟨inner, others⟩, isInner, same⟩ := Option.map_eq_some_iff.mp found
          cases same
          exact Nat.lt_succ_of_lt (ih isInner)

theorem length_tagAt? {text : List Char} {found : FoundTag} (isTag : tagAt? text = some found) :
    found.after.length < text.length := by
  induction text generalizing found with
  | nil => cases isTag
  | cons c rest ih =>
      unfold tagAt? at isTag
      split at isTag
      · rename_i same
        cases same
        obtain ⟨inner, isInner, equal⟩ := Option.map_eq_some_iff.mp isTag
        have shorter := ih isInner
        rw [← equal]
        exact Nat.lt_succ_of_lt shorter
      · rename_i same
        cases same
        split at isTag
        · obtain ⟨⟨body, after⟩, isBody, equal⟩ := Option.map_eq_some_iff.mp isTag
          rw [← equal]
          exact Nat.lt_succ_of_lt (Nat.lt_succ_of_lt (length_upToBracket? isBody))
        · cases isTag
      · cases isTag

theorem length_firstTag? {text : List Char} {found : FoundTag}
    (isFirst : firstTag? text = some found) :
    found.after.length < text.length := by
  induction text generalizing found with
  | nil => cases isFirst
  | cons c rest ih =>
      rw [firstTag?] at isFirst
      split at isFirst
      · rename_i here
        cases isFirst
        exact length_tagAt? here
      · obtain ⟨later, isLater, same⟩ := Option.map_eq_some_iff.mp isFirst
        have shorter := ih isLater
        rw [← same]
        exact Nat.lt_succ_of_lt shorter

theorem piecesWithin_congr {steps more : Nat} {text : List Char} (enough : text.length ≤ steps)
    (enough' : text.length ≤ more) : piecesWithin steps text = piecesWithin more text := by
  induction steps generalizing more text with
  | zero =>
      have empty : text = [] := List.eq_nil_of_length_eq_zero (Nat.le_zero.mp enough)
      rw [empty]
      cases more <;> rfl
  | succ steps ih =>
      cases more with
      | zero =>
          have empty : text = [] := List.eq_nil_of_length_eq_zero (Nat.le_zero.mp enough')
          rw [empty]
          rfl
      | succ more =>
          rw [piecesWithin, piecesWithin]
          cases isFirst : firstTag? text with
          | none => rfl
          | some found =>
              have shorter := length_firstTag? isFirst
              have fewer : found.after.length ≤ steps := by omega
              have fewer' : found.after.length ≤ more := by omega
              dsimp only
              rw [ih fewer fewer']

/-- The tags of a text are its first one and those of the text behind that. -/
theorem tagsOf_eq (text : List Char) :
    tagsOf text = match firstTag? text with
      | none => []
      | some found => found.tags ++ tagsOf found.after := by
  have enough : pieces text = piecesWithin (text.length + 1) text :=
    piecesWithin_congr (Nat.le_refl _) (Nat.le_succ _)
  rw [tagsOf, enough, piecesWithin]
  cases isFirst : firstTag? text with
  | none => exact tagsAmong_plainPiece text
  | some found =>
      have same : piecesWithin text.length found.after = pieces found.after :=
        piecesWithin_congr (Nat.le_of_lt (length_firstTag? isFirst)) (Nat.le_refl _)
      dsimp only
      rw [same, tagsAmong_append, tagsAmong_pieces, tagsOf]

theorem tagAt?_slash (rest : List Char) :
    tagAt? ('\\' :: rest) = (tagAt? rest).map fun found =>
      { found with slashes := found.slashes + 1 } := rfl

theorem tagAt?_bracket (c : Char) (rest : List Char) :
    tagAt? ('[' :: c :: rest) =
      if beginsTag c then (upToBracket? rest).map fun found => ⟨[], 0, c :: found.1, found.2⟩
        else none := rfl

theorem tagAt?_of_ne {c : Char} (noBracket : c ≠ '[') (noSlash : c ≠ '\\') (rest : List Char) :
    tagAt? (c :: rest) = none := by
  unfold tagAt?
  split
  · rename_i same
    cases same
    exact absurd rfl noSlash
  · rename_i same
    cases same
    exact absurd rfl noBracket
  · rfl

/-! ### Text in front -/

def IsBare (text : List Char) : Prop := ∀ c ∈ text, c ≠ '[' ∧ c ≠ ']' ∧ c ≠ '\\'

instance (text : List Char) : Decidable (IsBare text) :=
  List.decidableBAll (fun c => c ≠ '[' ∧ c ≠ ']' ∧ c ≠ '\\') text

theorem firstTag?_bare_append {front : List Char} (bare : IsBare front) (text : List Char) :
    firstTag? (front ++ text) = (firstTag? text).map fun found =>
      { found with before := front ++ found.before } := by
  induction front with
  | nil =>
      rw [List.nil_append]
      cases firstTag? text <;> rfl
  | cons c rest ih =>
      obtain ⟨⟨noBracket, _, noSlash⟩, others⟩ := List.forall_mem_cons.mp bare
      rw [List.cons_append, firstTag?, tagAt?_of_ne noBracket noSlash, ih others]
      cases firstTag? text <;> rfl

/-- Bare text in front of markup adds no tag. -/
theorem tagsOf_bare_append {front : List Char} (bare : IsBare front) (text : List Char) :
    tagsOf (front ++ text) = tagsOf text := by
  rw [tagsOf_eq, tagsOf_eq text, firstTag?_bare_append bare]
  cases firstTag? text <;> rfl

theorem tagsOf_of_bare {text : List Char} (bare : IsBare text) : tagsOf text = [] := by
  have nothing := tagsOf_bare_append bare []
  rw [List.append_nil] at nothing
  exact nothing

/-! ### Text behind -/

/-- Whether a text behind markup leaves its tags as they are: it neither begins a tag with a
bracket or backslash, nor tells what a tag is about, nor has a closing bracket before the next
opening one. -/
structure IsApart (text : List Char) : Prop where
  first : ∀ c rest, text = c :: rest → c ≠ '[' ∧ c ≠ '\\' ∧ beginsTag c = false
  unclosed : upToBracket? text = none

theorem upToBracket?_append {back : List Char} (unclosed : upToBracket? back = none)
    (text : List Char) :
    upToBracket? (text ++ back) = (upToBracket? text).map fun found =>
      (found.1, found.2 ++ back) := by
  induction text with
  | nil => exact unclosed
  | cons c rest ih =>
      rw [List.cons_append, upToBracket?, upToBracket?]
      by_cases closes : c = ']'
      · rw [if_pos closes, if_pos closes]
        rfl
      · rw [if_neg closes, if_neg closes]
        by_cases opens : c = '['
        · rw [if_pos opens, if_pos opens]
          rfl
        · rw [if_neg opens, if_neg opens, ih]
          cases upToBracket? rest <;> rfl

theorem tagAt?_of_isApart {text : List Char} (apart : IsApart text) : tagAt? text = none := by
  cases text with
  | nil => rfl
  | cons c rest =>
      obtain ⟨noBracket, noSlash, _⟩ := apart.first c rest rfl
      exact tagAt?_of_ne noBracket noSlash rest

theorem tagAt?_append {back : List Char} (apart : IsApart back) (text : List Char) :
    tagAt? (text ++ back) = (tagAt? text).map fun found =>
      { found with after := found.after ++ back } := by
  induction text with
  | nil => exact tagAt?_of_isApart apart
  | cons c rest ih =>
      by_cases slash : c = '\\'
      · rw [slash, List.cons_append, tagAt?_slash, tagAt?_slash, ih]
        cases tagAt? rest <;> rfl
      · by_cases bracket : c = '['
        · rw [bracket, List.cons_append]
          cases rest with
          | nil =>
              cases back with
              | nil => rfl
              | cons d more =>
                  have notHere : beginsTag d = false := (apart.first d more rfl).2.2
                  rw [List.nil_append, tagAt?_bracket, notHere]
                  rfl
          | cons d more =>
              rw [List.cons_append, tagAt?_bracket, tagAt?_bracket,
                upToBracket?_append apart.unclosed]
              split
              · cases upToBracket? more <;> rfl
              · rfl
        · rw [List.cons_append, tagAt?_of_ne bracket slash, tagAt?_of_ne bracket slash]
          rfl

theorem firstTag?_append {back : List Char} (apart : IsApart back) (text : List Char) :
    firstTag? (text ++ back) = match firstTag? text with
      | some found => some { found with after := found.after ++ back }
      | none =>
          (firstTag? back).map fun found => { found with before := text ++ found.before } := by
  induction text with
  | nil =>
      rw [List.nil_append]
      cases firstTag? back <;> rfl
  | cons c rest ih =>
      have here := tagAt?_append apart (c :: rest)
      rw [List.cons_append] at here
      rw [List.cons_append, firstTag?, firstTag?, here, ih]
      cases tagAt? (c :: rest) with
      | some found => rfl
      | none =>
          cases firstTag? rest with
          | some found => rfl
          | none => cases firstTag? back <;> rfl

/-- The tags of a text and of one that stands apart behind it follow each other. -/
theorem tagsOf_append {back : List Char} (apart : IsApart back) (text : List Char) :
    tagsOf (text ++ back) = tagsOf text ++ tagsOf back := by
  rw [tagsOf_eq, tagsOf_eq text, firstTag?_append apart]
  cases isFirst : firstTag? text with
  | some found =>
      have shorter := length_firstTag? isFirst
      dsimp only
      rw [tagsOf_append apart found.after, FoundTag.tags, FoundTag.tags, List.append_assoc]
  | none =>
      rw [tagsOf_eq back]
      cases firstTag? back <;> rfl
termination_by text.length

theorem upToBracket?_bare_append {front : List Char} (bare : IsBare front) (rest : List Char) :
    upToBracket? (front ++ '[' :: rest) = none := by
  induction front with
  | nil => rfl
  | cons c others ih =>
      obtain ⟨⟨noBracket, notClosing, _⟩, bareOthers⟩ := List.forall_mem_cons.mp bare
      rw [List.cons_append, upToBracket?, if_neg notClosing, if_neg noBracket, ih bareOthers]
      rfl

/-- Bare text stands apart, also with a tag behind it, unless it tells what a tag is about. -/
theorem isApart_bare_append {c : Char} {front : List Char} (bare : IsBare front)
    (first : front.head? = some c) (notOpening : beginsTag c = false) (rest : List Char) :
    IsApart (front ++ '[' :: rest) := by
  refine ⟨fun d more same => ?_, upToBracket?_bare_append bare rest⟩
  cases front with
  | nil => cases first
  | cons d' others =>
      cases first
      cases same
      obtain ⟨noBracket, _, noSlash⟩ := bare _ List.mem_cons_self
      exact ⟨noBracket, noSlash, notOpening⟩

end TaskGraph.Console
