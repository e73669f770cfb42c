import TaskGraph.Proofs.JsonText
set_option autoImplicit false

/-! Reading back a whole JSON document. A document without floats, in which every integer can be
written, is read from its text as it was: its lists and objects at every depth, with the names in
their order. -/

namespace TaskGraph.Json

mutual

/-- Whether the text of a document says exactly what it holds: there is no float in it and no
integer that is too long. -/
def isExact : Json → Bool
  | int number => isWritable number
  | float _ => false
  | list items => areExact items
  | object members => areMembersExact members
  | _ => true

def areExact : List Json → Bool
  | [] => true
  | item :: rest => isExact item && areExact rest

def areMembersExact : List (String × Json) → Bool
  | [] => true
  | (_, item) :: rest => isExact item && areMembersExact rest

end

/-! ### What stands between values -/

theorem skipSpace_of_not {c : Char} (shown : isSpace c = false) (rest : List Char) :
    skipSpace (c :: rest) = c :: rest :=
  List.dropWhile_cons_of_neg (Bool.eq_false_iff.mp shown)

theorem skipSpace_newline (level : Nat) (rest : List Char) :
    skipSpace (newline level ++ rest) = skipSpace rest := by
  unfold skipSpace newline
  rw [List.cons_append, List.dropWhile_cons_of_pos (by decide), List.dropWhile_append_of_pos]
  intro c member
  rw [List.eq_of_mem_replicate member]
  rfl

theorem endsNumber_nil : EndsNumber [] := nofun

theorem endsNumber_newline (level : Nat) (rest : List Char) :
    EndsNumber (newline level ++ rest) := by
  rintro c more same
  cases (List.cons.inj same).1
  decide

theorem endsNumber_comma (rest : List Char) : EndsNumber (',' :: rest) := by
  rintro c more same
  cases (List.cons.inj same).1
  decide

theorem exists_first_toString (number : Int) :
    ∃ c rest, (toString number).toList = c :: rest ∧ isSpace c = false ∧ c ≠ '"' ∧
      c ≠ '[' ∧ c ≠ ']' ∧ c ≠ '\x7b' := by
  have digit {c : Char} (isDigit : c.isDigit = true) :
      isSpace c = false ∧ c ≠ '"' ∧ c ≠ '[' ∧ c ≠ ']' ∧ c ≠ '\x7b' := by
    have differs (other : Char) (notDigit : other.isDigit = false) : c ≠ other := by
      rintro rfl
      rw [isDigit] at notDigit
      cases notDigit
    refine ⟨?_, differs _ rfl, differs _ rfl, differs _ rfl, differs _ rfl⟩
    simp only [isSpace, Bool.or_eq_false_iff, decide_eq_false_iff_not]
    exact ⟨⟨⟨differs _ rfl, differs _ rfl⟩, differs _ rfl⟩, differs _ rfl⟩
  obtain ⟨c, rest, digits⟩ :=
    List.exists_cons_of_ne_nil (Nat.toDigits_ne_nil : Nat.toDigits 10 number.toNat ≠ [])
  rw [Int.toString_eq_repr, Int.repr_eq_if]
  split
  · rw [Nat.toList_repr, digits]
    exact ⟨c, rest, rfl, digit (isDigit_of_mem_toDigits c (digits ▸ List.mem_cons_self))⟩
  · rw [String.toList_append]
    exact ⟨'-', _, rfl, by decide⟩

/-- The text of a document begins at once, and not with a closing bracket. -/
theorem exists_first (ascii : Bool) (level : Nat) {document : Json}
    (exact_ : document.isExact = true) :
    ∃ c rest, writeAt ascii level document = c :: rest ∧ isSpace c = false ∧ c ≠ ']' := by
  cases document with
  | null => exact ⟨'n', _, rfl, by decide⟩
  | bool truth =>
      cases truth with
      | true => exact ⟨'t', _, rfl, by decide⟩
      | false => exact ⟨'f', _, rfl, by decide⟩
  | int number =>
      obtain ⟨c, rest, same, shown, _, _, open_, _⟩ := exists_first_toString number
      exact ⟨c, rest, same, shown, open_⟩
  | float number => cases exact_
  | text content => exact ⟨'"', _, rfl, by decide⟩
  | list items => cases items <;> exact ⟨'[', _, rfl, by decide⟩
  | object members => cases members <;> exact ⟨'\x7b', _, rfl, by decide⟩

theorem skipSpace_writeAt (ascii : Bool) (level : Nat) {document : Json}
    (exact_ : document.isExact = true) (rest : List Char) :
    skipSpace (writeAt ascii level document ++ rest) = writeAt ascii level document ++ rest := by
  obtain ⟨c, more, same, shown, _⟩ := exists_first ascii level exact_
  rw [same, List.cons_append, skipSpace_of_not shown]

theorem readValue_scalar {c : Char} (notText : c ≠ '"') (notList : c ≠ '[') (notObject : c ≠ '\x7b')
    (steps : Nat) (rest : List Char) :
    readValue (steps + 1) (c :: rest) = readScalar (c :: rest) := by
  rw [readValue.eq_def]
  split <;> simp_all

/-! ### Lists and objects -/

/-- Whether a text is read as a document, if as many steps can be taken as it has characters. -/
def ReadsAs (written : List Char) (document : Json) : Prop :=
  ∀ steps tail, EndsNumber tail → written.length ≤ steps →
    readValue steps (written ++ tail) = .ok (document, tail)

theorem readsAs_scalar {c : Char} {rest : List Char} {document : Json} (notText : c ≠ '"')
    (notList : c ≠ '[') (notObject : c ≠ '\x7b')
    (reads : ∀ tail, EndsNumber tail → readScalar (c :: (rest ++ tail)) = .ok (document, tail)) :
    ReadsAs (c :: rest) document := by
  intro steps tail ends enough
  obtain ⟨steps, rfl⟩ := Nat.exists_eq_add_of_le' (Nat.le_trans (Nat.le_add_left 1 _) enough)
  rw [List.cons_append, readValue_scalar notText notList notObject, reads tail ends]

theorem readsAs_int {number : Int} (writable : isWritable number = true) :
    ReadsAs (toString number).toList (int number) := by
  obtain ⟨c, rest, same, _, notText, notList, _, notObject⟩ := exists_first_toString number
  rw [same]
  refine readsAs_scalar notText notList notObject fun tail ends => ?_
  have read := readScalar_int writable ends
  rwa [same] at read

theorem readsAs_text (ascii : Bool) (content : String) :
    ReadsAs (writeText ascii content) (text content) := by
  intro steps tail _ enough
  obtain ⟨quoted, same, read⟩ := readText_writeText ascii content tail
  have positive : 1 ≤ steps := Nat.le_trans (by simp [writeText]) enough
  obtain ⟨steps, rfl⟩ := Nat.exists_eq_add_of_le' positive
  rw [same, readValue, read]
  rfl

theorem readItems_last {steps : Nat} {item : Json} {written more tail : List Char}
    (reads : ReadsAs written item) (enough : written.length ≤ steps) (ends : EndsNumber more)
    (closes : skipSpace more = ']' :: tail) :
    readItems (steps + 1) (written ++ more) = .ok ([item], tail) := by
  rw [readItems, reads steps more ends enough]
  dsimp only
  rw [closes]
  rfl

theorem readItems_more {steps : Nat} {item : Json} {written more : List Char}
    (reads : ReadsAs written item) (enough : written.length ≤ steps) :
    readItems (steps + 1) (written ++ ',' :: more) =
      (readItems steps (skipSpace more)).map fun found => (item :: found.1, found.2) := by
  rw [readItems, reads steps _ (endsNumber_comma more) enough]
  rfl

/-- The items of a list are read up to its closing bracket. -/
theorem readItems_writeItems (ascii : Bool) (level : Nat) {first : Json} {rest : List Json}
    (exact_ : ∀ item ∈ first :: rest, item.isExact = true)
    (reads : ∀ item ∈ first :: rest, ReadsAs (writeAt ascii (level + 1) item) item)
    (steps : Nat) (tail : List Char)
    (enough : (writeAt ascii (level + 1) first).length +
      (writeItems ascii (level + 1) rest).length < steps) :
    readItems steps (writeAt ascii (level + 1) first ++
        (writeItems ascii (level + 1) rest ++ (newline level ++ ']' :: tail))) =
      .ok (first :: rest, tail) := by
  obtain ⟨steps, rfl⟩ := Nat.exists_eq_add_of_le' (Nat.zero_lt_of_lt enough)
  replace enough := Nat.le_of_lt_succ enough
  induction rest generalizing first steps with
  | nil =>
      rw [writeItems, List.nil_append]
      refine readItems_last (reads first List.mem_cons_self) (by omega)
        (endsNumber_newline level _) ?_
      rw [skipSpace_newline, skipSpace_of_not (by decide)]
  | cons next others ih =>
      have shape (more : List Char) : writeItems ascii (level + 1) (next :: others) ++ more =
          ',' :: (newline (level + 1) ++ (writeAt ascii (level + 1) next ++
            (writeItems ascii (level + 1) others ++ more))) := by
        simp only [writeItems, List.cons_append, List.append_assoc]
      have size := congrArg List.length (shape [])
      simp only [List.append_nil, List.length_cons, List.length_append] at size
      obtain ⟨steps, rfl⟩ := Nat.exists_eq_add_of_le' (show 1 ≤ steps by omega)
      rw [shape, readItems_more (reads first List.mem_cons_self) (by omega), skipSpace_newline,
        skipSpace_writeAt ascii _ (exact_ next (by simp)),
        ih (fun item member => exact_ item (List.mem_cons_of_mem _ member))
          (fun item member => reads item (List.mem_cons_of_mem _ member)) steps (by omega)]
      rfl

theorem readMembers_name (ascii : Bool) (name : String) (steps : Nat) (more : List Char) :
    readMembers (steps + 1) (writeText ascii name ++ ':' :: ' ' :: more) =
      match readValue steps (skipSpace more) with
      | .error flaw => .error flaw
      | .ok (item, rest) =>
          match skipSpace rest with
          | '\x7d' :: tail => .ok ([(name, item)], tail)
          | ',' :: tail =>
              (readMembers steps (skipSpace tail)).map fun (members, after) =>
                ((name, item) :: members, after)
          | _ => .error .malformed := by
  obtain ⟨quoted, same, read⟩ := readText_writeText ascii name (':' :: ' ' :: more)
  rw [same, readMembers, read]
  rfl

theorem readMembers_last {ascii : Bool} {steps : Nat} {name : String} {item : Json}
    {written more tail : List Char} (reads : ReadsAs written item)
    (begins : skipSpace (written ++ more) = written ++ more) (enough : written.length ≤ steps)
    (ends : EndsNumber more) (closes : skipSpace more = '\x7d' :: tail) :
    readMembers (steps + 1) (writeText ascii name ++ ':' :: ' ' :: (written ++ more)) = .ok
      ([(name, item)], tail) := by
  rw [readMembers_name, begins, reads steps more ends enough]
  dsimp only
  rw [closes]
  rfl

theorem readMembers_more {ascii : Bool} {steps : Nat} {name : String} {item : Json}
    {written more : List Char} (reads : ReadsAs written item)
    (begins : skipSpace (written ++ ',' :: more) = written ++ ',' :: more)
    (enough : written.length ≤ steps) :
    readMembers (steps + 1) (writeText ascii name ++ ':' :: ' ' :: (written ++ ',' :: more)) =
      (readMembers steps (skipSpace more)).map fun found => ((name, item) :: found.1, found.2) := by
  rw [readMembers_name, begins, reads steps _ (endsNumber_comma more) enough]
  rfl

theorem skipSpace_writeText (ascii : Bool) (content : String) (rest : List Char) :
    skipSpace (writeText ascii content ++ rest) = writeText ascii content ++ rest :=
  skipSpace_of_not rfl _

/-- The members of an object are read up to its closing brace. -/
theorem readMembers_writeMembers (ascii : Bool) (level : Nat) {first : String × Json}
    {rest : List (String × Json)} (exact_ : ∀ member ∈ first :: rest, member.2.isExact = true)
    (reads : ∀ member ∈ first :: rest, ReadsAs (writeAt ascii (level + 1) member.2) member.2)
    (steps : Nat) (tail : List Char)
    (enough : (writeAt ascii (level + 1) first.2).length +
      (writeMembers ascii (level + 1) rest).length < steps) :
    readMembers steps (writeText ascii first.1 ++ ':' :: ' ' ::
      (writeAt ascii (level + 1) first.2 ++
      (writeMembers ascii (level + 1) rest ++ (newline level ++ '\x7d' :: tail)))) = .ok
        (first :: rest, tail) := by
  obtain ⟨steps, rfl⟩ := Nat.exists_eq_add_of_le' (Nat.zero_lt_of_lt enough)
  replace enough := Nat.le_of_lt_succ enough
  induction rest generalizing first steps with
  | nil =>
      rw [writeMembers, List.nil_append]
      refine readMembers_last (reads first List.mem_cons_self) ?_ (by omega)
        (endsNumber_newline level _) ?_
      · exact skipSpace_writeAt ascii _ (exact_ first List.mem_cons_self) _
      · rw [skipSpace_newline, skipSpace_of_not (by decide)]
  | cons next others ih =>
      have shape (more : List Char) : writeMembers ascii (level + 1) (next :: others) ++ more =
          ',' :: (newline (level + 1) ++ (writeText ascii next.1 ++ ':' :: ' ' ::
            (writeAt ascii (level + 1) next.2 ++
              (writeMembers ascii (level + 1) others ++ more)))) := by
        simp only [writeMembers, List.cons_append, List.append_assoc]
      have size := congrArg List.length (shape [])
      simp only [List.append_nil, List.length_cons, List.length_append] at size
      obtain ⟨steps, rfl⟩ := Nat.exists_eq_add_of_le' (show 1 ≤ steps by omega)
      rw [shape, readMembers_more (reads first List.mem_cons_self)
          (skipSpace_writeAt ascii _ (exact_ first List.mem_cons_self) _) (by omega),
        skipSpace_newline, skipSpace_writeText,
        ih (fun member found => exact_ member (List.mem_cons_of_mem _ found))
          (fun member found => reads member (List.mem_cons_of_mem _ found)) steps (by omega)]
      rfl

/-! ### Whole documents -/

theorem areExact_iff {items : List Json} : areExact items = true ↔ ∀ item ∈ items,
    item.isExact = true := by
  induction items with
  | nil => simp [areExact]
  | cons item rest ih => simp [areExact, ih]

theorem areMembersExact_iff {members : List (String × Json)} :
    areMembersExact members = true ↔ ∀ member ∈ members, member.2.isExact = true := by
  induction members with
  | nil => simp [areMembersExact]
  | cons member rest ih => simp [areMembersExact, ih]

theorem readValue_list {c : Char} (steps : Nat) {rest more : List Char}
    (opens : skipSpace rest = c :: more) (notEmpty : c ≠ ']') :
    readValue (steps + 1) ('[' :: rest) =
      (readItems steps (c :: more)).map fun found => (list found.1, found.2) := by
  rw [readValue, opens]
  split
  · exact absurd (List.cons.inj ‹_›).1 notEmpty
  · rfl

theorem readValue_object {c : Char} (steps : Nat) {rest more : List Char}
    (opens : skipSpace rest = c :: more) (notEmpty : c ≠ '\x7d') :
    readValue (steps + 1) ('\x7b' :: rest) =
      (readMembers steps (c :: more)).map fun found => (object found.1, found.2) := by
  rw [readValue, opens]
  split
  · exact absurd (List.cons.inj ‹_›).1 notEmpty
  · rfl

theorem readsAs_list (ascii : Bool) (level : Nat) {items : List Json}
    (exact_ : ∀ item ∈ items, item.isExact = true)
    (reads : ∀ item ∈ items, ReadsAs (writeAt ascii (level + 1) item) item) :
    ReadsAs (writeAt ascii level (list items)) (list items) := by
  intro steps tail _ enough
  cases items with
  | nil =>
      obtain ⟨steps, rfl⟩ := Nat.exists_eq_add_of_le' (Nat.le_trans (by decide : 1 ≤ 2) enough)
      rfl
  | cons first rest =>
      have shape : writeAt ascii level (list (first :: rest)) ++ tail =
          '[' :: (newline (level + 1) ++ (writeAt ascii (level + 1) first ++
            (writeItems ascii (level + 1) rest ++ (newline level ++ ']' :: tail)))) := by
        simp only [writeAt, List.cons_append, List.append_assoc, List.nil_append]
      have size := congrArg List.length shape
      simp only [List.length_append, List.length_cons] at size
      obtain ⟨steps, rfl⟩ := Nat.exists_eq_add_of_le' (show 1 ≤ steps by omega)
      obtain ⟨c, more, begins, _, notEmpty⟩ :=
        exists_first ascii (level + 1) (exact_ first List.mem_cons_self)
      have inner := readItems_writeItems ascii level exact_ reads steps tail (by omega)
      have opens := skipSpace_writeAt ascii (level + 1) (exact_ first List.mem_cons_self)
        (writeItems ascii (level + 1) rest ++ (newline level ++ ']' :: tail))
      rw [← skipSpace_newline (level + 1)] at opens
      rw [begins, List.cons_append] at opens inner
      rw [shape, begins, List.cons_append, readValue_list steps opens notEmpty, inner]
      rfl

theorem readsAs_object (ascii : Bool) (level : Nat) {members : List (String × Json)}
    (exact_ : ∀ member ∈ members, member.2.isExact = true)
    (reads : ∀ member ∈ members, ReadsAs (writeAt ascii (level + 1) member.2) member.2) :
    ReadsAs (writeAt ascii level (object members)) (object members) := by
  intro steps tail _ enough
  cases members with
  | nil =>
      obtain ⟨steps, rfl⟩ := Nat.exists_eq_add_of_le' (Nat.le_trans (by decide : 1 ≤ 2) enough)
      rfl
  | cons first rest =>
      have shape : writeAt ascii level (object (first :: rest)) ++ tail =
          '\x7b' :: (newline (level + 1) ++ (writeText ascii first.1 ++ ':' :: ' ' ::
            (writeAt ascii (level + 1) first.2 ++
              (writeMembers ascii (level + 1) rest ++ (newline level ++ '\x7d' :: tail))))) := by
        simp only [writeAt, List.cons_append, List.append_assoc, List.nil_append]
      have size := congrArg List.length shape
      simp only [List.length_append, List.length_cons] at size
      obtain ⟨steps, rfl⟩ := Nat.exists_eq_add_of_le' (show 1 ≤ steps by omega)
      have inner := readMembers_writeMembers ascii level exact_ reads steps tail (by omega)
      have opens := skipSpace_writeText ascii first.1
        (':' :: ' ' :: (writeAt ascii (level + 1) first.2 ++
        (writeMembers ascii (level + 1) rest ++ (newline level ++ '\x7d' :: tail))))
      rw [← skipSpace_newline (level + 1)] at opens
      rw [shape]
      exact (readValue_object steps opens (by decide)).trans
        (congrArg (Except.map fun found => (object found.1, found.2)) inner)

mutual

/-- An exact document is read from its text as it was, at every level. -/
theorem readsAs_writeAt (ascii : Bool) : ∀ (document : Json)
    (level : Nat), document.isExact = true →
    ReadsAs (writeAt ascii level document) document
  | null, _ => fun _ => readsAs_scalar (by decide) (by decide) (by decide) fun _ _ => rfl
  | bool true, _ => fun _ => readsAs_scalar (by decide) (by decide) (by decide) fun _ _ => rfl
  | bool false, _ => fun _ => readsAs_scalar (by decide) (by decide) (by decide) fun _ _ => rfl
  | int _, _ => by
      rw [isExact]
      exact readsAs_int
  | float _, _ => nofun
  | text content, _ => fun _ => readsAs_text ascii content
  | list items, level => by
      rw [isExact]
      exact fun exact_ => readsAs_list ascii level (areExact_iff.mp exact_)
        (readsAs_items ascii items (level + 1) exact_)
  | object members, level => by
      rw [isExact]
      exact fun exact_ =>
        readsAs_object ascii level (areMembersExact_iff.mp exact_)
          (readsAs_members ascii members (level + 1) exact_)

theorem readsAs_items (ascii : Bool) : ∀ (items : List Json) (level : Nat), areExact items = true →
    ∀ item ∈ items, ReadsAs (writeAt ascii level item) item
  | [], _ => nofun
  | item :: rest, level => by
      rw [areExact, Bool.and_eq_true]
      rintro ⟨ofItem, ofRest⟩ other (_ | ⟨_, member⟩)
      · exact readsAs_writeAt ascii item level ofItem
      · exact readsAs_items ascii rest level ofRest other member

theorem readsAs_members (ascii : Bool) : ∀ (members : List (String × Json))
    (level : Nat), areMembersExact members = true →
    ∀ member ∈ members, ReadsAs (writeAt ascii level member.2) member.2
  | [], _ => nofun
  | (_, item) :: rest, level => by
      rw [areMembersExact, Bool.and_eq_true]
      rintro ⟨ofItem, ofRest⟩ other (_ | ⟨_, member⟩)
      · exact readsAs_writeAt ascii item level ofItem
      · exact readsAs_members ascii rest level ofRest other member

end

/-- Reading the text of an exact document gives the document back. -/
theorem read_write (ascii : Bool) {document : Json} (exact_ : document.isExact = true) :
    read (write ascii document) = .ok document := by
  have begins := skipSpace_writeAt ascii 0 exact_ []
  have reads := readsAs_writeAt ascii document 0 exact_
    ((writeAt ascii 0 document).length + 1) [] endsNumber_nil (Nat.le_succ _)
  rw [List.append_nil] at begins reads
  rw [write, read, begins, reads]
  rfl

end TaskGraph.Json
