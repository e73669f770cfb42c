import TaskGraph.Proofs.FloatText
set_option autoImplicit false

/-! Which documents are written as JSON texts. Whatever its texts hold, a document of numbers of the
format is written by the grammar exactly if all of its floats are finite. -/

namespace TaskGraph.Json

/-- Whether a property holds of every float that stands in a document as a number. -/
inductive EachFloat (holds : Binary64 → Prop) : Json → Prop
  | null : EachFloat holds null
  | bool (truth : Bool) : EachFloat holds (bool truth)
  | int (number : Int) : EachFloat holds (int number)
  | float {number : Binary64} : holds number → EachFloat holds (float number)
  | text (content : String) : EachFloat holds (text content)
  | list {items : List Json} : (∀ item ∈ items, EachFloat holds item) → EachFloat holds (list items)
  | object {members : List (String × Json)} : (∀ member ∈ members, EachFloat holds member.2) →
      EachFloat holds (object members)

section
variable {holds : Binary64 → Prop}

theorem eachFloat_float_iff {number : Binary64} :
    (float number).EachFloat holds ↔ holds number := by
  refine ⟨fun each => ?_, .float⟩
  cases each with
  | float here => exact here

theorem eachFloat_list_iff {items : List Json} :
    (list items).EachFloat holds ↔ ∀ item ∈ items, item.EachFloat holds := by
  refine ⟨fun each => ?_, .list⟩
  cases each with
  | list each => exact each

theorem eachFloat_object_iff {members : List (String × Json)} :
    (object members).EachFloat holds ↔ ∀ member ∈ members, member.2.EachFloat holds := by
  refine ⟨fun each => ?_, .object⟩
  cases each with
  | object each => exact each

end

open Grammar

/-! ### Strings -/

theorem isSome_of_mem_toDigits {n : Nat} : ∀ c ∈ Nat.toDigits 16 n,
    (hexValue? c).isSome = true := by
  induction n using Nat.strongRecOn with
  | ind n ih =>
      by_cases small : n < 16
      · rw [Nat.toDigits_of_lt_base small, List.forall_mem_singleton, hexValue?_digitChar n small]
        rfl
      · rw [Nat.toDigits_of_base_le (by decide) (Nat.not_lt.mp small), List.forall_mem_append,
          List.forall_mem_singleton, hexValue?_digitChar (n % 16) (Nat.mod_lt n (by decide))]
        exact ⟨ih (n / 16) (by omega), rfl⟩

theorem isCharacter_unitEscape {unit : Nat} (fits : unit < 0x10000) :
    IsCharacter (unitEscape unit) := by
  refine .unit (length_hexDigits (by decide) fits) fun c member => ?_
  rcases List.mem_append.mp member with padding | digit
  · rw [List.eq_of_mem_replicate padding]
    rfl
  · exact isSome_of_mem_toDigits c digit

/-- A character is written as one character between quotes, or as two if it has two code units. -/
theorem exists_characters (ascii : Bool) (c : Char) :
    ∃ characters : List (List Char), (∀ x ∈ characters, IsCharacter x) ∧
      characters.flatten = writeChar ascii c := by
  have single {text : List Char} (character : IsCharacter text) :
      ∃ characters : List (List Char), (∀ x ∈ characters, IsCharacter x) ∧
        characters.flatten = text :=
    ⟨[text], List.forall_mem_singleton.mpr character, List.append_nil text⟩
  unfold writeChar
  split
  · exact single (.escape (by decide))
  · rename_i notQuote
    split
    · exact single (.escape (by decide))
    · rename_i notEscape
      split
      · exact single (.escape (by decide))
      · split
        · exact single (.escape (by decide))
        · split
          · exact single (.escape (by decide))
          · split
            · exact single (.escape (by decide))
            · split
              · exact single (.escape (by decide))
              · split
                · have valid := toNat_cases c
                  unfold unitsEscape
                  dsimp only
                  split
                  · exact single (isCharacter_unitEscape ‹_›)
                  · refine ⟨[_, _], List.forall_mem_cons.mpr ⟨isCharacter_unitEscape ?_,
                      List.forall_mem_singleton.mpr (isCharacter_unitEscape ?_)⟩,
                        congrArg _ (List.append_nil _)⟩
                    · omega
                    · omega
                · rename_i shown
                  exact single (.plain notQuote notEscape
                    (Nat.not_lt.mp fun hidden => shown (Or.inl hidden)))

theorem isString_writeText (ascii : Bool) (content : String) :
    IsString (writeText ascii content) := by
  have all (row : List Char) : ∃ characters : List (List Char), (∀ x ∈ characters, IsCharacter x) ∧
      characters.flatten = row.flatMap (writeChar ascii) := by
    induction row with
    | nil => exact ⟨[], List.forall_mem_nil _, rfl⟩
    | cons c rest ih =>
        obtain ⟨characters, each, same⟩ := ih
        obtain ⟨first, eachFirst, sameFirst⟩ := exists_characters ascii c
        refine ⟨first ++ characters, List.forall_mem_append.mpr ⟨eachFirst, each⟩, ?_⟩
        rw [List.flatten_append, sameFirst, same, List.flatMap_cons]
  obtain ⟨characters, each, same⟩ := all content.toList
  refine ⟨characters, each, ?_⟩
  rw [same]
  rfl

/-! ### Documents of finite numbers -/

theorem isSpace_newline (level : Nat) : IsSpace (newline level) := by
  intro c member
  rcases List.mem_cons.mp member with rfl | blank
  · exact Or.inr (Or.inr (Or.inl rfl))
  · exact Or.inl (List.eq_of_mem_replicate blank)

def Writes (number : Binary64) : Prop := number.IsDouble ∧ number.isFinite = true

theorem isNumber_floatText {number : Binary64} (writes : Writes number) :
    IsNumber (nameOf.floatText number).toList := by
  have number' := Binary64.isNumber_text writes.1 writes.2
  cases number with
  | finite _ _ _ => exact number'
  | infinite _ => cases writes.2
  | nan _ => cases writes.2

theorem isMark_opening (mark : Char) (level : Nat) : IsMark mark (mark :: newline level) := by
  have none : IsSpace [] := List.forall_mem_nil _
  exact .mk none (isSpace_newline level)

theorem isMark_closing (mark : Char) (level : Nat) : IsMark mark (newline level ++ [mark]) :=
  .mk (isSpace_newline level) (List.forall_mem_nil _)

theorem isMark_single (mark : Char) : IsMark mark [mark] := by
  have none : IsSpace [] := List.forall_mem_nil _
  exact .mk none none

theorem isMark_colon : IsMark ':' [':', ' '] := by
  have none : IsSpace [] := List.forall_mem_nil _
  exact .mk none (List.forall_mem_singleton.mpr (Or.inl rfl))

/-- The pieces of the text of a list. -/
theorem writeAt_list (ascii : Bool) (level : Nat) (first : Json) (rest : List Json) :
    writeAt ascii level (list (first :: rest)) = ('[' :: newline (level + 1)) ++
      ((writeAt ascii (level + 1) first ++ writeItems ascii (level + 1) rest) ++
        (newline level ++ [']'])) := by
  simp only [writeAt, List.cons_append, List.append_assoc]

/-- The pieces of the text of an object. -/
theorem writeAt_object (ascii : Bool) (level : Nat) (name : String) (first : Json)
    (rest : List (String × Json)) :
    writeAt ascii level (object ((name, first) :: rest)) = ('\x7b' :: newline (level + 1)) ++
      ((writeText ascii name ++ ([':', ' '] ++ (writeAt ascii (level + 1) first ++
        writeMembers ascii (level + 1) rest))) ++ (newline level ++ ['\x7d'])) := by
  simp only [writeAt, List.cons_append, List.append_assoc, List.nil_append]

theorem writeItems_cons (ascii : Bool) (level : Nat) (item : Json) (rest : List Json) :
    writeItems ascii level (item :: rest) =
      (',' :: newline level) ++ (writeAt ascii level item ++ writeItems ascii level rest) := by
  simp only [writeItems, List.cons_append, List.append_assoc]

theorem writeMembers_cons (ascii : Bool) (level : Nat) (name : String) (item : Json)
    (rest : List (String × Json)) :
    writeMembers ascii level ((name, item) :: rest) = (',' :: newline level) ++
      (writeText ascii name ++ ([':', ' '] ++
        (writeAt ascii level item ++ writeMembers ascii level rest))) := by
  simp only [writeMembers, List.cons_append, List.append_assoc, List.nil_append]

mutual

theorem isValue_writeAt (ascii : Bool) : ∀ (document : Json)
    (level : Nat), document.EachFloat Writes →
    IsValue (writeAt ascii level document)
  | null, _, _ => .null
  | bool true, _, _ => .true
  | bool false, _, _ => .false
  | int number, _, _ => .number (isNumber_toString number)
  | float _, _, .float writes => .number (isNumber_floatText writes)
  | text content, _, _ => .string (isString_writeText ascii content)
  | list [], _, _ => .emptyArray (isMark_single '[') (isMark_single ']')
  | list (first :: rest), level, .list each => by
      obtain ⟨here, others⟩ := List.forall_mem_cons.mp each
      rw [writeAt_list]
      exact .array (isMark_opening '[' _) (areItems_writeItems ascii rest first (level + 1)
        (isValue_writeAt ascii first (level + 1) here) others) (isMark_closing ']' level)
  | object [], _, _ => .emptyObject (isMark_single '\x7b') (isMark_single '\x7d')
  | object ((name, first) :: rest), level, .object each => by
      obtain ⟨here, others⟩ := List.forall_mem_cons.mp each
      rw [writeAt_object]
      exact .object (isMark_opening '\x7b' _)
        (areMembers_writeMembers ascii rest name first (level + 1)
        (isValue_writeAt ascii first (level + 1) here) others) (isMark_closing '\x7d' level)

theorem areItems_writeItems (ascii : Bool) : ∀ (rest : List Json) (first : Json) (level : Nat),
    IsValue (writeAt ascii level first) → (∀ item ∈ rest, item.EachFloat Writes) →
      AreItems (writeAt ascii level first ++ writeItems ascii level rest)
  | [], first, level, value, _ => by
      rw [writeItems, List.append_nil]
      exact .last value
  | next :: others, first, level, value, each => by
      obtain ⟨here, later⟩ := List.forall_mem_cons.mp each
      rw [writeItems_cons]
      exact .more value (isMark_opening ',' level)
        (areItems_writeItems ascii others next level (isValue_writeAt ascii next level here) later)

theorem areMembers_writeMembers (ascii : Bool) : ∀ (rest : List (String × Json))
    (name : String) (first : Json) (level : Nat), IsValue (writeAt ascii level first) →
      (∀ member ∈ rest, member.2.EachFloat Writes) →
      AreMembers (writeText ascii name ++
        ([':', ' '] ++ (writeAt ascii level first ++ writeMembers ascii level rest)))
  | [], name, first, level, value, _ => by
      rw [writeMembers, List.append_nil]
      exact .last (isString_writeText ascii name) isMark_colon value
  | (next, item) :: others, name, first, level, value, each => by
      obtain ⟨here, later⟩ := List.forall_mem_cons.mp each
      rw [writeMembers_cons]
      exact .more (isString_writeText ascii name) isMark_colon value (isMark_opening ',' level)
        (areMembers_writeMembers ascii others next item level
          (isValue_writeAt ascii item level here) later)

end

/-! ### Documents of other numbers -/

theorem inert_floatText {number : Binary64} (writes : Writes number) :
    Inert (nameOf.floatText number).toList :=
  inert_number (isNumber_floatText writes)

/-- The name of a number that is not finite shows. -/
theorem closed_floatText {number : Binary64} (double : number.IsDouble) :
    Closed (nameOf.floatText number).toList ∧
      (Inert (nameOf.floatText number).toList → number.isFinite = true) := by
  cases number with
  | finite negative significand exponent => exact ⟨(inert_floatText ⟨double, rfl⟩).1, fun _ => rfl⟩
  | infinite negative =>
      cases negative
      · exact ⟨rfl, fun inert => absurd rfl (inert.2 'I' List.mem_cons_self).2⟩
      · exact ⟨rfl, fun inert => absurd rfl
          (inert.2 'I' (List.mem_cons_of_mem _ List.mem_cons_self)).2⟩
  | nan tag =>
      have shown : nameOf.floatText (.nan tag) = "NaN" := rfl
      rw [shown]
      exact ⟨rfl, fun inert => absurd rfl (inert.2 'N' List.mem_cons_self).1⟩

theorem inert_opening {mark : Char} (plain : mark ≠ '"' ∧ Plain mark) (level : Nat) :
    Inert (mark :: newline level) :=
  inert_mark (isMark_opening mark level) plain

theorem inert_closing {mark : Char} (plain : mark ≠ '"' ∧ Plain mark) (level : Nat) :
    Inert (newline level ++ [mark]) :=
  inert_mark (isMark_closing mark level) plain

theorem inert_colon : Inert [':', ' '] := inert_mark isMark_colon (by decide)

theorem inert_writeText (ascii : Bool) (content : String) : Inert (writeText ascii content) :=
  inert_string (isString_writeText ascii content)

mutual

theorem closed_writeAt (ascii : Bool) : ∀ (document : Json)
    (level : Nat), document.EachFloat Binary64.IsDouble →
    Closed (writeAt ascii level document)
  | null, _, _ | bool true, _, _ | bool false, _, _ | list [], _, _ | object [], _, _ => rfl
  | int number, _, _ => (inert_number (isNumber_toString number)).1
  | float _, _, .float double => (closed_floatText double).1
  | text content, _, _ => (inert_writeText ascii content).1
  | list (first :: rest), level, .list each => by
      obtain ⟨here, others⟩ := List.forall_mem_cons.mp each
      rw [writeAt_list]
      exact (inert_opening (by decide) _).1.append
        (((closed_writeAt ascii first (level + 1) here).append (closed_writeItems ascii rest
        (level + 1) others)).append (inert_closing (by decide) level).1)
  | object ((name, first) :: rest), level, .object each => by
      obtain ⟨here, others⟩ := List.forall_mem_cons.mp each
      rw [writeAt_object]
      exact (inert_opening (by decide) _).1.append
        (((inert_writeText ascii name).1.append
        (inert_colon.1.append ((closed_writeAt ascii first (level + 1) here).append
        (closed_writeMembers ascii rest (level + 1) others)))).append
          (inert_closing (by decide) level).1)

theorem closed_writeItems (ascii : Bool) : ∀ (rest : List Json) (level : Nat),
    (∀ item ∈ rest, item.EachFloat Binary64.IsDouble) → Closed (writeItems ascii level rest)
  | [], _, _ => rfl
  | item :: others, level, each => by
      obtain ⟨here, later⟩ := List.forall_mem_cons.mp each
      rw [writeItems_cons]
      exact (inert_opening (by decide) level).1.append
        ((closed_writeAt ascii item level here).append (closed_writeItems ascii others level later))

theorem closed_writeMembers (ascii : Bool) : ∀ (rest : List (String × Json)) (level : Nat),
    (∀ member ∈ rest, member.2.EachFloat Binary64.IsDouble) → Closed (writeMembers ascii level rest)
  | [], _, _ => rfl
  | (name, item) :: others, level, each => by
      obtain ⟨here, later⟩ := List.forall_mem_cons.mp each
      rw [writeMembers_cons]
      exact (inert_opening (by decide) level).1.append
        ((inert_writeText ascii name).1.append
        (inert_colon.1.append ((closed_writeAt ascii item level here).append
        (closed_writeMembers ascii others level later))))

end

mutual

/-- In a document whose text has plain characters only, every float is finite. -/
theorem isFinite_of_inert (ascii : Bool) : ∀ (document : Json)
    (level : Nat), document.EachFloat Binary64.IsDouble →
    Inert (writeAt ascii level document) → document.EachFloat fun number => number.isFinite = true
  | null, _, _, _ => .null
  | bool truth, _, _, _ => .bool truth
  | int number, _, _, _ => .int number
  | float _, _, .float double, inert => .float ((closed_floatText double).2 inert)
  | text content, _, _, _ => .text content
  | list [], _, _, _ => .list (List.forall_mem_nil _)
  | list (first :: rest), level, .list each, inert => by
      obtain ⟨here, others⟩ := List.forall_mem_cons.mp each
      have closed := closed_writeAt ascii first (level + 1) here
      rw [writeAt_list] at inert
      have inner := (inert.parts (inert_opening (by decide) _).1).2
      obtain ⟨items, _⟩ := inner.parts
        (closed.append (closed_writeItems ascii rest (level + 1) others))
      obtain ⟨inertFirst, inertRest⟩ := items.parts closed
      exact .list (List.forall_mem_cons.mpr
        ⟨isFinite_of_inert ascii first (level + 1) here inertFirst,
        areFinite_of_inert ascii rest (level + 1) others inertRest⟩)
  | object [], _, _, _ => .object (List.forall_mem_nil _)
  | object ((name, first) :: rest), level, .object each, inert => by
      obtain ⟨here, others⟩ := List.forall_mem_cons.mp each
      have closed := closed_writeAt ascii first (level + 1) here
      have closedName := (inert_writeText ascii name).1
      have closedBoth := closed.append (closed_writeMembers ascii rest (level + 1) others)
      rw [writeAt_object] at inert
      have inner := (inert.parts (inert_opening (by decide) _).1).2
      obtain ⟨members, _⟩ := inner.parts (closedName.append (inert_colon.1.append closedBoth))
      have values := ((members.parts closedName).2.parts inert_colon.1).2
      obtain ⟨inertFirst, inertRest⟩ := values.parts closed
      exact .object (List.forall_mem_cons.mpr
        ⟨isFinite_of_inert ascii first (level + 1) here inertFirst,
        membersFinite_of_inert ascii rest (level + 1) others inertRest⟩)

theorem areFinite_of_inert (ascii : Bool) : ∀ (rest : List Json) (level : Nat),
    (∀ item ∈ rest, item.EachFloat Binary64.IsDouble) → Inert (writeItems ascii level rest) →
      ∀ item ∈ rest, item.EachFloat fun number => number.isFinite = true
  | [], _, _, _ => List.forall_mem_nil _
  | item :: others, level, each, inert => by
      obtain ⟨here, later⟩ := List.forall_mem_cons.mp each
      rw [writeItems_cons] at inert
      have inner := (inert.parts (inert_opening (by decide) level).1).2
      obtain ⟨inertFirst, inertRest⟩ := inner.parts (closed_writeAt ascii item level here)
      exact List.forall_mem_cons.mpr ⟨isFinite_of_inert ascii item level here inertFirst,
        areFinite_of_inert ascii others level later inertRest⟩

theorem membersFinite_of_inert (ascii : Bool) : ∀ (rest : List (String × Json)) (level : Nat),
    (∀ member ∈ rest, member.2.EachFloat Binary64.IsDouble) →
      Inert (writeMembers ascii level rest) →
      ∀ member ∈ rest, member.2.EachFloat fun number => number.isFinite = true
  | [], _, _, _ => List.forall_mem_nil _
  | (name, item) :: others, level, each, inert => by
      obtain ⟨here, later⟩ := List.forall_mem_cons.mp each
      rw [writeMembers_cons] at inert
      have inner := (inert.parts (inert_opening (by decide) level).1).2
      have values := ((inner.parts (inert_writeText ascii name).1).2.parts inert_colon.1).2
      obtain ⟨inertFirst, inertRest⟩ := values.parts (closed_writeAt ascii item level here)
      exact List.forall_mem_cons.mpr ⟨isFinite_of_inert ascii item level here inertFirst,
        membersFinite_of_inert ascii others level later inertRest⟩

end

/-! ### Whole documents -/

theorem EachFloat.and {holds also : Binary64 → Prop} {document : Json}
    (first : document.EachFloat holds) (second : document.EachFloat also) :
    document.EachFloat fun number => holds number ∧ also number := by
  induction first with
  | null => exact .null
  | bool truth => exact .bool truth
  | int number => exact .int number
  | float here =>
      cases second with
      | float there => exact .float ⟨here, there⟩
  | text content => exact .text content
  | list _ ih =>
      cases second with
      | list each => exact .list fun item member => ih item member (each item member)
  | object _ ih =>
      cases second with
      | object each => exact .object fun field member => ih field member (each field member)

/-- A document of numbers of the format is written as a JSON text
exactly if all of its floats are finite. -/
theorem isDocument_write_iff (ascii : Bool) {document : Json}
    (doubles : document.EachFloat Binary64.IsDouble) :
    IsDocument (write ascii document) ↔ document.EachFloat fun number =>
      number.isFinite = true := by
  constructor
  · intro isDocument
    exact isFinite_of_inert ascii document 0 doubles (inert_document isDocument)
  · intro finite
    have none : IsSpace [] := List.forall_mem_nil _
    have value := isValue_writeAt ascii document 0 (doubles.and finite)
    have whole := IsDocument.mk none value none
    rw [List.nil_append, List.append_nil] at whole
    exact whole

end TaskGraph.Json
