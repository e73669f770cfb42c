import TaskGraph.Proofs.JsonText
set_option autoImplicit false

/-! The grammar of JSON texts, rule by rule as the standard gives it, and which characters
such a text can have outside of its strings: the names of numbers that are not finite are not
among them. -/

namespace TaskGraph.Json.Grammar

/-! ### Numbers -/

def AreDigits (text : List Char) : Prop := ∀ c ∈ text, c.isDigit = true

inductive IsWhole : List Char → Prop
  | zero : IsWhole ['0']
  | many {first : Char} {rest : List Char} : first.isDigit = true → first ≠ '0' →
      AreDigits rest → IsWhole (first :: rest)

inductive IsFraction : List Char → Prop
  | absent : IsFraction []
  | digits {text : List Char} : text ≠ [] → AreDigits text → IsFraction ('.' :: text)

inductive IsExponent : List Char → Prop
  | absent : IsExponent []
  | digits {mark : Char} {sign text : List Char} : mark = 'e' ∨ mark = 'E' → sign = [] ∨
      sign = ['-'] ∨ sign = ['+'] →
      text ≠ [] → AreDigits text → IsExponent (mark :: (sign ++ text))

inductive IsNumber : List Char → Prop
  | mk {sign whole fraction exponent : List Char} : sign = [] ∨ sign = ['-'] → IsWhole whole →
      IsFraction fraction →
      IsExponent exponent → IsNumber (sign ++ (whole ++ (fraction ++ exponent)))

/-! ### Strings -/

inductive IsCharacter : List Char → Prop
  | plain {c : Char} : c ≠ '"' → c ≠ '\\' → 0x20 ≤ c.toNat → IsCharacter [c]
  | escape {c : Char} : c ∈ ['"', '\\', '/', 'b', 'f', 'n', 'r', 't'] → IsCharacter ['\\', c]
  | unit {digits : List Char} : digits.length = 4 → (∀ c ∈ digits, (hexValue? c).isSome = true) →
      IsCharacter ('\\' :: 'u' :: digits)

def IsString (text : List Char) : Prop :=
  ∃ characters : List (List Char), (∀ c ∈ characters, IsCharacter c) ∧
    text = '"' :: (characters.flatten ++ ['"'])

/-! ### Values -/

def IsSpace (text : List Char) : Prop := ∀ c ∈ text, c = ' ' ∨ c = '\t' ∨ c = '\n' ∨ c = '\r'

inductive IsMark (mark : Char) : List Char → Prop
  | mk {before after : List Char} : IsSpace before → IsSpace after →
      IsMark mark (before ++ mark :: after)

mutual

inductive IsValue : List Char → Prop
  | null : IsValue ['n', 'u', 'l', 'l']
  | true : IsValue ['t', 'r', 'u', 'e']
  | false : IsValue ['f', 'a', 'l', 's', 'e']
  | number {text : List Char} : IsNumber text → IsValue text
  | string {text : List Char} : IsString text → IsValue text
  | emptyArray {opening closing : List Char} : IsMark '[' opening → IsMark ']' closing →
      IsValue (opening ++ closing)
  | array {opening items closing : List Char} : IsMark '[' opening → AreItems items →
      IsMark ']' closing →
      IsValue (opening ++ (items ++ closing))
  | emptyObject {opening closing : List Char} : IsMark '\x7b' opening → IsMark '\x7d' closing →
      IsValue (opening ++ closing)
  | object {opening members closing : List Char} : IsMark '\x7b' opening → AreMembers members →
      IsMark '\x7d' closing →
      IsValue (opening ++ (members ++ closing))

inductive AreItems : List Char → Prop
  | last {text : List Char} : IsValue text → AreItems text
  | more {text comma rest : List Char} : IsValue text → IsMark ',' comma → AreItems rest →
      AreItems (text ++ (comma ++ rest))

/-- Names, each with a colon and a value, and with a comma after each value but the last. -/
inductive AreMembers : List Char → Prop
  | last {name colon text : List Char} : IsString name → IsMark ':' colon → IsValue text →
      AreMembers (name ++ (colon ++ text))
  | more {name colon text comma rest : List Char} : IsString name → IsMark ':' colon →
      IsValue text →
      IsMark ',' comma → AreMembers rest → AreMembers (name ++ (colon ++ (text ++ (comma ++ rest))))

end

/-- A JSON text: a value with space around it. -/
inductive IsDocument : List Char → Prop
  | mk {before text after : List Char} : IsSpace before → IsValue text → IsSpace after →
      IsDocument (before ++ (text ++ after))

/-! ### Characters outside of strings -/

/-- Where a character stands: outside of strings, between
quotes, or after a backslash between quotes. -/
inductive Place where
  | outside
  | inside
  | escaped
deriving DecidableEq

def Place.step : Place → Char → Place
  | outside, c => if c = '"' then inside else outside
  | inside, c => if c = '"' then outside else if c = '\\' then escaped else inside
  | escaped, _ => inside

def Place.run (place : Place) (text : List Char) : Place := text.foldl Place.step place

def bare : Place → List Char → List Char
  | _, [] => []
  | place, c :: rest =>
      if place = .outside ∧ c ≠ '"' then c :: bare (place.step c) rest else bare (place.step c) rest

theorem run_append (place : Place) (text more : List Char) :
    place.run (text ++ more) = (place.run text).run more :=
  List.foldl_append

theorem bare_append (place : Place) (text more : List Char) :
    bare place (text ++ more) = bare place text ++ bare (place.run text) more := by
  induction text generalizing place with
  | nil => rfl
  | cons c rest ih =>
      rw [List.cons_append, bare, bare]
      split
      · rw [ih, List.cons_append]
        rfl
      · exact ih _

def Closed (text : List Char) : Prop := Place.outside.run text = .outside

theorem Closed.append {text more : List Char} (closed : Closed text) (closedMore : Closed more) :
    Closed (text ++ more) := by
  rw [Closed, run_append, closed]
  exact closedMore

theorem Closed.bare_append {text : List Char} (closed : Closed text) (more : List Char) :
    bare .outside (text ++ more) = bare .outside text ++ bare .outside more := by
  rw [Grammar.bare_append, closed]

/-- What has no quote in it is all outside of strings. -/
theorem closed_of_unquoted {text : List Char} (unquoted : ∀ c ∈ text, c ≠ '"') :
    Closed text ∧ bare .outside text = text := by
  induction text with
  | nil => exact ⟨rfl, rfl⟩
  | cons c rest ih =>
      obtain ⟨notQuote, others⟩ := List.forall_mem_cons.mp unquoted
      obtain ⟨closed, same⟩ := ih others
      have stays : Place.outside.step c = .outside := if_neg notQuote
      constructor
      · rw [Closed, Place.run, List.foldl_cons, stays]
        exact closed
      · rw [bare, stays, if_pos ⟨rfl, notQuote⟩, same]

/-- What is within a string is closed by its second quote and not seen outside of it. -/
theorem closed_of_pieces {pieces : List Char} (stays : Place.inside.run pieces = .inside)
    (hidden : bare .inside pieces = []) :
    Closed ('"' :: (pieces ++ ['"'])) ∧ bare .outside ('"' :: (pieces ++ ['"'])) = [] := by
  have opens : Place.outside.step '"' = .inside := rfl
  constructor
  · rw [Closed, Place.run, List.foldl_cons, opens, ← Place.run, run_append, stays]
    rfl
  · have notShown : ¬(Place.outside = .outside ∧ '"' ≠ '"') := fun shown => shown.2 rfl
    rw [bare, if_neg notShown, opens, Grammar.bare_append, hidden, stays]
    rfl

/-! ### What the grammar leaves out -/

/-- Whether a character can stand outside of the strings of a document: the numbers that are not
finite have others in their names. -/
def Plain (c : Char) : Prop := c ≠ 'N' ∧ c ≠ 'I'

instance (c : Char) : Decidable (Plain c) := inferInstanceAs (Decidable (_ ∧ _))

def Inert (text : List Char) : Prop := Closed text ∧ ∀ c ∈ bare .outside text, Plain c

theorem Inert.append {text more : List Char} (inert : Inert text) (inertMore : Inert more) :
    Inert (text ++ more) := by
  refine ⟨inert.1.append inertMore.1, ?_⟩
  rw [inert.1.bare_append, List.forall_mem_append]
  exact ⟨inert.2, inertMore.2⟩

theorem Inert.parts {text more : List Char} (closed : Closed text) (inert : Inert (text ++ more)) :
    Inert text ∧ Inert more := by
  obtain ⟨closedBoth, plain⟩ := inert
  rw [Closed, run_append, closed] at closedBoth
  rw [closed.bare_append, List.forall_mem_append] at plain
  exact ⟨⟨closed, plain.1⟩, closedBoth, plain.2⟩

theorem inert_of_unquoted {text : List Char} (each : ∀ c ∈ text, c ≠ '"' ∧ Plain c) :
    Inert text := by
  obtain ⟨closed, same⟩ := closed_of_unquoted fun c member => (each c member).1
  refine ⟨closed, ?_⟩
  rw [same]
  exact fun c member => (each c member).2

/-- The same for a text that is known. -/
theorem inert_of_all {text : List Char}
    (all : (text.all fun c => decide (c ≠ '"' ∧ Plain c)) = true) : Inert text :=
  inert_of_unquoted fun c member => of_decide_eq_true (List.all_eq_true.mp all c member)

theorem unquoted_of_isDigit {c : Char} (isDigit : c.isDigit = true) : c ≠ '"' ∧ Plain c := by
  refine ⟨?_, ?_, ?_⟩ <;> rintro rfl <;> cases isDigit

theorem inert_number {text : List Char} (number : IsNumber text) : Inert text := by
  cases number with
  | @mk sign whole fraction exponent isSign isWhole isFraction isExponent =>
      have digits {row : List Char} (are : AreDigits row) : Inert row :=
        inert_of_unquoted fun c member => unquoted_of_isDigit (are c member)
      have point : Inert ['.'] := inert_of_all rfl
      have marks {row : List Char} (among : row = [] ∨ row = ['-'] ∨ row = ['+']) : Inert row := by
        rcases among with rfl | rfl | rfl <;> exact inert_of_all rfl
      refine (marks (isSign.imp_right Or.inl)).append (Inert.append ?_ (Inert.append ?_ ?_))
      · cases isWhole with
        | zero => exact digits (List.forall_mem_singleton.mpr rfl)
        | many isDigit _ others => exact digits (List.forall_mem_cons.mpr ⟨isDigit, others⟩)
      · cases isFraction with
        | absent => exact digits (List.forall_mem_nil _)
        | digits _ are => exact point.append (digits are)
      · cases isExponent with
        | absent => exact digits (List.forall_mem_nil _)
        | @digits mark _ _ isMark isSign _ are =>
            have marked : Inert [mark] := by
              rcases isMark with rfl | rfl <;> exact inert_of_all rfl
            exact marked.append ((marks isSign).append (digits are))

theorem run_within {text : List Char} (each : ∀ c ∈ text, c ≠ '"' ∧ c ≠ '\\') :
    Place.inside.run text = .inside ∧ bare .inside text = [] := by
  induction text with
  | nil => exact ⟨rfl, rfl⟩
  | cons c rest ih =>
      obtain ⟨⟨notQuote, notEscape⟩, others⟩ := List.forall_mem_cons.mp each
      have stays : Place.inside.step c = .inside := by
        rw [Place.step, if_neg notQuote, if_neg notEscape]
      have notOutside : ¬(Place.inside = .outside ∧ c ≠ '"') := fun shown => nomatch shown.1
      rw [Place.run, List.foldl_cons, bare, if_neg notOutside, stays]
      exact ih others

theorem run_character {text : List Char} (character : IsCharacter text) :
    Place.inside.run text = .inside ∧ bare .inside text = [] := by
  cases character with
  | plain notQuote notEscape _ =>
      exact run_within (List.forall_mem_singleton.mpr ⟨notQuote, notEscape⟩)
  | escape _ => exact ⟨rfl, rfl⟩
  | @unit digits _ hexadecimal =>
      have within : Place.inside.run digits = .inside ∧ bare .inside digits = [] := by
        refine run_within fun c member => ?_
        have isHex := hexadecimal c member
        constructor <;> rintro rfl <;> cases isHex
      -- The backslash and the letter after it lead back to between the quotes.
      exact within

theorem inert_string {text : List Char} (isString : IsString text) : Inert text := by
  obtain ⟨characters, each, rfl⟩ := isString
  have all : Place.inside.run characters.flatten = .inside ∧
      bare .inside characters.flatten = [] := by
    induction characters with
    | nil => exact ⟨rfl, rfl⟩
    | cons first rest ih =>
        obtain ⟨here, others⟩ := List.forall_mem_cons.mp each
        obtain ⟨stays, hidden⟩ := run_character here
        obtain ⟨staysRest, hiddenRest⟩ := ih others
        rw [List.flatten_cons, run_append, bare_append, stays, hidden, hiddenRest]
        exact ⟨staysRest, rfl⟩
  obtain ⟨closed, hidden⟩ := closed_of_pieces all.1 all.2
  refine ⟨closed, ?_⟩
  rw [hidden]
  exact List.forall_mem_nil _

theorem inert_space {text : List Char} (space : IsSpace text) : Inert text := by
  refine inert_of_unquoted fun c member => ?_
  rcases space c member with rfl | rfl | rfl | rfl <;> decide

theorem inert_mark {mark : Char} {text : List Char} (isMark : IsMark mark text)
    (plain : mark ≠ '"' ∧ Plain mark) :
    Inert text := by
  cases isMark with
  | mk before after =>
      have single : Inert [mark] := inert_of_unquoted (List.forall_mem_singleton.mpr plain)
      exact (inert_space before).append (single.append (inert_space after))

mutual

theorem inert_value : ∀ {text : List Char}, IsValue text → Inert text
  | _, .null | _, .true | _, .false => inert_of_all rfl
  | _, .number number => inert_number number
  | _, .string isString => inert_string isString
  | _, .emptyArray opening closing =>
      (inert_mark opening (by decide)).append (inert_mark closing (by decide))
  | _, .array opening items closing =>
      (inert_mark opening (by decide)).append
        ((inert_items items).append (inert_mark closing (by decide)))
  | _, .emptyObject opening closing =>
      (inert_mark opening (by decide)).append (inert_mark closing (by decide))
  | _, .object opening members closing =>
      (inert_mark opening (by decide)).append
        ((inert_members members).append (inert_mark closing (by decide)))

theorem inert_items : ∀ {text : List Char}, AreItems text → Inert text
  | _, .last value => inert_value value
  | _, .more value comma rest =>
      (inert_value value).append ((inert_mark comma (by decide)).append (inert_items rest))

theorem inert_members : ∀ {text : List Char}, AreMembers text → Inert text
  | _, .last name colon value =>
      (inert_string name).append ((inert_mark colon (by decide)).append (inert_value value))
  | _, .more name colon value comma rest =>
      (inert_string name).append ((inert_mark colon (by decide)).append
        ((inert_value value).append ((inert_mark comma (by decide)).append (inert_members rest))))

end

theorem inert_document {text : List Char} (document : IsDocument text) : Inert text := by
  cases document with
  | mk before value after =>
      exact (inert_space before).append ((inert_value value).append (inert_space after))

end TaskGraph.Json.Grammar
