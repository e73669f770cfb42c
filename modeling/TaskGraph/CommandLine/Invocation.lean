set_option autoImplicit false

/-! The words of a command line: a command, its options in any order, and the file it works on. -/

namespace TaskGraph.CommandLine

inductive Command where
  | compile
  | validate
  | present
deriving DecidableEq

def Command.ofWord? (word : String) : Option Command :=
  match word with
  | "compile" => some .compile
  | "validate" => some .validate
  | "show" => some .present
  | _ => none

inductive Setting where
  | name
  | output
  | schema
deriving DecidableEq

def Setting.word : Setting → List Char
  | .name => ['n', 'a', 'm', 'e']
  | .output => ['o', 'u', 't', 'p', 'u', 't']
  | .schema => ['s', 'c', 'h', 'e', 'm', 'a']

def Command.settings : Command → List Setting
  | .compile => [.name, .output, .schema]
  | .validate => [.name]
  | .present => [.name]

/-- What the words of a command line say: the options with their values,
the latest first, and the other words in order. -/
structure Words where
  settings : List (Setting × String)
  verbose : Bool
  operands : List String

namespace Words

def empty : Words := ⟨[], false, []⟩

def addOperands (words : Words) (operands : List String) : Words :=
  { words with operands := words.operands ++ operands }

def addVerbose (words : Words) (verbose : Bool) : Words :=
  { words with verbose := words.verbose || verbose }

def addSetting (words : Words) (setting : Setting) (value : String) : Words :=
  { words with settings := (setting, value) :: words.settings }

end Words

/-- What one word with options says: whether it asks for more messages, and an option that takes a
value, with the value if it is in the same word. -/
structure Switch where
  verbose : Bool
  setting : Option (Setting × Option (List Char))

def longSwitch? (command : Command) (text : List Char) : Option Switch :=
  let name := text.takeWhile (· ≠ '=')
  let value? : Option (List Char) := match text.dropWhile (· ≠ '=') with
    | [] => none
    | _ :: value => some value
  match command.settings.find? fun setting => setting.word = name with
  | some setting => some ⟨false, some (setting, value?)⟩
  | none =>
      if name = ['v', 'e', 'r', 'b', 'o', 's', 'e'] && value?.isNone then
        some ⟨true, none⟩ else none

/-- Reads the letters of short options in one word. The first option
that takes a value takes the rest of the word. -/
def shortSwitch? (command : Command) : List Char → Option Switch
  | [] => some ⟨false, none⟩
  | c :: rest =>
      if c = 'v' then (shortSwitch? command rest).map fun switch => { switch with verbose := true }
      else match command.settings.find? fun setting => setting.word.head? = some c with
        | some setting => some ⟨false, some (setting, if rest.isEmpty then none else some rest)⟩
        | none => none

def switch? (command : Command) : List Char → Option Switch
  | '-' :: name => longSwitch? command name
  | letters => shortSwitch? command letters

/-- Reads the words behind a command. Behind two dashes that stand alone no word is an option. -/
def Words.read? (command : Command) (words : Words) : List String → Option Words
  | [] => some words
  | word :: rest =>
      match word.toList with
      | ['-', '-'] => some (words.addOperands rest)
      | '-' :: c :: letters =>
          match switch? command (c :: letters) with
          | none => none
          | some ⟨verbose, none⟩ => read? command (words.addVerbose verbose) rest
          | some ⟨verbose, some (setting, some value)⟩ =>
              read? command ((words.addVerbose verbose).addSetting setting (String.ofList value))
                rest
          | some ⟨verbose, some (setting, none)⟩ =>
              match rest with
              | [] => none
              | value :: rest =>
                  read? command ((words.addVerbose verbose).addSetting setting value) rest
      | _ => read? command (words.addOperands [word]) rest
termination_by structural given => given

/-- A command with its file and options. -/
structure Invocation where
  command : Command
  file : String
  name : Option String
  output : Option String
  schema : Option String
  verbose : Bool

def Invocation.ofWords? (command : Command) (given : List String) : Option Invocation :=
  match Words.empty.read? command given with
  | none => none
  | some words => match words.operands with
      | [file] =>
          let setting := fun (setting : Setting) => words.settings.lookup setting
          some ⟨command, file, setting .name, setting .output, setting .schema, words.verbose⟩
      | _ => none

def Invocation.read? (words : List String) : Option Invocation :=
  let words := if words.head? = some "--" then words.tail else words
  match words with
  | [] => none
  | word :: rest => (Command.ofWord? word).bind fun command => ofWords? command rest

end TaskGraph.CommandLine
