import TaskGraph.Schema.Keyword.Text
import TaskGraph.Schema.Order
set_option autoImplicit false

/-! The keywords for the keys of mappings and the values under them. -/

namespace TaskGraph.Schema

/-- The entries of a mapping. Nothing else has any. -/
def entries? : Value → Option (List (Value × Value))
  | .mapping entries => some entries
  | _ => none

def hasKey (key : Value) (entries : List (Value × Value)) : Except Fault Bool :=
  if key.canBeKey then .ok (Value.lookup? key entries).isSome else .error .unfit

def demandKeys (names : Value) (words : Value → String) (shown : List Value)
    (entries : List (Value × Value)) : Outcome :=
  .taking names.held? .unfit fun names =>
    .each false (fun name => .given (hasKey name entries) fun found => .demand found
      (name :: shown) (words name)) names

def requiredKeyword (names : Value) (entries : List (Value × Value)) : Outcome :=
  demandKeys names (fun name => name.display ++ " is a required property") [] entries

def dependent (brief : Bool) (wanted : Value) (demanded : Value → Value → Outcome)
    (entries : List (Value × Value)) : Outcome :=
  .taking (entries? wanted) .bare fun wanted =>
    .each brief (fun (key, needed) => if (Value.lookup? key entries).isSome then
      demanded key needed else .clean) wanted

def dependentRequiredKeyword (wanted : Value) (entries : List (Value × Value)) : Outcome :=
  dependent false wanted (fun key names =>
    demandKeys names (fun name => name.display ++ " is a dependency of " ++ key.display)
      [key] entries) entries

def dependentSchemasKeyword (checker : Checker) (wanted : Value)
    (entries : List (Value × Value)) : Outcome :=
  dependent checker.brief wanted (fun _ schema => checker.outcome schema (.mapping entries)) entries

def propertiesKeyword (checker : Checker) (schemas : Value)
    (entries : List (Value × Value)) : Outcome :=
  .taking (entries? schemas) .bare fun schemas =>
    checker.each (fun (key, schema) => match Value.lookup? key entries with
      | some value => checker.part (.key key) schema value
      | none => .clean) schemas

def patternPropertiesKeyword (checker : Checker) (schemas : Value)
    (entries : List (Value × Value)) : Outcome :=
  .taking (entries? schemas) .bare fun schemas =>
    checker.each (fun (pattern, schema) => checker.each
      (fun (key, value) => .given (occursIn pattern key) fun found =>
      if found then checker.part (.key key) schema value else .clean) entries) schemas

def propertyNamesKeyword (checker : Checker) (schema : Value)
    (entries : List (Value × Value)) : Outcome :=
  checker.each (fun (key, _) => checker.outcome schema key) entries

/-! ### Additional keys -/

def isPart (part : List Char) : List Char → Bool
  | [] => part.isEmpty
  | c :: rest => part.isPrefixOf (c :: rest) || isPart part rest

def isNamed (named key : Value) : Except Fault Bool :=
  match named, key with
  | .mapping entries, key => .ok (Value.lookup? key entries).isSome
  | .config fields _, key => .ok (fields.any fun field => Value.isText field.1 key)
  | .list items, key => .ok (items.any fun item => Value.same item key)
  | .tuple items, key => .ok (items.any fun item => Value.same item key)
  | .set items, key => .ok (items.any fun item => Value.same item key)
  | .text content, .text key => .ok (isPart key.toList content.toList)
  | _, _ => .error .unfit

def sharedPattern (schema : List (Value × Value)) : Except Fault String :=
  match ((keyword? "patternProperties" schema).getD (.list [])).held? with
  | none => .error .unfit
  | some patterns =>
      let texts := patterns.filterMap fun pattern => match pattern with
        | .text content => some content
        | _ => none
      if texts.length = patterns.length then .ok (String.intercalate "|" texts) else .error .unfit

/-- Whether a key is one that neither the keys nor the patterns of a
schema speak of. The empty pattern does not count. -/
def isAdditional (named : Value) (pattern : String) (key : Value) : Except Fault Bool :=
  match isNamed named key with
  | .error fault => .error fault
  | .ok true => .ok false
  | .ok false => if pattern.isEmpty then .ok true else (occurs pattern key).map (!·)

def keepAll {α : Type} (test : α → Except Fault Bool) : List α → Except Fault (List α)
  | [] => .ok []
  | item :: rest => match test item with
      | .error fault => .error fault
      | .ok kept => (keepAll test rest).map fun others => if kept then item :: others else others

def additional (schema entries : List (Value × Value)) : Except Fault (List (Value × Value)) :=
  match sharedPattern schema with
  | .error fault => .error fault
  | .ok pattern =>
      let named := (keyword? "properties" schema).getD (.list [])
      keepAll (fun entry => isAdditional named pattern entry.1) entries

def insertByText (value : Value) : List Value → List Value
  | [] => [value]
  | first :: rest =>
      if value.plainText < first.plainText then value :: first :: rest
        else first :: insertByText value rest

def sortByText (values : List Value) : List Value :=
  values.foldl (fun sorted value => insertByText value sorted) []

def unexpected (words : String) (extras : List Value) : Outcome :=
  .say extras
    (words ++ " (" ++ commaRow extras ++ (if extras.length = 1 then " was" else " were") ++
      " unexpected)")

def unmatched (keys patterns : List Value) : Outcome :=
  .taking (Value.inOrder? keys) .unfit fun keys =>
    .taking (Value.inOrder? patterns) .unfit fun patterns =>
      .say (keys ++ patterns)
        (commaRow keys ++ (if keys.length = 1 then " does" else " do") ++
          " not match any of the regexes: " ++
          commaRow patterns)

/-- The schema of the values under all other keys. What counts as nothing forbids those keys. -/
def additionalKeyword (checker : Checker) (schema : List (Value × Value)) (wanted : Value)
    (entries : List (Value × Value)) : Outcome :=
  .given (additional schema entries) fun extras =>
    match wanted with
    | .mapping _ => checker.each (fun (key, value) => checker.part (.key key) wanted value) extras
    | wanted =>
        if wanted.isPresent || extras.isEmpty then .clean
        else match keyword? "patternProperties" schema with
          | some patterns => unmatched (extras.map (·.1)) (patterns.held?.getD [])
          | none =>
              unexpected "Additional properties are not allowed" (sortByText (extras.map (·.1)))

end TaskGraph.Schema
