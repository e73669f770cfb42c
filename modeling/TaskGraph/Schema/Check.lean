import TaskGraph.Diagnostic
import TaskGraph.Schema.Evaluated
import TaskGraph.Schema.Keyword.Combination
import TaskGraph.Schema.Keyword.Number
set_option autoImplicit false

/-! Checking a value against a schema: every keyword is checked in the order of the schema, and all
violations are collected and sorted by their paths. -/

namespace TaskGraph.Schema

/-- What the keywords of a schema need beside their value: the checks in the schemas that they hold,
a check in the schema that a reference leads to, and what the schema speaks of in a list or a
mapping. -/
structure Context where
  checker : Checker
  refer : Value → Value → Outcome
  items : List Value → Except Fault (List Nat)
  keys : List (Value × Value) → Except Fault (List Value)

def keywordOutcome (context : Context) (schema : List (Value × Value)) (name : String)
    (wanted value : Value) : Outcome :=
  let checker := context.checker
  match name, value with
  | "type", _ => typeKeyword wanted value
  | "enum", _ => enumKeyword wanted value
  | "const", _ => constKeyword wanted value
  | "minimum", _ =>
      boundKeyword (fun number limit => number.lt limit) " is less than the minimum of "
        wanted value
  | "maximum", _ =>
      boundKeyword (fun number limit => limit.lt number) " is greater than the maximum of "
        wanted value
  | "exclusiveMinimum", _ =>
      boundKeyword (fun number limit => number.le limit) " is less than or equal to the minimum of "
        wanted value
  | "exclusiveMaximum", _ =>
      boundKeyword (fun number limit => limit.le number)
        " is greater than or equal to the maximum of " wanted value
  | "multipleOf", _ => multipleKeyword wanted value
  | "minLength", .text content => leastKeyword content.length " is too short" wanted value
  | "maxLength", .text content => mostKeyword content.length " is too long" wanted value
  | "pattern", _ => patternKeyword wanted value
  | "minItems", .list items => leastKeyword items.length " is too short" wanted value
  | "maxItems", .list items => mostKeyword items.length " is too long" wanted value
  | "uniqueItems", .list items => uniqueKeyword wanted items
  | "items", .list items => itemsKeyword checker schema wanted items
  | "prefixItems", .list items => prefixItemsKeyword checker wanted items
  | "contains", .list items =>
      match entryFault? wanted with
      | some fault => .fail fault
      | none => containsKeyword checker schema wanted items
  | "unevaluatedItems", .list items => unevaluatedItemsKeyword (context.items items) items
  | "required", .mapping entries => requiredKeyword wanted entries
  | "properties", .mapping entries => propertiesKeyword checker wanted entries
  | "additionalProperties", .mapping entries => additionalKeyword checker schema wanted entries
  | "patternProperties", .mapping entries => patternPropertiesKeyword checker wanted entries
  | "propertyNames", .mapping entries => propertyNamesKeyword checker wanted entries
  | "unevaluatedProperties", .mapping entries =>
      unevaluatedPropertiesKeyword checker wanted (context.keys entries) entries
  | "minProperties", .mapping entries =>
      leastKeyword entries.length " does not have enough properties" wanted value
  | "maxProperties", .mapping entries =>
      mostKeyword entries.length " has too many properties" wanted value
  | "dependentRequired", .mapping entries => dependentRequiredKeyword wanted entries
  | "dependentSchemas", .mapping entries => dependentSchemasKeyword checker wanted entries
  | "allOf", _ => allOfKeyword checker wanted value
  | "anyOf", _ => anyOfKeyword checker wanted value
  | "oneOf", _ => oneOfKeyword checker wanted value
  | "not", _ => notKeyword checker wanted value
  | "if", _ => ifKeyword checker schema wanted value
  | "$ref", _ => context.refer wanted value
  | "$dynamicRef", _ => context.refer wanted value
  | _, _ => .clean

/-- How a schema is looked at: up to the first violation or to the end,
and with references that go out from an address. -/
structure Mode where
  brief : Bool
  base : List Char

/-- The checks in the schemas that a schema holds. Those with an address of their own have
references that go out from it. -/
def checkerIn (examine : Mode → Value → Value → Outcome) (mode : Mode) : Checker where
  brief := mode.brief
  examine brief schema value := .given (enter mode.base schema) fun base =>
    match entryFault? schema with
    | some fault => .fail fault
    | none => examine ⟨brief, base⟩ schema value
  meets schema value := match entryFault? schema with
    | some fault => .error fault
    | none => (examine ⟨true, mode.base⟩ schema value).isMet

def contextIn (examine : Mode → Value → Value → Outcome) (root : Value) (steps : Nat)
    (mode : Mode) (schema : Value) :
    Context :=
  let survey : Survey := ⟨root, fun base => checkerIn examine ⟨true, base⟩⟩
  { checker := checkerIn examine mode
    refer := fun reference value => .given (resolve root mode.base reference) fun target =>
      match entryFault? target.schema with
      | some fault => .fail fault
      | none => examine ⟨mode.brief, target.base⟩ target.schema value
    items := fun items => evaluatedItems survey items steps mode.base schema
    keys := fun entries => evaluatedKeys survey entries steps mode.base schema }

/-- What a value breaks in a schema that is part of a root schema, in the order of its keywords. The
number bounds how often a schema leads to another one. -/
def examineAt (root : Value) : Nat → Mode → Value → Value → Outcome
  | 0, _, _, _ => .fail .endless
  | steps + 1, mode, schema, value =>
      match schema with
      | .bool true => .clean
      | .bool false => .say [value] ("False schema does not allow " ++ value.display)
      | .mapping entries =>
          let context := contextIn (examineAt root steps) root steps mode schema
          .each mode.brief (fun (key, wanted) => match key with
            | .text name => keywordOutcome context entries name wanted value
            | _ => .clean) entries
      | _ => .fail .bare

/-- How often a schema can lead to another one, or to a part of the
value, without coming back to where it was. -/
def stepBound (schema value : Value) : Nat := (schema.size + 2) * (value.depth + 2)

def findings (schema value : Value) : Except Fault (List Finding) :=
  match idOf schema with
  | .error fault => .error fault
  | .ok id =>
      let outcome := examineAt schema (stepBound schema value) ⟨false, id.getD []⟩ schema value
      match outcome.all with
      | .error fault => .error fault
      | .ok violations => (Finding.ofViolations violations).map Finding.sort

/-- A value that does not meet a schema: the title of the schema and a line for each violation. -/
structure Error where
  title : Value
  lines : List String

def Error.diagnostic (error : Error) : Diagnostic :=
  .about (toString error.lines.length ++ " schema violation(s)") "schema" error.title

inductive Failure where
  | violated (error : Error)
  | brokenOff (fault : Fault)

def validate (value schema : Value) : Except Failure Unit :=
  match findings schema value with
  | .error fault => .error (.brokenOff fault)
  | .ok [] => .ok ()
  | .ok found => match schema with
      | .mapping entries =>
          .error (.violated ⟨(keyword? "title" entries).getD .null, found.map Finding.line⟩)
      | _ => .error (.brokenOff .bare)

end TaskGraph.Schema
