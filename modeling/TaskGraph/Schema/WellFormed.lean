import TaskGraph.Schema.Keyword.Number
import TaskGraph.Schema.Keyword.Text
set_option autoImplicit false

/-! Which values are schemas: every keyword asks for a form, and a schema is a truth value or a
mapping whose keywords all have the form asked for. Unknown keywords may hold anything. Keywords are
looked at in an order of their own, and the first flaw found in that order counts. -/

namespace TaskGraph.Schema

/-- Why a value is no schema: a keyword has not the form asked for, or cannot even be looked at. -/
inductive Flaw where
  | illFormed
  | unreadable (fault : Fault)
deriving DecidableEq

def Flaw.unless (holds : Bool) : Option Flaw := if holds then none else some .illFormed

inductive Form where
  | free
  | text (flaw : List Char → Option Flaw)
  | flag
  | number
  | positive
  | count
  | list
  | names
  | typeNames
  | schema
  | schemas
  | schemaOrNames
  | fields (flaw : List Char → Option Flaw) (member : Form)

def dropFeed (text : List Char) : List Char := if text.getLast? = some '\n' then
    text.dropLast else text

def isSchemaName (text : List Char) : Bool := !(dropFeed text).dropLast.contains '#'

def isAnchor (text : List Char) : Bool :=
  match dropFeed text with
  | [] => false
  | c :: rest =>
      (c.isAlpha || c = '_') && rest.all fun d => d.isAlphanum || d = '_' || d = '-' || d = '.'

def patternFlaw (text : List Char) : Option Flaw :=
  match Pattern.ofText text with
  | .ok _ => none
  | .error .malformed => some .illFormed
  | .error fault => some (.unreadable (.ofPattern fault))

def anyText (_ : List Char) : Option Flaw := none

def formOf (keyword : String) : Form :=
  match keyword with
  | "$id" => .text fun text => Flaw.unless (isSchemaName text)
  | "$schema" | "$ref" | "$dynamicRef" | "$recursiveRef" | "$comment" => .text anyText
  | "$anchor" | "$dynamicAnchor" | "$recursiveAnchor" =>
      .text fun text => Flaw.unless (isAnchor text)
  | "$vocabulary" => .fields anyText .flag
  | "$defs" | "definitions" | "properties" | "dependentSchemas" => .fields anyText .schema
  | "patternProperties" => .fields patternFlaw .schema
  | "prefixItems" | "allOf" | "anyOf" | "oneOf" => .schemas
  | "items" | "contains" | "additionalProperties" | "propertyNames" | "if" | "then"
      | "else" | "not" => .schema
  | "unevaluatedItems" | "unevaluatedProperties" | "contentSchema" => .schema
  | "dependencies" => .fields anyText .schemaOrNames
  | "type" => .typeNames
  | "enum" | "examples" => .list
  | "multipleOf" => .positive
  | "minimum" | "maximum" | "exclusiveMinimum" | "exclusiveMaximum" => .number
  | "minLength" | "maxLength" | "minItems" | "maxItems" => .count
  | "minContains" | "maxContains" | "minProperties" | "maxProperties" => .count
  | "pattern" => .text patternFlaw
  | "uniqueItems" | "deprecated" | "readOnly" | "writeOnly" => .flag
  | "required" => .names
  | "dependentRequired" => .fields anyText .names
  | "title" | "description" | "format" | "contentEncoding" | "contentMediaType" => .text anyText
  | _ => .free

def keywordOrder : List String :=
  ["$id", "$schema", "$ref", "$anchor", "$dynamicRef", "$dynamicAnchor", "$vocabulary", "$comment",
    "$defs", "prefixItems", "items", "contains", "additionalProperties", "properties",
    "patternProperties", "dependentSchemas", "propertyNames", "if", "then", "else", "allOf",
    "anyOf", "oneOf", "not", "unevaluatedItems", "unevaluatedProperties", "type", "enum",
    "multipleOf", "maximum", "exclusiveMaximum", "minimum", "exclusiveMinimum", "maxLength",
    "minLength", "pattern", "maxItems", "minItems", "uniqueItems", "maxContains", "minContains",
    "maxProperties", "minProperties", "required", "dependentRequired", "title", "description",
    "deprecated", "readOnly", "writeOnly", "examples", "format", "contentEncoding",
    "contentMediaType", "contentSchema", "definitions", "dependencies", "$recursiveAnchor",
    "$recursiveRef"]

def texts? (items : List Value) : Option (List String) :=
  items.mapM fun item => match item with
    | .text content => some content
    | _ => none

def areNames (items : List Value) : Bool :=
  match texts? items with
  | some names => decide names.Nodup
  | none => false

def isTypeName : Value → Bool
  | .text name => (hasType? name .null).isSome
  | _ => false

def isCount (value : Value) : Bool :=
  hasType? "integer" value = some true && match numberOf? value with
    | some size => !size.lt (.exact 0)
    | none => false

def isPositive (value : Value) : Bool :=
  match numberOf? value with
  | some size => !size.le (.exact 0)
  | none => false

def plainFlaw? (form : Form) (value : Value) : Option Flaw :=
  match form, value with
  | .free, _ => none
  | .text flaw, .text content => flaw content.toList
  | .flag, .bool _ => none
  | .number, number => Flaw.unless (numberOf? number).isSome
  | .positive, number => Flaw.unless (isPositive number)
  | .count, number => Flaw.unless (isCount number)
  | .list, .list _ => none
  | .names, .list items => Flaw.unless (areNames items)
  | .schemaOrNames, .list items => Flaw.unless (areNames items)
  | .typeNames, .text name => Flaw.unless (isTypeName (.text name))
  | .typeNames, .list items =>
      Flaw.unless (!items.isEmpty && items.all isTypeName && areNames items)
  | _, _ => some .illFormed

def firstFlaw? (flaws : List (String × Flaw)) : Option Flaw :=
  keywordOrder.findSome? fun name => flaws.lookup name

def keyFlaw? (flaw : List Char → Option Flaw) (entries : List (Value × Value)) : Option Flaw :=
  entries.findSome? fun (key, _) => match key with
    | .text name => flaw name.toList
    | _ => none

mutual

def flaw? : Form → Value → Option Flaw
  | .schema, .bool _ => none
  | .schema, .mapping entries => firstFlaw? (keywordFlaws entries)
  | .schemaOrNames, .bool _ => none
  | .schemaOrNames, .mapping entries => firstFlaw? (keywordFlaws entries)
  | .schemas, .list items => if items.isEmpty then some .illFormed else schemasFlaw? items
  | .fields flaw member, .mapping entries => membersFlaw? member entries <|> keyFlaw? flaw entries
  | form, value => plainFlaw? form value
termination_by structural _ value => value

def keywordFlaws : List (Value × Value) → List (String × Flaw)
  | [] => []
  | (key, value) :: rest =>
      match key with
      | .text name => match flaw? (formOf name) value with
          | some flaw => (name, flaw) :: keywordFlaws rest
          | none => keywordFlaws rest
      | _ => keywordFlaws rest
termination_by structural entries => entries

def schemasFlaw? : List Value → Option Flaw
  | [] => none
  | item :: rest => flaw? .schema item <|> schemasFlaw? rest
termination_by structural items => items

def membersFlaw? (member : Form) : List (Value × Value) → Option Flaw
  | [] => none
  | (_, value) :: rest => flaw? member value <|> membersFlaw? member rest
termination_by structural entries => entries

end

def schemaFlaw? (value : Value) : Option Flaw := flaw? .schema value

end TaskGraph.Schema
