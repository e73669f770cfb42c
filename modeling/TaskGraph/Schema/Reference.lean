import TaskGraph.Schema.Address
import TaskGraph.Schema.Keyword.Mapping
import TaskGraph.Text.Integer
import TaskGraph.Text.Percent
set_option autoImplicit false

/-! References from one schema to another: by the way from the root of a schema with an address, by
the name of a place, or by an address. -/

namespace TaskGraph.Schema

/-- A schema that a reference leads to, and the address from which its own references go out. -/
structure Target where
  schema : Value
  base : List Char

def idOf : Value → Except Fault (Option (List Char))
  | .bool _ => .ok none
  | .mapping entries => match keyword? "$id" entries with
      | none => .ok none
      | some .null => .ok none
      | some (.text id) => .ok (some (id.toList.reverse.dropWhile (· = '#')).reverse)
      | some (.bytes _) => .error .unfit
      | some _ => .error .bare
  | _ => .error .bare

/-- The address from which the references of a schema go out, if those of
the schema around it go out from a given one. -/
def enter (base : List Char) (schema : Value) : Except Fault (List Char) :=
  (idOf schema).map fun id => (id.map (joinAddress base)).getD base

/-- The fault of a value as the name of a dialect. A name is a text, or a value with nothing in it;
every other one that can be a key is bare. -/
def dialectFault? (name : Value) : Option Fault :=
  if !name.canBeKey then some .unfit
  else match name with
    | .text _ => none
    | .bytes _ => none
    | other => if other.isPresent then some .bare else none

/-- The fault of looking at a value as a schema whose dialect is asked for first. What the dialect
cannot be looked for in is unfit; that other values than truth values and mappings are no schemas
shows only later. -/
def entryFault? : Value → Option Fault
  | .null => some .unfit
  | .int _ => some .unfit
  | .float _ => some .unfit
  | .bytes _ => some .unfit
  | .date _ => some .unfit
  | .moment _ => some .unfit
  | .text content => if isPart "$schema".toList content.toList then some .unfit else none
  | .mapping entries => (keyword? "$schema" entries).bind dialectFault?
  | _ => none

/-! ### Ways through a schema -/

def schemaKeywords : List String :=
  ["additionalProperties", "contains", "contentSchema", "else", "if", "items", "not",
    "propertyNames", "then", "unevaluatedItems", "unevaluatedProperties"]

def schemaListKeywords : List String := ["allOf", "anyOf", "oneOf", "prefixItems"]

def schemaMappingKeywords : List String :=
  ["$defs", "definitions", "dependentSchemas", "patternProperties", "properties"]

abbrev Segment := Option String

def leadsToSchema : List Segment → Bool
  | [] => true
  | some name :: rest =>
      if schemaKeywords.contains name then leadsToSchema rest
      else if schemaListKeywords.contains name || schemaMappingKeywords.contains name then
        match rest with
        | _ :: rest => leadsToSchema rest
        | [] => false
      else false
  | none :: _ => false

/-- A part of a pointer with its escapes resolved: first those of slashes, then those of tildes. -/
def unescapePointer : List Char → List Char
  | [] => []
  | '~' :: '1' :: rest => '/' :: unescapePointer rest
  | '~' :: '0' :: rest => '~' :: unescapePointer rest
  | c :: rest => c :: unescapePointer rest

def itemAt (items : List Value) (part : List Char) : Except Fault Value :=
  match Text.integer? part with
  | none => .error .unreadable
  | some position =>
      let index := if position < 0 then position + items.length else position
      match if index < 0 then none else items[index.toNat]? with
      | some item => .ok item
      | none => .error .unresolved

def child (value : Value) (part : List Char) : Except Fault (Value × Segment) :=
  match value with
  | .mapping entries =>
      let name := String.ofList (unescapePointer part)
      match Value.lookup? (.text name) entries with
      | some value => .ok (value, some name)
      | none => .error .unresolved
  | .set _ => .error .unfit
  | .config _ _ => .error .unfit
  | value => match value.held? with
      | some items => (itemAt items part).map fun item => (item, none)
      | none => .error .unfit

/-- Follows the parts of a pointer from a place whose way from
the last schema with an address is given. -/
def follow (base : List Char) (way : List Segment) (value : Value) :
    List (List Char) → Except Fault Target
  | [] => .ok ⟨value, base⟩
  | part :: rest => match child value part with
      | .error fault => .error fault
      | .ok (value, segment) =>
          let way := way ++ [segment]
          if !leadsToSchema way then follow base way value rest
          else match idOf value with
            | .error fault => .error fault
            | .ok none => follow base way value rest
            | .ok (some id) => follow (joinAddress base id) [] value rest

/-! ### Places with addresses and names -/

/-- A schema with an address, or a named place in one. -/
structure Site where
  address : List Char
  name : Option Value
  schema : Value

def subschemas (entries : List (Value × Value)) : Except Fault (List Value) :=
  let single := schemaKeywords.filterMap fun name => keyword? name entries
  let listed := schemaListKeywords.filterMap fun name => keyword? name entries
  let keyed := schemaMappingKeywords.filterMap fun name => keyword? name entries
  match listed.mapM Value.held?, keyed.mapM entries? with
  | none, _ => .error .unfit
  | _, none => .error .bare
  | some listed, some keyed => .ok (single ++ listed.flatten ++ keyed.flatten.map (·.2))

def gather {α β : Type} (function : α → Except Fault (List β)) : List α → Except Fault (List β)
  | [] => .ok []
  | item :: rest => match function item with
      | .error fault => .error fault
      | .ok first => (gather function rest).map (first ++ ·)

/-- The named places of a schema. A name must be a value that can be looked up. -/
def namedSites (address : List Char) (entries : List (Value × Value)) : Except Fault (List Site) :=
  gather (fun keyword => match keyword? keyword entries with
    | none => .ok []
    | some .null => .ok []
    | some name =>
        if name.canBeKey then .ok [⟨address, some name, .mapping entries⟩] else .error .unfit)
    ["$anchor", "$dynamicAnchor"]

/-- All places with addresses or names in a schema, an outer one before those in it and of those
side by side the last one first. The number bounds the depth. -/
def sites (base : List Char) : Nat → Value → Except Fault (List Site)
  | 0, _ => .ok []
  | depth + 1, schema => match idOf schema with
      | .error fault => .error fault
      | .ok id =>
          let address := (id.map (joinAddress base)).getD base
          let own : List Site := if id.isSome then [⟨address, none, schema⟩] else []
          match schema with
          | .mapping entries => match namedSites address entries, subschemas entries with
              | .error fault, _ => .error fault
              | _, .error fault => .error fault
              | .ok named, .ok parts =>
                  (gather (sites address depth) parts.reverse).map fun inner =>
                    own ++ named ++ inner
          | _ => .ok own

/-- The place with an address and a name or none. Of several the one found last counts. -/
def Site.find? (address : List Char) (name : Option Value) (places : List Site) : Option Site :=
  places.reverse.find? fun site => site.address = address && match name, site.name with
    | none, none => true
    | some name, some other => Value.same name other
    | _, _ => false

def schemaAt (root : Value) (home address : List Char) : Except Fault Value :=
  if address = home then .ok root
  else match sites home (root.depth + 1) root with
    | .error fault => .error fault
    | .ok found => match Site.find? address none found with
        | some site => .ok site.schema
        | none => .error .unresolved

def placeNamed (root : Value) (home address : List Char) (schema : Value) (name : List Char) :
    Except Fault Target :=
  let name := some (Value.text (String.ofList name))
  match sites home (root.depth + 1) root, idOf schema with
  | .error fault, _ => .error fault
  | _, .error fault => .error fault
  | .ok found, .ok id =>
      match Site.find? address name found <|> id.bind (Site.find? · name found) with
      | some site => .ok ⟨site.schema, address⟩
      | none => .error .unresolved

def resolve (root : Value) (base : List Char) (reference : Value) : Except Fault Target :=
  match reference with
  | .text reference =>
      let (address, fragment) := match reference.toList with
        | '#' :: fragment => (base, fragment)
        | relative => splitFragment (joinAddress base relative)
      match (idOf root).map (·.getD []) with
      | .error fault => .error fault
      | .ok home => match schemaAt root home address with
          | .error fault => .error fault
          | .ok schema => match fragment with
              | [] => .ok ⟨schema, address⟩
              | '/' :: pointer =>
                  follow address [] schema (Text.splitAt '/' (Text.decodePercent pointer))
              | name => placeNamed root home address schema name
  | .bytes _ => .error .unfit
  | _ => .error .bare

end TaskGraph.Schema
