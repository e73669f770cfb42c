import TaskGraph.Schema.Keyword.List
import TaskGraph.Schema.Reference
set_option autoImplicit false

/-! Which items and keys of a value the keywords of a schema, and of the schemas that it combines,
speak of. The keywords for all others are about the rest. -/

namespace TaskGraph.Schema

/-- The ways in which what is spoken of is found out: the root of the schema, and the checks in
schemas whose references go out from an address. -/
structure Survey where
  root : Value
  checker : List Char → Checker

def underKeyword {α : Type} (name : String) (schema : List (Value × Value))
    (function : Value → Except Fault (List α)) :
    Except Fault (List α) :=
  match keyword? name schema with
  | some value => function value
  | none => .ok []

def inTurn {α : Type} (parts : List (Unit → Except Fault (List α))) : Except Fault (List α) :=
  gather (fun part => part ()) parts

/-- What the schemas that a schema refers to and combines find, if `find` gives it for one of them:
those referred to, those of several that the value meets, and the branch of a condition. -/
def Survey.combined {α : Type} (survey : Survey) (find : List Char → Value → Except Fault (List α))
    (base : List Char) (schema : List (Value × Value)) (value : Value) :
    List (Unit → Except Fault (List α)) :=
  let checker := survey.checker base
  let several (name : String) (_ : Unit) : Except Fault (List α) :=
    underKeyword name schema fun schemas =>
    match schemas.held? with
    | none => .error .unfit
    | some schemas => gather (fun part => match (checker.examine true part value).isMet with
        | .error fault => .error fault
        | .ok met => if met then find base part else .ok []) schemas
  let branch (_ : Unit) : Except Fault (List α) := underKeyword "if" schema fun condition =>
    match checker.meets condition value with
    | .error fault => .error fault
    | .ok true =>
        inTurn [fun _ => find base condition, fun _ => underKeyword "then" schema (find base)]
    | .ok false => underKeyword "else" schema (find base)
  [several "allOf", several "oneOf", several "anyOf", branch]

def Survey.referred {α : Type} (survey : Survey) (find : List Char → Value → Except Fault (List α))
    (base : List Char) (schema : List (Value × Value)) : List (Unit → Except Fault (List α)) :=
  ["$ref", "$dynamicRef"].map fun name _ => underKeyword name schema fun reference =>
    if reference.isNull then .ok []
    else match resolve survey.root base reference with
      | .error fault => .error fault
      | .ok target => find target.base target.schema

/-- The positions of the items that a schema speaks of. The number
bounds how often a schema leads to another one. -/
def evaluatedItems (survey : Survey) (items : List Value) : Nat → List Char → Value →
    Except Fault (List Nat)
  | 0, _, _ => .error .endless
  | steps + 1, base, schema =>
      match schema with
      | .bool _ => .ok []
      | .mapping entries =>
          let checker := survey.checker base
          let find := evaluatedItems survey items steps
          let everywhere (_ : Unit) : Except Fault (List Nat) := .ok (List.range items.length)
          let matching (name : String) (_ : Unit) : Except Fault (List Nat) :=
            underKeyword name entries fun part =>
            match keepAll (fun (item : Nat × Value) => checker.meets part item.2)
              (itemsFrom 0 items) with
            | .error fault => .error fault
            | .ok kept => .ok (kept.map fun item => item.1)
          let first (_ : Unit) : Except Fault (List Nat) :=
            underKeyword "prefixItems" entries fun schemas =>
            match schemas.count? with
            | some count => .ok (List.range count)
            | none => .error .unfit
          let referred := survey.referred find base entries
          if (keyword? "items" entries).isSome then inTurn (referred ++ [everywhere])
          else
            inTurn (referred ++ [first, matching "contains", matching "unevaluatedItems"] ++
              survey.combined find base entries (.list items))
      | _ => .error .bare

/-- The keys of the entries of a mapping that a schema speaks of. The number bounds how often a
schema leads to another one. -/
def evaluatedKeys (survey : Survey) (entries : List (Value × Value)) :
    Nat → List Char → Value → Except Fault (List Value)
  | 0, _, _ => .error .endless
  | steps + 1, base, schema =>
      match schema with
      | .bool _ => .ok []
      | .mapping keywords =>
          let checker := survey.checker base
          let find := evaluatedKeys survey entries steps
          let named (_ : Unit) : Except Fault (List Value) :=
            underKeyword "properties" keywords fun schemas =>
            .ok (((entries? schemas).getD []).map fun entry => entry.1)
          let matching (name : String) (_ : Unit) : Except Fault (List Value) :=
            underKeyword name keywords fun part =>
            if part.isNull then .ok []
            else match keepAll (fun (entry : Value × Value) =>
              (checker.examine true part entry.2).isMet) entries with
              | .error fault => .error fault
              | .ok kept => .ok (kept.map fun entry => entry.1)
          let patterned (_ : Unit) : Except Fault (List Value) :=
            underKeyword "patternProperties" keywords fun patterns =>
            match patterns.held? with
            | none => .error .unfit
            | some patterns => gather (fun (entry : Value × Value) =>
                match keepAll (fun pattern => occursIn pattern entry.1) patterns with
                | .error fault => .error fault
                | .ok found => .ok (found.map fun _ => entry.1)) entries
          let asked (_ : Unit) : Except Fault (List Value) :=
            underKeyword "dependentSchemas" keywords fun schemas =>
            match entries? schemas with
            | none => .error .bare
            | some schemas => gather (fun (entry : Value × Value) =>
                if (Value.lookup? entry.1 entries).isSome then find base entry.2
                  else .ok []) schemas
          inTurn (survey.referred find base keywords ++
            [named, matching "additionalProperties", matching "unevaluatedProperties",
              patterned, asked] ++
            survey.combined find base keywords (.mapping entries))
      | _ => .error .bare

def unevaluatedItemsKeyword (evaluated : Except Fault (List Nat)) (items : List Value) : Outcome :=
  .given evaluated fun evaluated =>
    let others := (itemsFrom 0 items).filter fun item => !evaluated.contains item.1
    if others.isEmpty then .clean else unexpected "Unevaluated items are not allowed"
      (others.map (·.2))

def unevaluatedPropertiesKeyword (checker : Checker) (wanted : Value)
    (evaluated : Except Fault (List Value)) (entries : List (Value × Value)) : Outcome :=
  .given evaluated fun evaluated =>
    let others := entries.filter fun entry => !evaluated.any fun key => Value.same key entry.1
    let broken (entry : Value × Value) : Except Fault (List Value) :=
      (checker.examine false wanted entry.2).all.map (·.map fun _ => entry.1)
    .given (gather broken others) fun keys =>
      if keys.isEmpty then .clean
      else match wanted with
        | .bool _ => unexpected "Unevaluated properties are not allowed" (sortByText keys)
        | _ => unexpected "Unevaluated properties are not valid under the given schema" keys

end TaskGraph.Schema
