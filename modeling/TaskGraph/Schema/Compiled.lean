import TaskGraph.Schema.Check
set_option autoImplicit false

/-! The schema of compiled workflows, against which an artifact is checked before it is written. -/

namespace TaskGraph.Schema

private def fields (members : List (String × Value)) : Value := Value.ofFields members

private def names (items : List String) : Value := .list (items.map .text)

def indexSchema : Value := fields [("type", .text "integer"), ("minimum", .int 0)]

def taskSchema : Value :=
  fields
    [("type", .text "object"),
      ("required",
        names ["name", "index", "parent_index", "upstream_indexes", "kind", "is_group", "config"]),
      ("additionalProperties", .bool false),
      ("properties", fields
        [("name", fields [("type", .text "string"), ("minLength", .int 1)]),
          ("index", indexSchema),
          ("parent_index", fields [("type", names ["integer", "null"]), ("minimum", .int 0)]),
          ("upstream_indexes", fields
            [("type", .text "array"), ("items", indexSchema), ("uniqueItems", .bool true)]),
          ("kind", fields [("enum", names ["task", "group"])]),
          ("is_group", fields [("type", .text "boolean")]),
          ("config", fields [("type", .text "object")])])]

def compiledWorkflow : Value :=
  fields
    [("$schema", .text "https://json-schema.org/draft/2020-12/schema"),
      ("title", .text "Compiled workflow"),
      ("type", .text "object"),
      ("required", names ["name", "meta", "tasks"]),
      ("additionalProperties", .bool false),
      ("properties", fields
        [("name", fields [("type", .text "string")]),
          ("meta", fields [("type", .text "object")]),
          ("tasks", fields [("type", .text "array"), ("items", taskSchema)])])]

def validateCompiled (data : Value) (schema : Option Value) : Except Failure Unit :=
  validate data (schema.getD compiledWorkflow)

end TaskGraph.Schema
