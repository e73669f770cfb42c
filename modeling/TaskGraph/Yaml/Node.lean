import TaskGraph.Yaml.Lexer
import TaskGraph.Yaml.Resolve
set_option autoImplicit false

/-! The tree of a YAML document, read from its tokens. Tags are resolved
and aliases are replaced by what they stand for. -/

namespace TaskGraph.Yaml

inductive Node where
  | scalar (tag : Tag) (content : List Char)
  | sequence (tag : Tag) (items : List Node)
  | mapping (tag : Tag) (entries : List (Node × Node))

namespace Node

def tag : Node → Tag
  | scalar tag _ => tag
  | sequence tag _ => tag
  | mapping tag _ => tag

mutual

def depth : Node → Nat
  | scalar _ _ => 0
  | sequence _ items => depthItems items + 1
  | mapping _ entries => depthEntries entries + 1

def depthItems : List Node → Nat
  | [] => 0
  | item :: rest => max item.depth (depthItems rest)

def depthEntries : List (Node × Node) → Nat
  | [] => 0
  | (key, value) :: rest => max (max key.depth value.depth) (depthEntries rest)

end

def absent : Node := scalar .null []

end Node

/-- What is left to read of a document, and what was seen so far: the anchors begun, the nodes they
name, and the prefixes of tag handles. -/
structure Reader where
  tokens : List Token
  begun : List (List Char)
  anchors : List (List Char × Node)
  handles : List (List Char × List Char)

namespace Reader

abbrev Parsed (α : Type) := Except Error (α × Reader)

def peek (reader : Reader) : Token := reader.tokens.headD .streamEnd

def next (reader : Reader) : Reader := { reader with tokens := reader.tokens.drop 1 }

def unexpected {α : Type} (reader : Reader) : Except Error α :=
  match reader.peek with
  | .broken cause => .error cause
  | _ => .error (.malformed "an unexpected token")

structure Properties where
  anchor : Option (List Char)
  tag : Option (Option (List Char) × List Char)

def properties (reader : Reader) : Properties × Reader :=
  match reader.peek, reader.next.peek with
  | .anchor name, .tag handle suffix => (⟨some name, some (handle, suffix)⟩, reader.next.next)
  | .anchor name, _ => (⟨some name, none⟩, reader.next)
  | .tag handle suffix, .anchor name => (⟨some name, some (handle, suffix)⟩, reader.next.next)
  | .tag handle suffix, _ => (⟨none, some (handle, suffix)⟩, reader.next)
  | _, _ => (⟨none, none⟩, reader)

def tagName (reader : Reader) : Option (Option (List Char) × List Char) →
    Except Error (Option (List Char))
  | none => .ok none
  | some (none, suffix) => .ok (some suffix)
  | some (some handle, suffix) =>
      match reader.handles.lookup handle with
      | some tagPrefix => .ok (some (tagPrefix ++ suffix))
      | none => .error (.malformed "an unknown tag handle")

/-- The tag of a scalar. Without a tag a plain one is resolved by its text and any other one is a
text; the tag `!` asks for resolution in any case. -/
def scalarTag (name : Option (List Char)) (plain : Bool) (content : List Char) : Tag :=
  match name with
  | none => if plain then resolve content else .text
  | some ['!'] => resolve content
  | some name => Tag.ofName name

def collectionTag (name : Option (List Char)) (own : Tag) : Tag :=
  match name with
  | none => own
  | some ['!'] => own
  | some name => Tag.ofName name

def beginAnchor (anchor : Option (List Char)) (reader : Reader) : Except Error Reader :=
  match anchor with
  | none => .ok reader
  | some name =>
      if reader.begun.contains name then .error (.malformed "an anchor is used twice")
      else .ok { reader with begun := name :: reader.begun }

def endAnchor (anchor : Option (List Char)) (node : Node) (reader : Reader) : Reader :=
  match anchor with
  | none => reader
  | some name => { reader with anchors := (name, node) :: reader.anchors }

def emptyOr (anchor name : Option (List Char)) (reader begun : Reader) : Parsed Node :=
  if anchor.isSome || name.isSome then .ok (.scalar (scalarTag name true []) [], begun)
    else unexpected reader

def isAbsentBefore (ends : List Token) (reader : Reader) : Bool := ends.contains reader.peek

mutual

/-- Reads a node. `inBlock` allows blocks, and `bare` allows a block sequence that is not indented.
The first number bounds the steps. -/
def node : Nat → Bool → Bool → Reader → Parsed Node
  | 0, _, _, reader => unexpected reader
  | steps + 1, inBlock, bare, reader =>
      match reader.peek with
      | .alias name => match reader.anchors.lookup name with
          | some found => .ok (found, reader.next)
          | none =>
              if reader.begun.contains name then
                .error (.beyond "an alias within the node that its anchor names")
              else .error (.malformed "an unknown alias")
      | _ =>
          let (found, reader) := properties reader
          match reader.tagName found.tag with
          | .error cause => .error cause
          | .ok name =>
              match content steps inBlock bare found.anchor name reader with
              | .error cause => .error cause
              | .ok (made, reader) => .ok (made, reader.endAnchor found.anchor made)

def content : Nat → Bool → Bool → Option (List Char) → Option (List Char) → Reader → Parsed Node
  | 0, _, _, _, _, reader => unexpected reader
  | steps + 1, inBlock, bare, anchor, name, reader =>
      let sequenceOf (read : Parsed (List Node)) : Parsed Node :=
        read.map fun (items, reader) => (.sequence (collectionTag name .sequence) items, reader)
      let mappingOf (read : Parsed (List (Node × Node))) : Parsed Node :=
        read.map fun (entries, reader) => (.mapping (collectionTag name .mapping) entries, reader)
      match reader.beginAnchor anchor with
      | .error cause => .error cause
      | .ok begun =>
          match reader.peek with
          | .blockEntry =>
              if bare then sequenceOf (bareItems steps begun) else emptyOr anchor name reader begun
          | .scalar text plain => .ok (.scalar (scalarTag name plain text) text, begun.next)
          | .flowSequenceStart => sequenceOf (flowItems steps true begun.next)
          | .flowMappingStart => mappingOf (flowEntries steps true begun.next)
          | .blockSequenceStart =>
              if inBlock then sequenceOf (blockItems steps begun.next)
                else emptyOr anchor name reader begun
          | .blockMappingStart =>
              if inBlock then mappingOf (blockEntries steps begun.next)
                else emptyOr anchor name reader begun
          | _ => emptyOr anchor name reader begun

def blockItems : Nat → Reader → Parsed (List Node)
  | 0, reader => unexpected reader
  | steps + 1, reader =>
      match reader.peek with
      | .blockEntry =>
          let reader := reader.next
          let item := if isAbsentBefore [.blockEntry, .blockEnd] reader then
            .ok (Node.absent, reader)
            else node steps true false reader
          match item with
          | .error cause => .error cause
          | .ok (item, reader) =>
              (blockItems steps reader).map fun (rest, reader) => (item :: rest, reader)
      | .blockEnd => .ok ([], reader.next)
      | _ => unexpected reader

def bareItems : Nat → Reader → Parsed (List Node)
  | 0, reader => unexpected reader
  | steps + 1, reader =>
      match reader.peek with
      | .blockEntry =>
          let reader := reader.next
          let item :=
            if isAbsentBefore [.blockEntry, .key, .value, .blockEnd] reader then
              .ok (Node.absent, reader)
            else node steps true false reader
          match item with
          | .error cause => .error cause
          | .ok (item, reader) =>
              (bareItems steps reader).map fun (rest, reader) => (item :: rest, reader)
      | _ => .ok ([], reader)

def blockEntries : Nat → Reader → Parsed (List (Node × Node))
  | 0, reader => unexpected reader
  | steps + 1, reader =>
      let part (reader : Reader) : Parsed Node :=
        if isAbsentBefore [.key, .value, .blockEnd] reader then .ok (Node.absent, reader)
        else node steps true true reader
      match reader.peek with
      | .key =>
          match part reader.next with
          | .error cause => .error cause
          | .ok (key, reader) =>
              let value := match reader.peek with
                | .value => part reader.next
                | _ => .ok (Node.absent, reader)
              match value with
              | .error cause => .error cause
              | .ok (value, reader) =>
                  (blockEntries steps reader).map fun (rest, reader) =>
                    ((key, value) :: rest, reader)
      | .blockEnd => .ok ([], reader.next)
      | _ => unexpected reader

/-- Reads the items between square brackets; an item with a key mark is a mapping of one entry. -/
def flowItems : Nat → Bool → Reader → Parsed (List Node)
  | 0, _, reader => unexpected reader
  | steps + 1, first, reader =>
      let more (item : Parsed Node) : Parsed (List Node) := match item with
        | .error cause => .error cause
        | .ok (item, reader) =>
            (flowItems steps false reader).map fun (rest, reader) => (item :: rest, reader)
      let part (reader : Reader) (ends : List Token) : Parsed Node :=
        if isAbsentBefore ends reader then .ok (Node.absent, reader)
          else node steps false false reader
      let fromItem (reader : Reader) : Parsed (List Node) := match reader.peek with
        | .flowSequenceEnd => .ok ([], reader.next)
        | .key =>
            match part reader.next [.value, .flowEntry, .flowSequenceEnd] with
            | .error cause => .error cause
            | .ok (key, reader) =>
                let value := match reader.peek with
                  | .value => part reader.next [.flowEntry, .flowSequenceEnd]
                  | _ => .ok (Node.absent, reader)
                more (value.map fun (value, reader) => (.mapping .mapping [(key, value)], reader))
        | _ => more (node steps false false reader)
      match reader.peek with
      | .flowSequenceEnd => .ok ([], reader.next)
      | .flowEntry => if first then fromItem reader else fromItem reader.next
      | _ => if first then fromItem reader else unexpected reader

def flowEntries : Nat → Bool → Reader → Parsed (List (Node × Node))
  | 0, _, reader => unexpected reader
  | steps + 1, first, reader =>
      let more (entry : Parsed (Node × Node)) : Parsed (List (Node × Node)) := match entry with
        | .error cause => .error cause
        | .ok (entry, reader) =>
            (flowEntries steps false reader).map fun (rest, reader) => (entry :: rest, reader)
      let part (reader : Reader) (ends : List Token) : Parsed Node :=
        if isAbsentBefore ends reader then .ok (Node.absent, reader)
          else node steps false false reader
      let fromEntry (reader : Reader) : Parsed (List (Node × Node)) := match reader.peek with
        | .flowMappingEnd => .ok ([], reader.next)
        | .key =>
            match part reader.next [.value, .flowEntry, .flowMappingEnd] with
            | .error cause => .error cause
            | .ok (key, reader) =>
                let value := match reader.peek with
                  | .value => part reader.next [.flowEntry, .flowMappingEnd]
                  | _ => .ok (Node.absent, reader)
                more (value.map fun (value, reader) => ((key, value), reader))
        | _ =>
            more ((node steps false false reader).map fun (key, reader) =>
              ((key, Node.absent), reader))
      match reader.peek with
      | .flowMappingEnd => .ok ([], reader.next)
      | .flowEntry => if first then fromEntry reader else fromEntry reader.next
      | _ => if first then fromEntry reader else unexpected reader

end

def standardHandles : List (List Char × List Char) :=
  [(['!'], ['!']), (['!', '!'], Tag.standardPrefix)]

/-- Reads the directives before a document: at most one version, which
must be 1, and one prefix for each handle. -/
def directives : Nat → Bool → List (List Char × List Char) → Reader →
    Parsed (List (List Char × List Char))
  | 0, _, _, reader => unexpected reader
  | steps + 1, versioned, handles, reader =>
      match reader.peek with
      | .directive (.version major) =>
          if versioned || major ≠ 1 then .error (.malformed "a version directive")
          else directives steps true handles reader.next
      | .directive (.tag handle tagPrefix) =>
          if (handles.lookup handle).isSome then
            .error (.malformed "a tag handle is declared twice")
          else directives steps versioned ((handle, tagPrefix) :: handles) reader.next
      | .directive .other => directives steps versioned handles reader.next
      | _ => .ok (handles, reader)

def skipEnds (reader : Reader) : Reader :=
  { reader with tokens := reader.tokens.dropWhile fun token => token = .documentEnd }

def lastDocument (steps : Nat) (reader : Reader) : Except Error Node :=
  match node steps true false reader with
  | .error cause => .error cause
  | .ok (root, reader) =>
      match reader.skipEnds.peek with
      | .streamEnd => .ok root
      | _ => unexpected reader.skipEnds

def document (steps : Nat) (reader : Reader) : Except Error (Option Node) :=
  let explicit : Except Error (Option Node) :=
    match directives steps false [] reader.skipEnds with
    | .error cause => .error cause
    | .ok (handles, reader) =>
        match reader.peek with
        | .documentStart =>
            let reader := { reader.next with handles := handles ++ standardHandles }
            match reader.peek with
            | .directive _ => unexpected reader
            | .documentStart => unexpected reader
            | .documentEnd => match reader.skipEnds.peek with
                | .streamEnd => .ok (some Node.absent)
                | _ => unexpected reader.skipEnds
            | .streamEnd => .ok (some Node.absent)
            | _ => (lastDocument steps reader).map some
        | _ => unexpected reader
  match reader.peek with
  | .streamEnd => .ok none
  | .directive _ => explicit
  | .documentStart => explicit
  | _ => (lastDocument steps { reader with handles := standardHandles }).map some

end Reader

def nodeOf (text : List Char) : Except Error (Option Node) :=
  let tokens := tokensOf text
  Reader.document (4 * tokens.length + 4) ⟨tokens, [], [], []⟩

end TaskGraph.Yaml
