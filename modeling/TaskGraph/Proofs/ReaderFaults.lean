import TaskGraph.Yaml.Node
import TaskGraph.Proofs.ScannerFaults
set_option autoImplicit false

/-! Why the tokens of a YAML text give no tree: they break the format, or
one of them reports a failure of the scanner. -/

namespace TaskGraph.Yaml

/-- Whether a failure is a breach of the format, is about a node within
itself, or is reported by one of some tokens. -/
def Reported (tokens : List Token) (cause : Error) : Prop :=
  (∃ reason, cause = .malformed reason) ∨ (∃ reason, cause = .beyond reason) ∨
    .broken cause ∈ tokens

namespace Reader

variable {α β : Type} {tokens : List Token} {reader : Reader}

/-- Whether a reading of some of the given tokens leaves some of them, or fails as they report. -/
abbrev Reads (tokens : List Token) (result : Parsed α) : Prop :=
  Ends (Reported tokens) (fun found => found.2.tokens ⊆ tokens) result

/-- Whether a result, if it is a failure, is one that the tokens report. -/
abbrev Reports (tokens : List Token) (result : Except Error α) : Prop :=
  Ends (Reported tokens) (fun _ => True) result

theorem Reads.mapped {result : Parsed α} (reads : Reads tokens result) {f : α × Reader → β × Reader}
    (keeps : ∀ found, (f found).2 = found.2) : Reads tokens (result.map f) := by
  refine reads.map fun found inside => ?_
  rw [keeps]
  exact inside

theorem Reads.failing {result : Parsed α} (reads : Reads tokens result) {holds : β → Prop}
    {cause : Error} (failed : result = .error cause) :
    Ends (Reported tokens) holds (.error cause) := reads.failure failed

theorem next_subset (inside : reader.tokens ⊆ tokens) : reader.next.tokens ⊆ tokens :=
  fun _ member => inside (List.mem_of_mem_drop member)

structure AllRead (tokens : List Token) (steps : Nat) : Prop where
  node : ∀ {inBlock bare : Bool} {reader : Reader}, reader.tokens ⊆ tokens →
    Reads tokens (Reader.node steps inBlock bare reader)
  content : ∀ {inBlock bare : Bool} {anchor name : Option (List Char)} {reader : Reader},
    reader.tokens ⊆ tokens →
    Reads tokens (Reader.content steps inBlock bare anchor name reader)
  blockItems : ∀ {reader : Reader}, reader.tokens ⊆ tokens →
    Reads tokens (Reader.blockItems steps reader)
  bareItems : ∀ {reader : Reader}, reader.tokens ⊆ tokens →
    Reads tokens (Reader.bareItems steps reader)
  blockEntries : ∀ {reader : Reader}, reader.tokens ⊆ tokens →
    Reads tokens (Reader.blockEntries steps reader)
  flowItems : ∀ {first : Bool} {reader : Reader}, reader.tokens ⊆ tokens →
    Reads tokens (Reader.flowItems steps first reader)
  flowEntries : ∀ {first : Bool} {reader : Reader}, reader.tokens ⊆ tokens →
    Reads tokens (Reader.flowEntries steps first reader)

variable {steps : Nat}

def part (steps : Nat) (inBlock bare : Bool) (ends : List Token) (reader : Reader) : Parsed Node :=
  if isAbsentBefore ends reader then .ok (Node.absent, reader) else node steps inBlock bare reader

def valueAfter (steps : Nat) (inBlock bare : Bool) (ends : List Token) (reader : Reader) :
    Parsed Node :=
  match reader.peek with
  | .value => part steps inBlock bare ends reader.next
  | _ => .ok (Node.absent, reader)

theorem AllRead.part (all : AllRead tokens steps) (inBlock bare : Bool) (ends : List Token)
    (inside : reader.tokens ⊆ tokens) : Reads tokens (Reader.part steps inBlock bare ends reader) :=
  .choice (.ok inside) (all.node inside)

theorem AllRead.valueAfter (all : AllRead tokens steps) {inBlock bare : Bool} {ends : List Token}
    (inside : reader.tokens ⊆ tokens) :
    Reads tokens (Reader.valueAfter steps inBlock bare ends reader) := by
  unfold Reader.valueAfter
  split
  · exact all.part _ _ _ (next_subset inside)
  · exact .ok inside

theorem blockEntries_succ (steps : Nat) (reader : Reader) :
    blockEntries (steps + 1) reader =
      match reader.peek with
      | .key =>
          match part steps true true [.key, .value, .blockEnd] reader.next with
          | .error cause => .error cause
          | .ok (key, reader) =>
              match valueAfter steps true true [.key, .value, .blockEnd] reader with
              | .error cause => .error cause
              | .ok (value, reader) =>
                  (blockEntries steps reader).map fun (rest, reader) =>
                    ((key, value) :: rest, reader)
      | .blockEnd => .ok ([], reader.next)
      | _ => unexpected reader := by
  rw [blockEntries]
  rfl

def itemAndMore (steps : Nat) (item : Parsed Node) : Parsed (List Node) :=
  match item with
  | .error cause => .error cause
  | .ok (item, reader) =>
      (flowItems steps false reader).map fun (rest, reader) => (item :: rest, reader)

def itemsFrom (steps : Nat) (reader : Reader) : Parsed (List Node) :=
  match reader.peek with
  | .flowSequenceEnd => .ok ([], reader.next)
  | .key =>
      match part steps false false [.value, .flowEntry, .flowSequenceEnd] reader.next with
      | .error cause => .error cause
      | .ok (key, reader) =>
          itemAndMore steps ((valueAfter steps false false
            [.flowEntry, .flowSequenceEnd] reader).map
            fun (value, reader) => (.mapping .mapping [(key, value)], reader))
  | _ => itemAndMore steps (node steps false false reader)

def explicitDocument (steps : Nat) (reader : Reader) : Except Error (Option Node) :=
  match directives steps false [] reader.skipEnds with
  | .error cause => .error cause
  | .ok (handles, reader) =>
      match reader.peek with
      | .documentStart =>
          let reader := { reader.next with handles := handles ++ standardHandles }
          match reader.peek with
          | .directive _ => unexpected reader
          | .documentStart => unexpected reader
          | .documentEnd => match reader.skipEnds.peek with
              | .streamEnd => .ok (some Node.absent)
              | _ => unexpected reader.skipEnds
          | .streamEnd => .ok (some Node.absent)
          | _ => (lastDocument steps reader).map some
      | _ => unexpected reader

theorem document_eq (steps : Nat) (reader : Reader) :
    document steps reader =
      match reader.peek with
      | .streamEnd => .ok none
      | .directive _ => explicitDocument steps reader
      | .documentStart => explicitDocument steps reader
      | _ => (lastDocument steps { reader with handles := standardHandles }).map some := rfl

end Reader

end TaskGraph.Yaml
