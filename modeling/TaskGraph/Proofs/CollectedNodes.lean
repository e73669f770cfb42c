import TaskGraph.Proofs.ClosedContexts
import TaskGraph.Proofs.Placement
import TaskGraph.Proofs.Results
set_option autoImplicit false

/-! What a collection adds. In a context that stands on its own, collecting a definition ends as the
walk over it does: with the same cause, or well, and then the outline of the context has grown by
the nodes of the walk. -/

namespace TaskGraph.Compiler

/-! ### How steps end -/

/-- Whether a step ends as a pure result tells: with the same
cause, or well and with more that is known. -/
inductive Ends {α β : Type} (good : α → β → Context → Prop) :
    Except Error α → EStateM.Result Error Context β → Prop
  | ok {value : α} {other : β} {after : Context} : good value other after →
      Ends good (.ok value) (.ok other after)
  | error (cause : Error) (left : Context) : Ends good (.error cause) (.error cause left)

namespace Ends

variable {α β γ δ : Type} {good : α → β → Context → Prop} {more : γ → δ → Context → Prop}
    {context : Context}

theorem exists_ok {result : Except Error α} {other : β} {after : Context}
    (ends : Ends good result (.ok other after)) :
    ∃ value, result = .ok value ∧ good value other after := by
  cases ends with
  | ok known => exact ⟨_, rfl, known⟩

theorem eq_error {result : Except Error α} {cause : Error} {left : Context}
    (ends : Ends good result (.error cause left)) :
    result = .error cause := by
  cases ends
  rfl

theorem bind {result : Except Error α} {step : Build β} {expected : Except Error γ}
    {next : β → Build δ} (first : Ends good result (step.run context))
    (failed : ∀ cause, result = .error cause → expected = .error cause)
    (later : ∀ value other after, result = .ok value → good value other after →
      Ends more expected ((next other).run after)) :
    Ends more expected ((step >>= next).run context) := by
  rw [EStateM.run_bind]
  cases ended : step.run context with
  | ok other after =>
      rw [ended] at first
      cases first with
      | ok known => exact later _ _ _ rfl known
  | error cause left =>
      rw [ended] at first
      cases first with
      | error =>
          rw [failed _ rfl]
          exact .error cause left

/-- Steps one after the other end as pure results one after the other. -/
theorem chain {result : Except Error α} {step : Build β} {f : α → Except Error γ}
    {next : β → Build δ} (first : Ends good result (step.run context))
    (later : ∀ value other after, result = .ok value → good value other after →
      Ends more (f value) ((next other).run after)) :
    Ends more (result.bind f) ((step >>= next).run context) := by
  refine first.bind (fun cause failed => by rw [failed]; rfl) fun value other after found known =>
    ?_
  rw [found]
  exact later value other after found known

theorem map {result : Except Error α} {ended : EStateM.Result Error Context β}
    {also : γ → β → Context → Prop} (f : α → γ) (ends : Ends good result ended)
    (weaker : ∀ value other after, good value other after → also (f value) other after) :
    Ends also (result.map f) ended := by
  cases ends with
  | ok known => exact .ok (weaker _ _ _ known)
  | error cause left => exact .error cause left

theorem readOption {result : Except Config.Error α} {expected : Except Error γ} {next : α → Build δ}
    (failed : ∀ cause, result = .error cause → expected = .error (.option cause))
    (later : ∀ value, result = .ok value → Ends more expected ((next value).run context)) :
    Ends more expected ((Compiler.readOption result >>= next).run context) := by
  cases result with
  | ok value => exact later value rfl
  | error cause =>
      rw [failed cause rfl]
      exact .error _ context

end Ends

/-! ### Nodes in an outline -/

def Node.ref (node : Node) : Ref := ⟨node.index⟩

namespace Context.Closed

variable {context : Context}

/-- A node of the outline is the builder at its place, and has that place as its index. -/
theorem node_of_outline (closed : context.Closed) {before rest : List Node} {node : Node}
    (outline : context.outline = before ++ node :: rest) :
    node.index = before.length ∧ context.Has node.ref ∧ context.node node.ref = node := by
  have has : context.Has ⟨before.length⟩ := by
    rw [Has, ← closed.length_outline, outline, List.length_append, List.length_cons]
    exact Nat.lt_add_of_pos_right (Nat.succ_pos _)
  have found := closed.getElem?_outline has
  rw [outline, List.getElem?_append_right (Nat.le_refl _), Nat.sub_self, List.getElem?_cons_zero,
    Option.some.injEq] at found
  have index : node.index = before.length := by
    rw [found]
    exact closed.index _ has
  have ref : node.ref = ⟨before.length⟩ := congrArg Ref.mk index
  rw [ref]
  exact ⟨index, has, found.symm⟩

theorem node_of_extension (closed : context.Closed) {after : Context} (closedAfter : after.Closed)
    {nodes : List Node} (outline : after.outline = context.outline ++ nodes) {ref : Ref}
    (has : context.Has ref) :
    after.Has ref ∧ after.node ref = context.node ref := by
  have there : after.Has ref := by
    rw [Has, ← closedAfter.length_outline, outline, List.length_append, closed.length_outline]
    exact Nat.lt_add_right _ has
  have found := closedAfter.getElem?_outline there
  have inside : ref.address < context.outline.length := by
    rw [closed.length_outline]
    exact has
  rw [outline, List.getElem?_append_left inside, closed.getElem?_outline has,
    Option.some.injEq] at found
  exact ⟨there, found.symm⟩

end Context.Closed

/-! ### Links -/

def Node.awaitAll (indexes : List Nat) (node : Node) : Node :=
  { node with upstreams := node.upstreams ++ indexes.filter (· ∉ node.upstreams) }

theorem Node.awaitAll_nil (node : Node) : node.awaitAll [] = node := by
  rw [awaitAll, List.filter_nil, List.append_nil]

theorem Node.awaitAll_cons (index : Nat) (others : List Nat) (node : Node) :
    node.awaitAll (index :: others.filter (· ≠ index)) = (node.await index).awaitAll others := by
  unfold await awaitAll
  by_cases present : index ∈ node.upstreams
  · have others : (others.filter (· ≠ index)).filter (· ∉ node.upstreams) = others.filter
        (· ∉ node.upstreams) := by
      rw [List.filter_filter]
      refine List.filter_congr fun other _ => ?_
      by_cases same : other = index <;> simp [same, present]
    rw [if_pos present, List.filter_cons_of_neg (by simpa using present), others]
  · have others : (others.filter (· ≠ index)).filter (· ∉ node.upstreams) =
        others.filter (· ∉ node.upstreams ++ [index]) := by
      rw [List.filter_filter]
      refine List.filter_congr fun other _ => ?_
      simp [not_or]
    rw [if_neg present, List.filter_cons_of_pos (by simpa using present), others]
    dsimp only
    rw [List.append_assoc, List.singleton_append]

def refsOf (earlier : Fields Nat) : Fields Ref := earlier.map fun entry => (entry.1, ⟨entry.2⟩)

theorem ends_awaitNames {context : Context} (closed : context.Closed) {earlier : Fields Nat}
    (known : ∀ name index, earlier.get? name = some index → context.Has ⟨index⟩)
    (subtask : Ref) (config : Config) (names : List String) :
    Ends (fun upstreams _ after => after.Closed ∧
        after.outline = context.outline.modify subtask.address (Node.awaitAll upstreams))
      (siblingIndexes earlier config names)
        ((awaitNames (refsOf earlier) subtask config names).run context) := by
  induction names generalizing context with
  | nil =>
      have same : Node.awaitAll [] = id := funext Node.awaitAll_nil
      refine .ok ⟨closed, ?_⟩
      rw [same, List.modify_id]
  | cons name rest ih =>
      rw [siblingIndexes, awaitNames, refsOf, Fields.get?_map]
      cases found : earlier.get? name with
      | none => exact .error _ context
      | some index =>
          have there := known name index found
          have later := ih (closed.await there subtask) fun other place isPlace =>
            (Context.has_update ..).mpr (known other place isPlace)
          refine later.map _ fun upstreams _ after both => ⟨both.1, ?_⟩
          have once : Node.awaitAll (index :: upstreams.filter (· ≠ index)) =
              Node.awaitAll upstreams ∘ Node.await index :=
            funext (Node.awaitAll_cons index upstreams)
          rw [both.2, closed.outline_await there, List.modify_modify_eq, once]

def Headed (block : List Node) : Prop := ∃ root rest, block = root :: rest ∧ root.upstreams = []

abbrev heads (blocks : List (List Node)) : List Node := blocks.filterMap List.head?

/-- Whether a context that stands on its own ends with blocks
whose first nodes wait to be linked. -/
structure Lays (context : Context) (before : List Node) (blocks : List (List Node)) : Prop where
  closed : context.Closed
  outline : context.outline = before ++ blocks.flatten
  headed : ∀ block ∈ blocks, Headed block

structure Links (before : List Node) (blocks : List (List Node)) (links : List (List Nat))
    (after : Context) :
    Prop where
  closed : after.Closed
  outline : after.outline = before ++ (linkBlocks links blocks).flatten

namespace Lays

variable {context : Context} {before : List Node} {block : List Node} {blocks : List (List Node)}

/-- The first node of the first block, where it stands. -/
theorem exists_root (lays : Lays context before (block :: blocks)) :
    ∃ root rest, block = root :: rest ∧ root.upstreams = [] ∧ root.index = before.length ∧
      context.Has root.ref ∧
      context.node root.ref = root ∧ context.outline = before ++ root ::
        (rest ++ blocks.flatten) := by
  obtain ⟨root, rest, same, unlinked⟩ := lays.headed block List.mem_cons_self
  have split : context.outline = before ++ root :: (rest ++ blocks.flatten) := by
    rw [lays.outline, same, List.flatten_cons, List.cons_append]
  obtain ⟨index, has, node⟩ := lays.closed.node_of_outline split
  exact ⟨root, rest, same, unlinked, index, has, node, split⟩

/-- A first block whose root is linked stands before the others. -/
theorem link_root {root : Node} {rest : List Node}
    (lays : Lays context before ((root :: rest) :: blocks)) (index : root.index = before.length)
    {after : Context} (closed : after.Closed) {change : Node → Node}
    (changed : after.outline = context.outline.modify root.index change) {upstreams : List Nat}
    (linked : change root = { root with upstreams }) :
    Lays after (before ++ linkBlock upstreams (root :: rest)) blocks where
  closed := closed
  outline := by
    rw [changed, lays.outline, List.flatten_cons, List.cons_append, index, modify_append_cons,
      linked, linkBlock, List.append_assoc, List.cons_append]
  headed := fun block member => lays.headed block (List.mem_cons_of_mem _ member)

end Lays

theorem Links.cons {before block : List Node} {blocks : List (List Node)} {upstreams : List Nat}
    {links : List (List Nat)} {after : Context}
    (linked : Links (before ++ linkBlock upstreams block) blocks links after) :
    Links before (block :: blocks) (upstreams :: links) after where
  closed := linked.closed
  outline := by rw [linked.outline, linkBlocks, List.flatten_cons, List.append_assoc]

theorem ends_linkNamed {context : Context} {before : List Node} {blocks : List (List Node)}
    (lays : Lays context before blocks) (earlier : Fields Nat)
    (known : ∀ name index, earlier.get? name = some index → context.Has ⟨index⟩) :
    Ends (fun links _ after => Links before blocks links after)
      (namedUpstreams earlier (heads blocks))
      ((linkNamed (refsOf earlier) ((heads blocks).map Node.ref)).run context) := by
  induction blocks generalizing earlier before context with
  | nil => exact .ok ⟨lays.closed, lays.outline⟩
  | cons block blocks ih =>
      obtain ⟨root, rest, same, unlinked, index, has, node, split⟩ := lays.exists_root
      subst same
      have config : (context.builder root.ref).config = root.config := congrArg Node.config node
      have linked (upstreams : List Nat) : root.awaitAll upstreams = { root with upstreams } := by
        simp only [Node.awaitAll, unlinked, List.nil_append, List.not_mem_nil, not_false_eq_true,
          decide_true, List.filter_true]
      rw [show heads ((root :: rest) :: blocks) = root :: heads blocks from
        rfl, List.map_cons, namedUpstreams, linkNamed]
      change Ends _ _ ((readOption ((context.builder root.ref).config.names "after") >>= _).run
        context)
      rw [config]
      refine Ends.readOption (fun cause failed => by rw [failed]) fun names read => ?_
      rw [read]
      dsimp only
      refine Ends.bind (ends_awaitNames lays.closed known root.ref root.config names)
        (fun cause failed => by rw [failed])
        fun upstreams _ after resolved both => ?_
      obtain ⟨closed, changed⟩ := both
      rw [resolved]
      dsimp only
      have later := lays.link_root index closed changed (linked upstreams)
      have keeps (ref : Ref) (there : context.Has ref) : after.Has ref := by
        rw [Context.Has, ← closed.length_outline, changed, List.length_modify,
          lays.closed.length_outline]
        exact there
      have splitAfter : after.outline = before ++ { root with upstreams } ::
          (rest ++ blocks.flatten) := by
        rw [changed, split, show root.ref.address = before.length from
          index, modify_append_cons, linked]
      have name : (after.builder root.ref).name = root.name :=
        congrArg Node.name (closed.node_of_outline splitAfter).2.2
      change Ends _ _ ((linkNamed ((refsOf earlier).put (after.builder root.ref).name root.ref)
        _).run after)
      have put : (refsOf earlier).put root.name root.ref =
          refsOf (earlier.put root.name root.index) :=
        Fields.put_map Ref.mk root.name root.index earlier
      rw [name, put]
      refine (ih later _ fun other place found => ?_).map _ fun links _ final => Links.cons
      rw [Fields.get?_put] at found
      split at found
      · cases found
        exact keeps _ has
      · exact keeps _ (known other place found)

/-- Subtasks that run one by one, behind the one before them. -/
theorem exists_linkChain {context : Context} {before : List Node} {blocks : List (List Node)}
    (lays : Lays context before blocks) {last : Ref} (known : context.Has last) :
    ∃ after, (linkChain (last :: (heads blocks).map Node.ref)).run context = .ok () after ∧
      Links before blocks (chainedUpstreams [last.address] (heads blocks)) after := by
  induction blocks generalizing before last context with
  | nil => exact ⟨context, rfl, lays.closed, lays.outline⟩
  | cons block blocks ih =>
      obtain ⟨root, rest, same, unlinked, index, has, _, _⟩ := lays.exists_root
      subst same
      have linked : root.await last.address = { root with upstreams := [last.address] } := by
        rw [Node.await, unlinked, if_neg List.not_mem_nil, List.nil_append]
      have later := lays.link_root index (lays.closed.await known root.ref)
        (lays.closed.outline_await known root.ref) linked
      obtain ⟨after, ended, links⟩ := ih later ((Context.has_update ..).mpr has)
      exact ⟨after, ended, links.cons⟩

theorem ends_linkChain {context : Context} {before : List Node} {blocks : List (List Node)}
    (lays : Lays context before blocks) :
    Ends (fun links _ after => Links before blocks links after)
      (.ok (chainedUpstreams [] (heads blocks)))
      ((linkChain ((heads blocks).map Node.ref)).run context) := by
  cases blocks with
  | nil => exact .ok ⟨lays.closed, lays.outline⟩
  | cons block blocks =>
      obtain ⟨root, rest, same, unlinked, index, has, _, _⟩ := lays.exists_root
      subst same
      have alone : root = { root with upstreams := [] } := by rw [← unlinked]
      have unchanged : context.outline = context.outline.modify root.index id :=
        (List.modify_id ..).symm
      obtain ⟨after, ended, links⟩ :=
        exists_linkChain (lays.link_root index lays.closed unchanged alone) has
      change Ends _ _ ((linkChain (root.ref :: (heads blocks).map Node.ref)).run context)
      rw [ended]
      exact .ok links.cons

theorem ends_link {context : Context} {before : List Node} {blocks : List (List Node)}
    (lays : Lays context before blocks) (group : Config) :
    Ends (fun links _ after => Links before blocks links after) (upstreamsOf group (heads blocks))
      ((link group ((heads blocks).map Node.ref)).run context) := by
  unfold upstreamsOf link
  refine Ends.readOption (fun cause failed => by rw [failed]) fun parallel read => ?_
  rw [read]
  cases parallel with
  | true => exact ends_linkNamed lays [] nofun
  | false =>
      dsimp only
      by_cases waits : group.has "after" = true
      · rw [if_pos waits, if_pos waits]
        exact .error _ context
      · rw [if_neg waits, if_neg waits]
        exact ends_linkChain lays

/-! ### Walks -/

def Walk.outcome (walk : Walk) : Except Error (List Node) :=
  match walk.failure with
  | some cause => .error cause
  | none => .ok walk.nodes

def Below.outcome (below : Below) : Except Error (List (List Node)) :=
  match below.failure with
  | some cause => .error cause
  | none => .ok below.blocks

theorem outcome_walkBelow_cons (visit : Nat → String → Config → Walk) (index : Nat)
    (subtask : String × Config) (rest : List (String × Config)) :
    (walkBelow visit index (subtask :: rest)).outcome =
      (visit index subtask.1 subtask.2).outcome.bind fun nodes =>
        (walkBelow visit (index + nodes.length) rest).outcome.map (nodes :: ·) := by
  obtain ⟨name, config⟩ := subtask
  rw [walkBelow, Walk.outcome]
  cases (visit index name config).failure with
  | some cause => rfl
  | none =>
      change (Below.mk _ _).outcome =
        (walkBelow visit (index + (visit index name config).nodes.length) rest).outcome.map _
      generalize walkBelow visit (index + (visit index name config).nodes.length) rest = below
      rw [Below.outcome, Below.outcome]
      cases below.failure <;> rfl

theorem outcome_closeGroup (group : Node) (below : Below) :
    (closeGroup group below).outcome = below.outcome.bind fun blocks =>
      (upstreamsOf group.config (heads blocks)).map fun links =>
        group :: (linkBlocks links blocks).flatten := by
  rw [closeGroup, Below.outcome]
  cases below.failure with
  | some cause => rfl
  | none =>
      dsimp only [Except.bind]
      cases upstreamsOf group.config (heads below.blocks) <;> rfl

theorem outcome_walk_succ (depth index : Nat) (parent : Option Holder) (inherited : Config)
    (name : String) (own : Config) :
    (walk (depth + 1) index parent inherited name own).outcome =
      ((resolve inherited own).mapError .option).bind fun resolved =>
        if resolved.options.isTask then
          if resolved.subtasks.isEmpty then .ok [⟨name, index, parent, [], .task, resolved.options⟩]
          else .error (Error.taskWithSubtasks own).raised
        else
          (walkBelow (fun place => walk depth place (some ⟨index, name⟩) resolved.defaults)
            (index + 1)
              resolved.subtasks).outcome.bind fun blocks =>
            (upstreamsOf resolved.options (heads blocks)).map fun links =>
              ⟨name, index, parent, [], .group, resolved.options⟩ ::
                (linkBlocks links blocks).flatten := by
  rw [walk]
  cases resolve inherited own with
  | error cause => rfl
  | ok resolved =>
      dsimp only [Except.mapError, Except.bind]
      by_cases isTask : resolved.options.isTask = true
      · rw [if_pos isTask, if_pos isTask]
        split <;> rfl
      · rw [if_neg isTask, if_neg isTask]
        exact outcome_closeGroup _ _

/-- A walk that comes to its end begins with its own node, which nothing has linked yet. -/
theorem headed_of_walk {depth index : Nat} {parent : Option Holder} {inherited own : Config}
    {name : String} {nodes : List Node}
    (ended : (walk depth index parent inherited name own).outcome = .ok nodes) : Headed nodes := by
  cases depth with
  | zero => cases ended
  | succ depth =>
      rw [outcome_walk_succ] at ended
      cases found : resolve inherited own with
      | error cause =>
          rw [found] at ended
          cases ended
      | ok resolved =>
          rw [found] at ended
          dsimp only [Except.mapError, Except.bind] at ended
          split at ended
          · split at ended
            · cases ended
              exact ⟨_, _, rfl, rfl⟩
            · cases ended
          · split at ended
            · cases ended
            · obtain ⟨links, _, same⟩ := map_eq_ok_iff.mp ended
              exact ⟨_, _, same.symm, rfl⟩

/-- What a collection leaves of a context that stands on its
own, if it ends well with some nodes. -/
structure Adds (context : Context) (nodes : List Node) (root : Ref) (after : Context) : Prop where
  root : root = context.next
  closed : after.Closed
  outline : after.outline = context.outline ++ nodes

structure AddsBlocks (context : Context) (blocks : List (List Node)) (roots : List Ref)
    (after : Context) : Prop where
  lays : Lays after context.outline blocks
  roots : roots = (heads blocks).map Node.ref

theorem ends_mapM (group : Ref) (holder : Holder) (visit : Nat → String → Config → Walk)
    (step : String × Config → Build Ref)
    (each : ∀ context : Context, context.Closed → context.Has group →
      context.holder group = holder → ∀ subtask, Ends (Adds context)
        (visit context.tasks.length subtask.1 subtask.2).outcome ((step subtask).run context))
    (headed : ∀ index name config nodes, (visit index name config).outcome = .ok nodes →
      Headed nodes)
    {context : Context} (closed : context.Closed) (has : context.Has group)
    (held : context.holder group = holder) (subtasks : List (String × Config)) :
    Ends (AddsBlocks context) (walkBelow visit context.tasks.length subtasks).outcome
      ((subtasks.mapM step).run context) := by
  induction subtasks generalizing context with
  | nil => exact .ok ⟨⟨closed, (List.append_nil _).symm, nofun⟩, rfl⟩
  | cons subtask rest ih =>
      rw [outcome_walkBelow_cons, List.mapM_cons]
      refine (each context closed has held subtask).chain fun nodes root after found adds => ?_
      have begins := headed _ _ _ _ found
      have length : after.tasks.length = context.tasks.length + nodes.length := by
        have lengths := congrArg List.length adds.outline
        rwa [Context.outline, Context.outline, List.length_map, List.length_append,
          List.length_map] at lengths
      obtain ⟨hasAfter, nodeAfter⟩ := closed.node_of_extension adds.closed adds.outline has
      have heldAfter : after.holder group = holder :=
        (congrArg (fun node => Holder.mk node.index node.name) nodeAfter).trans held
      rw [← length]
      refine (ih adds.closed hasAfter heldAfter).bind (fun cause failed => by rw [failed]; rfl)
        fun blocks roots final walked more => ?_
      rw [walked]
      refine .ok ⟨⟨more.lays.closed, ?_, List.forall_mem_cons.mpr ⟨begins, more.lays.headed⟩⟩, ?_⟩
      · rw [more.lays.outline, adds.outline, List.flatten_cons, List.append_assoc]
      · obtain ⟨first, below, same, _⟩ := begins
        have grown := adds.outline
        rw [same] at grown
        have index := (adds.closed.node_of_outline grown).1
        rw [closed.length_outline] at index
        rw [same, more.roots, adds.root]
        exact congrArg (· :: _) (Ref.ext index.symm)

/-- In a context that stands on its own, collecting ends as the walk from its next index does. -/
theorem ends_collect {context : Context} (closed : context.Closed) (parent : Option Ref)
    (known : ∀ group, parent = some group → context.Has group)
    (first : parent = none → context.store = []) (depth : Nat) (inherited : Config)
    (name : String) (own : Config) :
    Ends (Adds context) (walk depth context.tasks.length
      (parent.map context.holder) inherited name own).outcome
      ((collect depth parent inherited name own).run context) := by
  induction depth generalizing context parent inherited name own with
  | zero => exact .error _ context
  | succ depth ih =>
      rw [outcome_walk_succ, collect]
      refine Ends.readOption (fun cause failed => by rw [failed]; rfl) fun resolved found => ?_
      rw [found]
      dsimp only [Except.mapError, Except.bind]
      by_cases isTask : resolved.options.isTask = true
      · rw [if_pos isTask, if_pos isTask]
        by_cases alone : resolved.subtasks.isEmpty = true
        · rw [if_pos alone, if_pos alone]
          exact .ok ⟨rfl, closed.register known first .., closed.outline_register known ..⟩
        · rw [if_neg alone, if_neg alone]
          exact .error _ context
      · rw [if_neg isTask, if_neg isTask]
        have added := closed.register known first name .group resolved.options
        have outline := closed.outline_register known name .group resolved.options
        have length : (context.register parent name .group resolved.options).tasks.length =
            context.tasks.length + 1 := by
          rw [Context.tasks_register, List.length_append, List.length_singleton]
        have has : (context.register parent name .group resolved.options).Has context.next :=
          (Context.has_register ..).mpr (Or.inr rfl)
        have held : (context.register parent name .group resolved.options).holder context.next =
            ⟨context.tasks.length, name⟩ := by
          rw [Context.holder, Context.builder_register_next]
        -- The subtasks are collected under the new group, whose holder is the same in every context
        -- from here on.
        have below := ends_mapM context.next ⟨context.tasks.length, name⟩
          (fun place => walk depth place (some ⟨context.tasks.length, name⟩) resolved.defaults)
          (fun subtask => collect depth (some context.next) resolved.defaults subtask.1 subtask.2)
          (fun other closedOther has held subtask => by
            have here := ih closedOther (some context.next)
              (fun group same => Option.some.inj same ▸ has) (fun absent => absurd absent
              (Option.some_ne_none _)) resolved.defaults subtask.1 subtask.2
            rwa [Option.map_some, held] at here)
          (fun _ _ _ _ => headed_of_walk) added has held resolved.subtasks
        rw [length] at below
        have step : (addTask parent name .group resolved.options).run context =
            .ok context.next (context.register parent name .group resolved.options) := rfl
        rw [EStateM.run_bind, step]
        refine below.chain fun blocks roots after _ adds => ?_
        rw [adds.roots]
        refine (ends_link adds.lays resolved.options).bind (fun cause failed => by rw [failed]; rfl)
          fun links _ final linked both => ?_
        rw [linked]
        refine .ok ⟨rfl, both.closed, ?_⟩
        rw [both.outline, outline, List.append_assoc, List.singleton_append]

/-- The walk that a compilation makes is the collection in the empty context. -/
theorem ends_collect_root (name : String) (root : Config) :
    Ends (Adds .empty) (walkRoot name root).outcome
      ((collect (depthBound root) none .empty name root).run .empty) :=
  ends_collect Context.closed_empty none nofun (fun _ => rfl) (depthBound root) .empty name root

end TaskGraph.Compiler
