import TextTemplate.Proofs.Node.Parts
import TextTemplate.Render.Nodes

/-!
# Blocks filled in

What a derived template makes of the template that it is derived from can be said
without rendering: the blocks of the derived templates are put into the tree of the
root template. This module defines the tree that results, and which derived block
goes where. That rendering a derived template gives what this tree renders to is
proved in `TextTemplate.Proofs.Inheritance.Descent`.

## Main definitions

* `override?` — the block that the most derived template with one has for a name.
* `fill` — a tree with other bodies in its blocks.
* `Root` — the trees whose blocks are each rendered at most once, and that lead to no
  other template.
-/

namespace TextTemplate

/-! ## Which block replaces another one -/

/-- The last block of a name among the nodes of a template, those inside other nodes
left out. -/
def lastBlock? (nodes : List Node) (name : String) : Option (Block Node) :=
  nodes.reverse.findSome? fun
    | .block block => if block.name = name then some block else none
    | _ => none

/-- Of two lists of nodes the second one is asked for its last block first. -/
theorem lastBlock?_append (first second : List Node) (name : String) :
    lastBlock? (first ++ second) name =
      (lastBlock? second name).or (lastBlock? first name) := by
  rw [lastBlock?, List.reverse_append, List.findSome?_append]
  rfl

/-- The block of a name of the most derived template that has one. Each template is
given by its nodes behind the name of its parent, the most derived one first. -/
def override? (derived : List (List Node)) (name : String) : Option (Block Node) :=
  derived.findSome? fun nodes => lastBlock? nodes name

theorem override?_cons (nodes : List Node) (derived : List (List Node))
    (name : String) :
    override? (nodes :: derived) name =
      (lastBlock? nodes name).or (override? derived name) := by
  rw [override?, List.findSome?_cons]
  cases lastBlock? nodes name <;> rfl

/-- The last block of a name is a block of that name. -/
theorem eq_name_of_lastBlock? {nodes : List Node} {name : String} {block : Block Node}
    (h : lastBlock? nodes name = some block) :
    block.name = name ∧ .block block ∈ nodes := by
  obtain ⟨node, hNode, hBlock⟩ := List.exists_of_findSome?_eq_some h
  cases node with
  | block other =>
      by_cases hName : other.name = name
      · simp only [if_pos hName, Option.some.injEq] at hBlock
        exact ⟨hBlock ▸ hName, hBlock ▸ List.mem_reverse.mp hNode⟩
      · simp only [if_neg hName, reduceCtorEq] at hBlock
  | _ => cases hBlock

/-- What replaces a block is a block of its name in one of the derived templates. -/
theorem eq_name_of_override? {derived : List (List Node)} {name : String}
    {block : Block Node} (h : override? derived name = some block) :
    block.name = name ∧ ∃ nodes ∈ derived, .block block ∈ nodes := by
  obtain ⟨nodes, hNodes, hBlock⟩ := List.exists_of_findSome?_eq_some h
  obtain ⟨hName, hMem⟩ := eq_name_of_lastBlock? hBlock
  exact ⟨hName, nodes, hNodes, hMem⟩

/-! ## The filled tree -/

/-- Renders what a block replaces, as `block.super` of a body that mentions it. What
fails there fails everything. -/
def bodyWithSuper (replaced body : List Node) : Action :=
  .nodes replaced fun
    | .error error => .fail error
    | .ok text =>
      .within (Environment.superScope text) (.nodes body .ofExcept) .ofExcept

/-- The body of a block for a body of its own and the block that replaces it, if there
is one. -/
def filledBody (own : List Node) : Option (Block Node) → List Node
  | none => own
  | some replacement =>
    if replacement.usesSuper then [.custom (bodyWithSuper own replacement.body)]
      else replacement.body

section Fill

variable (find : String → Option (Block Node))

mutual

/-- A node in which every block has the body that replaces its own. -/
def Node.fill : Node → Node
  | .text contents => .text contents
  | .output operand => .output operand
  | .loop names source condition body empty =>
    .loop names source condition (Node.fillAll body) (Node.fillAll empty)
  | .choice branches => .choice (Branch.fillAll branches)
  | .block block => .block (Block.fill block)
  | .inherit parent blocks => .inherit parent blocks
  | .embed template bindings => .embed template bindings
  | .filtered chain body => .filtered chain (Node.fillAll body)
  | .now format => .now format
  | .custom action => .custom action

/-- A block with the body that replaces its own. -/
def Block.fill : Block Node → Block Node
  | ⟨name, usesSuper, body⟩ =>
    ⟨name, usesSuper, filledBody (Node.fillAll body) (find name)⟩

/-- Nodes in which every block has the body that replaces its own. -/
def Node.fillAll : List Node → List Node
  | [] => []
  | node :: rest => Node.fill node :: Node.fillAll rest

/-- Branches in which every block has the body that replaces its own. -/
def Branch.fillAll : List (Branch Node) → List (Branch Node)
  | [] => []
  | ⟨condition, body⟩ :: rest => ⟨condition, Node.fillAll body⟩ :: Branch.fillAll rest

end

end Fill

mutual

/-- Without blocks to put in, a tree stays as it is. -/
theorem Node.fill_none (node : Node) : Node.fill (fun _ => none) node = node := by
  cases node with
  | text contents => rfl
  | output operand => rfl
  | loop names source condition body empty =>
      rw [Node.fill, Node.fillAll_none body, Node.fillAll_none empty]
  | choice branches => rw [Node.fill, Branch.fillAll_none branches]
  | block block =>
      obtain ⟨name, usesSuper, body⟩ := block
      rw [Node.fill, Block.fill, filledBody, Node.fillAll_none body]
  | inherit parent blocks => rfl
  | embed template bindings => rfl
  | filtered chain body => rw [Node.fill, Node.fillAll_none body]
  | now format => rfl
  | custom action => rfl

theorem Node.fillAll_none (nodes : List Node) :
    Node.fillAll (fun _ => none) nodes = nodes := by
  cases nodes with
  | nil => rfl
  | cons node rest => rw [Node.fillAll, Node.fill_none node, Node.fillAll_none rest]

theorem Branch.fillAll_none (branches : List (Branch Node)) :
    Branch.fillAll (fun _ => none) branches = branches := by
  cases branches with
  | nil => rfl
  | cons branch rest =>
      obtain ⟨condition, body⟩ := branch
      rw [Branch.fillAll, Node.fillAll_none body, Branch.fillAll_none rest]

end

/-! ## Trees at the root -/

/-- The name of the block that a node is. -/
def Node.blockName? : Node → Option String
  | .block ⟨name, _, _⟩ => some name
  | _ => none

/-- The names of the blocks among some parts of a tree. -/
def blockNames (parts : List Node) : List String :=
  parts.filterMap Node.blockName?

/-- Whether a node renders another template, or a tag of the application's own. -/
def Node.leadsOut : Node → Bool
  | .inherit _ _ => true
  | .embed _ _ => true
  | .custom _ => true
  | _ => false

/-- Whether a node is a loop with a block in its body. -/
def Node.repeatsBlock : Node → Bool
  | .loop _ _ _ body _ => !(blockNames (Node.partsOf body)).isEmpty
  | _ => false

/-- Parts of a tree at the root of a chain of templates: they lead to no other template,
no block is in a body that a loop repeats, and no two blocks have one name. -/
structure Root (parts : List Node) : Prop where
  alone : ∀ part ∈ parts, part.leadsOut = false
  once : ∀ part ∈ parts, part.repeatsBlock = false
  distinct : (blockNames parts).Nodup

/-- Parts of a body that may replace another one: they lead to no other template and
have no blocks. -/
def Plain (parts : List Node) : Prop :=
  (∀ part ∈ parts, part.leadsOut = false) ∧ blockNames parts = []

end TextTemplate
