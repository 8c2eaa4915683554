import TextTemplate.Node

/-!
# The nodes inside a tree

A tree is often asked what it is built from: whether an application's own tag stands in
it anywhere, or which blocks it has. `parts` lists all nodes of a tree in the order of
the template, so that such questions are questions about a list. What an application's
own tag renders is decided only when it runs and is no part of the tree.
-/

namespace TextTemplate

mutual

/-- A node and the nodes inside it. -/
def Node.parts : Node → List Node
  | .text contents => [.text contents]
  | .output operand => [.output operand]
  | .loop names source condition body empty =>
    .loop names source condition body empty :: (Node.partsOf body ++ Node.partsOf empty)
  | .choice branches => .choice branches :: Branch.partsOf branches
  | .block block => Block.parts block
  | .inherit parent blocks => .inherit parent blocks :: Block.partsOf blocks
  | .embed template bindings => [.embed template bindings]
  | .filtered chain body => .filtered chain body :: Node.partsOf body
  | .now format => [.now format]
  | .custom action => [.custom action]

/-- A block, as a node, and the nodes inside it. -/
def Block.parts : Block Node → List Node
  | ⟨name, usesSuper, body⟩ => .block ⟨name, usesSuper, body⟩ :: Node.partsOf body

/-- The nodes of a list and the nodes inside them. -/
def Node.partsOf : List Node → List Node
  | [] => []
  | node :: rest => Node.parts node ++ Node.partsOf rest

/-- The nodes inside branches. -/
def Branch.partsOf : List (Branch Node) → List Node
  | [] => []
  | ⟨_, body⟩ :: rest => Node.partsOf body ++ Branch.partsOf rest

/-- The blocks that replace others, as nodes, and the nodes inside them. -/
def Block.partsOf : List (String × Block Node) → List Node
  | [] => []
  | (_, block) :: rest => Block.parts block ++ Block.partsOf rest

end

/-! ## Parts of parts -/

mutual

/-- The nodes inside a part are parts. -/
theorem Node.parts_subset {part : Node} (node : Node) (h : part ∈ node.parts) :
    part.parts ⊆ node.parts := by
  cases node with
  | text contents => exact List.mem_singleton.mp h ▸ List.Subset.refl _
  | output operand => exact List.mem_singleton.mp h ▸ List.Subset.refl _
  | loop names source condition body empty =>
      rcases List.mem_cons.mp h with rfl | hInner
      · exact List.Subset.refl _
      · refine List.subset_cons_of_subset _ ?_
        cases List.mem_append.mp hInner with
        | inl hBody =>
            exact List.subset_append_of_subset_left _ (Node.partsOf_subset body hBody)
        | inr hEmpty =>
            exact List.subset_append_of_subset_right
              _ (Node.partsOf_subset empty hEmpty)
  | choice branches =>
      rcases List.mem_cons.mp h with rfl | hInner
      · exact List.Subset.refl _
      · exact List.subset_cons_of_subset _ (Branch.partsOf_subset branches hInner)
  | block block => exact Block.parts_subset block h
  | inherit parent blocks =>
      rcases List.mem_cons.mp h with rfl | hInner
      · exact List.Subset.refl _
      · exact List.subset_cons_of_subset _ (Block.partsOf_subset blocks hInner)
  | embed template bindings => exact List.mem_singleton.mp h ▸ List.Subset.refl _
  | filtered chain body =>
      rcases List.mem_cons.mp h with rfl | hInner
      · exact List.Subset.refl _
      · exact List.subset_cons_of_subset _ (Node.partsOf_subset body hInner)
  | now format => exact List.mem_singleton.mp h ▸ List.Subset.refl _
  | custom action => exact List.mem_singleton.mp h ▸ List.Subset.refl _

theorem Block.parts_subset {part : Node} (block : Block Node)
    (h : part ∈ Block.parts block) :
    part.parts ⊆ Block.parts block := by
  obtain ⟨name, usesSuper, body⟩ := block
  rcases List.mem_cons.mp h with rfl | hInner
  · exact List.Subset.refl _
  · exact List.subset_cons_of_subset _ (Node.partsOf_subset body hInner)

theorem Node.partsOf_subset {part : Node} (nodes : List Node)
    (h : part ∈ Node.partsOf nodes) :
    part.parts ⊆ Node.partsOf nodes := by
  cases nodes with
  | nil => cases h
  | cons node rest =>
      cases List.mem_append.mp h with
      | inl hNode =>
          exact List.subset_append_of_subset_left _ (Node.parts_subset node hNode)
      | inr hRest =>
          exact List.subset_append_of_subset_right _ (Node.partsOf_subset rest hRest)

theorem Branch.partsOf_subset {part : Node} (branches : List (Branch Node))
    (h : part ∈ Branch.partsOf branches) : part.parts ⊆ Branch.partsOf branches := by
  cases branches with
  | nil => cases h
  | cons branch rest =>
      obtain ⟨condition, body⟩ := branch
      cases List.mem_append.mp h with
      | inl hBody =>
          exact List.subset_append_of_subset_left _ (Node.partsOf_subset body hBody)
      | inr hRest =>
          exact List.subset_append_of_subset_right _ (Branch.partsOf_subset rest hRest)

theorem Block.partsOf_subset {part : Node} (blocks : List (String × Block Node))
    (h : part ∈ Block.partsOf blocks) : part.parts ⊆ Block.partsOf blocks := by
  cases blocks with
  | nil => cases h
  | cons entry rest =>
      obtain ⟨name, block⟩ := entry
      cases List.mem_append.mp h with
      | inl hBlock =>
          exact List.subset_append_of_subset_left _ (Block.parts_subset block hBlock)
      | inr hRest =>
          exact List.subset_append_of_subset_right _ (Block.partsOf_subset rest hRest)

end

@[simp] theorem Node.partsOf_singleton (node : Node) :
    Node.partsOf [node] = node.parts :=
  List.append_nil _

/-- A node is a part of itself. -/
theorem Node.mem_parts (node : Node) : node ∈ node.parts := by
  cases node with
  | block block =>
      cases block
      exact List.mem_cons_self
  | _ => exact List.mem_cons_self

/-- The nodes inside blocks are those inside one of them. -/
theorem Block.mem_partsOf_iff {blocks : List (String × Block Node)} {part : Node} :
    part ∈ Block.partsOf blocks ↔ ∃ entry ∈ blocks, part ∈ Block.parts entry.2 := by
  induction blocks with
  | nil => simp [Block.partsOf]
  | cons entry rest ih => simp [Block.partsOf, ih]

/-- The nodes inside branches are those inside the body of one of them. -/
theorem Branch.mem_partsOf_iff {branches : List (Branch Node)} {part : Node} :
    part ∈ Branch.partsOf branches ↔
      ∃ branch ∈ branches, part ∈ Node.partsOf branch.body := by
  induction branches with
  | nil => simp [Branch.partsOf]
  | cons branch rest ih => simp [Branch.partsOf, ih]

/-- The nodes inside nodes are those inside one of them. -/
theorem Node.mem_partsOf_iff {nodes : List Node} {part : Node} :
    part ∈ Node.partsOf nodes ↔ ∃ node ∈ nodes, part ∈ node.parts := by
  induction nodes with
  | nil => simp [Node.partsOf]
  | cons node rest ih => simp [Node.partsOf, ih]

/-! ## Properties of all nodes of a tree -/

/-- All nodes that a tree is built from satisfy a property. -/
def Node.All (property : Node → Prop) (nodes : List Node) : Prop :=
  ∀ part ∈ Node.partsOf nodes, property part

@[simp] theorem Node.all_nil {property : Node → Prop} : Node.All property [] :=
  fun _ hPart => absurd hPart List.not_mem_nil

@[simp] theorem Node.all_append {property : Node → Prop} {first second : List Node} :
    Node.All property (first ++ second) ↔
      Node.All property first ∧ Node.All property second := by
  have hParts : ∀ part, part ∈ Node.partsOf (first ++ second) ↔
      part ∈ Node.partsOf first ∨ part ∈ Node.partsOf second := by
    intro part
    simp only [Node.mem_partsOf_iff, List.mem_append, or_and_right, exists_or]
  unfold Node.All
  simp only [hParts, or_imp, forall_and]

section Constructors

variable {property : Node → Prop}

theorem Node.all_singleton {node : Node} :
    Node.All property [node] ↔ ∀ part ∈ node.parts, property part := by
  rw [Node.All, Node.partsOf_singleton]

theorem Node.all_cons {node : Node} {rest : List Node} :
    Node.All property (node :: rest) ↔
      Node.All property [node] ∧ Node.All property rest := by
  rw [← List.singleton_append, Node.all_append]

/-- A node without nodes inside. -/
theorem Node.all_leaf {node : Node} (h : node.parts = [node]) :
    Node.All property [node] ↔ property node := by
  rw [Node.all_singleton, h, List.forall_mem_singleton]

theorem Node.all_loop {names : List String} {source : Operand}
    {condition : Option Condition} {body empty : List Node} :
    Node.All property [.loop names source condition body empty] ↔
      property (.loop names source condition body empty) ∧ Node.All property body ∧
        Node.All property empty := by
  rw [Node.all_singleton, Node.parts, List.forall_mem_cons, List.forall_mem_append]
  rfl

theorem Node.all_choice {branches : List (Branch Node)} :
    Node.All property [.choice branches] ↔
      property (.choice branches) ∧ ∀ branch ∈ branches,
        Node.All property branch.body := by
  rw [Node.all_singleton, Node.parts, List.forall_mem_cons]
  simp only [Branch.mem_partsOf_iff, forall_exists_index, and_imp]
  exact and_congr_right fun _ => ⟨fun h branch hBranch part => h part branch hBranch,
    fun h part branch hBranch => h branch hBranch part⟩

theorem Node.all_block {block : Block Node} :
    Node.All property [.block block] ↔
      property (.block block) ∧ Node.All property block.body := by
  obtain ⟨name, usesSuper, body⟩ := block
  rw [Node.all_singleton, Node.parts, Block.parts, List.forall_mem_cons]
  rfl

theorem Node.all_filtered {chain : FilterChain} {body : List Node} :
    Node.All property [.filtered chain body] ↔
      property (.filtered chain body) ∧ Node.All property body := by
  rw [Node.all_singleton, Node.parts, List.forall_mem_cons]
  rfl

theorem Node.all_inherit {parent : Variable} {blocks : List (String × Block Node)} :
    Node.All property [.inherit parent blocks] ↔ property (.inherit parent blocks) ∧
      ∀ entry ∈ blocks, Node.All property [.block entry.2] := by
  rw [Node.all_singleton, Node.parts, List.forall_mem_cons]
  simp only [Block.mem_partsOf_iff, forall_exists_index, and_imp, Node.all_singleton,
    Node.parts]
  exact and_congr_right fun _ => ⟨fun h entry hEntry part => h part entry hEntry,
    fun h part entry hEntry => h entry hEntry part⟩

/-- Nodes inside nodes are parts of the whole. -/
theorem Node.All.of_mem {nodes : List Node} (h : Node.All property nodes) {node : Node}
    (hMem : node ∈ nodes) : Node.All property [node] := by
  rw [Node.all_singleton]
  exact fun part hPart => h part (Node.mem_partsOf_iff.mpr ⟨node, hMem, hPart⟩)

end Constructors

/-! ## Tags of the application's own -/

/-- Whether a node is a tag of the application's own. -/
def Node.isCustom : Node → Bool
  | .custom _ => true
  | _ => false

/-- None of the nodes is a tag of the application's own. -/
def BuiltIn (parts : List Node) : Prop :=
  ∀ part ∈ parts, part.isCustom = false

@[simp] theorem builtIn_cons {part : Node} {parts : List Node} :
    BuiltIn (part :: parts) ↔ part.isCustom = false ∧ BuiltIn parts :=
  List.forall_mem_cons

@[simp] theorem builtIn_append {first second : List Node} :
    BuiltIn (first ++ second) ↔ BuiltIn first ∧ BuiltIn second :=
  List.forall_mem_append

end TextTemplate
