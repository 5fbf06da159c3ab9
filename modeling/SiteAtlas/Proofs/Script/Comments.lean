import SiteAtlas.Script.Source
import Mathlib.Data.List.Basic

/-! # What comments do to imports

A comment is a child of the node that it stands in. Most of what is read of a node passes over it:
names, sources and the words of a statement are looked for by their kinds. Only the first argument
of a call is taken by its place. So a comment hides the import of a call if it stands in front of
the first argument, and nowhere else does a comment change what a script imports.
-/

namespace SiteAtlas.Script

/-! ## Trees without their comments -/

/-- What holds of no trees, and of some trees if it holds of those behind the first one and of its
children, holds of all trees. -/
theorem forest_induction {P : List Tree → Prop} (nil : P [])
    (leaf : ∀ kind text rest, P rest → P (.leaf kind text :: rest))
    (node : ∀ kind children rest, P children → P rest → P (.node kind children :: rest)) :
    ∀ trees, P trees
  | [] => nil
  | .leaf kind text :: rest => leaf kind text rest (forest_induction nil leaf node rest)
  | .node kind children :: rest =>
    node kind children rest (forest_induction nil leaf node children)
      (forest_induction nil leaf node rest)

mutual

/-- A tree without the comments in it. -/
def Tree.uncommented : Tree → Tree
  | .leaf kind text => .leaf kind text
  | .node kind children => .node kind (uncommentedAll children)

/-- Trees without the comments among them and in them. -/
def uncommentedAll : List Tree → List Tree
  | [] => []
  | tree :: rest =>
    if tree.isComment then uncommentedAll rest else tree.uncommented :: uncommentedAll rest

end

section Uncommented

variable (tree : Tree)

@[simp] theorem Tree.isComment_uncommented : tree.uncommented.isComment = tree.isComment := by
  cases tree <;> rfl

@[simp] theorem Tree.isLeaf_uncommented (kind : LeafKind) :
    tree.uncommented.isLeaf kind = tree.isLeaf kind := by
  cases tree <;> rfl

@[simp] theorem Tree.isNode_uncommented (kind : NodeKind) :
    tree.uncommented.isNode kind = tree.isNode kind := by
  cases tree <;> rfl

@[simp] theorem Tree.text_uncommented : tree.uncommented.text = tree.text := by
  cases tree <;> rfl

@[simp] theorem Tree.children_uncommented :
    tree.uncommented.children = uncommentedAll tree.children := by
  cases tree <;> rfl

theorem uncommentedAll_eq (trees : List Tree) :
    uncommentedAll trees = (trees.filter (!·.isComment)).map Tree.uncommented := by
  induction trees with
  | nil => rfl
  | cons tree rest ih =>
    rw [uncommentedAll, ih]
    cases isComment : tree.isComment <;> simp [isComment]

end Uncommented

/-! ## What passes over comments -/

section PassedOver

variable {β : Type}

theorem isComment_iff {tree : Tree} :
    tree.isComment = true ↔ ∃ text, tree = .leaf .comment text := by
  cases tree with
  | leaf kind text => cases kind <;> simp [Tree.isComment]
  | node kind children => simp [Tree.isComment]

/-- A test that no comment passes and that comments in a tree do not matter to. -/
structure PassesOver (test : Tree → Bool) : Prop where
  comment : ∀ text, test (.leaf .comment text) = false
  inside : ∀ tree : Tree, test tree.uncommented = test tree

theorem passesOver_isLeaf {kind : LeafKind} (other : kind ≠ .comment) :
    PassesOver (Tree.isLeaf kind) where
  comment _ := by simpa [Tree.isLeaf] using Ne.symm other
  inside tree := tree.isLeaf_uncommented kind

theorem passesOver_isNode (kind : NodeKind) : PassesOver (Tree.isNode kind) where
  comment _ := rfl
  inside tree := tree.isNode_uncommented kind

theorem PassesOver.filter {test : Tree → Bool} (passes : PassesOver test) (trees : List Tree) :
    (uncommentedAll trees).filter test = (trees.filter test).map Tree.uncommented := by
  have inside : test ∘ Tree.uncommented = test := funext passes.inside
  rw [uncommentedAll_eq, List.filter_map, List.filter_filter, inside]
  congr 1
  apply List.filter_congr
  intro tree _
  cases isComment : tree.isComment with
  | false => simp
  | true =>
    obtain ⟨text, rfl⟩ := isComment_iff.mp isComment
    simp [passes.comment text]

theorem PassesOver.find? {test : Tree → Bool} (passes : PassesOver test) (trees : List Tree) :
    (uncommentedAll trees).find? test = (trees.find? test).map Tree.uncommented := by
  rw [← List.head?_filter, passes.filter, List.head?_map, List.head?_filter]

theorem PassesOver.any {test : Tree → Bool} (passes : PassesOver test) (trees : List Tree) :
    (uncommentedAll trees).any test = trees.any test := by
  rw [Bool.eq_iff_iff, List.any_eq_true, List.any_eq_true, ← List.find?_isSome,
    ← List.find?_isSome, passes.find?, Option.isSome_map]

/-- What is gathered from trees passes over comments, if none is gathered from a comment and what is
gathered from a tree passes over the comments in it. -/
theorem flatMap_uncommentedAll {f : Tree → List β} (comment : ∀ text, f (.leaf .comment text) = [])
    (inside : ∀ tree : Tree, f tree.uncommented = f tree) (trees : List Tree) :
    (uncommentedAll trees).flatMap f = trees.flatMap f := by
  induction trees with
  | nil => rfl
  | cons tree rest ih =>
    rw [uncommentedAll, List.flatMap_cons]
    cases isComment : tree.isComment with
    | false => rw [if_neg Bool.false_ne_true, List.flatMap_cons, inside, ih]
    | true =>
      obtain ⟨text, rfl⟩ := isComment_iff.mp isComment
      rw [if_pos rfl, comment, ih, List.nil_append]

theorem filterMap_uncommentedAll {f : Tree → Option β}
    (comment : ∀ text, f (.leaf .comment text) = none)
    (inside : ∀ tree : Tree, f tree.uncommented = f tree) (trees : List Tree) :
    (uncommentedAll trees).filterMap f = trees.filterMap f := by
  have gathered (trees : List Tree) :
      trees.filterMap f = trees.flatMap fun tree => (f tree).toList :=
    List.filterMap_eq_flatMap_toList f trees
  rw [gathered, gathered]
  apply flatMap_uncommentedAll
  · intro text
    rw [comment, Option.toList_none]
  · intro tree
    rw [inside]

end PassedOver

/-! ## Statements -/

section Statements

theorem unquote?_uncommented (tree : Tree) : unquote? tree.uncommented = unquote? tree := by
  cases tree <;> rfl

theorem source?_uncommentedAll (children : List Tree) :
    source? (uncommentedAll children) = source? children := by
  have passes : PassesOver (Tree.isLeaf .string) := passesOver_isLeaf (by decide)
  rw [source?, passes.find?, Option.bind_map]
  congr 1
  funext tree
  exact unquote?_uncommented tree

theorem specifierNames_uncommented (tree : Tree) :
    specifierNames tree.uncommented = specifierNames tree := by
  rw [specifierNames, Tree.children_uncommented]
  apply filterMap_uncommentedAll
  · intro text
    rfl
  · intro child
    cases child <;> rfl

theorem importSpecifier?_uncommented (tree : Tree) :
    importSpecifier? tree.uncommented = importSpecifier? tree := by
  rw [importSpecifier?, Tree.isNode_uncommented, specifierNames_uncommented]
  rfl

theorem exportSpecifier?_uncommented (tree : Tree) :
    exportSpecifier? tree.uncommented = exportSpecifier? tree := by
  rw [exportSpecifier?, Tree.isNode_uncommented, specifierNames_uncommented]
  rfl

theorem clauseSpecifiers_uncommented (tree : Tree) :
    clauseSpecifiers tree.uncommented = clauseSpecifiers tree := by
  cases tree with
  | leaf kind text => rfl
  | node kind children =>
    rw [Tree.uncommented]
    cases kind with
    | namespaceImport =>
      have passes : PassesOver (Tree.isLeaf .name) := passesOver_isLeaf (by decide)
      simp only [clauseSpecifiers, passes.find?]
      cases children.find? (Tree.isLeaf .name) <;> simp
    | namedImports =>
      exact filterMap_uncommentedAll (fun _ => rfl) importSpecifier?_uncommented children
    | _ => rfl

theorem exportSpecifiers_uncommented (tree : Tree) :
    exportSpecifiers tree.uncommented = exportSpecifiers tree := by
  cases tree with
  | leaf kind text => rfl
  | node kind children =>
    rw [Tree.uncommented]
    cases kind with
    | namespaceExport =>
      have passes : PassesOver fun c => c.isLeaf .name || c.isLeaf .string := by
        constructor
        · intro text
          rfl
        · intro child
          simp
      simp only [exportSpecifiers, passes.find?]
      cases children.find? fun c => c.isLeaf .name || c.isLeaf .string <;> simp
    | exportClause =>
      exact filterMap_uncommentedAll (fun _ => rfl) exportSpecifier?_uncommented children
    | _ => rfl

theorem importStatement?_uncommentedAll (children : List Tree) :
    importStatement? (uncommentedAll children) = importStatement? children := by
  have words : PassesOver (Tree.isLeaf .typeWord) := passesOver_isLeaf (by decide)
  have clauses (tree : Tree) : tree.children.flatMap clauseSpecifiers =
      (uncommentedAll tree.children).flatMap clauseSpecifiers :=
    (flatMap_uncommentedAll (fun _ => rfl) clauseSpecifiers_uncommented _).symm
  rw [importStatement?, importStatement?, source?_uncommentedAll, words.any]
  congr 2
  funext source
  congr 1
  apply flatMap_uncommentedAll
  · intro text
    rfl
  · intro tree
    rw [Tree.isNode_uncommented, Tree.children_uncommented, ← clauses]

theorem exportStatement?_uncommentedAll (children : List Tree) :
    exportStatement? (uncommentedAll children) = exportStatement? children := by
  have words : PassesOver (Tree.isLeaf .typeWord) := passesOver_isLeaf (by decide)
  have stars : PassesOver (Tree.isLeaf .star) := passesOver_isLeaf (by decide)
  rw [exportStatement?, exportStatement?, source?_uncommentedAll, words.any, stars.any,
    flatMap_uncommentedAll (fun _ => rfl) exportSpecifiers_uncommented]

end Statements

/-! ## Calls -/

/-- The first child of the arguments among the children of a call. -/
def firstArgument? (children : List Tree) : Option Tree :=
  (children.find? (Tree.isNode .arguments)).bind fun arguments => arguments.children.head?

/-- Whether a tree is a call whose arguments begin with a comment. -/
def Tree.opensWithComment : Tree → Bool
  | .node .call children => (firstArgument? children).any Tree.isComment
  | _ => false

theorem call?_eq (children : List Tree) : call? children =
    (children.find? fun child => !child.isComment).bind fun callee =>
      (callForm? callee).bind fun form =>
        ((firstArgument? children).bind unquote?).map fun source =>
          { source := source, form := form } := by
  unfold call? firstArgument?
  cases children.find? fun child => !child.isComment with
  | none => rfl
  | some callee =>
    cases form : callForm? callee with
    | none => simp [form]
    | some form' =>
      cases children.find? (Tree.isNode .arguments) with
      | none => simp
      | some arguments =>
        cases first : arguments.children.head? with
        | none => simp [first]
        | some tree => cases source : unquote? tree <;> simp [form, first, source]

theorem find?_callee_uncommentedAll (children : List Tree) :
    (uncommentedAll children).find? (fun child => !child.isComment) =
      (children.find? fun child => !child.isComment).map Tree.uncommented := by
  apply PassesOver.find?
  constructor
  · intro text
    rfl
  · intro tree
    rw [Tree.isComment_uncommented]

theorem callForm?_uncommented (tree : Tree) : callForm? tree.uncommented = callForm? tree := by
  cases tree <;> rfl

/-- Once comments are left out, the first argument of a call is the first one that is no comment. -/
theorem firstArgument?_uncommentedAll (children : List Tree) :
    firstArgument? (uncommentedAll children) =
      (children.find? (Tree.isNode .arguments)).bind fun arguments =>
        (arguments.children.find? fun child => !child.isComment).map Tree.uncommented := by
  rw [firstArgument?, (passesOver_isNode .arguments).find?, Option.bind_map]
  congr 1
  funext arguments
  rw [Function.comp_apply, Tree.children_uncommented, uncommentedAll_eq, List.head?_map,
    List.head?_filter]

/-- A call without a comment in front of its arguments is the import that it is without its
comments. -/
theorem call?_uncommentedAll {children : List Tree}
    (plain : (firstArgument? children).any Tree.isComment = false) :
    call? (uncommentedAll children) = call? children := by
  have first : (firstArgument? (uncommentedAll children)).bind unquote? =
      (firstArgument? children).bind unquote? := by
    rw [firstArgument?_uncommentedAll]
    unfold firstArgument? at plain ⊢
    cases found : children.find? (Tree.isNode .arguments) with
    | none => rfl
    | some arguments =>
      rw [found, Option.bind_some] at plain
      rw [Option.bind_some, Option.bind_some]
      cases list : arguments.children with
      | nil => rfl
      | cons tree rest =>
        have other : tree.isComment = false := by simpa [list] using plain
        simp [other, unquote?_uncommented]
  rw [call?_eq, call?_eq, first, find?_callee_uncommentedAll, Option.bind_map]
  congr 1
  funext callee
  rw [Function.comp_apply, callForm?_uncommented]

/-- A call with a comment in front of its arguments is no import. -/
theorem call?_eq_none {children : List Tree}
    (opens : (firstArgument? children).any Tree.isComment = true) : call? children = none := by
  obtain ⟨tree, found, isComment⟩ := (Option.any_eq_true _ _).mp opens
  obtain ⟨text, rfl⟩ := isComment_iff.mp isComment
  rw [call?_eq, found]
  cases children.find? fun child => !child.isComment with
  | none => rfl
  | some callee => cases callForm? callee <;> simp [unquote?]

/-! ## What a node is -/

/-- A node is the import that it is without its comments, unless it is a call whose arguments begin
with one. -/
theorem importOf?_eq (tree : Tree) :
    importOf? tree = if tree.opensWithComment then none else importOf? tree.uncommented := by
  cases tree with
  | leaf kind text => rfl
  | node kind children =>
    rw [Tree.uncommented]
    cases kind with
    | importStatement => exact (importStatement?_uncommentedAll children).symm
    | exportStatement => exact (exportStatement?_uncommentedAll children).symm
    | call =>
      cases opens : (firstArgument? children).any Tree.isComment with
      | true =>
        rw [Tree.opensWithComment, opens, if_pos rfl]
        exact call?_eq_none opens
      | false =>
        rw [Tree.opensWithComment, opens, if_neg Bool.false_ne_true]
        exact (call?_uncommentedAll opens).symm
    | _ => rfl

/-! ## All imports -/

mutual

/-- The inner nodes of a tree, each before its children. -/
def Tree.nodes : Tree → List Tree
  | .leaf .. => []
  | .node kind children => .node kind children :: nodesAll children

/-- The inner nodes of a list of trees. -/
def nodesAll : List Tree → List Tree
  | [] => []
  | tree :: rest => tree.nodes ++ nodesAll rest

end

section Rows

variable {β : Type} {first first' second second' : List β}

/-- Two rows of items that may each have lost some are complete together exactly if each is. -/
theorem append_eq_append_iff_of_sublist (sub : first.Sublist first')
    (sub' : second.Sublist second') :
    first ++ second = first' ++ second' ↔ first = first' ∧ second = second' := by
  constructor
  · intro same
    have total := congrArg List.length same
    rw [List.length_append, List.length_append] at total
    have less := sub.length_le
    have less' := sub'.length_le
    exact List.append_inj same (by omega)
  · rintro ⟨rfl, rfl⟩
    rfl

end Rows

theorem importsOfAll_node (kind : NodeKind) (children rest : List Tree) :
    importsOfAll (.node kind children :: rest) =
      (importOf? (.node kind children)).toList ++ (importsOfAll children ++ importsOfAll rest) := by
  rw [importsOfAll, importsOf, List.append_assoc]

theorem importsOfAll_leaf (kind : LeafKind) (text : String) (rest : List Tree) :
    importsOfAll (.leaf kind text :: rest) = importsOfAll rest := rfl

theorem uncommentedAll_leaf (kind : LeafKind) (text : String) (rest : List Tree) :
    importsOfAll (uncommentedAll (.leaf kind text :: rest)) =
      importsOfAll (uncommentedAll rest) := by
  rw [uncommentedAll]
  split <;> rfl

theorem importOf?_sublist (tree : Tree) :
    (importOf? tree).toList.Sublist (importOf? tree.uncommented).toList := by
  rw [importOf?_eq]
  split
  · exact List.nil_sublist _
  · exact List.Sublist.refl _

/-- Comments only ever hide imports. -/
theorem importsOfAll_sublist (trees : List Tree) :
    (importsOfAll trees).Sublist (importsOfAll (uncommentedAll trees)) := by
  induction trees using forest_induction with
  | nil => exact List.Sublist.refl _
  | leaf kind text rest ih => rwa [importsOfAll_leaf, uncommentedAll_leaf]
  | node kind children rest ihChildren ihRest =>
    change List.Sublist _ (importsOfAll (.node kind (uncommentedAll children) :: _))
    rw [importsOfAll_node, importsOfAll_node]
    exact (importOf?_sublist (.node kind children)).append (ihChildren.append ihRest)

/-- No import is hidden exactly if every call whose arguments begin with a comment would not be
an import without it, either. -/
theorem importsOfAll_eq_iff (trees : List Tree) :
    importsOfAll trees = importsOfAll (uncommentedAll trees) ↔
      ∀ node ∈ nodesAll trees,
        node.opensWithComment = true → importOf? node.uncommented = none := by
  induction trees using forest_induction with
  | nil => simp [nodesAll, uncommentedAll]
  | leaf kind text rest ih => rwa [importsOfAll_leaf, uncommentedAll_leaf]
  | node kind children rest ihChildren ihRest =>
    have own : (importOf? (.node kind children)).toList =
        (importOf? (Tree.uncommented (.node kind children))).toList ↔
          ((Tree.node kind children).opensWithComment = true →
            importOf? (Tree.uncommented (.node kind children)) = none) := by
      rw [importOf?_eq]
      cases (Tree.node kind children).opensWithComment with
      | false => simp
      | true => cases importOf? (Tree.uncommented (.node kind children)) <;> simp
    have ownSub := importOf?_sublist (.node kind children)
    have below := importsOfAll_sublist children
    have behind := importsOfAll_sublist rest
    change _ = importsOfAll (Tree.uncommented (.node kind children) :: uncommentedAll rest) ↔ _
    rw [Tree.uncommented] at own ownSub ⊢
    rw [importsOfAll_node, importsOfAll_node,
      append_eq_append_iff_of_sublist ownSub (below.append behind),
      append_eq_append_iff_of_sublist below behind, own, ihChildren, ihRest, nodesAll, Tree.nodes,
      List.cons_append, List.forall_mem_cons, List.forall_mem_append]
    rfl

/-! ## One more comment -/

/-- Trees among which, or in which, there is one more comment. -/
inductive Commented : List Tree → List Tree → Prop where
  | here (text : String) (trees : List Tree) : Commented trees (.leaf .comment text :: trees)
  | behind (tree : Tree) {rest rest' : List Tree} :
    Commented rest rest' → Commented (tree :: rest) (tree :: rest')
  | inside (kind : NodeKind) {children children' : List Tree} (rest : List Tree) :
    Commented children children' →
      Commented (.node kind children :: rest) (.node kind children' :: rest)

/-- Trees with one more comment, which stands in front of the arguments of a call that imports. -/
inductive HidesImport : List Tree → List Tree → Prop where
  | call {children children' : List Tree} (rest : List Tree) :
    Commented children children' → (importOf? (.node .call children)).isSome = true →
      (Tree.node .call children').opensWithComment = true →
        HidesImport (.node .call children :: rest) (.node .call children' :: rest)
  | behind (tree : Tree) {rest rest' : List Tree} :
    HidesImport rest rest' → HidesImport (tree :: rest) (tree :: rest')
  | inside (kind : NodeKind) {children children' : List Tree} (rest : List Tree) :
    HidesImport children children' →
      HidesImport (.node kind children :: rest) (.node kind children' :: rest)

section Commented

variable {trees trees' : List Tree}

theorem Commented.uncommentedAll_eq (commented : Commented trees trees') :
    uncommentedAll trees' = uncommentedAll trees := by
  induction commented with
  | here text trees => rfl
  | behind tree _ ih => rw [uncommentedAll, uncommentedAll, ih]
  | inside kind rest _ ih =>
    rw [uncommentedAll, uncommentedAll, Tree.uncommented, Tree.uncommented, ih]
    rfl

/-- A comment in front of the arguments of a call stays if another one is added. -/
theorem Commented.opens (commented : Commented trees trees')
    (opens : (firstArgument? trees).any Tree.isComment = true) :
    (firstArgument? trees').any Tree.isComment = true := by
  induction commented with
  | here text trees => exact opens
  | behind tree _ ih =>
    unfold firstArgument? at opens ih ⊢
    cases isArguments : tree.isNode .arguments with
    | true => simpa [isArguments] using opens
    | false =>
      rw [List.find?_cons_of_neg (by simp [isArguments])] at opens ⊢
      exact ih opens
  | inside kind rest inner _ =>
    unfold firstArgument? at opens ⊢
    by_cases isArguments : kind = .arguments
    · subst isArguments
      -- The new comment comes first itself, or the first argument is the one it was.
      cases inner with
      | here text children => rfl
      | behind tree _ => exact opens
      | inside kind rest _ => exact absurd opens Bool.false_ne_true
    · have other (children : List Tree) : (Tree.node kind children).isNode .arguments = false :=
        beq_false_of_ne isArguments
      rw [List.find?_cons_of_neg (by simp [other])] at opens ⊢
      exact opens

/-- One more comment in a node changes the import that the node is only in front of the arguments of
a call. -/
theorem Commented.importOf?_eq_or (commented : Commented trees trees') (kind : NodeKind) :
    importOf? (.node kind trees') = importOf? (.node kind trees) ∨
      kind = .call ∧ (Tree.node kind trees').opensWithComment = true := by
  cases opens' : (Tree.node kind trees').opensWithComment with
  | true =>
    cases kind with
    | call => exact .inr ⟨rfl, rfl⟩
    | _ => exact absurd opens' Bool.false_ne_true
  | false =>
    have opens : (Tree.node kind trees).opensWithComment = false := by
      cases kind with
      | call =>
        apply Bool.eq_false_iff.mpr
        intro opens
        exact absurd (commented.opens opens) (Bool.eq_false_iff.mp opens')
      | _ => rfl
    have same : (Tree.node kind trees').uncommented = (Tree.node kind trees).uncommented := by
      rw [Tree.uncommented, Tree.uncommented, commented.uncommentedAll_eq]
    left
    rw [importOf?_eq, importOf?_eq (.node kind trees), opens, opens', same]

theorem importOf?_eq_none_of_opens {tree : Tree} (opens : tree.opensWithComment = true) :
    importOf? tree = none := by
  rw [importOf?_eq, opens, if_pos rfl]

theorem Commented.length_importOf?_le (commented : Commented trees trees') (kind : NodeKind) :
    (importOf? (.node kind trees')).toList.length ≤
      (importOf? (.node kind trees)).toList.length := by
  rcases commented.importOf?_eq_or kind with same | ⟨-, opens⟩
  · exact Nat.le_of_eq (by rw [same])
  · rw [importOf?_eq_none_of_opens opens]
    exact Nat.zero_le _

theorem Commented.length_importsOfAll_le (commented : Commented trees trees') :
    (importsOfAll trees').length ≤ (importsOfAll trees).length := by
  induction commented with
  | here text trees => exact Nat.le_refl _
  | behind tree _ ih =>
    simp only [importsOfAll, List.length_append]
    omega
  | inside kind rest inner ih =>
    have own := inner.length_importOf?_le kind
    simp only [importsOfAll_node, List.length_append]
    omega

theorem HidesImport.commented (hides : HidesImport trees trees') : Commented trees trees' := by
  induction hides with
  | call rest commented _ _ => exact .inside .call rest commented
  | behind tree _ ih => exact .behind tree ih
  | inside kind rest _ ih => exact .inside kind rest ih

/-- A hidden import is missing. -/
theorem HidesImport.length_importsOfAll_lt (hides : HidesImport trees trees') :
    (importsOfAll trees').length < (importsOfAll trees).length := by
  induction hides with
  | call rest commented isImport opens =>
    have below := commented.length_importsOfAll_le
    obtain ⟨raw, own⟩ := Option.isSome_iff_exists.mp isImport
    simp only [importsOfAll_node, List.length_append, importOf?_eq_none_of_opens opens, own,
      Option.toList_none, Option.toList_some, List.length_nil, List.length_singleton]
    omega
  | behind tree _ ih =>
    simp only [importsOfAll, List.length_append]
    omega
  | inside kind rest hides ih =>
    have own := hides.commented.length_importOf?_le kind
    simp only [importsOfAll_node, List.length_append]
    omega

/-- One more comment changes no import, unless it hides one. -/
theorem Commented.importsOfAll_eq_or (commented : Commented trees trees') :
    importsOfAll trees' = importsOfAll trees ∨ HidesImport trees trees' := by
  induction commented with
  | here text trees => exact .inl rfl
  | behind tree _ ih =>
    rcases ih with same | hides
    · exact .inl (by rw [importsOfAll, importsOfAll, same])
    · exact .inr (.behind tree hides)
  | @inside kind children children' rest inner ih =>
    rcases ih with below | hides
    · rcases inner.importOf?_eq_or kind with same | ⟨rfl, opens⟩
      · exact .inl (by rw [importsOfAll_node, importsOfAll_node, below, same])
      · cases own : importOf? (.node .call children) with
        | some raw => exact .inr (.call rest inner (by rw [own, Option.isSome_some]) opens)
        | none =>
          left
          rw [importsOfAll_node, importsOfAll_node, below, own, importOf?_eq_none_of_opens opens]
    · exact .inr (.inside kind rest hides)

theorem Commented.importsOfAll_eq_iff (commented : Commented trees trees') :
    importsOfAll trees' = importsOfAll trees ↔ ¬ HidesImport trees trees' := by
  constructor
  · intro same hides
    exact absurd (congrArg List.length same) (Nat.ne_of_lt hides.length_importsOfAll_lt)
  · exact commented.importsOfAll_eq_or.resolve_right

end Commented

/-! ## Scripts with comments -/

section Parser

variable {parser : Parser}

theorem imports_eq {dialect : Dialect} {source extension : String} {trees : List Tree}
    (known : Dialect.ofExtension? extension = some dialect)
    (read : parser dialect source = some trees) :
    imports parser source extension = .ok (importsOfAll trees) := by
  rw [imports, known]
  dsimp only
  rw [read]

/-- A script with one more comment has the same imports exactly if the comment does not stand in
front of the arguments of a call that imports. And whatever comments there are in a script, it has
the imports that it has without them exactly if every call whose arguments begin with a comment
would be no import without its comments, either. -/
theorem imports_commented_eq_iff {dialect : Dialect} {source extension : String}
    {trees : List Tree} (known : Dialect.ofExtension? extension = some dialect)
    (read : parser dialect source = some trees) :
    (∀ source' trees', parser dialect source' = some trees' → Commented trees trees' →
      (imports parser source' extension = imports parser source extension ↔
        ¬ HidesImport trees trees')) ∧
    (imports parser source extension = .ok (importsOfAll (uncommentedAll trees)) ↔
      ∀ node ∈ nodesAll trees,
        node.opensWithComment = true → importOf? node.uncommented = none) := by
  constructor
  · intro source' trees' read' commented
    rw [imports_eq known read, imports_eq known read', Except.ok.injEq]
    exact commented.importsOfAll_eq_iff
  · rw [imports_eq known read, Except.ok.injEq]
    exact importsOfAll_eq_iff trees

end Parser

/-- The trees of a script with a static and a dynamic import, other trees among the arguments of the
latter. -/
def twoImports (others : List Tree) : List Tree :=
  [.node .importStatement
      [.node .importClause [.node .namedImports [.node .importSpecifier [.leaf .name "a"]]],
        .leaf .string "\"./a\""],
    .node .group [.node .call [.leaf .importWord "import",
      .node .arguments (.leaf .string "\"./b\"" :: others)]]]

/-- A comment behind the first argument hides nothing. -/
theorem imports_commented_behind :
    trees? .javascript "import { a } from \"./a\";\nimport(\"./b\");\n" = some (twoImports []) ∧
    trees? .javascript "import { a } from \"./a\";\nimport(\"./b\" /* c */);\n" =
      some (twoImports [.leaf .comment ""]) ∧
    Commented (twoImports []) (twoImports [.leaf .comment ""]) ∧
    imports trees? "import { a } from \"./a\";\nimport(\"./b\" /* c */);\n" ".js" =
      imports trees? "import { a } from \"./a\";\nimport(\"./b\");\n" ".js" ∧
    imports trees? "import { a } from \"./a\";\nimport(\"./b\" /* c */);\n" ".js" =
      .ok (importsOfAll (uncommentedAll (twoImports [.leaf .comment ""]))) := by
  have read : trees? .javascript "import { a } from \"./a\";\nimport(\"./b\");\n" =
      some (twoImports []) := rfl
  have read' : trees? .javascript "import { a } from \"./a\";\nimport(\"./b\" /* c */);\n" =
      some (twoImports [.leaf .comment ""]) := rfl
  have commented : Commented (twoImports []) (twoImports [.leaf .comment ""]) :=
    .behind _ (.inside _ _ (.inside _ _ (.behind _ (.inside _ _ (.behind _ (.here _ _))))))
  have visible : ¬ HidesImport (twoImports []) (twoImports [.leaf .comment ""]) := by
    intro hides
    exact absurd hides.length_importsOfAll_lt (by decide)
  have plain : ∀ node ∈ nodesAll (twoImports [.leaf .comment ""]),
      node.opensWithComment = true → importOf? node.uncommented = none := by
    decide
  exact ⟨read, read', commented,
    ((imports_commented_eq_iff rfl read).1 _ _ read' commented).mpr visible,
    (imports_commented_eq_iff rfl read').2.mpr plain⟩

/-- The trees of a script with one call, other trees in front of its argument. -/
def oneCall (others : List Tree) : List Tree :=
  [.node .group [.node .call [.leaf .name "require",
    .node .arguments (others ++ [.leaf .string "\"./x\""])]]]

/-- A comment in front of the first argument hides the import. -/
theorem import_hidden_by_comment :
    trees? .javascript "require(\"./x\");" = some (oneCall []) ∧
    trees? .javascript "require(/* c */ \"./x\");" = some (oneCall [.leaf .comment ""]) ∧
    Commented (oneCall []) (oneCall [.leaf .comment ""]) ∧
    imports trees? "require(\"./x\");" ".js" = .ok [{ source := "./x", form := .require }] ∧
    imports trees? "require(/* c */ \"./x\");" ".js" = .ok [] := by
  refine ⟨rfl, rfl, ?_, by decide +kernel, by decide +kernel⟩
  exact .inside _ _ (.inside _ _ (.behind _ (.inside _ _ (.here _ _))))

end SiteAtlas.Script
