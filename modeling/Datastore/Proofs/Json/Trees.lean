import Datastore.Proofs.Json.Tokens

/-!
# Reading trees back

Every tree has a sequence of tokens from which it is built again. A value without binary numbers is
written as the text of such a tree, so its text reads back as the tree, whatever it holds.
Main statements: `Tree.ofTokens?_tokens`, `Value.ofText?_render`.
-/

namespace Datastore.Json

namespace Tree

mutual

/-- The tokens of a tree. -/
def tokens : Tree → List Token
  | .null => [.null]
  | .bool value => [.bool value]
  | .number written => [.number written]
  | .string text => [.string text]
  | .array items => .openArray :: itemTokens items ++ [.closeArray]
  | .object members => .openObject :: memberTokens members ++ [.closeObject]

def itemTokens : List Tree → List Token
  | [] => []
  | [item] => tokens item
  | item :: next :: rest => tokens item ++ .comma :: itemTokens (next :: rest)

def memberTokens : List (Option String × Tree) → List Token
  | [] => []
  | [(key, tree)] => .string key :: .colon :: tokens tree
  | (key, tree) :: next :: rest =>
    .string key :: .colon :: tokens tree ++ .comma :: memberTokens (next :: rest)

end

namespace Builder

/-- Builds on from a state. -/
def read (b : Builder) (tokens : List Token) : Option Builder := tokens.foldlM step b

@[simp] theorem read_nil (b : Builder) : b.read [] = some b := rfl

@[simp] theorem read_cons (b : Builder) (token : Token) (rest : List Token) :
    b.read (token :: rest) = (b.step token).bind fun b => b.read rest := rfl

theorem read_append (b : Builder) (first second : List Token) :
    b.read (first ++ second) = (b.read first).bind fun b => b.read second :=
  List.foldlM_append ..

end Builder

theorem tokens_eq_cons (tree : Tree) :
    ∃ first rest, tree.tokens = first :: rest ∧ first ≠ .closeArray := by
  cases tree <;> exact ⟨_, _, rfl, by simp⟩

theorem itemTokens_eq_cons (item : Tree) (rest : List Tree) :
    ∃ first more, itemTokens (item :: rest) = first :: more ∧ first ≠ .closeArray := by
  obtain ⟨first, more, same, apart⟩ := item.tokens_eq_cons
  cases rest with
  | nil => exact ⟨first, more, same, apart⟩
  | cons next rest =>
    refine ⟨first, more ++ .comma :: itemTokens (next :: rest), ?_, apart⟩
    rw [itemTokens, same, List.cons_append]

/-- An item that is not the end of an array is read as behind a comma. -/
theorem read_firstItem (stack : List Frame) (item : Tree) (rest : List Tree) (more : List Token) :
    Builder.read (.firstItem stack) (itemTokens (item :: rest) ++ more) =
      Builder.read (.value (.item [] :: stack)) (itemTokens (item :: rest) ++ more) := by
  obtain ⟨first, others, same, apart⟩ := itemTokens_eq_cons item rest
  have step : Builder.step (.firstItem stack) first =
      Builder.step (.value (.item [] :: stack)) first := by
    cases first <;> first | rfl | exact absurd rfl apart
  rw [same, List.cons_append, Builder.read_cons, Builder.read_cons, step]

/-- The same of the first key of an object. -/
theorem read_firstKey (stack : List Frame) (member : Option String × Tree)
    (rest : List (Option String × Tree)) (more : List Token) :
    Builder.read (.firstKey stack) (memberTokens (member :: rest) ++ more) =
      Builder.read (.key [] stack) (memberTokens (member :: rest) ++ more) := by
  cases rest <;> rfl

mutual

/-- The induction follows the tree; the containers around it stay on the stack. -/
theorem read_tokens (tree : Tree) (stack : List Frame) :
    Builder.read (.value stack) tree.tokens = some (.after tree stack) := by
  match tree with
  | .null | .bool _ | .number _ | .string _ => rfl
  | .array [] => rfl
  | .array (item :: rest) =>
    have items := read_itemTokens (item :: rest) (by simp) [] stack
    rw [tokens, List.cons_append, Builder.read_cons]
    exact (read_firstItem stack item rest _).trans items
  | .object [] => rfl
  | .object (member :: rest) =>
    have members := read_memberTokens (member :: rest) (by simp) [] stack
    rw [tokens, List.cons_append, Builder.read_cons]
    exact (read_firstKey stack member rest _).trans members

theorem read_itemTokens (items : List Tree) (filled : items ≠ []) (before : List Tree)
    (stack : List Frame) :
    Builder.read (.value (.item before :: stack)) (itemTokens items ++ [.closeArray]) =
      some (.after (.array (before.reverse ++ items)) stack) := by
  match items, filled with
  | [item], _ =>
    rw [itemTokens, Builder.read_append, read_tokens item]
    simp [Builder.step]
  | item :: next :: rest, _ =>
    have later := read_itemTokens (next :: rest) (by simp) (item :: before) stack
    rw [itemTokens, List.append_assoc, Builder.read_append, read_tokens item]
    simpa [Builder.step] using later

theorem read_memberTokens (members : List (Option String × Tree)) (filled : members ≠ [])
    (before : List (Option String × Tree)) (stack : List Frame) :
    Builder.read (.key before stack) (memberTokens members ++ [.closeObject]) =
      some (.after (.object (before.reverse ++ members)) stack) := by
  match members, filled with
  | [(key, tree)], _ =>
    have inside := read_tokens tree (.member before key :: stack)
    simp [memberTokens, Builder.step, Builder.read_append, inside]
  | (key, tree) :: next :: rest, _ =>
    have later := read_memberTokens (next :: rest) (by simp) ((key, tree) :: before) stack
    calc Builder.read (.key before stack) (memberTokens ((key, tree) :: next :: rest) ++
          [.closeObject])
        = Builder.read (.value (.member before key :: stack))
            (tree.tokens ++ .comma :: (memberTokens (next :: rest) ++ [.closeObject])) := by
          rw [memberTokens, List.append_assoc]
          rfl
      _ = Builder.read (.key ((key, tree) :: before) stack)
            (memberTokens (next :: rest) ++ [.closeObject]) := by
          rw [Builder.read_append, read_tokens tree]
          rfl
      _ = some (.after (.object (before.reverse ++ (key, tree) :: next :: rest)) stack) := by
          simpa using later

end

/-- A tree is built again from its tokens. -/
theorem ofTokens?_tokens (tree : Tree) : ofTokens? tree.tokens = some tree := by
  have built : tree.tokens.foldlM Builder.step (.value []) = _ := read_tokens tree []
  rw [ofTokens?, built]
  rfl

end Tree

namespace Value

open Token (Reads marks reads_nil reads_null reads_true reads_false reads_string reads_natural
  reads_negative)

mutual

/-- The tree that a value is written as, none if a number in it is not exact. -/
def tree? : Value → Option Tree
  | .null => some .null
  | .bool value => some (.bool value)
  | .number (.natural n) => some (.number (.ofNat false n))
  | .number (.negative n) => some (.number (.ofNat true n))
  | .number (.binary _ _) => none
  | .string text => some (.string (some text))
  | .array items => (itemTrees? items).map .array
  | .object members => (memberTrees? members).map .object

def itemTrees? : List Value → Option (List Tree)
  | [] => some []
  | item :: rest => (tree? item).bind fun tree => (itemTrees? rest).map (tree :: ·)

def memberTrees? : List (String × Value) → Option (List (Option String × Tree))
  | [] => some []
  | (key, value) :: rest =>
    (tree? value).bind fun tree => (memberTrees? rest).map ((some key, tree) :: ·)

end

theorem itemTrees?_cons {item : Value} {rest : List Value} {trees : List Tree}
    (known : itemTrees? (item :: rest) = some trees) : ∃ tree others,
      item.tree? = some tree ∧ itemTrees? rest = some others ∧ trees = tree :: others := by
  simp only [itemTrees?, Option.bind_eq_some_iff, Option.map_eq_some_iff] at known
  obtain ⟨tree, one, others, more, rfl⟩ := known
  exact ⟨tree, others, one, more, rfl⟩

theorem memberTrees?_cons {key : String} {value : Value} {rest : List (String × Value)}
    {trees : List (Option String × Tree)}
    (known : memberTrees? ((key, value) :: rest) = some trees) : ∃ tree others,
      value.tree? = some tree ∧ memberTrees? rest = some others ∧
      trees = (some key, tree) :: others := by
  simp only [memberTrees?, Option.bind_eq_some_iff, Option.map_eq_some_iff] at known
  obtain ⟨tree, one, others, more, rfl⟩ := known
  exact ⟨tree, others, one, more, rfl⟩

mutual

/-- The text of a value is cut into the tokens of its tree. -/
theorem reads_render (value : Value) (tree : Tree) (known : value.tree? = some tree) :
    Reads value.render tree.tokens := by
  match value with
  | .null => cases known; exact reads_null
  | .bool true => cases known; exact reads_true
  | .bool false => cases known; exact reads_false
  | .number (.natural n) => cases known; exact reads_natural n
  | .number (.negative n) => cases known; exact reads_negative n
  | .string text => cases known; exact reads_string text
  | .array items =>
    obtain ⟨trees, listed, rfl⟩ := Option.map_eq_some_iff.mp known
    have inside := reads_renderItems items trees listed
    exact (inside.opened (by simp [marks])).closed (by simp [marks])
  | .object members =>
    obtain ⟨trees, listed, rfl⟩ := Option.map_eq_some_iff.mp known
    have inside := reads_renderMembers members trees listed
    exact (inside.opened (by simp [marks])).closed (by simp [marks])

theorem reads_renderItems (items : List Value) (trees : List Tree)
    (known : itemTrees? items = some trees) :
    Reads (renderItems items) (Tree.itemTokens trees) := by
  match items with
  | [] =>
    cases known
    exact reads_nil
  | [item] =>
    obtain ⟨tree, _, one, none, rfl⟩ := itemTrees?_cons known
    cases none
    exact reads_render item tree one
  | item :: next :: rest =>
    obtain ⟨tree, trees, one, more, rfl⟩ := itemTrees?_cons known
    have later := reads_renderItems (next :: rest) trees more
    obtain ⟨other, others, -, -, rfl⟩ := itemTrees?_cons more
    exact (reads_render item tree one).join (by simp [marks]) later

theorem reads_renderMembers (members : List (String × Value))
    (trees : List (Option String × Tree)) (known : memberTrees? members = some trees) :
    Reads (renderMembers members) (Tree.memberTokens trees) := by
  match members with
  | [] =>
    cases known
    exact reads_nil
  | [(key, value)] =>
    obtain ⟨tree, _, one, none, rfl⟩ := memberTrees?_cons known
    cases none
    exact (reads_string key).join (by simp [marks]) (reads_render value tree one)
  | (key, value) :: next :: rest =>
    obtain ⟨tree, trees, one, more, rfl⟩ := memberTrees?_cons known
    have later := reads_renderMembers (next :: rest) trees more
    obtain ⟨other, others, -, -, rfl⟩ := memberTrees?_cons more
    have colon : (':', Token.colon) ∈ marks := by simp [marks]
    have first := (reads_string key).join colon (reads_render value tree one)
    exact first.join (by simp [marks]) later

end

/-- The text of an object reads back as its tree. -/
theorem ofText?_render {members : List (String × Value)} {trees : List (Option String × Tree)}
    (known : memberTrees? members = some trees) :
    Tree.ofText? (Value.object members).render = some (.object trees) := by
  have opening : ('\x7b', Token.openObject) ∈ marks := by simp [marks]
  have closing : ('\x7d', Token.closeObject) ∈ marks := by simp [marks]
  have text : tokens? (Value.object members).render = some (Tree.object trees).tokens :=
    ((reads_renderMembers members trees known).opened opening).tokens? closing
  rw [Tree.ofText?, text, Option.bind_some, Tree.ofTokens?_tokens]

end Value
end Datastore.Json
