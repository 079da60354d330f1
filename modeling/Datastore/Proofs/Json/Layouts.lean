import Datastore.Proofs.Json.Trees

/-!
# Texts inside texts

A text that is read as tokens on its own is read as the same tokens inside a larger text, between
two marks of structure, however it is laid out. And the tokens that a tree is written by are the
only ones it is built from. So an object can be put together from the texts of its keys and of its
values. Main statements: `Reads.of_tokens?`, `Tree.ofTokens?_eq_some_iff`, `Tree.ofText?_assemble`.
-/

namespace Datastore.Json

namespace Token

variable {text : List Char} {tokens before : List Token} {mark : Char} {token : Token}

/-! ### Tokens -/

/-- The reader with more tokens read before its own. -/
def Reader.behind (before : List Token) (r : Reader) : Reader := ⟨r.mode, r.tokens ++ before⟩

theorem dispatch_behind (before tokens : List Token) (c : Char) :
    Reader.dispatch (tokens ++ before) c =
      (Reader.dispatch tokens c).map (Reader.behind before) := by
  unfold Reader.dispatch
  split <;> try rfl
  cases Text.Numeral.digit? c <;> rfl

/-- What was read before has no influence on how a character is read. -/
theorem step_behind (before : List Token) (r : Reader) (c : Char) :
    (r.behind before).step c = (r.step c).map (Reader.behind before) := by
  obtain ⟨mode, tokens⟩ := r
  cases mode with
  | between => exact dispatch_behind before tokens c
  | word rest token =>
    cases rest with
    | nil => rfl
    | cons expected rest =>
      simp only [Reader.behind, Reader.step]
      split
      · cases rest <;> rfl
      · rfl
  | string units =>
    simp only [Reader.behind, Reader.step]
    split
    · rfl
    · split
      · rfl
      · split <;> rfl
  | escape units =>
    simp only [Reader.behind, Reader.step]
    split
    · rfl
    · cases escaped? c <;> rfl
  | hex units left value =>
    simp only [Reader.behind, Reader.step]
    cases hexDigit? c with
    | none => rfl
    | some digit =>
      simp only [Option.map_some]
      split <;> rfl
  | number stage draft =>
    simp only [Reader.behind, Reader.step]
    cases draft.next? stage c with
    | some next => rfl
    | none =>
      simp only
      split
      · exact dispatch_behind before (.number draft.finish :: tokens) c
      · rfl

theorem read_behind (before : List Token) (r : Reader) (text : List Char) :
    (r.behind before).read text = (r.read text).map (Reader.behind before) := by
  induction text generalizing r with
  | nil => rfl
  | cons c rest ih =>
    rw [Reader.read_cons, Reader.read_cons, step_behind]
    cases r.step c with
    | none => rfl
    | some next => exact ih next

/-- No number goes on with a mark. -/
theorem next?_mark (known : (mark, token) ∈ marks) (stage : Stage) (draft : Draft) :
    draft.next? stage mark = none := by
  simp only [marks, List.mem_cons, Prod.mk.injEq, List.not_mem_nil, or_false] at known
  rcases known with ⟨rfl, -⟩ | ⟨rfl, -⟩ | ⟨rfl, -⟩ | ⟨rfl, -⟩ | ⟨rfl, -⟩ | ⟨rfl, -⟩ <;>
    cases stage <;> rfl

/-- Where a text may end, a mark is read on its own. -/
theorem step_of_finish {r : Reader} (ended : r.finish = some tokens)
    (known : (mark, token) ∈ marks) :
    r.step mark = some ⟨.between, token :: tokens.reverse⟩ := by
  obtain ⟨mode, tokens⟩ := r
  cases mode with
  | between =>
    cases ended
    rw [List.reverse_reverse]
    exact dispatch_mark known tokens
  | number stage draft =>
    simp only [Reader.finish] at ended
    split at ended
    · next complete =>
      cases ended
      simp only [Reader.step, next?_mark known, if_pos complete]
      rw [List.reverse_reverse]
      exact dispatch_mark known _
    · cases ended
  | _ => cases ended

/-- A text is read inside another one as it is read on its own. -/
theorem Reads.of_tokens? (read : Json.tokens? text = some tokens) : Reads text tokens := by
  intro before mark token rest known
  obtain ⟨r, reached, ended⟩ := Option.bind_eq_some_iff.mp read
  have same : Reader.read ⟨.between, before⟩ text = some (r.behind before) := by
    have moved := read_behind before Reader.start text
    rw [show Reader.read .start text = some r from reached] at moved
    exact moved
  have cut : (r.behind before).step mark =
      some ⟨.between, token :: (tokens.reverse ++ before)⟩ := by
    rw [step_behind, step_of_finish ended known]
    rfl
  rw [Reader.read_append, same, Option.bind_some, Reader.read_cons, cut, Option.bind_some]

end Token

namespace Tree

/-! ### Trees -/

/-- The tokens of an item and the comma behind it. -/
def itemSpent (item : Tree) : List Token := item.tokens ++ [.comma]

/-- The tokens of a member and the comma behind it. -/
def memberSpent (member : Option String × Tree) : List Token :=
  .string member.1 :: .colon :: member.2.tokens ++ [.comma]

theorem itemTokens_concat (before : List Tree) (last : Tree) :
    itemTokens (before ++ [last]) = before.flatMap itemSpent ++ last.tokens := by
  induction before with
  | nil => rfl
  | cons item rest ih =>
    have more : itemTokens (item :: (rest ++ [last])) =
        item.tokens ++ .comma :: itemTokens (rest ++ [last]) := by
      cases rest <;> rfl
    rw [List.cons_append, more, ih]
    simp [itemSpent]

theorem memberTokens_concat (before : List (Option String × Tree)) (key : Option String)
    (last : Tree) : memberTokens (before ++ [(key, last)]) =
      before.flatMap memberSpent ++ .string key :: .colon :: last.tokens := by
  induction before with
  | nil => rfl
  | cons member rest ih =>
    have more : memberTokens (member :: (rest ++ [(key, last)])) =
        .string member.1 :: .colon :: member.2.tokens ++
          .comma :: memberTokens (rest ++ [(key, last)]) := by
      cases rest <;> rfl
    rw [List.cons_append, more, ih]
    simp [memberSpent]

/-- The tokens from an open container on up to its value to come. -/
def Frame.spent : Frame → List Token
  | .item before => .openArray :: before.reverse.flatMap itemSpent
  | .member before key => .openObject :: before.reverse.flatMap memberSpent ++ [.string key, .colon]

/-- The innermost container is first on a stack and last in a text. -/
def spentOn (stack : List Frame) : List Token := stack.reverse.flatMap Frame.spent

@[simp] theorem spentOn_nil : spentOn [] = [] := rfl

@[simp] theorem spentOn_cons (frame : Frame) (stack : List Frame) :
    spentOn (frame :: stack) = spentOn stack ++ frame.spent := by
  simp [spentOn]

namespace Builder

/-- All tokens that a state has been built from. -/
def spent : Builder → List Token
  | .value stack => spentOn stack
  | .firstItem stack => spentOn stack ++ [.openArray]
  | .firstKey stack => spentOn stack ++ [.openObject]
  | .key before stack => spentOn stack ++ .openObject :: before.reverse.flatMap memberSpent
  | .colon before name stack =>
    spentOn stack ++ .openObject :: before.reverse.flatMap memberSpent ++ [.string name]
  | .after tree stack => spentOn stack ++ tree.tokens

theorem spent_open {stack : List Frame} {token : Token} {b : Builder}
    (opened : open? stack token = some b) : b.spent = spentOn stack ++ [token] := by
  cases token <;> cases opened <;> rfl

/-- One token more is spent by each step, none is forgotten. -/
theorem spent_step {b b' : Builder} {token : Token} (stepped : b.step token = some b') :
    b'.spent = b.spent ++ [token] := by
  unfold step at stepped
  split at stepped
  case h_1 => exact spent_open stepped
  case h_3 =>
    rw [spent_open stepped]
    simp [spent, Frame.spent]
  -- The other tokens leave one state, in which they are behind what was spent before.
  all_goals cases stepped
  case h_2 | h_4 => simp [spent, tokens, itemTokens, memberTokens]
  case h_5 | h_6 => simp [spent]
  case h_7 => simp [spent, Frame.spent]
  case h_8 | h_10 => simp [spent, Frame.spent, itemSpent, memberSpent]
  case h_9 | h_11 => simp [spent, Frame.spent, tokens, itemTokens_concat, memberTokens_concat]

theorem spent_read {b b' : Builder} {tokens : List Token} (read : b.read tokens = some b') :
    b'.spent = b.spent ++ tokens := by
  induction tokens generalizing b with
  | nil =>
    cases read
    simp
  | cons token rest ih =>
    obtain ⟨next, stepped, more⟩ := Option.bind_eq_some_iff.mp read
    rw [ih more, spent_step stepped, List.append_assoc]
    rfl

end Builder

/-- A tree is built from its own tokens and from no others. -/
theorem ofTokens?_eq_some_iff {tokens : List Token} {tree : Tree} :
    ofTokens? tokens = some tree ↔ tokens = tree.tokens := by
  constructor
  · intro built
    obtain ⟨b, read, ended⟩ := Option.bind_eq_some_iff.mp built
    have spent := Builder.spent_read (b := .value []) read
    unfold Builder.finish at ended
    split at ended
    · cases ended
      simpa [Builder.spent] using spent.symm
    · cases ended
  · rintro rfl
    exact ofTokens?_tokens tree

/-- A text of a tree is cut into the tokens of the tree. -/
theorem tokens?_of_ofText? {text : List Char} {tree : Tree} (read : ofText? text = some tree) :
    tokens? text = some tree.tokens := by
  obtain ⟨tokens, cut, built⟩ := Option.bind_eq_some_iff.mp read
  rw [cut, ofTokens?_eq_some_iff.mp built]

end Tree

/-! ### Objects -/

/-- A member as it is written: the texts of its key and of its value, with what they are read as.
Blanks and escapes may be anywhere that they are allowed. -/
structure Entry where
  keyText : List Char
  valueText : List Char
  /-- No text if some surrogate is unpaired. -/
  key : Option String
  value : Tree
  key_read : tokens? keyText = some [.string key]
  value_read : Tree.ofText? valueText = some value

namespace Entry

open Token (Reads marks reads_nil)

/-- The member that is read. -/
def member (e : Entry) : Option String × Tree := (e.key, e.value)

def text (e : Entry) : List Char := e.keyText ++ ':' :: e.valueText

/-- The texts of members with commas between them. -/
def joined : List Entry → List Char
  | [] => []
  | [e] => e.text
  | e :: next :: rest => e.text ++ ',' :: joined (next :: rest)

/-- The object with these members. -/
def object (entries : List Entry) : String :=
  String.ofList ('\x7b' :: joined entries ++ ['\x7d'])

/-- A text is an object with these members, whatever its layout. -/
def Renders (text : String) (entries : List Entry) : Prop :=
  Tree.ofText? text.toList = some (.object (entries.map member))

theorem reads_text (e : Entry) : Reads e.text (.string e.key :: .colon :: e.value.tokens) := by
  have key : Reads e.keyText [.string e.key] := .of_tokens? e.key_read
  have value : Reads e.valueText e.value.tokens :=
    .of_tokens? (Tree.tokens?_of_ofText? e.value_read)
  exact key.join (by simp [marks]) value

theorem reads_joined (entries : List Entry) :
    Reads (joined entries) (Tree.memberTokens (entries.map member)) := by
  induction entries with
  | nil => exact reads_nil
  | cons e rest ih =>
    cases rest with
    | nil => exact e.reads_text
    | cons next rest => exact e.reads_text.join (by simp [marks]) ih

/-- What is put together from the texts of its members is read as these members. -/
theorem renders_object (entries : List Entry) : Renders (object entries) entries := by
  have opening : ('\x7b', Token.openObject) ∈ marks := by simp [marks]
  have closing : ('\x7d', Token.closeObject) ∈ marks := by simp [marks]
  have cut : tokens? (object entries).toList = some (Tree.object (entries.map member)).tokens := by
    rw [object, String.toList_ofList]
    exact ((reads_joined entries).opened opening).tokens? closing
  rw [Renders, Tree.ofText?, cut, Option.bind_some, Tree.ofTokens?_tokens]

end Entry
end Datastore.Json
