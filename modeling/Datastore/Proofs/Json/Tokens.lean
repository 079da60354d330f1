import Datastore.Json.Value

/-!
# Reading tokens back

The reader cuts written text into the tokens that it was written for, whatever comes before and
behind. A number ends only where its next character cannot continue it, so what is behind has to be
one of the six marks of structure. Main statements: `Reads.join`, `reads_string`, `reads_natural`,
`reads_negative`.
-/

namespace Datastore

/-! ### Digits -/

namespace Text.Numeral

/-- The values of the digits of a number, the first digit first. -/
def digits (n : Nat) : List Nat := (decimal n).filterMap digit?

theorem decimal_of_lt {n : Nat} (small : n < 10) : decimal n = [Nat.digitChar n] := by
  rw [decimal, Nat.toDigits_of_lt_base small]

theorem decimal_of_le {n : Nat} (large : 10 ≤ n) :
    decimal n = decimal (n / 10) ++ [Nat.digitChar (n % 10)] := by
  simpa [decimal] using Nat.toDigits_of_base_le (by decide) large

/-- What holds of a single digit and is kept by one more holds of all digits of a number. -/
theorem decimal_induction {P : Nat → List Char → Prop}
    (one : ∀ n, n < 10 → P n [Nat.digitChar n])
    (more : ∀ n, 10 ≤ n → P (n / 10) (decimal (n / 10)) →
      P n (decimal (n / 10) ++ [Nat.digitChar (n % 10)])) (n : Nat) : P n (decimal n) := by
  induction n using Nat.strongRecOn with
  | ind n ih =>
    by_cases small : n < 10
    · rw [decimal_of_lt small]
      exact one n small
    · have large : 10 ≤ n := Nat.le_of_not_lt small
      rw [decimal_of_le large]
      exact more n large (ih (n / 10) (by omega))

theorem foldl_digits (n : Nat) :
    (digits n).foldl (fun value digit => 10 * value + digit) 0 = n := by
  refine decimal_induction (P := fun n cs =>
    (cs.filterMap digit?).foldl (fun value digit => 10 * value + digit) 0 = n) ?_ ?_ n
  · intro n small
    simp [digit?_digitChar small]
  · intro n large ih
    simp only [List.filterMap_append, List.foldl_append, ih, List.filterMap_cons,
      List.filterMap_nil, digit?_digitChar (Nat.mod_lt n (by decide : 10 > 0)), List.foldl_cons,
      List.foldl_nil]
    omega

/-- Only zero begins with a zero, and nothing is behind it. -/
theorem decimal_eq_cons (n : Nat) : ∃ first rest, decimal n = Nat.digitChar first :: rest ∧
    first < 10 ∧ (first = 0 → n = 0) ∧ (n = 0 → rest = []) ∧ ∀ c ∈ rest, (digit? c).isSome := by
  refine decimal_induction (P := fun n cs => ∃ first rest, cs = Nat.digitChar first :: rest ∧
    first < 10 ∧ (first = 0 → n = 0) ∧ (n = 0 → rest = []) ∧
      ∀ c ∈ rest, (digit? c).isSome) ?_ ?_ n
  · intro n small
    exact ⟨n, [], rfl, small, id, fun _ => rfl, by simp⟩
  · intro n large ih
    obtain ⟨first, rest, same, small, zero, -, listed⟩ := ih
    refine ⟨first, rest ++ [Nat.digitChar (n % 10)], by rw [same]; rfl, small, ?_, ?_, ?_⟩
    · intro none
      have := zero none
      omega
    · omega
    · intro c here
      rcases List.mem_append.mp here with early | last
      · exact listed c early
      · rw [List.mem_singleton.mp last, digit?_digitChar (Nat.mod_lt n (by decide))]
        rfl

end Text.Numeral

namespace Json

open Text.Numeral

namespace Token

/-- The six marks of structure. -/
def marks : List (Char × Token) :=
  [('[', .openArray), (']', .closeArray), ('\x7b', .openObject), ('\x7d', .closeObject),
    (',', .comma), (':', .colon)]

/-- Reads on from a state. -/
def Reader.read (r : Reader) (text : List Char) : Option Reader := text.foldlM Reader.step r

@[simp] theorem Reader.read_nil (r : Reader) : r.read [] = some r := rfl

@[simp] theorem Reader.read_cons (r : Reader) (c : Char) (rest : List Char) :
    r.read (c :: rest) = (r.step c).bind fun r => r.read rest := rfl

theorem Reader.read_append (r : Reader) (first second : List Char) :
    r.read (first ++ second) = (r.read first).bind fun r => r.read second :=
  List.foldlM_append ..

/-- The reader cuts the text into the tokens and is then between tokens again, if a mark follows. -/
def Reads (text : List Char) (tokens : List Token) : Prop :=
  ∀ (before : List Token) (mark : Char) (token : Token) (rest : List Char),
    (mark, token) ∈ marks → Reader.read ⟨.between, before⟩ (text ++ mark :: rest) =
      Reader.read ⟨.between, token :: (tokens.reverse ++ before)⟩ rest

variable {text more : List Char} {tokens others : List Token} {mark : Char} {token : Token}

/-- A mark is a token of its own. -/
theorem dispatch_mark (known : (mark, token) ∈ marks) (before : List Token) :
    Reader.dispatch before mark = some ⟨.between, token :: before⟩ := by
  simp only [marks, List.mem_cons, Prod.mk.injEq, List.not_mem_nil, or_false] at known
  rcases known with ⟨rfl, rfl⟩ | ⟨rfl, rfl⟩ | ⟨rfl, rfl⟩ | ⟨rfl, rfl⟩ | ⟨rfl, rfl⟩ | ⟨rfl, rfl⟩ <;>
    rfl

theorem reads_nil : Reads [] [] := by
  intro before mark token rest known
  have cut : Reader.step ⟨.between, before⟩ mark = _ := dispatch_mark known before
  rw [List.nil_append, Reader.read_cons, cut]
  rfl

/-- Two texts with a mark between them. -/
theorem Reads.join (first : Reads text tokens) (known : (mark, token) ∈ marks)
    (second : Reads more others) : Reads (text ++ mark :: more) (tokens ++ token :: others) := by
  intro before next last rest known'
  calc Reader.read ⟨.between, before⟩ ((text ++ mark :: more) ++ next :: rest)
      = Reader.read ⟨.between, before⟩ (text ++ mark :: (more ++ next :: rest)) := by
        rw [List.append_assoc, List.cons_append]
    _ = Reader.read ⟨.between, token :: (tokens.reverse ++ before)⟩ (more ++ next :: rest) :=
        first before mark token _ known
    _ = Reader.read ⟨.between, last :: (others.reverse ++ (token :: (tokens.reverse ++ before)))⟩
          rest := second _ next last rest known'
    _ = Reader.read ⟨.between, last :: ((tokens ++ token :: others).reverse ++ before)⟩ rest := by
        simp

theorem Reads.opened (inside : Reads more others) (known : (mark, token) ∈ marks) :
    Reads (mark :: more) (token :: others) := reads_nil.join known inside

theorem Reads.closed (inside : Reads text tokens) (known : (mark, token) ∈ marks) :
    Reads (text ++ [mark]) (tokens ++ [token]) := inside.join known reads_nil

/-- A whole text that ends with a mark. -/
theorem Reads.tokens? (inside : Reads text tokens) (known : (mark, token) ∈ marks) :
    Json.tokens? (text ++ [mark]) = some (tokens ++ [token]) := by
  have read : (text ++ [mark]).foldlM Reader.step Reader.start = _ := inside [] mark token [] known
  rw [Json.tokens?, read]
  simp [Reader.finish]

/-! ### Words -/

theorem reads_null : Reads ['n', 'u', 'l', 'l'] [.null] := fun before mark token rest known =>
  reads_nil (.null :: before) mark token rest known

theorem reads_true : Reads ['t', 'r', 'u', 'e'] [.bool true] := fun before mark token rest known =>
  reads_nil (.bool true :: before) mark token rest known

theorem reads_false : Reads ['f', 'a', 'l', 's', 'e'] [.bool false] :=
  fun before mark token rest known => reads_nil (.bool false :: before) mark token rest known

/-! ### Strings -/

theorem hexDigit?_digitChar {d : Nat} (small : d < 16) :
    hexDigit? (Nat.digitChar d) = some d := by
  have all : ∀ d < 16, hexDigit? (Nat.digitChar d) = some d := by decide
  exact all d small

theorem step_hex {units : List Nat} {left value digit : Nat} {c : Char} (before : List Token)
    (known : hexDigit? c = some digit) : Reader.step ⟨.hex units left value, before⟩ c =
      some (if left ≤ 1 then ⟨.string ((16 * value + digit) :: units), before⟩
        else ⟨.hex units (left - 1) (16 * value + digit), before⟩) := by
  simp only [Reader.step, known, Option.map_some]

/-- A character between quotes, escaped or not. -/
theorem read_renderChar (units : List Nat) (before : List Token) (c : Char) :
    Reader.read ⟨.string units, before⟩ (Value.renderChar c) =
      some ⟨.string (c.toNat :: units), before⟩ := by
  unfold Value.renderChar
  split
  · rfl
  · rfl
  · rfl
  · rfl
  · rfl
  · rfl
  · rfl
  · next quote backslash _ _ _ _ _ =>
    split
    · next control =>
      have high := hexDigit?_digitChar (show c.toNat / 16 < 16 by omega)
      have low := hexDigit?_digitChar (show c.toNat % 16 < 16 by omega)
      have value : 16 * (c.toNat / 16) + c.toNat % 16 = c.toNat := by omega
      have escape (more : List Char) :
          Reader.read ⟨.string units, before⟩ ('\\' :: 'u' :: '0' :: '0' :: more) =
            Reader.read ⟨.hex units 2 0, before⟩ more := rfl
      simp [escape, step_hex before high, step_hex before low, value]
    · next printed =>
      have plain : Reader.step ⟨.string units, before⟩ c =
          some ⟨.string (c.toNat :: units), before⟩ := by
        simp only [Reader.step]
        rw [if_neg quote, if_neg backslash, if_neg printed]
      rw [Reader.read_cons, plain]
      rfl

theorem read_text (cs : List Char) (units : List Nat) (before : List Token) :
    Reader.read ⟨.string units, before⟩ (cs.flatMap Value.renderChar) =
      some ⟨.string ((cs.map Char.toNat).reverse ++ units), before⟩ := by
  induction cs generalizing units with
  | nil => rfl
  | cons c rest ih =>
    rw [List.flatMap_cons, Reader.read_append, read_renderChar, Option.bind_some, ih]
    simp

/-- No character is a surrogate. -/
theorem not_surrogate (c : Char) : ¬ (0xd800 ≤ c.toNat ∧ c.toNat < 0xe000) := by
  have valid := c.valid
  simp only [UInt32.isValidChar, Nat.isValidChar] at valid
  have same : c.toNat = c.val.toNat := rfl
  omega

theorem characters?_map_toNat (cs : List Char) : characters? (cs.map Char.toNat) = some cs := by
  induction cs with
  | nil => rfl
  | cons c rest ih =>
    have scalar := not_surrogate c
    cases rest with
    | nil => simp [characters?, scalar, Char.ofNat_toNat]
    | cons next rest =>
      rw [List.map_cons, List.map_cons, characters?, if_neg (by omega), if_neg (by omega),
        ← List.map_cons, ih, Option.map_some, Char.ofNat_toNat]

theorem reads_string (text : String) :
    Reads (Value.renderString text) [.string (some text)] := by
  intro before mark token rest known
  have inside := read_text text.toList [] before
  have began : Reader.step ⟨.between, before⟩ '"' = some ⟨.string [], before⟩ := rfl
  have ended : Reader.step ⟨.string ((text.toList.map Char.toNat).reverse ++ []), before⟩ '"' =
      some ⟨.between, .string (some text) :: before⟩ := by
    simp [Reader.step, characters?_map_toNat]
  calc Reader.read ⟨.between, before⟩ (Value.renderString text ++ mark :: rest)
      = Reader.read ⟨.string [], before⟩
          (text.toList.flatMap Value.renderChar ++ '"' :: mark :: rest) := by
        rw [Value.renderString, List.cons_append, List.cons_append, Reader.read_cons, began,
          Option.bind_some, List.append_assoc]
        rfl
    _ = Reader.read ⟨.between, .string (some text) :: before⟩ (mark :: rest) := by
        rw [Reader.read_append, inside, Option.bind_some, Reader.read_cons, ended, Option.bind_some]
    _ = _ := reads_nil _ mark token rest known

/-! ### Numbers -/

end Token

/-- An integer as it is written. -/
def Numeral.ofNat (negative : Bool) (n : Nat) : Numeral := ⟨negative, digits n, [], none⟩

theorem Numeral.wholeValue_ofNat (negative : Bool) (n : Nat) :
    (Numeral.ofNat negative n).wholeValue = n := foldl_digits n

namespace Token

variable {mark : Char} {token : Token}

theorem read_digits {cs : List Char} (listed : ∀ c ∈ cs, (digit? c).isSome) (draft : Draft)
    (before : List Token) : Reader.read ⟨.number .whole draft, before⟩ cs =
      some ⟨.number .whole { draft with whole := (cs.filterMap digit?).reverse ++ draft.whole },
        before⟩ := by
  induction cs generalizing draft with
  | nil => rfl
  | cons c rest ih =>
    rw [List.forall_mem_cons] at listed
    obtain ⟨digit, known⟩ := Option.isSome_iff_exists.mp listed.1
    have next : Reader.step ⟨.number .whole draft, before⟩ c =
        some ⟨.number .whole (draft.addWhole digit), before⟩ := by
      simp only [Reader.step, Draft.next?, known]
    rw [Reader.read_cons, next, Option.bind_some, ih listed.2]
    simp [Draft.addWhole, known]

/-- A mark ends a whole number and is read on its own. -/
theorem step_ended {stage : Stage} (whole : stage = .zero ∨ stage = .whole) (draft : Draft)
    (known : (mark, token) ∈ marks) (before : List Token) :
    Reader.step ⟨.number stage draft, before⟩ mark =
      some ⟨.between, token :: .number draft.finish :: before⟩ := by
  have ended : draft.next? stage mark = none ∧ stage.isComplete = true := by
    simp only [marks, List.mem_cons, Prod.mk.injEq, List.not_mem_nil, or_false] at known
    rcases whole with rfl | rfl <;> rcases known with ⟨rfl, -⟩ | ⟨rfl, -⟩ | ⟨rfl, -⟩ | ⟨rfl, -⟩ |
      ⟨rfl, -⟩ | ⟨rfl, -⟩ <;> exact ⟨rfl, rfl⟩
  simp only [Reader.step, ended, if_true]
  exact dispatch_mark known _

/-- The first digit of a number. -/
theorem step_first {digit : Nat} (small : digit < 10) (negative : Bool) (before : List Token) :
    Reader.step ⟨.number .sign ⟨negative, [], [], none⟩, before⟩ (Nat.digitChar digit) =
      some ⟨.number (if digit = 0 then .zero else .whole) ⟨negative, [digit], [], none⟩,
        before⟩ := by
  simp only [Reader.step, Draft.next?, digit?_digitChar small]
  rfl

theorem read_decimal (n : Nat) (negative : Bool) (before : List Token)
    (known : (mark, token) ∈ marks) (rest : List Char) :
    Reader.read ⟨.number .sign ⟨negative, [], [], none⟩, before⟩ (decimal n ++ mark :: rest) =
      Reader.read ⟨.between, token :: .number (.ofNat negative n) :: before⟩ rest := by
  obtain ⟨first, others, same, small, zero, alone, listed⟩ := decimal_eq_cons n
  have spelt : digits n = first :: others.filterMap digit? := by
    simp [digits, same, digit?_digitChar small]
  rw [same, List.cons_append, Reader.read_cons, step_first small, Option.bind_some, Numeral.ofNat,
    spelt]
  by_cases none : first = 0
  · rw [if_pos none, alone (zero none), List.nil_append, Reader.read_cons,
      step_ended (Or.inl rfl) _ known]
    rfl
  · rw [if_neg none, Reader.read_append, read_digits listed, Option.bind_some, Reader.read_cons,
      step_ended (Or.inr rfl) _ known, Option.bind_some]
    simp [Draft.finish]

theorem reads_negative (n : Nat) : Reads ('-' :: decimal n) [.number (.ofNat true n)] :=
  fun before _ _ rest known => read_decimal n true before known rest

/-- A number without a sign begins as one with a sign goes on. -/
theorem dispatch_digit {digit : Nat} (small : digit < 10) (before : List Token) :
    Reader.step ⟨.between, before⟩ (Nat.digitChar digit) =
      Reader.step ⟨.number .sign ⟨false, [], [], none⟩, before⟩ (Nat.digitChar digit) := by
  match digit, small with
  | 0, _ | 1, _ | 2, _ | 3, _ | 4, _ | 5, _ | 6, _ | 7, _ | 8, _ | 9, _ => rfl

theorem reads_natural (n : Nat) : Reads (decimal n) [.number (.ofNat false n)] := by
  intro before mark token rest known
  have read := read_decimal n false before known rest
  obtain ⟨first, others, same, small, -⟩ := decimal_eq_cons n
  rw [same, List.cons_append, Reader.read_cons, ← dispatch_digit small] at read
  rw [same, List.cons_append, Reader.read_cons]
  exact read

end Token
end Json
end Datastore
