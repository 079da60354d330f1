import Datastore.Config.Dsn
import Mathlib.Data.List.Forall2

/-!
# Templates

Every descriptor has one reading as a template: plain characters and placeholders, the last of
which may lack its end. Expansion replaces the placeholders of this reading by their values, or
ends with the fault of the first that has none. The same comes of a scan that looks for one bracket
after the other and cuts the text at byte offsets: none of its cuts fails. Main statement:
`expansion_exact`.
-/

namespace Datastore

/-! ### Cuts at byte offsets -/

namespace Text

/-- Bytes of a text in UTF-8. -/
def byteSize : List Char → Nat
  | [] => 0
  | c :: rest => c.utf8Size + byteSize rest

/-- The offset of the first occurrence of a character. -/
def offset? (c : Char) : List Char → Option Nat
  | [] => none
  | first :: rest => if first = c then some 0 else (offset? c rest).map (first.utf8Size + ·)

/-- The parts before and behind an offset; none if it is beyond the end or inside a character. -/
def cut? : Nat → List Char → Option (List Char × List Char)
  | 0, text => some ([], text)
  | _ + 1, [] => none
  | n + 1, c :: rest =>
    if c.utf8Size ≤ n + 1 then
      (cut? (n + 1 - c.utf8Size) rest).map fun parts => (c :: parts.1, parts.2)
    else none

/-- The parts before and behind the one byte at an offset. -/
def around? (offset : Nat) (text : List Char) : Option (List Char × List Char) :=
  (cut? offset text).bind fun front => (cut? (offset + 1) text).map fun back => (front.1, back.2)

@[simp] theorem byteSize_cons (c : Char) (rest : List Char) :
    byteSize (c :: rest) = c.utf8Size + byteSize rest := rfl

@[simp] theorem byteSize_append (first second : List Char) :
    byteSize (first ++ second) = byteSize first + byteSize second := by
  induction first with
  | nil => simp [byteSize]
  | cons c first ih => simp [ih, Nat.add_assoc]

/-- A text can be cut behind any of its first characters. -/
theorem cut?_byteSize (front back : List Char) :
    cut? (byteSize front) (front ++ back) = some (front, back) := by
  induction front with
  | nil => simp [cut?, byteSize]
  | cons c front ih =>
    have wide := c.utf8Size_pos
    obtain ⟨n, size⟩ : ∃ n, byteSize (c :: front) = n + 1 := by
      refine ⟨byteSize (c :: front) - 1, ?_⟩
      rw [byteSize_cons]
      omega
    have left : n + 1 - c.utf8Size = byteSize front := by
      rw [← size, byteSize_cons]
      omega
    have fits : c.utf8Size ≤ n + 1 := by
      rw [← size, byteSize_cons]
      omega
    simp [size, cut?, fits, left, ih]

/-- It can be cut nowhere else. -/
theorem eq_append_of_cut? {offset : Nat} {text front back : List Char}
    (parts : cut? offset text = some (front, back)) :
    text = front ++ back ∧ byteSize front = offset := by
  induction text generalizing offset front with
  | nil =>
    cases offset with
    | zero =>
      cases parts
      exact ⟨rfl, rfl⟩
    | succ n => cases parts
  | cons c rest ih =>
    cases offset with
    | zero =>
      cases parts
      exact ⟨rfl, rfl⟩
    | succ n =>
      rw [cut?] at parts
      split at parts
      · next fits =>
        obtain ⟨⟨first, second⟩, cut, same⟩ := Option.map_eq_some_iff.mp parts
        cases same
        obtain ⟨rfl, size⟩ := ih cut
        refine ⟨rfl, ?_⟩
        rw [byteSize_cons, size]
        omega
      · cases parts

theorem offset?_of_not_mem {c : Char} {text : List Char} (absent : c ∉ text) :
    offset? c text = none := by
  induction text with
  | nil => rfl
  | cons first rest ih =>
    obtain ⟨apart, later⟩ := not_or.mp (mt List.mem_cons.mpr absent)
    simp [offset?, Ne.symm apart, ih later]

theorem offset?_append {c : Char} {front : List Char} (absent : c ∉ front) (back : List Char) :
    offset? c (front ++ c :: back) = some (byteSize front) := by
  induction front with
  | nil => simp [offset?, byteSize]
  | cons first rest ih =>
    obtain ⟨apart, later⟩ := not_or.mp (mt List.mem_cons.mpr absent)
    simp [offset?, Ne.symm apart, ih later]

theorem around?_byteSize {c : Char} (narrow : c.utf8Size = 1) (front back : List Char) :
    around? (byteSize front) (front ++ c :: back) = some (front, back) := by
  have first := cut?_byteSize front (c :: back)
  have second := cut?_byteSize (front ++ [c]) back
  simp only [byteSize_append, byteSize_cons, narrow, List.append_assoc, List.cons_append,
    List.nil_append] at second
  rw [around?, first]
  exact congrArg (Option.map _) second

/-- What is behind a byte is shorter than the text. -/
theorem length_around? {offset : Nat} {text front back : List Char}
    (parts : around? offset text = some (front, back)) : back.length < text.length := by
  simp only [around?, Option.bind_eq_some_iff, Option.map_eq_some_iff, Prod.mk.injEq] at parts
  obtain ⟨-, -, ⟨whole, rest⟩, cut, -, rfl⟩ := parts
  obtain ⟨rfl, size⟩ := eq_append_of_cut? cut
  cases whole with
  | nil => simp [byteSize] at size
  | cons first whole =>
    simp only [List.cons_append, List.length_cons, List.length_append]
    omega

end Text

namespace Config

variable {c : Config}

/-! ### Readings -/

/-- A template is read from left to right as these segments. -/
inductive Spells : List Segment → List Char → Prop
  | nil : Spells [] []
  /-- Outside of a placeholder all characters but an opening bracket stand for themselves. -/
  | plain {char : Char} {pieces : List Segment} {rest : List Char} (literal : char ≠ '[')
      (more : Spells pieces rest) : Spells (.plain char :: pieces) (char :: rest)
  /-- A name holds all characters up to the next closing bracket. -/
  | placeholder {name : List Char} {pieces : List Segment} {rest : List Char} (inside : ']' ∉ name)
      (more : Spells pieces rest) :
      Spells (.placeholder name :: pieces) ('[' :: (name ++ ']' :: rest))
  | unterminated {rest : List Char} (inside : ']' ∉ rest) : Spells [.unterminated] ('[' :: rest)

theorem segments_plain {char : Char} (literal : char ≠ '[') (rest : List Char) :
    segments (char :: rest) = .plain char :: segments rest := by
  simp [segments, segmentsFrom, literal]

theorem segmentsFrom_name {name : List Char} (inside : ']' ∉ name) (before rest : List Char) :
    segmentsFrom (some before) (name ++ ']' :: rest) =
      .placeholder (before.reverse ++ name) :: segments rest := by
  induction name generalizing before with
  | nil => simp [segmentsFrom, segments]
  | cons first name ih =>
    obtain ⟨apart, later⟩ := not_or.mp (mt List.mem_cons.mpr inside)
    simp [segmentsFrom, Ne.symm apart, ih later]

theorem segmentsFrom_cut {rest : List Char} (inside : ']' ∉ rest) (before : List Char) :
    segmentsFrom (some before) rest = [.unterminated] := by
  induction rest generalizing before with
  | nil => rfl
  | cons first rest ih =>
    obtain ⟨apart, later⟩ := not_or.mp (mt List.mem_cons.mpr inside)
    simp [segmentsFrom, Ne.symm apart, ih later]

theorem segments_placeholder {name : List Char} (inside : ']' ∉ name) (rest : List Char) :
    segments ('[' :: (name ++ ']' :: rest)) = .placeholder name :: segments rest := by
  simpa [segments, segmentsFrom] using segmentsFrom_name inside [] rest

theorem segments_unterminated {rest : List Char} (inside : ']' ∉ rest) :
    segments ('[' :: rest) = [.unterminated] := by
  simpa [segments, segmentsFrom] using segmentsFrom_cut inside []

theorem segments_literal {literal : List Char} (outside : '[' ∉ literal) (rest : List Char) :
    segments (literal ++ rest) = literal.map .plain ++ segments rest := by
  induction literal with
  | nil => rfl
  | cons first literal ih =>
    obtain ⟨apart, later⟩ := not_or.mp (mt List.mem_cons.mpr outside)
    rw [List.cons_append, segments_plain (Ne.symm apart), ih later]
    rfl

theorem Spells.segments {pieces : List Segment} {text : List Char} (spells : Spells pieces text) :
    Config.segments text = pieces := by
  induction spells with
  | nil => rfl
  | plain literal _ ih => rw [segments_plain literal, ih]
  | placeholder inside _ ih => rw [segments_placeholder inside, ih]
  | unterminated inside => exact segments_unterminated inside

/-- The induction is on the length: behind a placeholder the reading starts anew. -/
theorem spells_segments (text : List Char) : Spells (Config.segments text) text := by
  induction size : text.length using Nat.strongRecOn generalizing text with
  | ind size ih =>
    subst size
    match text with
    | [] => exact .nil
    | char :: rest =>
      by_cases literal : char = '['
      · subst literal
        by_cases closed : ']' ∈ rest
        · obtain ⟨name, rest, rfl, inside⟩ := List.eq_append_cons_of_mem closed
          rw [segments_placeholder inside]
          refine .placeholder inside (ih _ ?_ rest rfl)
          simp only [List.length_cons, List.length_append]
          omega
        · rw [segments_unterminated closed]
          exact .unterminated closed
      · rw [segments_plain literal]
        exact .plain literal (ih _ (by simp) rest rfl)

/-- Where the first text leaves no placeholder open, the second is read as if it stood alone. -/
theorem Spells.append {pieces others : List Segment} {text more : List Char}
    (first : Spells pieces text) (whole : .unterminated ∉ pieces) (second : Spells others more) :
    Spells (pieces ++ others) (text ++ more) := by
  induction first with
  | nil => exact second
  | plain literal _ ih => exact .plain literal (ih fun here => whole (List.mem_cons_of_mem _ here))
  | placeholder inside _ ih =>
    have rest := ih fun here => whole (List.mem_cons_of_mem _ here)
    simpa using Spells.placeholder inside rest
  | unterminated inside => exact absurd (List.mem_singleton_self _) whole

/-! ### Values -/

/-- The two names that credentials go by. -/
def credential? (c : Config) (name : String) : Option String :=
  if name = "username" then c.username else if name = "password" then c.password else none

/-- A credential goes before a parameter of its name. -/
theorem placeholder?_eq (c : Config) (name : String) :
    c.placeholder? name = (c.credential? name).or (c.text? name) := by
  unfold placeholder?
  split
  · simp [credential?]
  · simp [credential?]
  · next first second =>
    rw [credential?, if_neg first, if_neg second]
    rfl

/-- What a segment stands for. -/
inductive Gives (c : Config) : Segment → List Char → Prop
  | plain (char : Char) : Gives c (.plain char) [char]
  | placeholder (name : List Char) (value : String)
      (known : (c.credential? (String.ofList name)).or (c.text? (String.ofList name)) = some value) :
      Gives c (.placeholder name) value.toList

/-- What is wrong with a segment that stands for nothing. -/
inductive Offends (c : Config) : Segment → ConfigFault → Prop
  | unresolved (name : List Char)
      (unknown : (c.credential? (String.ofList name)).or (c.text? (String.ofList name)) = none) :
      Offends c (.placeholder name) (.unresolved (String.ofList name) c.driverName c.descriptor)
  | unterminated : Offends c .unterminated (.unterminated c.driverName c.descriptor)

theorem expandSegment_eq_ok_iff (c : Config) (piece : Segment) (text : List Char) :
    c.expandSegment piece = .ok text ↔ c.Gives piece text := by
  constructor
  · intro expanded
    cases piece with
    | plain char => cases expanded; exact .plain char
    | unterminated => cases expanded
    | placeholder name =>
      rw [expandSegment] at expanded
      split at expanded
      · next value known =>
        cases expanded
        exact .placeholder name value ((c.placeholder?_eq _).symm.trans known)
      · cases expanded
  · rintro (char | ⟨name, value, known⟩)
    · rfl
    · rw [← placeholder?_eq] at known
      simp only [expandSegment, known]

theorem expandSegment_eq_error_iff (c : Config) (piece : Segment) (fault : ConfigFault) :
    c.expandSegment piece = .error fault ↔ c.Offends piece fault := by
  constructor
  · intro expanded
    cases piece with
    | plain char => cases expanded
    | unterminated => cases expanded; exact .unterminated
    | placeholder name =>
      rw [expandSegment] at expanded
      split at expanded
      · cases expanded
      · next unknown =>
        cases expanded
        exact .unresolved name ((c.placeholder?_eq _).symm.trans unknown)
  · rintro (⟨name, unknown⟩ | _)
    · rw [← placeholder?_eq] at unknown
      simp only [expandSegment, unknown]
    · rfl

theorem expandSegments_cons (c : Config) (piece : Segment) (rest : List Segment) :
    c.expandSegments (piece :: rest) =
      (c.expandSegment piece).bind fun text => (c.expandSegments rest).map (text ++ ·) := by
  rw [expandSegments]
  cases c.expandSegment piece with
  | error fault => rfl
  | ok text => cases c.expandSegments rest <;> rfl

/-- All segments stand for something. -/
theorem expandSegments_eq_ok_iff (c : Config) (pieces : List Segment) (text : List Char) :
    c.expandSegments pieces = .ok text ↔
      ∃ texts, List.Forall₂ c.Gives pieces texts ∧ text = texts.flatten := by
  induction pieces generalizing text with
  | nil =>
    constructor
    · rintro ⟨⟩
      exact ⟨[], .nil, rfl⟩
    · rintro ⟨texts, ⟨⟩, rfl⟩
      rfl
  | cons piece rest ih =>
    rw [expandSegments_cons]
    constructor
    · intro expanded
      cases first : c.expandSegment piece with
      | error fault =>
        rw [first] at expanded
        cases expanded
      | ok front =>
        cases more : c.expandSegments rest with
        | error fault =>
          rw [first, more] at expanded
          cases expanded
        | ok back =>
          rw [first, more] at expanded
          cases expanded
          obtain ⟨texts, given, rfl⟩ := (ih back).mp more
          exact ⟨front :: texts, .cons ((c.expandSegment_eq_ok_iff ..).mp first) given, rfl⟩
    · rintro ⟨texts, given, rfl⟩
      obtain ⟨front, others, first, later, rfl⟩ := List.forall₂_cons_left_iff.mp given
      rw [(c.expandSegment_eq_ok_iff ..).mpr first, (ih others.flatten).mpr ⟨others, later, rfl⟩]
      rfl

/-- Some segment stands for nothing; the first of these counts. -/
theorem expandSegments_eq_error_iff (c : Config) (pieces : List Segment) (fault : ConfigFault) :
    c.expandSegments pieces = .error fault ↔
      ∃ before piece behind, pieces = before ++ piece :: behind ∧
        (∀ earlier ∈ before, ∃ text, c.Gives earlier text) ∧ c.Offends piece fault := by
  induction pieces with
  | nil =>
    constructor
    · rintro ⟨⟩
    · rintro ⟨before, piece, behind, none, -⟩
      simp at none
  | cons piece rest ih =>
    rw [expandSegments_cons]
    cases first : c.expandSegment piece with
    | error other =>
      have offends := (c.expandSegment_eq_error_iff ..).mp first
      constructor
      · rintro ⟨⟩
        exact ⟨[], piece, rest, rfl, by simp, offends⟩
      · rintro ⟨before, last, behind, split, given, last_offends⟩
        cases before with
        | nil =>
          cases split
          rw [(c.expandSegment_eq_error_iff ..).mpr last_offends] at first
          cases first
          rfl
        | cons early before =>
          cases split
          obtain ⟨text, gives⟩ := given piece (List.mem_cons_self ..)
          rw [(c.expandSegment_eq_ok_iff ..).mpr gives] at first
          cases first
    | ok front =>
      have gives := (c.expandSegment_eq_ok_iff ..).mp first
      have later : (Except.ok front).bind (fun text => (c.expandSegments rest).map (text ++ ·)) =
          .error fault ↔ c.expandSegments rest = .error fault := by
        cases c.expandSegments rest <;> simp [Except.bind, Except.map]
      rw [later, ih]
      constructor
      · rintro ⟨before, last, behind, rfl, given, offends⟩
        refine ⟨piece :: before, last, behind, rfl, ?_, offends⟩
        exact List.forall_mem_cons.mpr ⟨⟨front, gives⟩, given⟩
      · rintro ⟨before, last, behind, split, given, offends⟩
        cases before with
        | nil =>
          cases split
          rw [(c.expandSegment_eq_error_iff ..).mpr offends] at first
          cases first
        | cons early before =>
          cases split
          exact ⟨before, last, behind, rfl, (List.forall_mem_cons.mp given).2, offends⟩

/-! ### Scanning -/

theorem expandSegments_literal (c : Config) (literal : List Char) (pieces : List Segment) :
    c.expandSegments (literal.map .plain ++ pieces) =
      (c.expandSegments pieces).map (literal ++ ·) := by
  induction literal with
  | nil => cases h : c.expandSegments pieces <;> simp [h, Except.map]
  | cons first literal ih =>
    rw [List.map_cons, List.cons_append, expandSegments_cons, ih]
    cases c.expandSegments pieces <;> rfl

/-- Looks for one bracket after the other and cuts the text there, behind what was built before.
None if a cut fails. -/
def scan (c : Config) (built text : List Char) : Option (Except ConfigFault (List Char)) :=
  match Text.offset? '[' text with
  | none => some (.ok (built ++ text))
  | some start =>
    match _opened : Text.around? start text with
    | none => none
    | some (literal, inside) =>
      match Text.offset? ']' inside with
      | none => some (.error (.unterminated c.driverName c.descriptor))
      | some stop =>
        match _closed : Text.around? stop inside with
        | none => none
        | some (name, rest) =>
          match c.placeholder? (String.ofList name) with
          | none =>
            some (.error (.unresolved (String.ofList name) c.driverName c.descriptor))
          | some value => c.scan (built ++ literal ++ value.toList) rest
termination_by text.length
decreasing_by exact Nat.lt_trans (Text.length_around? _closed) (Text.length_around? _opened)

theorem scan_literal {text : List Char} (outside : '[' ∉ text) (built : List Char) :
    c.scan built text = some (.ok (built ++ text)) := by
  rw [scan, Text.offset?_of_not_mem outside]

theorem scan_unterminated {literal inside : List Char} (outside : '[' ∉ literal)
    (endless : ']' ∉ inside) (built : List Char) : c.scan built (literal ++ '[' :: inside) =
      some (.error (.unterminated c.driverName c.descriptor)) := by
  have parts := Text.around?_byteSize (c := '[') rfl literal inside
  rw [scan, Text.offset?_append outside]
  dsimp only
  split
  · next failed =>
    rw [parts] at failed
    cases failed
  · next cut =>
    rw [parts] at cut
    cases cut
    rw [Text.offset?_of_not_mem endless]

theorem scan_placeholder {literal name : List Char} (outside : '[' ∉ literal) (within : ']' ∉ name)
    (built rest : List Char) : c.scan built (literal ++ '[' :: (name ++ ']' :: rest)) =
      match c.placeholder? (String.ofList name) with
      | none => some (.error (.unresolved (String.ofList name) c.driverName c.descriptor))
      | some value => c.scan (built ++ literal ++ value.toList) rest := by
  have first := Text.around?_byteSize (c := '[') rfl literal (name ++ ']' :: rest)
  have second := Text.around?_byteSize (c := ']') rfl name rest
  rw [scan, Text.offset?_append outside]
  dsimp only
  split
  · next failed =>
    rw [first] at failed
    cases failed
  · next cut =>
    rw [first] at cut
    cases cut
    rw [Text.offset?_append within]
    dsimp only
    split
    · next failed =>
      rw [second] at failed
      cases failed
    · next cut =>
      rw [second] at cut
      cases cut
      rfl

/-- The scan comes to the same as the expansion of the reading. -/
theorem scan_eq (c : Config) (built text : List Char) :
    c.scan built text = some ((c.expandSegments (segments text)).map (built ++ ·)) := by
  induction size : text.length using Nat.strongRecOn generalizing built text with
  | ind size ih =>
    subst size
    by_cases opened : '[' ∈ text
    · obtain ⟨literal, inside, rfl, outside⟩ := List.eq_append_cons_of_mem opened
      rw [segments_literal outside, expandSegments_literal]
      by_cases closed : ']' ∈ inside
      · obtain ⟨name, rest, rfl, within⟩ := List.eq_append_cons_of_mem closed
        have shorter : rest.length < (literal ++ '[' :: (name ++ ']' :: rest)).length := by
          simp only [List.length_append, List.length_cons]
          omega
        rw [scan_placeholder outside within, segments_placeholder within, expandSegments_cons,
          expandSegment]
        cases c.placeholder? (String.ofList name) with
        | none => rfl
        | some value =>
          dsimp only
          rw [ih _ shorter _ rest rfl]
          cases c.expandSegments (segments rest) <;> simp [Except.map, Except.bind]
      · rw [scan_unterminated outside closed, segments_unterminated closed]
        rfl
    · have read := segments_literal opened []
      have expanded := c.expandSegments_literal text (segments [])
      rw [List.append_nil] at read
      rw [scan_literal opened, read, expanded]
      simp [segments, segmentsFrom, expandSegments, Except.map]

/-! ### Data source names -/

/-- The data source name, or the fault, that a scan of the descriptor comes to. -/
def scanned? (c : Config) : Option (Except Error String) :=
  (c.scan [] c.descriptor.toList).map fun outcome => (outcome.map String.ofList).mapError .config

theorem dsn_eq (c : Config) : c.dsn =
    ((c.expandSegments (segments c.descriptor.toList)).map String.ofList).mapError .config := by
  rw [dsn]
  cases c.expandSegments (segments c.descriptor.toList) <;> rfl

theorem scanned?_eq (c : Config) : c.scanned? = some c.dsn := by
  rw [scanned?, scan_eq, dsn_eq]
  cases c.expandSegments (segments c.descriptor.toList) <;> rfl

theorem dsn_eq_ok_iff (c : Config) (text : String) : c.dsn = .ok text ↔
    ∃ pieces texts, Spells pieces c.descriptor.toList ∧ List.Forall₂ c.Gives pieces texts ∧
      text = String.ofList texts.flatten := by
  constructor
  · intro named
    rw [dsn_eq] at named
    cases expanded : c.expandSegments (segments c.descriptor.toList) with
    | error fault =>
      rw [expanded] at named
      cases named
    | ok chars =>
      rw [expanded] at named
      cases named
      obtain ⟨texts, given, rfl⟩ := (c.expandSegments_eq_ok_iff ..).mp expanded
      exact ⟨_, texts, spells_segments _, given, rfl⟩
  · rintro ⟨pieces, texts, spells, given, rfl⟩
    have expanded := (c.expandSegments_eq_ok_iff pieces texts.flatten).mpr ⟨texts, given, rfl⟩
    rw [dsn_eq, spells.segments, expanded]
    rfl

theorem dsn_eq_error_iff (c : Config) (error : Error) : c.dsn = .error error ↔
    ∃ before piece behind fault, Spells (before ++ piece :: behind) c.descriptor.toList ∧
      (∀ earlier ∈ before, ∃ text, c.Gives earlier text) ∧ c.Offends piece fault ∧
      error = .config fault := by
  constructor
  · intro failed
    rw [dsn_eq] at failed
    cases expanded : c.expandSegments (segments c.descriptor.toList) with
    | error fault =>
      rw [expanded] at failed
      cases failed
      obtain ⟨before, piece, behind, split, given, offends⟩ :=
        (c.expandSegments_eq_error_iff ..).mp expanded
      refine ⟨before, piece, behind, fault, ?_, given, offends, rfl⟩
      rw [← split]
      exact spells_segments _
    | ok chars =>
      rw [expanded] at failed
      cases failed
  · rintro ⟨before, piece, behind, fault, spells, given, offends, rfl⟩
    have expanded := (c.expandSegments_eq_error_iff (before ++ piece :: behind) fault).mpr
      ⟨before, piece, behind, rfl, given, offends⟩
    rw [dsn_eq, spells.segments, expanded]
    rfl

/-- The words for a segment that stands for nothing. -/
def Segment.complaint : Segment → String
  | .placeholder name => "unresolved placeholder [" ++ String.ofList name ++ "]"
  | .plain _ | .unterminated => "unterminated placeholder"

theorem Offends.message {piece : Segment} {fault : ConfigFault} (offends : c.Offends piece fault) :
    (Error.config fault).message = "configuration error: " ++
      (piece.complaint ++ " in " ++ c.driverName ++ " descriptor " ++ c.descriptor) := by
  cases offends with
  | unresolved name unknown =>
    have words : "]" ++ " in " = "] in " := by decide
    have joined : (Segment.placeholder name).complaint ++ " in " =
        "unresolved placeholder [" ++ String.ofList name ++ "] in " := by
      rw [← words, ← String.append_assoc]
      rfl
    rw [joined]
    rfl
  | unterminated =>
    have joined : Segment.unterminated.complaint ++ " in " = "unterminated placeholder in " := by
      decide
    rw [joined]
    rfl

/-- The same configuration with another endpoint. -/
def withDescriptor (c : Config) (descriptor : String) : Config := { c with descriptor }

/-- Values do not depend on the template that they are put into. -/
theorem Gives.withDescriptor {piece : Segment} {text : List Char} {first second : String}
    (gives : (c.withDescriptor first).Gives piece text) :
    (c.withDescriptor second).Gives piece text := by
  cases gives with
  | plain char => exact .plain char
  | placeholder name value known => exact .placeholder name value known

theorem not_mem_of_gives {pieces : List Segment} {texts : List (List Char)}
    (given : List.Forall₂ c.Gives pieces texts) : .unterminated ∉ pieces := by
  induction given with
  | nil => simp
  | cons first _ ih =>
    intro here
    rcases List.mem_cons.mp here with rfl | later
    · cases first
    · exact ih later

theorem dsn_append {first second text more : String}
    (front : (c.withDescriptor first).dsn = .ok text)
    (back : (c.withDescriptor second).dsn = .ok more) :
    (c.withDescriptor (first ++ second)).dsn = .ok (text ++ more) := by
  obtain ⟨pieces, texts, spells, given, rfl⟩ := (dsn_eq_ok_iff ..).mp front
  obtain ⟨others, mores, spells', given', rfl⟩ := (dsn_eq_ok_iff ..).mp back
  refine (dsn_eq_ok_iff ..).mpr ⟨pieces ++ others, texts ++ mores, ?_, ?_, ?_⟩
  · have both := spells.append (not_mem_of_gives given) spells'
    simpa [withDescriptor] using both
  · exact List.rel_append (given.imp fun _ _ => Gives.withDescriptor)
      (given'.imp fun _ _ => Gives.withDescriptor)
  · rw [List.flatten_append, String.ofList_append]

/-- What comes of a descriptor. -/
structure Expansion (c : Config) : Prop where
  /-- Every cut of the scan is behind a whole character of the text. -/
  scanned : c.scanned? = some c.dsn
  reading : ∃! pieces, Spells pieces c.descriptor.toList
  filled : ∀ text, c.dsn = .ok text ↔
    ∃ pieces texts, Spells pieces c.descriptor.toList ∧ List.Forall₂ c.Gives pieces texts ∧
      text = String.ofList texts.flatten
  /-- The first segment without a value counts. -/
  refused : ∀ error, c.dsn = .error error ↔
    ∃ before piece behind fault, Spells (before ++ piece :: behind) c.descriptor.toList ∧
      (∀ earlier ∈ before, ∃ text, c.Gives earlier text) ∧ c.Offends piece fault ∧
      error = .config fault ∧ error.message = "configuration error: " ++
        (piece.complaint ++ " in " ++ c.driverName ++ " descriptor " ++ c.descriptor)
  joined : ∀ first second text more, (c.withDescriptor first).dsn = .ok text →
    (c.withDescriptor second).dsn = .ok more →
    (c.withDescriptor (first ++ second)).dsn = .ok (text ++ more)

/-- The name of a data source is its descriptor with one pass of substitution. -/
theorem expansion_exact (c : Config) : c.Expansion where
  scanned := c.scanned?_eq
  reading := by
    refine ⟨_, spells_segments _, ?_⟩
    intro pieces spells
    exact spells.segments.symm
  filled := c.dsn_eq_ok_iff
  refused := by
    intro error
    rw [dsn_eq_error_iff]
    constructor
    · rintro ⟨before, piece, behind, fault, spells, given, offends, rfl⟩
      exact ⟨before, piece, behind, fault, spells, given, offends, rfl, offends.message⟩
    · rintro ⟨before, piece, behind, fault, spells, given, offends, rfl, -⟩
      exact ⟨before, piece, behind, fault, spells, given, offends, rfl⟩
  joined := fun _ _ _ _ => dsn_append

/-- Brackets in names and in values, and an empty name. -/
def bracketed : Config :=
  (((ofEndpoint "pg" "]:[username]@[ho[st]").withCredentials "[x]" "p").addParameter "ho[st"
    (.text "h]")).addParameter "" (.text "e")

theorem expansion_exact_bracketed :
    bracketed.Expansion ∧ bracketed.dsn = .ok "]:[x]@h]" ∧
      (bracketed.withDescriptor "[]x[b]y[").dsn =
        .error (.config (.unresolved "b" "pg" "[]x[b]y[")) ∧
      (bracketed.withDescriptor ("[]" ++ "]:[username]@[ho[st]")).dsn = .ok ("e" ++ "]:[x]@h]") := by
  have named : bracketed.dsn = .ok "]:[x]@h]" :=
    ((expansion_exact bracketed).filled _).mpr
      ⟨[.plain ']', .plain ':', .placeholder "username".toList, .plain '@',
          .placeholder "ho[st".toList],
        [[']'], [':'], "[x]".toList, ['@'], "h]".toList],
        .plain (by decide) (.plain (by decide) (.placeholder (by decide) (.plain (by decide)
          (.placeholder (by decide) .nil)))),
        .cons (.plain _) (.cons (.plain _) (.cons (.placeholder _ _ (by decide))
          (.cons (.plain _) (.cons (.placeholder _ _ (by decide)) .nil)))), by decide⟩
  have spelt : Spells ([.placeholder [], .plain 'x'] ++ .placeholder ['b'] :: [.plain 'y',
      .unterminated]) "[]x[b]y[".toList :=
    .placeholder (by decide) (.plain (by decide) (.placeholder (by decide) (.plain (by decide)
      (.unterminated (by decide)))))
  have given : ∀ earlier ∈ [Segment.placeholder [], .plain 'x'],
      ∃ text, (bracketed.withDescriptor "[]x[b]y[").Gives earlier text := by
    refine List.forall_mem_cons.mpr ⟨⟨_, .placeholder [] "e" (by decide)⟩, ?_⟩
    exact List.forall_mem_cons.mpr ⟨⟨_, .plain 'x'⟩, by simp⟩
  have offends : (bracketed.withDescriptor "[]x[b]y[").Offends (.placeholder ['b'])
      (.unresolved "b" "pg" "[]x[b]y[") := .unresolved ['b'] (by decide)
  have failed := ((expansion_exact (bracketed.withDescriptor "[]x[b]y[")).refused _).mpr
    ⟨_, _, _, _, spelt, given, offends, rfl, offends.message⟩
  exact ⟨expansion_exact bracketed, named, failed,
    (expansion_exact bracketed).joined "[]" _ "e" _ (by decide +kernel) named⟩

end Config
end Datastore
