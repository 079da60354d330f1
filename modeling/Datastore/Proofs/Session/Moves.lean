import Datastore.Session.Step

/-!
# Runs of a session

A session goes on by moves: a command is carried out, or one of the pieces of work that were put
off is done. Work may be done in any order and with commands in between, so a run also visits the
states between giving a slot to a waiter and the waiter going on. `Session.step`, which does all
work after each command, is one such schedule. Main statements: `step_eq_after`,
`Admitted.preserves`.
-/

namespace Datastore.Session

/-- What can happen next. -/
inductive Move
  | command (command : Command)
  /-- The task at this place of the agenda is done. -/
  | work (place : Nat)
deriving DecidableEq

/-- Carries out a command and leaves the work that it makes due. -/
def obey (s : Session) (command : Command) : Answer × Session :=
  if command.newName?.any s.holdings.contains then s.misused .nameInUse else s.carryOut command

def doWork (s : Session) (place : Nat) : Session :=
  match s.agenda[place]? with
  | some task => { s with agenda := s.agenda.eraseIdx place }.perform task
  | none => s

def move (s : Session) : Move → Session
  | .command command => (s.obey command).2
  | .work place => s.doWork place

/-- The commands that let go of a guard, by whether later work is attended to. -/
def lettings (name : String) : Bool → List Command
  | true => [.drop name, .release name]
  | false => [.dropUnattended name, .abandon name]

/-- The command that gives a waiter up, by whether later work is attended to. -/
def givingUp (name : String) : Bool → Command
  | true => .cancel name
  | false => .abandon name

theorem obey_letting {s : Session} {name : String} {c : Connection} {attended : Bool}
    {command : Command} (known : s.holdings.find? name = some (.pooled c))
    (ends : (c.inTransaction || s.pool.closed) = true) (lets : command ∈ lettings name attended) :
    s.obey command = s.partWith attended name (.pooled c) := by
  cases attended <;>
    simp only [lettings, List.mem_cons, List.not_mem_nil, or_false] at lets <;>
    rcases lets with rfl | rfl <;>
    simp [obey, Command.newName?, carryOut, withHolding, known, ends]

theorem obey_givingUp {s : Session} {name : String} {wish : Wish} {progress : Progress}
    (attended : Bool) (known : s.holdings.find? name = some (.waiter wish progress)) :
    s.obey (givingUp name attended) = s.giveUp attended name progress := by
  cases attended <;> simp [givingUp, obey, Command.newName?, carryOut, withHolding, known, partWith]

theorem obey_givingUp_probing {s : Session} {name : String} {wish : Wish} {c : Connection}
    (attended : Bool) (known : s.holdings.find? name = some (.waiter wish (.probing c))) :
    s.obey (givingUp name attended) =
      (.cancelled false, ((s.letGo name).discard attended c).freeSlot) := by
  rw [obey_givingUp attended known]
  rfl

/-- Behind a probe the connection is discarded, and then the slot is passed on. -/
theorem move_givingUp_probing {s : Session} {name : String} {wish : Wish} {c : Connection}
    (attended : Bool) (known : s.holdings.find? name = some (.waiter wish (.probing c))) :
    s.move (.command (givingUp name attended)) = ((s.letGo name).discard attended c).freeSlot :=
  congrArg Prod.snd (obey_givingUp_probing attended known)

/-- The session after a run. -/
def after (s : Session) (moves : List Move) : Session := moves.foldl move s

/-- Every move of the run is one that the rule admits where it is made. -/
def Admitted (rule : Session → Move → Bool) : Session → List Move → Prop
  | _, [] => True
  | s, m :: rest => rule s m = true ∧ Admitted rule (s.move m) rest

instance decidableAdmitted (rule : Session → Move → Bool) :
    (moves : List Move) → (s : Session) → Decidable (Admitted rule s moves)
  | [], _ => .isTrue trivial
  | m :: rest, s =>
    match decidableAdmitted rule rest (s.move m) with
    | .isTrue later =>
      if now : rule s m = true then .isTrue ⟨now, later⟩ else .isFalse fun h => now h.1
    | .isFalse later => .isFalse fun h => later h.2

@[simp] theorem after_nil (s : Session) : s.after [] = s := rfl

@[simp] theorem after_cons (s : Session) (m : Move) (rest : List Move) :
    s.after (m :: rest) = (s.move m).after rest := rfl

theorem after_append (s : Session) (first second : List Move) :
    s.after (first ++ second) = (s.after first).after second := by
  simp only [after, List.foldl_append]

theorem admitted_append {rule : Session → Move → Bool} {s : Session} {first second : List Move}
    (early : Admitted rule s first) (late : Admitted rule (s.after first) second) :
    Admitted rule s (first ++ second) := by
  induction first generalizing s with
  | nil => exact late
  | cons m rest ih => exact ⟨early.1, ih early.2 late⟩

theorem admitted_split {rule : Session → Move → Bool} {s : Session} {first second : List Move}
    (admitted : Admitted rule s (first ++ second)) :
    Admitted rule s first ∧ Admitted rule (s.after first) second := by
  induction first generalizing s with
  | nil => exact ⟨trivial, admitted⟩
  | cons m rest ih =>
    obtain ⟨early, late⟩ := ih admitted.2
    exact ⟨⟨admitted.1, early⟩, late⟩

theorem admitted_everything (s : Session) (moves : List Move) :
    Admitted (fun _ _ => true) s moves := by
  induction moves generalizing s with
  | nil => trivial
  | cons m rest ih => exact ⟨rfl, ih _⟩

theorem Admitted.weaken {rule weaker : Session → Move → Bool}
    (less : ∀ s m, rule s m = true → weaker s m = true) {s : Session} {moves : List Move}
    (admitted : Admitted rule s moves) : Admitted weaker s moves := by
  induction moves generalizing s with
  | nil => trivial
  | cons m rest ih => exact ⟨less s m admitted.1, ih admitted.2⟩

/-- What every admitted move keeps, every admitted run keeps. -/
theorem Admitted.preserves {rule : Session → Move → Bool} {I : Session → Prop}
    (keeps : ∀ s m, rule s m = true → I s → I (s.move m)) {s : Session} {moves : List Move}
    (admitted : Admitted rule s moves) (now : I s) : I (s.after moves) := by
  induction moves generalizing s with
  | nil => exact now
  | cons m rest ih => exact ih admitted.2 (keeps s m admitted.1 now)

/-- What the moves of a run give one after the other, each where it is made. -/
def along {α : Type} (part : Session → Move → List α) : Session → List Move → List α
  | _, [] => []
  | s, m :: rest => part s m ++ along part (s.move m) rest

theorem filterMap_along {α β : Type} (f : α → Option β) (part : Session → Move → List α)
    (s : Session) (moves : List Move) :
    (along part s moves).filterMap f = along (fun s m => (part s m).filterMap f) s moves := by
  induction moves generalizing s with
  | nil => rfl
  | cons m rest ih => rw [along, List.filterMap_append, ih, along]

theorem length_along {α : Type} (part part' : Session → Move → List α) (s : Session)
    (moves : List Move) : (along (fun s m => part s m ++ part' s m) s moves).length =
      (along part s moves).length + (along part' s moves).length := by
  induction moves generalizing s with
  | nil => rfl
  | cons m rest ih =>
    simp only [along, List.length_append, ih]
    omega

/-- A law about what was given so far and the state that every admitted move keeps, every admitted
run keeps. -/
theorem Admitted.gathers {α : Type} {rule : Session → Move → Bool}
    {part : Session → Move → List α} {I : List α → Session → Prop}
    (keeps : ∀ past s m, rule s m = true → I past s → I (past ++ part s m) (s.move m))
    {s : Session} {moves : List Move} (admitted : Admitted rule s moves) {past : List α}
    (now : I past s) : I (past ++ along part s moves) (s.after moves) := by
  induction moves generalizing s past with
  | nil => simpa [along] using now
  | cons m rest ih =>
    have later := ih admitted.2 (keeps past s m admitted.1 now)
    rwa [List.append_assoc] at later

/-- Only commands are subject to the rule. -/
def FreesWork (rule : Session → Move → Bool) : Prop := ∀ s place, rule s (.work place) = true

theorem admitted_work {rule : Session → Move → Bool} (free : FreesWork rule) (count : Nat)
    (s : Session) : Admitted rule s (List.replicate count (.work 0)) := by
  induction count generalizing s with
  | zero => trivial
  | succ count ih => exact ⟨free s 0, ih _⟩

theorem settleWithin_eq_after (fuel : Nat) (s : Session) :
    settleWithin fuel s = s.after (List.replicate fuel (.work 0)) := by
  induction fuel generalizing s with
  | zero => rfl
  | succ fuel ih =>
    cases todo : s.agenda with
    | nil =>
      have idle : s.move (.work 0) = s := by simp [move, doWork, todo]
      have rested : settleWithin fuel s = s := by
        cases fuel with
        | zero => rfl
        | succ fuel => simp only [settleWithin, todo]
      rw [List.replicate_succ, after_cons, idle, ← ih, rested]
      simp only [settleWithin, todo]
    | cons task rest =>
      have done : s.move (.work 0) = { s with agenda := rest }.perform task := by
        simp [move, doWork, todo]
      rw [List.replicate_succ, after_cons, done, ← ih]
      simp only [settleWithin, todo]

/-- Doing all work is a run of moves. -/
theorem settle_eq_after (s : Session) :
    s.settle = s.after (List.replicate s.workload (.work 0)) :=
  settleWithin_eq_after s.workload s

theorem after_work_of_done {s : Session} (done : s.agenda = []) (count : Nat) :
    s.after (List.replicate count (.work 0)) = s := by
  induction count with
  | zero => rfl
  | succ count ih =>
    have idle : s.move (.work 0) = s := by simp [move, doWork, done]
    rw [List.replicate_succ, after_cons, idle, ih]

theorem settle_of_done {s : Session} (done : s.agenda = []) : s.settle = s := by
  rw [settle_eq_after, after_work_of_done done]

/-- If nothing is due, a step is a command and then all work. -/
theorem step_eq_obey {s : Session} (done : s.agenda = []) (command : Command) :
    s.step command = ((s.obey command).1, (s.obey command).2.settle) := by
  by_cases taken : command.newName?.any s.holdings.contains
  · simp only [step, obey, taken, if_true, misused, settle_of_done done]
  · simp only [step, obey, taken, if_false, Bool.false_eq_true]

/-- To try and do more work than there is makes no difference. -/
theorem after_work_of_enough {s : Session} {count : Nat} (enough : s.workload ≤ count) :
    s.after (List.replicate count (.work 0)) = s.settle := by
  obtain ⟨more, rfl⟩ := Nat.exists_eq_add_of_le enough
  rw [← List.replicate_append_replicate, after_append, ← settle_eq_after,
    after_work_of_done (agenda_settle s)]

/-- The oldest piece of work is done first. -/
theorem settle_cons {s : Session} {task : Task} {rest : List Task}
    (due : s.agenda = task :: rest) : s.settle = (s.move (.work 0)).settle := by
  have done : s.move (.work 0) = { s with agenda := rest }.perform task := by
    simp [move, doWork, due]
  have less : (s.move (.work 0)).workload ≤ s.workload := by
    have kept := workload_perform_le { s with agenda := rest } task
    rw [done]
    simp only [workload, due, List.length_cons] at kept ⊢
    omega
  rw [← after_work_of_enough (Nat.le_succ s.workload), List.replicate_succ, after_cons,
    after_work_of_enough less]

/-- A step is a command and then work, or nothing at all. -/
theorem step_eq_after (s : Session) (command : Command) :
    ∃ count, (s.step command).2 = s.after (.command command :: List.replicate count (.work 0)) := by
  by_cases taken : command.newName?.any s.holdings.contains
  · refine ⟨0, ?_⟩
    simp [step, move, obey, taken, misused]
  · refine ⟨(s.carryOut command).2.workload, ?_⟩
    simp [step, move, obey, taken, settle_eq_after]

/-- What every admitted run keeps, doing all work keeps. -/
theorem Admitted.settled {rule : Session → Move → Bool} (free : FreesWork rule) {s : Session}
    {moves : List Move} (admitted : Admitted rule s moves) :
    ∃ more, Admitted rule s more ∧ (s.after moves).settle = s.after more := by
  refine ⟨moves ++ List.replicate (s.after moves).workload (.work 0),
    admitted_append admitted (admitted_work free _ _), ?_⟩
  rw [after_append, settle_eq_after]

end Datastore.Session
