import Datastore.Proofs.Session.Line
import Mathlib.Data.List.Basic
import Mathlib.Data.List.Induction

/-!
# First come, first served

Slots go to waiters in the order in which they began to wait. Whoever begins to wait while another
is in line gets in line behind, stays behind, and is not given a slot before the other has left the
line. Main statements: `behind_after`, `not_overtaken`.
-/

namespace Datastore.Session

/-- Given a slot, and about to go on. -/
def Granted (s : Session) (name : String) : Prop :=
  ∃ wish, s.holdings.find? name = some (.waiter wish .granted)

/-- It is so now and after every move of the run. -/
def Throughout (P : Session → Prop) : Session → List Move → Prop
  | s, [] => P s
  | s, m :: rest => P s ∧ Throughout P (s.move m) rest

theorem Throughout.now {P : Session → Prop} {s : Session} {moves : List Move}
    (always : Throughout P s moves) : P s := by
  cases moves with
  | nil => exact always
  | cons m rest => exact always.1

theorem Throughout.concat {P : Session → Prop} {s : Session} {moves : List Move} {m : Move}
    (always : Throughout P s moves) (last : P ((s.after moves).move m)) :
    Throughout P s (moves ++ [m]) := by
  induction moves generalizing s with
  | nil => exact ⟨always, last⟩
  | cons m' rest ih => exact ⟨always.1, ih always.2 last⟩

theorem Throughout.later {P : Session → Prop} {s : Session} {first second : List Move}
    (always : Throughout P s (first ++ second)) : Throughout P (s.after first) second := by
  induction first generalizing s with
  | nil => exact always
  | cons m rest ih => exact ih always.2

/-- What became so in a run became so by one of its moves, and was so ever since. -/
theorem last_since {P : Session → Prop} {s : Session} {moves : List Move} (before : ¬ P s)
    (now : P (s.after moves)) : ∃ early m later, moves = early ++ m :: later ∧
      ¬ P (s.after early) ∧ Throughout P ((s.after early).move m) later := by
  induction moves using List.reverseRecOn with
  | nil => exact absurd now before
  | append_singleton past m ih =>
    rw [after_append] at now
    by_cases held : P (s.after past)
    · obtain ⟨early, m', later, rfl, other, always⟩ := ih held
      refine ⟨early, m', later ++ [m], by simp, other, always.concat ?_⟩
      rw [after_append] at now
      exact now
    · exact ⟨past, m, [], rfl, held, now⟩

/-- Without a slot, and if in line then behind the other. -/
def Behind (first second : String) (s : Session) : Prop :=
  ¬ s.Granted second ∧ (s.Queued second → [first, second].Sublist s.pool.waiting)

variable {first second : String}

theorem Behind.of_change {s s' : Session} {name : String} {now : Option Holding}
    (behind : s.Queued first → Behind first second s)
    (waiting : s'.pool.waiting = s.pool.waiting) (before : ¬ s.Queued name)
    (settled : ∀ thing, now = some thing → thing.isSettled = true)
    (change : ∀ other, s'.holdings.find? other =
      if other = name then now else s.holdings.find? other) :
    s'.Queued first → Behind first second s' := by
  intro line
  have queued := queued_iff_of_change before
    (fun wish h => not_queued (not_queued_of_settled (settled _ h)) wish rfl) change
  obtain ⟨idle, order⟩ := behind ((queued first).mp line)
  constructor
  · rintro ⟨wish, known⟩
    rw [change] at known
    by_cases same : second = name
    · rw [if_pos same] at known
      cases settled _ known
    · rw [if_neg same] at known
      exact idle ⟨wish, known⟩
  · rw [waiting, queued]
    exact order

/-- The slot goes to the first in line, who has nobody in front. -/
theorem behind_freeSlot {s : Session} (orderly : Orderly s)
    (behind : s.Queued first → Behind first second s) :
    s.freeSlot.Queued first → Behind first second s.freeSlot := by
  rcases freeSlot_cases orderly with ⟨-, same⟩ | ⟨name, rest, wish, line, known, same⟩
  · rw [same]
    exact behind
  · have distinct := orderly.distinct
    rw [line, List.nodup_cons] at distinct
    rw [same]
    rintro ⟨wish', known'⟩
    have change (other : String) (ne : other ≠ name) :
        (s.holdings.insert name (.waiter wish .granted)).find? other = s.holdings.find? other :=
      Table.find?_insert_of_ne _ _ ne
    have served : first ≠ name := by
      rintro rfl
      simp [putOff, hold] at known'
    simp only [putOff, hold, change first served] at known'
    obtain ⟨idle, order⟩ := behind ⟨wish', known'⟩
    rw [line] at order
    have next : second ≠ name := by
      rintro rfl
      have ahead : [first, second].Sublist rest :=
        (order ⟨wish, known⟩).of_cons_of_ne served
      exact distinct.1 (ahead.subset (by simp))
    constructor
    · rintro ⟨wish'', granted⟩
      simp only [putOff, hold, change second next] at granted
      exact idle ⟨wish'', granted⟩
    · rintro ⟨wish'', queued⟩
      simp only [putOff, hold, change second next] at queued
      exact (order ⟨wish'', queued⟩).of_cons_of_ne served

theorem Shuffle.behind {origin : Session} {d d' : Midway Session} (shuffle : Shuffle origin d d')
    (orderly : Orderly d.state) (start : Orderly origin) (line : origin.Queued first)
    (behind : d.state.Queued first → Behind first second d.state) :
    d'.state.Queued first → Behind first second d'.state := by
  cases shuffle with
  | claimed isOpen some => exact behind
  | freed => exact behind_freeSlot orderly behind
  | put thing fresh settled =>
    exact Behind.of_change behind rfl (not_queued_of_none fresh)
      (fun _ h => Option.some.inj h ▸ settled) fun other => Table.find?_insert _ _ other _
  | lifted known gone =>
    exact Behind.of_change behind rfl (not_queued_of_some known gone) (fun _ h => by cases h)
      fun other => Table.find?_erase _ _ other
  | exchanged new known gone settled =>
    exact Behind.of_change behind rfl (not_queued_of_some known gone)
      (fun _ h => Option.some.inj h ▸ settled) fun other => Table.find?_insert _ _ other _
  | welcomed wish vacant fresh =>
    -- There was a free slot when the move began, so nobody was in line.
    have long : origin.pool.waiting ≠ [] :=
      List.ne_nil_of_mem ((start.mem_waiting first).mpr line)
    exact absurd (start.busy long) vacant
  | @joined s n e o q l name wish new fresh isOpen busy =>
    rintro ⟨wish', known'⟩
    have old : first ≠ name := by
      rintro rfl
      exact not_queued_of_none new line
    simp only [hold, Table.find?_insert_of_ne _ _ old] at known'
    obtain ⟨idle, order⟩ := behind ⟨wish', known'⟩
    have here : first ∈ s.pool.waiting := (orderly.mem_waiting first).mpr ⟨wish', known'⟩
    by_cases last : second = name
    · subst last
      refine ⟨?_, fun _ => ?_⟩
      · rintro ⟨wish'', granted⟩
        simp [hold] at granted
      · exact (List.singleton_sublist.mpr here).append (List.Sublist.refl [second])
    · constructor
      · rintro ⟨wish'', granted⟩
        simp only [hold, Table.find?_insert_of_ne _ _ last] at granted
        exact idle ⟨wish'', granted⟩
      · rintro ⟨wish'', queued⟩
        simp only [hold, Table.find?_insert_of_ne _ _ last] at queued
        exact (order ⟨wish'', queued⟩).trans (List.sublist_append_left ..)
  | @left s n e o q l name wish known =>
    rintro ⟨wish', known'⟩
    have stays : first ≠ name := by
      rintro rfl
      simp [letGo, Table.find?_erase] at known'
    simp only [letGo, Table.find?_erase, if_neg stays] at known'
    obtain ⟨idle, order⟩ := behind ⟨wish', known'⟩
    by_cases gone : second = name
    · subst gone
      refine ⟨?_, ?_⟩ <;> rintro ⟨wish'', now⟩ <;> simp [letGo, Table.find?_erase] at now
    · constructor
      · rintro ⟨wish'', granted⟩
        simp only [letGo, Table.find?_erase, if_neg gone] at granted
        exact idle ⟨wish'', granted⟩
      · rintro ⟨wish'', queued⟩
        simp only [letGo, Table.find?_erase, if_neg gone] at queued
        have kept := (order ⟨wish'', queued⟩).filter (· ≠ name)
        simpa [stays, gone] using kept
  | dismissed due => exact behind

theorem Effect.behind {origin : Session} {m : Move} {d d' : Midway Session}
    (effect : Effect origin m d d') (orderly : Orderly d.state) (start : Orderly origin)
    (line : origin.Queued first)
    (behind : d.state.Queued first → Behind first second d.state) :
    d'.state.Queued first → Behind first second d'.state := by
  cases effect with
  | system effect =>
    intro queued
    obtain ⟨idle, order⟩ := behind queued
    exact ⟨idle, fun h => effect.line.2.1 ▸ order h⟩
  | shuffled shuffle => exact shuffle.behind orderly start line behind
  | shut =>
    intro queued
    have here := ((orderly_closePool orderly).mem_waiting first).mpr queued
    obtain ⟨t, same, -⟩ := closePool_spec orderly
    simp [same, withSystem, System.close_eq] at here
  | _ => exact behind

/-- Whoever comes later stays behind while the first is in line. -/
theorem behind_after {s : Session} {moves : List Move} (orderly : Orderly s)
    (line : Throughout (·.Queued first) s moves) (behind : Behind first second s) :
    Behind first second (s.after moves) := by
  induction moves generalizing s with
  | nil => exact behind
  | cons m rest ih =>
    obtain ⟨now, later⟩ := line
    have next := (move_effects s m).sustains
      (I := fun d => d.state.Queued first → Behind first second d.state)
      (fun d d' effect there => effect.behind there orderly now) orderly fun _ => behind
    exact ih next.1 later (next.2 later.now)

/-- Whoever comes later is not given a slot while the first is in line. -/
theorem not_overtaken {s : Session} {moves : List Move} (orderly : Orderly s)
    (line : Throughout (·.Queued first) s moves) (behind : Behind first second s) :
    ¬ (s.after moves).Granted second :=
  (behind_after orderly line behind).1

end Datastore.Session
