import Datastore.Proofs.Isolation

/-!
# How transactions end

Every native transaction is in one place: ended by one native call, that of one live connection, or
left behind by one connection that was closed or dropped in it. One that was left behind is never
ended, and whoever gets a connection does not get what was begun through its handle before. Main
statement: `transactions_accounted`.
-/

namespace Datastore

/-- The transactions that native calls ended, in order. -/
def Backend.finished (b : Backend) : List Nat := b.log.filterMap Call.ended?

theorem Backend.length_finished (b : Backend) : b.finished.length = b.commits + b.rollbacks := by
  unfold finished commits rollbacks
  induction b.log with
  | nil => rfl
  | cons call rest ih =>
    cases call <;>
      simp only [List.filterMap_cons, List.countP_cons, Call.ended?, Call.isCommitted,
        Call.isRolledBack, Bool.false_eq_true, if_true, if_false, List.length_cons] <;>
      omega

theorem length_filterMap_transaction (cs : List Connection) :
    (cs.filterMap Connection.transaction).length = cs.countP Connection.inTransaction := by
  induction cs with
  | nil => rfl
  | cons c rest ih =>
    cases active : c.transaction <;> simp [Connection.inTransaction, active] at ih ⊢ <;> omega

theorem weigh_pending_tagged (number : Nat) (cs : List Connection) :
    weigh (pending (tagged id number)) cs = (cs.filterMap Connection.transaction).count number := by
  induction cs with
  | nil => rfl
  | cons c rest ih =>
    cases active : c.transaction with
    | none => simp [active, pending_of_none active, ih]
    | some other =>
      simp only [weigh_cons, pending_of_some active, List.filterMap_cons, active, List.count_cons,
        tagged, ih, id_eq, beq_iff_eq]
      omega

/-- One for a connection with this handle in a transaction that began at most that long ago. -/
def stale (handle age : Nat) (c : Connection) : Nat :=
  if c.handle = handle then pending (fun number => if number ≤ age then 1 else 0) c else 0

theorem stale_le (handle age : Nat) (c : Connection) :
    stale handle age c ≤ tagged Connection.handle handle c := by
  unfold stale tagged pending
  cases c.transaction <;> grind

theorem stale_of_none {c : Connection} (free : c.transaction = none) (handle age : Nat) :
    stale handle age c = 0 := by
  simp [stale, pending, free]

theorem blind_stale (handle age : Nat) : Blind (stale handle age) := fun _ _ => rfl

theorem lt_of_stale {c : Connection} {age number : Nat} (fresh : stale c.handle age c = 0)
    (active : c.transaction = some number) : age < number := by
  simpa [stale, pending, active] using fresh

theorem System.Effect.begins_le {d d' : Midway System} (effect : System.Effect d d') :
    d.state.backend.begins ≤ d'.state.backend.begins := by
  cases effect with
  | configured b same => simp [Backend.begins, same]
  | retired c => simp [System.retire, System.note]
  | called | begun | ended | passed | opened => simp <;> omega
  | _ => exact Nat.le_refl _

/-- A transaction that begins is younger than all before. -/
theorem System.Turn.young {d d' : Midway System} (turn : System.Turn d d') (handle : Nat)
    {age : Nat} (past : age ≤ d.state.backend.begins) :
    System.tally (stale handle age) d' ≤ System.tally (stale handle age) d := by
  cases turn with
  | @begun s n e o q l c free =>
    have later : ¬ (s.backend.record (.begun c.handle)).begins ≤ age := by
      simp only [Backend.begins_record, Call.isBegun, Bool.toNat_true] at past ⊢
      omega
    have new : stale handle age { c with
        transaction := some (s.backend.record (.begun c.handle)).begins } = 0 := by
      simp only [stale, pending, Option.map_some, Option.getD_some, if_neg later, ite_self]
    simp only [System.tally, System.history, weigh_cons, new]
    omega
  | @ended s n e o q l c number call active ends =>
    have new : stale handle age { c with transaction := none } = 0 := stale_of_none rfl ..
    simp only [System.tally, System.history, weigh_cons, new]
    omega

namespace Session

/-- Every transaction that began ended, is in progress, or was left behind; and only one of these,
once. -/
theorem Sound.transactions_perm {s : Session} (sound : Sound (rest s)) :
    (s.backend.finished ++ s.live.filterMap Connection.transaction ++
      (s.history Movement.gone?).filterMap Connection.transaction).Perm
        (List.range' 1 s.backend.begins) := by
  rw [List.perm_iff_count]
  intro number
  have accounted := sound.accounted (tagged id number)
  have ended : s.backend.endedWeight (tagged id number) = s.backend.finished.count number := by
    rw [Backend.endedWeight, weigh_tagged, List.map_id]
    rfl
  have begun : s.backend.begunWeight (tagged id number) =
      (List.range' 1 s.backend.begins).count number := by
    rw [Backend.begunWeight, weigh_tagged, List.map_id]
  rw [tally_rest, weigh_pending_tagged, weigh_pending_tagged] at accounted
  simp only [rest, ended, begun] at accounted
  simp only [List.count_append]
  omega

/-! ### Later holders -/

theorem Effect.begins_le {origin : Session} {m : Move} {d d' : Midway Session}
    (effect : Effect origin m d d') : d.state.backend.begins ≤ d'.state.backend.begins := by
  cases effect with
  | system effect => exact effect.begins_le
  | shuffled shuffle => exact Nat.le_of_eq (congrArg _ shuffle.untouched.backend.symm)
  | @shut s => exact Nat.le_of_eq (congrArg _ (closePool_backend s).symm)
  | discarded c => exact Nat.le_refl _
  | @buried s n e o q l place c due => exact Nat.le_of_eq (Backend.begins_retire s.backend c).symm
  | enqueued asked bare isOpen => exact Nat.le_refl _
  | @severed s n e o q l name c asked known =>
    exact Nat.le_of_eq (Backend.begins_close s.backend c.handle).symm

theorem Effect.young {origin : Session} {m : Move} {d d' : Midway Session} {handle age : Nat}
    (effect : Effect origin m d d') (orderly : Orderly d.state)
    (registered : System.Registered (onSystem d)) (past : age ≤ d.state.backend.begins)
    (young : tally (stale handle age) d = 0) : tally (stale handle age) d' = 0 := by
  rcases effect.ledger orderly with balanced | turn
  · have books := balanced.books _ (blind_stale handle age)
    have made {d : Midway Session} (registered : System.Registered (onSystem d)) :
        output (stale handle age) d = 0 :=
      weigh_eq_zero.mpr fun c here => stale_of_none (registered.calm c here) handle age
    have none := made registered
    have none' := made (effect.registered registered)
    omega
  · have less := turn.system.young handle past
    simp only [tally, turn.holdings, Session.doomed, turn.agenda] at young ⊢
    omega

/-- No connection with this handle, live or gone, has a transaction that old. -/
theorem young_after {s : Session} (orderly : Orderly s) (sound : Sound (rest s)) {handle : Nat}
    (young : tally (stale handle s.backend.begins) (rest s) = 0) (more : List Move) :
    tally (stale handle s.backend.begins) (rest (s.after more)) = 0 := by
  have kept := (admitted_everything s more).sustains
    (I := fun d => System.Registered (onSystem d) ∧ s.backend.begins ≤ d.state.backend.begins ∧
      tally (stale handle s.backend.begins) d = 0)
    (fun _ _ _ _ _ effect there now => ⟨effect.registered now.1,
      Nat.le_trans now.2.1 effect.begins_le, effect.young there now.1 now.2.1 now.2.2⟩)
    orderly ⟨sound.registered, Nat.le_refl _, young⟩
  exact kept.2.2

/-- A connection without a transaction is the only one with its handle. -/
theorem young_of_free {s : Session} (sound : Sound (rest s)) {c : Connection} (here : c ∈ s.live)
    (free : c.transaction = none) (age : Nat) : tally (stale c.handle age) (rest s) = 0 := by
  -- The one connection of this handle weighs nothing, and there is no other to weigh anything.
  have once := sound.handle_once c.handle
  have less := stale_le c.handle age
  have self := tagged_self Connection.handle c
  have none := stale_of_none free c.handle age
  have live := weigh_mono_of_mem less here
  have gone := weigh_mono less (s.history Movement.gone?)
  rw [tally_rest]
  omega

/-- A native call that ends a transaction ends the one of the connection. -/
theorem finished_finish {b : Backend} {c : Connection}
    {call : Backend → Nat → Except DriverError Unit × Backend}
    (ends : ∀ b number, (call b number).2.finished = b.finished ++ [number]) :
    ∃ ended, (c.finish b call).2.2.finished = b.finished ++ ended ∧
      ∀ number ∈ ended, c.transaction = some number := by
  unfold Connection.finish
  split
  · exact ⟨[], (List.append_nil _).symm, by simp⟩
  · split
    · exact ⟨[], (List.append_nil _).symm, by simp⟩
    · next number active => exact ⟨[number], ends b number, by simp [active]⟩

theorem finished_transact {s : Session} {name : String} {c : Connection}
    (known : s.connection? name = some c) {command : Command}
    (ends : command ∈ [.commit name, .rollback name]) :
    ∃ ended, (s.move (.command command)).backend.finished = s.backend.finished ++ ended ∧
      ∀ number ∈ ended, c.transaction = some number := by
  have backend {call : Connection → Backend → Except Error Unit × Connection × Backend} :
      (s.transact name call).2.backend = (call c s.backend).2.2 := by
    simp only [transact, withConnection, known, backend_setConnection]
  simp only [List.mem_cons, List.not_mem_nil, or_false] at ends
  rcases ends with rfl | rfl
  · rw [show s.move (.command (.commit name)) = (s.transact name Connection.commit).2 from rfl,
      backend]
    exact finished_finish fun b number => by
      simp [Backend.commit, Backend.finished, Backend.record, Call.ended?]
  · rw [show s.move (.command (.rollback name)) = (s.transact name Connection.rollback).2 from rfl,
      backend]
    exact finished_finish fun b number => by
      simp [Backend.rollback, Backend.finished, Backend.record, Call.ended?]

/-- Whoever has this handle from now on ends no transaction that began before. -/
def Renewed (s : Session) (handle : Nat) : Prop :=
  ∀ more name c, (s.after more).connection? name = some c → c.handle = handle →
    ∀ command ∈ [.commit name, .rollback name], ∃ ended,
      ((s.after more).move (.command command)).backend.finished =
        (s.after more).backend.finished ++ ended ∧ ∀ number ∈ ended, s.backend.begins < number

theorem renewed_of_free {s : Session} (orderly : Orderly s) (sound : Sound (rest s))
    {c : Connection} (here : c ∈ s.live) (free : c.transaction = none) : Renewed s c.handle := by
  rintro more name c' known same command ends
  obtain ⟨ended, finished, own⟩ := finished_transact known ends
  refine ⟨ended, finished, fun number new => ?_⟩
  have young := young_after orderly sound (young_of_free sound here free _) more
  rw [tally_rest, Nat.add_eq_zero_iff, weigh_eq_zero, ← same] at young
  exact lt_of_stale (young.1 c' (mem_live_of_connection? known)) (own number new)

theorem free_dequeue {s : Session} (calm : unrest (rest s) = 0) {name : String} {id : Nat}
    (told : (s.obey (.dequeue name)).1 = .connection id) :
    ∃ c, (s.move (.command (.dequeue name))).connection? name = some c ∧ c.id = id ∧
      c.transaction = none := by
  simp only [move, obey, carryOut] at told ⊢
  split at told
  · cases told
  · next new =>
    rw [if_neg new]
    cases queue : s.pool.idle with
    | nil => simp [System.withdraw, queue] at told
    | cons c others =>
      have idle : weigh restless s.pool.idle = 0 := by
        simp only [unrest, onSystem, System.unrest, rest] at calm
        omega
      have quiet := weigh_restless.mp idle c (by simp [queue])
      simp only [System.withdraw, queue, holdNew, Answer.connection.injEq] at told ⊢
      exact ⟨c, by simp [connection?, hold], told, by simpa [Connection.inTransaction] using quiet⟩

/-- A connection that somebody got from the pool is not in a transaction. -/
theorem free_handout {s : Session} (calm : unrest (rest s) = 0) {name : String} {command : Command}
    (asks : command ∈ [.get name, .tryGet name, .poll name, .dequeue name]) {id : Nat}
    (told : (s.obey command).1 = .connection id) :
    ∃ c, (s.move (.command command)).connection? name = some c ∧ c.id = id ∧
      c.transaction = none := by
  by_cases direct : command = .dequeue name
  · subst direct
    exact free_dequeue calm told
  · have checkout : command ∈ [.get name, .tryGet name, .poll name] := by simpa [direct] using asks
    obtain ⟨c, known, same, quiet⟩ := fresh_obey calm checkout id told
    exact ⟨c, by simp [connection?, move, known], same,
      by simpa [Connection.inTransaction] using quiet⟩

/-- In every reachable state each transaction that began was ended by one native call, is that of
one live connection or was left behind by one that is gone. One that was left behind is never
ended; and as long as callers put only connections without a transaction into the idle queue,
nobody ends what began before they got their connection. -/
theorem transactions_accounted {backend : Backend} (fresh : backend.log = []) (capacity : Nat)
    (provider : Option Provider) (moves : List Move) :
    let began := start backend (Pool.ofCapacity capacity) provider
    let s := began.after moves
    s.backend.begins = s.backend.commits + s.backend.rollbacks +
        s.live.countP Connection.inTransaction +
        (s.history Movement.gone?).countP Connection.inTransaction ∧
      (s.backend.finished ++ s.live.filterMap Connection.transaction ++
        (s.history Movement.gone?).filterMap Connection.transaction).Perm
          (List.range' 1 s.backend.begins) ∧
      s.backend.finished.Nodup ∧
      (∀ c number, Departed c (rest s) → c.transaction = some number →
        ∀ more, number ∉ (s.after more).backend.finished) ∧
      (Admitted calmQueue began moves → ∀ name,
        ∀ command ∈ [.get name, .tryGet name, .poll name, .dequeue name], ∀ id,
          (s.obey command).1 = .connection id →
            ∃ c, (s.move (.command command)).connection? name = some c ∧ c.id = id ∧
              Renewed (s.move (.command command)) c.handle) := by
  intro began s
  have start : Orderly began := orderly_start backend capacity provider
  have orderly : Orderly s := orderly_after start moves
  have sound : Sound (rest s) := (sound_start fresh capacity provider).after start moves
  have places := sound.transactions_perm
  refine ⟨?_, places, ?_, ?_, ?_⟩
  · have length := places.length_eq
    simp only [List.length_append, List.length_range', Backend.length_finished,
      length_filterMap_transaction] at length
    omega
  · have distinct := places.nodup_iff.mpr List.nodup_range'
    exact (distinct.of_append_left).of_append_left
  · intro c number departed active more ended
    obtain ⟨call, here, ends⟩ := List.mem_filterMap.mp ended
    exact (sound.after orderly more).not_ended (departed.after orderly more) active here ends
  · intro admitted name command asks id told
    have calm : unrest (rest s) = 0 := admitted.sustains
      (fun _ _ allowed _ _ effect there now => effect.calm allowed there now) start
      (calm_start backend capacity provider)
    obtain ⟨c, known, same, free⟩ := free_handout calm asks told
    have sound' : Sound (rest (s.move (.command command))) :=
      sound.after orderly [.command command]
    exact ⟨c, known, same, renewed_of_free (orderly_move orderly _) sound'
      (mem_live_of_connection? known) free⟩

theorem transactions_accounted_closed :
    let s := (start .fresh (.ofCapacity 1) none).after [.command (.openDirect "a" "mock" "db"),
      .command (.beginTransaction "a"), .command (.closeNow "a"),
      .command (.openDirect "b" "mock" "db"), .command (.beginTransaction "b"),
      .command (.commit "b")]
    Backend.fresh.log = [] ∧ s.backend.begins = 2 ∧ s.backend.finished = [2] ∧
      (s.backend.finished ++ s.live.filterMap Connection.transaction ++
        (s.history Movement.gone?).filterMap Connection.transaction).Perm [1, 2] ∧
      ∀ more, 1 ∉ (s.after more).backend.finished := by
  have fresh : Backend.fresh.log = [] := rfl
  obtain ⟨-, places, -, never, -⟩ := transactions_accounted fresh 1 none
    [.command (.openDirect "a" "mock" "db"), .command (.beginTransaction "a"),
      .command (.closeNow "a"), .command (.openDirect "b" "mock" "db"),
      .command (.beginTransaction "b"), .command (.commit "b")]
  exact ⟨rfl, rfl, rfl, places, never ⟨1, 1, .generic "mock", some 1, .zero, none⟩ 1
    (Or.inr (List.mem_singleton_self _)) rfl⟩

end Session
end Datastore
