import Datastore.Proofs.Checkouts
import Datastore.Proofs.Session.Strays
import Datastore.Proofs.Staleness

/-!
# Failed requests

What a request for a connection leaves behind if it fails. It closes the connection that it took
from the queue, if it took one, and leaves no handle astray, with one exception: the handle whose
initial statement fails is astray for good. Since the pool is as before, this can happen any number
of times. Main statement: `failures_stray`.
-/

namespace Datastore

def PoolError.isAbort : PoolError → Bool
  | .connection error => error.isAbort
  | _ => false

theorem Backend.closes_le_told (b : Backend) (calls : List Call) :
    b.closes ≤ (b.told calls).closes := by
  rw [closes, closes, closedHandles_told, List.length_append]
  exact Nat.le_add_right _ _

/-! ### What a failure leaves -/

namespace System

variable {s t u : System} {error : PoolError}

/-- Between these states a request for a connection failed: a handle was opened for it only if an
initial statement failed, and whoever it took from the queue was retired. -/
structure Fails (s t : System) (error : PoolError) : Prop where
  opens : t.backend.opens = s.backend.opens + error.isAbort.toNat
  closes : s.backend.closes ≤ t.backend.closes
  orphaned : t.history Movement.orphaned? =
    s.history Movement.orphaned? ++ if error.isAbort then [s.backend.opens + 1] else []
  forsaken : t.history Movement.forsaken? = s.history Movement.forsaken?
  front : t.pool.idle = s.pool.idle ∨
    ∃ c, s.pool.idle = c :: t.pool.idle ∧ c ∈ t.history Movement.retired?

theorem Fails.nothing (s : System) : Fails s s .closed :=
  ⟨rfl, Nat.le_refl _, (List.append_nil _).symm, rfl, Or.inl rfl⟩

/-- Slots and the line do not matter. -/
theorem Fails.of_core (fails : Fails s t error) (same : u.core = t.core) : Fails s u error := by
  have backend := congrArg System.backend same
  have idle := congrArg (fun x : System => x.pool.idle) same
  have journal := congrArg System.journal same
  simp only [core] at backend idle journal
  constructor
  · rw [backend]
    exact fails.opens
  · rw [backend]
    exact fails.closes
  · rw [history, journal]
    exact fails.orphaned
  · rw [history, journal]
    exact fails.forsaken
  · rw [idle, history, journal]
    exact fails.front

/-- The front was retired before the request failed. -/
theorem Fails.of_replaced {c : Connection} (fails : Fails u t error)
    (opens : u.backend.opens = s.backend.opens) (closes : s.backend.closes ≤ u.backend.closes)
    (orphaned : u.history Movement.orphaned? = s.history Movement.orphaned?)
    (forsaken : u.history Movement.forsaken? = s.history Movement.forsaken?)
    (line : s.pool.idle = c :: t.pool.idle) (retired : c ∈ t.history Movement.retired?) :
    Fails s t error where
  opens := by rw [fails.opens, opens]
  closes := Nat.le_trans closes fails.closes
  orphaned := by rw [fails.orphaned, orphaned, opens]
  forsaken := fails.forsaken.trans forsaken
  front := Or.inr ⟨c, line, retired⟩

end System

namespace Provider

variable {p : Provider} {s : System} {error : Error} {c : Connection}

/-- A failure opened a handle only if an initial statement failed. -/
theorem Produces.opened {calls : List Call} (produces : p.Produces s (.error error) calls) :
    calls.countP Call.isOpened = error.isAbort.toNat := by
  cases produces with
  | misnamed | unknown | refused => rfl
  | aborted =>
    refine (List.countP_cons_of_pos rfl).trans ?_
    exact congrArg (· + 1) (countP_executed fun _ => rfl)

theorem manufacture_fails (next : s.backend.isClosed (s.backend.opens + 1) = false)
    (failed : (p.manufacture s).1 = .error error) :
    System.Fails s (p.manufacture s).2 (.connection error) := by
  obtain ⟨outcome, calls, produces⟩ := p.exists_produces s
  have ended := produces.manufacture next
  obtain rfl : outcome = .error error := (congrArg Prod.fst ended).symm.trans failed
  have backend : (p.manufacture s).2.backend = s.backend.told calls := by
    rw [ended, System.afterMaking_backend]
  refine ⟨?_, ?_, ?_, ?_, Or.inl (congrArg Pool.idle (p.manufacture_pool s))⟩
  · rw [backend, Backend.opens_told, produces.opened]
    rfl
  · rw [backend]
    exact s.backend.closes_le_told calls
  · have written : (p.manufacture s).2.history Movement.orphaned? =
        (s.afterMaking calls (.error error)).history Movement.orphaned? := by rw [ended]
    rw [written, System.afterMaking, PoolError.isAbort]
    cases error.isAbort with
    | true => exact System.history_note _ _ _
    | false => exact (List.append_nil _).symm
  · rw [ended, System.afterMaking]
    cases error.isAbort with
    | true => exact (System.history_note _ _ _).trans (List.append_nil _)
    | false => rfl

/-- What fails once fails again. -/
theorem Produces.again {t : System} {calls : List Call}
    (produces : p.Produces s (.error error) calls) (faults : t.backend.faults = s.backend.faults)
    (failing : t.backend.failing = s.backend.failing) :
    ∃ calls', p.Produces t (.error error) calls' := by
  have has (fault : Fault) : t.backend.has fault = s.backend.has fault := by
    rw [Backend.has, faults, ← Backend.has]
  cases produces with
  | misnamed fault unnamed => exact ⟨_, .misnamed fault unnamed⟩
  | unknown dsn named absent => exact ⟨_, .unknown dsn named absent⟩
  | refused dsn named known faulty =>
    exact ⟨_, .refused dsn named known ((has _).trans faulty)⟩
  | aborted dsn done statement rest named known sane listed passed failed =>
    rw [← failing] at passed failed
    exact ⟨_, .aborted dsn done statement rest named known ((has _).trans sane) listed passed
      failed⟩

theorem checkoutNew_failed (failed : (p.checkoutNew s).1 = .failed error) :
    (p.manufacture s).1 = .error error ∧ (p.checkoutNew s).2 = (p.manufacture s).2 := by
  rw [checkoutNew] at failed ⊢
  split at failed
  · next made =>
    cases failed
    simp only [made, and_self]
  · cases failed

theorem stale_of_failed (ends : verdict s.backend s.clock c = .failed) : Stale s.clock c := by
  rw [verdict] at ends
  split at ends
  · next stale => exact (isStale_iff _ _).mp stale
  · cases ends

/-- Only a connection that fails its probe is given up. -/
theorem verdict_of_failed (failed : (p.recycle s c).1 = .failed error) :
    verdict s.backend s.clock c = .failed := by
  cases ends : verdict s.backend s.clock c with
  | failed => rfl
  | recent =>
    rw [recycle_of_passes (Or.inl ends)] at failed
    cases failed
  | alive =>
    rw [recycle_of_passes (Or.inr ends)] at failed
    cases failed
  | stalled =>
    rw [recycle_of_stalled ends] at failed
    cases failed

theorem history_examine {α : Type} (s : System) (c : Connection) (matter : Movement → Option α) :
    (examine s c).2.history matter =
      s.history matter ++ (matter (.examined c (examine s c).1)).toList := by
  rw [examine]
  split <;> exact System.history_note _ _ _

/-- A checkout that fails makes no connection. -/
theorem checkout_fails (sane : Sane s) (failed : (p.checkout s).1 = .failed error) :
    System.Fails s (p.checkout s).2 (.connection error) := by
  cases line : s.pool.idle with
  | nil =>
    rw [checkout_nil line] at failed ⊢
    obtain ⟨unmade, same⟩ := checkoutNew_failed failed
    rw [same]
    exact manufacture_fails sane.next unmade
  | cons c rest =>
    let taken := { s with pool := { s.pool with idle := rest } }.note (.taken c)
    rw [checkout_cons line] at failed
    have ends : verdict s.backend s.clock c = .failed := verdict_of_failed (s := taken) failed
    have retired := Session.retired_checkout (p := p) line ends
    have replaced := recycle_of_failed (p := p) (s := taken) ends
    rw [checkout_cons line, replaced] at retired ⊢
    rw [replaced] at failed
    -- The front is tuned and retired, and then making a connection fails.
    let parted := ({ (examine taken c).2 with
      backend := c.tune p.tuning (examine taken c).2.backend }.retire c).2
    have backend : parted.backend = s.backend.told (p.parting s.backend c) :=
      retire_examined (s := taken) (stale_of_failed ends)
    have written {α : Type} (matter : Movement → Option α) : parted.history matter =
        s.history matter ++ (matter (.taken c)).toList ++
          (matter (.examined c (examine taken c).1)).toList ++
            (matter (.retired c)).toList := by
      refine (System.history_retire _ _ c).trans (congrArg (· ++ _) ?_)
      refine (history_examine taken c matter).trans (congrArg (· ++ _) ?_)
      exact System.history_note _ _ _
    have opens : parted.backend.opens = s.backend.opens := by rw [backend, opens_parting]
    have next : parted.backend.isClosed (parted.backend.opens + 1) = false := by
      rw [backend]
      exact next_parting (sane.opened c (by simp [line])) sane.next
    obtain ⟨unmade, same⟩ := checkoutNew_failed failed
    have idle : (p.manufacture parted).2.pool.idle = rest :=
      (congrArg Pool.idle (p.manufacture_pool parted)).trans
        (congrArg Pool.idle (examine_pool taken c))
    rw [same] at retired ⊢
    refine (manufacture_fails next unmade).of_replaced opens ?_ ?_ ?_ (line.trans ?_) retired
    · rw [backend]
      exact s.backend.closes_le_told _
    · simp [written, Movement.orphaned?]
    · simp [written, Movement.forsaken?]
    · rw [idle]

end Provider

namespace Session

open Provider (Sane)

variable {s : Session} {m : Move} {error : PoolError} {name : String}

/-- The failure that a caller is told. -/
def Answer.failure? : Answer → Option PoolError
  | .poolError error => some error
  | _ => none

theorem Answer.eq_of_failure? {answer : Answer} (told : answer.failure? = some error) :
    answer = .poolError error := by
  cases answer <;> cases told
  rfl

/-- A caller who asks for a connection is told that there is none: at once, as soon as it begins to
wait, or in its turn. Who is in line when the pool is closed has not come that far. -/
inductive Fails (s : Session) : Move → PoolError → Prop
  | atOnce {name : String} {error : PoolError} {command : Command}
      (asks : command = .get name ∨ command = .tryGet name ∨ command = .newConnection name)
      (told : (s.obey command).1 = .poolError error) : Fails s (.command command) error
  | refused {name : String} {error : PoolError} (free : s.holdings.find? name = none)
      (told : (s.move (.command (.waitGet name))).holdings.find? name =
        some (.waiter .connection (.finished (.error error)))) :
    Fails s (.command (.waitGet name)) error
  | later {name : String} {place : Nat} {error : PoolError}
      (granted : s.holdings.find? name = some (.waiter .connection .granted))
      (told : (s.move (.work place)).holdings.find? name =
        some (.waiter .connection (.finished (.error error)))) : Fails s (.work place) error

/-- The pool is closed, or a checkout or making a connection fails. -/
def FailsBy (s : Session) (error : PoolError) (a : Act) : Prop :=
  a = .nothing ∧ error = .closed ∨ ∃ p cause, error = .connection cause ∧
    (a = .checkout p ∧ (p.checkout s.toSystem).1 = .failed cause ∨
      a = .manufacture p ∧ (p.manufacture s.toSystem).1 = .error cause)

theorem checkOut_failed {p : Provider} {noSlot : Answer} (served : s.provider = some p)
    (kind : noSlot = .blocked ∨ noSlot = .nothing)
    (told : (s.checkOut p name noSlot).1 = .poolError error) : FailsBy s error s.checkingOut := by
  by_cases shut : s.pool.barred = true
  · left
    rw [checkOut, if_pos shut] at told
    cases told
    exact ⟨by simp [checkingOut, served, shut], rfl⟩
  by_cases busy : s.pool.free = 0
  · rw [checkOut, if_neg shut, if_pos busy] at told
    rcases kind with rfl | rfl <;> cases told
  right
  rw [checkOut_eq (Bool.eq_false_iff.mpr shut) busy, checkout_takeSlot] at told
  dsimp only at told
  split at told
  · cases told
  · next cause failed =>
    cases told
    exact ⟨p, cause, rfl, Or.inl ⟨by simp [checkingOut, served, shut, busy], failed⟩⟩
  · cases told

theorem resume_failed (orderly : Orderly s)
    (granted : s.holdings.find? name = some (.waiter .connection .granted))
    (told : (s.resume name).holdings.find? name =
      some (.waiter .connection (.finished (.error error)))) :
    FailsBy s error (s.goingOn name) := by
  rcases resume_connection orderly granted with ⟨p, goes, ended⟩ | ⟨stays, closed⟩
  · right
    rw [ended] at told
    cases ends : (p.checkout s.toSystem).1 with
    | failed cause =>
      rw [ends] at told
      cases told
      exact ⟨p, cause, rfl, Or.inl ⟨goes, ends⟩⟩
    | ready c =>
      rw [ends] at told
      cases told
    | stalled c =>
      rw [ends] at told
      cases told
  · left
    cases closed _ told
    exact ⟨stays, rfl⟩

/-- Whoever is told that there is no connection is told what became of its request. -/
theorem Fails.act (fails : Fails s m error) (orderly : Orderly s) : FailsBy s error (s.act m) := by
  cases fails with
  | @atOnce name _ command asks told =>
    have new : command.newName? = some name := by rcases asks with rfl | rfl | rfl <;> rfl
    by_cases taken : s.holdings.find? name = none
    · have free : command.newName?.any s.holdings.contains = false := by
        simp [new, Table.contains, taken]
      simp only [Session.act, obey, free, Bool.false_eq_true, if_false] at told ⊢
      cases served : s.provider with
      | none =>
        rcases asks with rfl | rfl | rfl <;>
          simp [carryOut, withProvider, served, misused] at told
      | some p =>
        rcases asks with rfl | rfl | rfl <;>
          simp only [carryOut, withProvider, served, orderly.unlessClosed_checkOut] at told
        · rw [orderly.commandAct_get]
          exact checkOut_failed served (Or.inl rfl) told
        · exact checkOut_failed served (Or.inr rfl) told
        · right
          rcases ends : p.manufacture s.toSystem with ⟨cause | c, after⟩
          · rw [ends] at told
            cases told
            exact ⟨p, cause, rfl, Or.inr ⟨by simp [commandAct, served], by rw [ends]⟩⟩
          · rw [ends] at told
            cases told
    · rw [obey_nameInUse new taken] at told
      cases told
  | @refused name _ free told =>
    left
    refine ⟨by simp [Session.act, commandAct], ?_⟩
    have new : (Command.waitGet name).newName?.any s.holdings.contains = false := by
      simp [Command.newName?, Table.contains, free]
    simp only [move, obey, new, Bool.false_eq_true, if_false, carryOut, withProvider] at told
    cases served : s.provider with
    | none => simp [served, misused, free] at told
    | some p =>
      simp only [served, lineUp] at told
      split at told
      · rw [hold, Table.find?_insert_self] at told
        cases told
        rfl
      · split at told <;> simp [hold, putOff] at told
  | @later name place _ granted told =>
    obtain ⟨due, same⟩ := resumes_of_changed orderly granted place
      (by rw [told, granted]; simp)
    have orderly' : Orderly { s with agenda := s.agenda.eraseIdx place } :=
      orderly.of_holdings (Or.inl rfl) rfl rfl rfl fun _ => Iff.rfl
    rw [same] at told
    have goes := resume_failed orderly' granted told
    simp only [Session.act, due]
    exact goes

/-- What a failed request leaves. -/
theorem Fails.system (fails : Fails s m error) (orderly : Orderly s) (sane : Sane s.toSystem) :
    System.Fails s.toSystem (s.move m).toSystem error := by
  refine System.Fails.of_core ?_ (s.move_act m)
  rcases fails.act orderly with ⟨act, rfl⟩ | ⟨p, cause, rfl, ⟨act, failed⟩ | ⟨act, failed⟩⟩
  · rw [act]
    exact .nothing _
  · rw [act]
    exact Provider.checkout_fails sane failed
  · rw [act]
    exact Provider.manufacture_fails sane.next failed

/-! ### Runs of failures -/

/-- What a failed request leaves, at once, in the end and for good. -/
structure Leaves (s : Session) (m : Move) (error : PoolError) : Prop where
  opens : (s.move m).backend.opens = s.backend.opens + error.isAbort.toNat
  closed : ∀ c ∈ s.pool.idle, c ∈ (s.move m).pool.idle ∨
    ∀ more, ((s.move m).after more).backend.closedHandles.count c.handle = 1
  strays : (s.move m).strays.Perm
    (s.strays ++ if error.isAbort then [s.backend.opens + 1] else [])
  stay : ∀ handle ∈ (s.move m).strays, ∀ more, handle ∈ ((s.move m).after more).strays
  settled : ∃ others, (s.move m).settle.history Movement.orphaned? =
      (s.move m).history Movement.orphaned? ++ others ∧
    (s.move m).settle.strays.Perm ((s.move m).strays ++ others)

theorem Fails.leaves (fails : Fails s m error) (orderly : Orderly s) (sound : Sound (rest s))
    (grounded : Grounded (rest s)) : Leaves s m error := by
  have orderly' := orderly_move orderly m
  have sound' : Sound (rest (s.move m)) := sound.after orderly [m]
  have grounded' : Grounded (rest (s.move m)) := grounded.after orderly sound [m]
  have left := fails.system orderly (sound.sane grounded)
  refine ⟨left.opens, ?_, ?_,
    fun _ astray more => strays_stay orderly' sound' grounded' astray more,
    strays_settle orderly' sound' grounded'⟩
  · intro c here
    rcases left.front with same | ⟨front, line, retired⟩
    · exact Or.inl (same ▸ here)
    · rw [line, List.mem_cons] at here
      rcases here with rfl | later
      · right
        intro more
        have sound'' := sound'.after orderly' more
        have known := System.mem_history_of_prefix (journal_after orderly' more) retired
        exact List.count_eq_one_of_mem sound''.distinct (sound''.retired c known)
      · exact Or.inl later
  · exact strays_after orderly sound grounded [m] left.orphaned left.forsaken

/-- Requests that fail one after the other, and what each is told. -/
def FailsAlong : Session → List (Move × PoolError) → Prop
  | _, [] => True
  | s, (m, error) :: rest => Fails s m error ∧ FailsAlong (s.move m) rest

/-- So many handles were opened between these states, and all of them are astray. -/
structure Strands (s t : Session) (count : Nat) : Prop where
  opens : t.backend.opens = s.backend.opens + count
  closes : s.backend.closes ≤ t.backend.closes
  strays : t.strays.length = s.strays.length + count

/-- Only failed initial statements add to the handles that were opened, and each adds a stray. -/
theorem FailsAlong.strands {run : List (Move × PoolError)} (fails : FailsAlong s run)
    (orderly : Orderly s) (sound : Sound (rest s)) (grounded : Grounded (rest s)) :
    Strands s (s.after (run.map Prod.fst)) (run.countP fun attempt => attempt.2.isAbort) := by
  induction run generalizing s with
  | nil => exact ⟨rfl, Nat.le_refl _, rfl⟩
  | cons attempt rest ih =>
    obtain ⟨m, error⟩ := attempt
    obtain ⟨now, later⟩ := fails
    have leaves := now.leaves orderly sound grounded
    have closes := (now.system orderly (sound.sane grounded)).closes
    obtain ⟨opens, closes', strays⟩ := ih later (orderly_move orderly m)
      (sound.after orderly [m]) (grounded.after orderly sound [m])
    have number := leaves.strays.length_eq
    rw [List.length_append] at number
    refine ⟨?_, Nat.le_trans closes closes', ?_⟩
    · have first := leaves.opens
      cases abort : error.isAbort <;> simp [abort] at first ⊢ <;> omega
    · cases abort : error.isAbort <;> simp [abort] at number ⊢ <;> omega

/-- There is a slot, nobody is idle and no connection can be made. -/
structure Hopeless (p : Provider) (s : Session) (name : String) (cause : Error) : Prop where
  served : s.provider = some p
  isOpen : s.pool.closed = false
  vacant : s.pool.free ≠ 0
  empty : s.pool.idle = []
  free : s.holdings.find? name = none
  fails : ∃ calls, p.Produces s.toSystem (.error cause) calls

variable {p : Provider} {cause : Error}

/-- The next request fails and changes nothing for the one after it. -/
theorem Hopeless.next (hopeless : Hopeless p s name cause) (orderly : Orderly s)
    (sane : Provider.Sane s.toSystem) :
    Fails s (.command (.get name)) (.connection cause) ∧
      Hopeless p (s.move (.command (.get name))) name cause ∧
      (s.move (.command (.get name))).pool = s.pool ∧
      (s.move (.command (.get name))).backend.closes = s.backend.closes := by
  obtain ⟨calls, produces⟩ := hopeless.fails
  obtain ⟨noSlot, -, same⟩ := obey_asking orderly hopeless.served (Or.inl rfl) hopeless.free
  have serves : p.Serves s.toSystem (.failed cause) calls := .new hopeless.empty produces
  obtain ⟨backend, told, holdings, pool, -⟩ :=
    checkOut_of_serves orderly sane hopeless.isOpen hopeless.vacant name noSlot serves
  rw [← same] at backend told holdings pool
  have kept : (s.move (.command (.get name))).pool = s.pool := by
    refine pool.trans ?_
    rw [hopeless.empty, List.tail_nil, ← hopeless.empty]
  have again : ∃ calls',
      p.Produces (s.move (.command (.get name))).toSystem (.error cause) calls' := by
    have faults := congrArg Backend.faults backend
    have failing := congrArg Backend.failing backend
    exact produces.again faults failing
  refine ⟨.atOnce (Or.inl rfl) told, ⟨?_, ?_, ?_, ?_, ?_, again⟩, kept, ?_⟩
  · exact (provider_after orderly [.command (.get name)]).trans hopeless.served
  · rw [kept, hopeless.isOpen]
  · rw [kept]
    exact hopeless.vacant
  · rw [kept, hopeless.empty]
  · exact (congrArg (Table.find? · name) holdings).trans hopeless.free
  · change (s.obey (.get name)).2.backend.closes = _
    rw [backend, Backend.closes, Backend.closedHandles_told,
      closed?_of_countP produces.modest.2.1, List.append_nil]
    rfl

/-- So can all that follow, as many as there are. -/
theorem Hopeless.along (hopeless : Hopeless p s name cause) (orderly : Orderly s)
    (sound : Sound (rest s)) (grounded : Grounded (rest s)) (count : Nat) :
    let run := List.replicate count (Move.command (.get name), PoolError.connection cause)
    let t := s.after (run.map Prod.fst)
    FailsAlong s run ∧ t.pool = s.pool ∧ t.backend.closes = s.backend.closes := by
  induction count generalizing s with
  | zero => exact ⟨trivial, rfl, rfl⟩
  | succ count ih =>
    obtain ⟨fails, again, pool, closes⟩ := hopeless.next orderly (sound.sane grounded)
    obtain ⟨along, pool', closes'⟩ := ih again (orderly_move orderly _)
      (sound.after orderly [.command (.get name)])
      (grounded.after orderly sound [.command (.get name)])
    exact ⟨⟨fails, along⟩, pool'.trans pool, closes'.trans closes⟩

/-- In every state that a session can reach, a failed request leaves a handle astray if an initial
statement failed, and no handle otherwise. Where no connection can be made, requests can fail any
number of times while the pool stays as it is and nothing is closed. -/
theorem failures_stray {backend : Backend} (fresh : backend.log = []) (capacity : Nat)
    (provider : Option Provider) (moves : List Move) :
    let s := (start backend (Pool.ofCapacity capacity) provider).after moves
    (∀ m error, Fails s m error → Leaves s m error) ∧
      (∀ run, FailsAlong s run → Strands s (s.after (run.map Prod.fst))
        (run.countP fun attempt => attempt.2.isAbort)) ∧
      ∀ p name cause, Hopeless p s name cause → ∀ count,
        let run := List.replicate count (Move.command (.get name), PoolError.connection cause)
        let t := s.after (run.map Prod.fst)
        FailsAlong s run ∧ t.pool = s.pool ∧ t.backend.closes = s.backend.closes := by
  intro s
  have ordered := orderly_start backend capacity provider
  have began := sound_start fresh capacity provider
  have orderly : Orderly s := orderly_after ordered moves
  have sound : Sound (rest s) := began.after ordered moves
  have grounded : Grounded (rest s) :=
    (grounded_start fresh _ provider).after ordered began moves
  exact ⟨fun m error fails => fails.leaves orderly sound grounded,
    fun run fails => fails.strands orderly sound grounded,
    fun p name cause hopeless count => hopeless.along orderly sound grounded count⟩

theorem failures_stray_replacing :
    let p : Provider :=
      ⟨(Config.ofEndpoint "mock" "db").addInitSql "BAD", .single "mock" (), .empty, .none⟩
    let moves : List Move := [.command (.get "a"), .command (.release "a"),
      .command (.advance (Duration.ofParts 61 0)), .command (.setFault .pings true),
      .command (.failStatement "BAD")]
    let s := (start .fresh (.ofCapacity 1) (some p)).after moves
    let m := Move.command (.get "b")
    let cause := Error.initSqlFailed "BAD" "db" (Backend.rejection "BAD")
    Backend.fresh.log = [] ∧ Fails s m (.connection cause) ∧
      (s.move m).strays.Perm [2] ∧
      (∀ more, ((s.move m).after more).backend.closedHandles.count 1 = 1) ∧
      Hopeless p (s.move m) "b" cause ∧
      ∀ count, let run := List.replicate count (m, PoolError.connection cause)
        FailsAlong (s.move m) run ∧
          ((s.move m).after (run.map Prod.fst)).strays.length = 1 + count := by
  intro p moves s m cause
  have fails : Fails s m (.connection cause) :=
    .atOnce (Or.inl rfl) (Answer.eq_of_failure? (by decide +kernel))
  obtain ⟨leaves, -⟩ := failures_stray (rfl : Backend.fresh.log = []) 1 (some p) moves
  obtain ⟨-, strands, along⟩ :=
    failures_stray (rfl : Backend.fresh.log = []) 1 (some p) (moves ++ [m])
  rw [after_append] at strands along
  have left : Leaves s m (.connection cause) := leaves m _ fails
  have calm : s.strays = [] := by decide +kernel
  have number : s.backend.opens = 1 := by decide +kernel
  have front : s.pool.idle = [⟨1, 1, p.dialect, none, .zero, some .zero⟩] := by decide +kernel
  have empty : (s.move m).pool.idle = [] := by decide +kernel
  have alone : (s.move m).strays.Perm [2] := by
    have strays := left.strays
    rwa [calm, number] at strays
  have closed : ∀ more, ((s.move m).after more).backend.closedHandles.count 1 = 1 := by
    have first := left.closed ⟨1, 1, p.dialect, none, .zero, some .zero⟩ (by rw [front]; simp)
    rw [empty] at first
    exact first.resolve_left List.not_mem_nil
  have hopeless : Hopeless p (s.move m) "b" cause := by
    refine ⟨provider_after (orderly_start _ _ _) (moves ++ [m]), by decide +kernel,
      by decide +kernel, empty, ?_, _, .aborted "db" [] "BAD" [] (by decide +kernel)
        (by decide +kernel) (by decide +kernel) rfl (by decide +kernel) (by decide +kernel)⟩
    have absent : (s.move m).holdings.contains "b" = false := by decide +kernel
    simpa [Table.contains] using absent
  refine ⟨rfl, fails, alone, closed, hopeless, ?_⟩
  intro count run
  have failing := (along p "b" cause hopeless count).1
  refine ⟨failing, ?_⟩
  have grown := (strands run failing).strays
  have aborts : run.countP (fun attempt => attempt.2.isAbort) = count := by
    rw [List.countP_replicate]
    rfl
  rwa [aborts, show ((start .fresh (.ofCapacity 1) (some p)).after moves).after [m] = s.move m
    from rfl, alone.length_eq] at grown

/-- A handle that was opened for a request that failed is still open when all work is done. -/
theorem unclosed_after_abort :
    let p : Provider :=
      ⟨(Config.ofEndpoint "pg" "db").addInitSql "BAD", .single "pg" (), .empty, .none⟩
    let s := start { Backend.fresh with failing := ["BAD"] } (.ofCapacity 1) (some p)
    let m := Move.command (.get "a")
    Fails s m (.connection (.initSqlFailed "BAD" "db" (Backend.rejection "BAD"))) ∧
      s.backend.opens = 0 ∧ (s.move m).settle.backend.opens = 1 ∧
      (s.move m).settle.backend.isClosed 1 = false ∧ (s.move m).settle.live = [] ∧
      (s.move m).settle.pool.status.inUse = 0 := by
  intro p s m
  exact ⟨.atOnce (Or.inl rfl) (Answer.eq_of_failure? (by decide +kernel)), by decide +kernel,
    by decide +kernel, by decide +kernel, by decide +kernel, by decide +kernel⟩

end Session
end Datastore
