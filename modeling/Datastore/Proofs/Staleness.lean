import Datastore.Proofs.Queue
import Datastore.Proofs.Session.Journal
import Datastore.Proofs.Session.Upkeep

/-!
# Staleness

A connection that was at rest for more than a minute is probed before it is handed out, once, and
no other connection is probed by a checkout. One that fails its probe, or whose probe is given up,
is never seen again, and is closed if later work is attended to. Main statement: `staleness_safe`.
-/

namespace Datastore

/-- The handle that is probed. -/
def Call.pinged? : Call → Option Nat
  | .pinged handle => some handle
  | _ => none

theorem Call.isPinged_eq (call : Call) : call.isPinged = call.pinged?.isSome := by
  cases call <;> rfl

namespace Backend

/-- The handles that were probed, in order. -/
def pingedHandles (b : Backend) : List Nat := b.log.filterMap Call.pinged?

theorem pings_eq (b : Backend) : b.pings = b.pingedHandles.length := by
  rw [pings, pingedHandles, List.length_filterMap_eq_countP]
  exact congrArg (b.log.countP ·) (funext Call.isPinged_eq)

theorem pingedHandles_eq (b : Backend) :
    b.pingedHandles = (b.calls Call.isUpkeep).filterMap Call.pinged? := by
  rw [pingedHandles, calls, List.filterMap_filter]
  congr 1
  funext call
  cases call <;> rfl

end Backend

namespace Provider

theorem pinged_handling (p : Provider) (b : Backend) (now : Duration) (c : Connection) :
    (p.handling b now c).filterMap Call.pinged? = if isStale now c then [c.handle] else [] := by
  have settings : (p.tuning.calls c.handle).filterMap Call.pinged? = [] := by
    obtain ⟨lifetime, maxIdle⟩ := p.tuning
    cases lifetime <;> cases maxIdle <;> rfl
  have last : (c.farewell b).filterMap Call.pinged? = [] := by
    rw [Connection.farewell]
    split <;> rfl
  have treated : (p.treatment b now c).filterMap Call.pinged? = [] := by
    rw [treatment]
    split <;> simp [settings, last]
  rw [handling, List.filterMap_append, treated, probing]
  split <;> rfl

end Provider

namespace Session

variable {s : Session} {m : Move} {c : Connection}

/-! ### Probes -/

/-- Probes that the caller asks for. -/
def probesAsked (s : Session) : Move → List Nat
  | .command (.ping name) => (s.connection? name).toList.map Connection.handle
  | _ => []

/-- Probes of a checkout: of the connection that it takes, if that is stale. -/
def probesDue (s : Session) (m : Move) : List Nat :=
  match s.act m with
  | .checkout _ =>
    ((s.pool.idle.take 1).filter (Provider.isStale s.clock)).map Connection.handle
  | _ => []

theorem probesAsked_eq (s : Session) (m : Move) :
    s.probesAsked m = match s.act m with
      | .probe c => [c.handle]
      | _ => [] := by
  unfold probesAsked
  split
  · next name =>
    have act : s.act (.command (.ping name)) = s.commandAct (.ping name) := rfl
    rw [act, commandAct]
    cases s.connection? name <;> rfl
  · next other =>
    have known := s.acts m
    generalize s.act m = a at known
    cases known with
    | @probe name c asked => exact absurd rfl (other name)
    | _ => rfl

/-- In one move. -/
theorem pinged_upkeep (s : Session) (m : Move) :
    (s.upkeep m).filterMap Call.pinged? = s.probesAsked m ++ s.probesDue m := by
  rw [probesAsked_eq, probesDue, upkeep]
  cases s.act m with
  | checkout p =>
    simp only [System.upkeepOf, List.nil_append]
    cases s.pool.idle with
    | nil => rfl
    | cons c rest =>
      have one : (c :: rest).take 1 = [c] := rfl
      rw [one, List.flatMap_singleton, Provider.pinged_handling, List.filter_singleton]
      cases Provider.isStale s.clock c <;> rfl
  | close retire =>
    cases retire with
    | true =>
      simp only [System.upkeepOf, List.append_nil]
      induction s.pool.idle with
      | nil => rfl
      | cons c rest ih => exact ih
    | false => rfl
  | retire c =>
    simp only [System.upkeepOf, Connection.farewell]
    split <;> rfl
  | ask c request =>
    cases request with
    | tune tuning =>
      obtain ⟨lifetime, maxIdle⟩ := tuning
      cases lifetime <;> cases maxIdle <;> rfl
    | _ => rfl
  | _ => rfl

theorem pinged_move (kept : Kept (rest s)) (spares : sparesHandles s m = true) :
    (s.move m).backend.pingedHandles =
      s.backend.pingedHandles ++ (s.probesAsked m ++ s.probesDue m) := by
  rw [Backend.pingedHandles_eq, Backend.pingedHandles_eq, kept.upkeep_move spares,
    List.filterMap_append, pinged_upkeep]

theorem pinged_after (orderly : Orderly s) (kept : Kept (rest s)) {moves : List Move}
    (admitted : Admitted sparesHandles s moves) :
    (s.after moves).backend.pingedHandles = s.backend.pingedHandles ++
      along (fun s m => s.probesAsked m ++ s.probesDue m) s moves := by
  rw [Backend.pingedHandles_eq, Backend.pingedHandles_eq, upkeep_after orderly kept admitted,
    List.filterMap_append, filterMap_along]
  simp only [pinged_upkeep]

/-- Whatever is probed was there. -/
theorem mem_probes {handle : Nat} (here : handle ∈ s.probesAsked m ++ s.probesDue m) :
    ∃ c ∈ s.live, c.handle = handle := by
  rcases List.mem_append.mp here with asked | due
  · unfold probesAsked at asked
    split at asked
    · next name =>
      obtain ⟨c, known, same⟩ := List.mem_map.mp asked
      exact ⟨c, mem_live_of_connection? (Option.mem_toList.mp known), same⟩
    · cases asked
  · unfold probesDue at due
    split at due
    · obtain ⟨c, stale, same⟩ := List.mem_map.mp due
      have idle := List.mem_of_mem_take (List.mem_filter.mp stale).1
      exact ⟨c, mem_live_of_idle idle, same⟩
    · cases due

/-- Only handles that were opened are probed. -/
def ProbesKnown (s : Session) : Prop := ∀ handle ∈ s.backend.pingedHandles, handle ≤ s.backend.opens

theorem ProbesKnown.move (probed : ProbesKnown s) (kept : Kept (rest s))
    (spares : sparesHandles s m = true) :
    ∀ handle ∈ (s.move m).backend.pingedHandles, handle ≤ s.backend.opens := by
  intro handle here
  rw [pinged_move kept spares, List.mem_append] at here
  rcases here with before | now
  · exact probed handle before
  · obtain ⟨c, there, rfl⟩ := mem_probes now
    exact kept.sound.handle_le there

/-! ### Hand-outs -/

/-- Given back at most a minute ago, or probed in this move and found alive. -/
def Vouched (past : List (Nat × Duration)) (s : Session) (m : Move) (c : Connection) : Prop :=
  (∃ time, lastReturn past c.id = some time ∧
      s.clock.nanos ≤ time.nanos + 60 * Duration.perSecond) ∨
    (s.backend.ping c.handle).1 = .alive ∧
      (s.move m).backend.pingedHandles = s.backend.pingedHandles ++ [c.handle]

/-- Stale is who was given back more than a minute ago. -/
theorem Ranked.isStale_iff {past : List (Nat × Duration)} (ranked : Ranked past s)
    (here : c ∈ s.pool.idle) : Provider.isStale s.clock c = true ↔
      ∃ time, lastReturn past c.id = some time ∧
        time.nanos + 60 * Duration.perSecond < s.clock.nanos := by
  obtain ⟨time, stamp, last, -⟩ := ranked.stamped c here
  have minute : Provider.staleAfter.nanos = 60 * Duration.perSecond := rfl
  simp only [Provider.isStale, Connection.idleFor, stamp, Option.map_some, Duration.since, minute,
    decide_eq_true_eq, last, Option.some.injEq, exists_eq_left']
  omega

theorem HandsOut.vouched {past : List (Nat × Duration)} (out : HandsOut s m c)
    (ranked : Ranked past s) (orderly : Orderly s) (kept : Kept (rest s))
    (spares : sparesHandles s m = true) :
    c ∈ s.pool.idle ∧ Vouched past s m c ∨ c.id = s.made + 1 := by
  obtain ⟨p, checks, ready⟩ := out.checkout orderly
  rcases Provider.checkout_ready ready with ⟨others, front, passes⟩ | new
  · left
    have here : c ∈ s.pool.idle := by simp [front]
    refine ⟨here, ?_⟩
    cases stale : Provider.isStale s.clock c with
    | false =>
      left
      obtain ⟨time, -, last, -⟩ := ranked.stamped c here
      refine ⟨time, last, ?_⟩
      by_contra late
      have old := (ranked.isStale_iff here).mpr ⟨time, last, by omega⟩
      rw [stale] at old
      cases old
    | true =>
      right
      have due : s.probesDue m = [c.handle] := by simp [probesDue, checks, front, stale]
      have asked : s.probesAsked m = [] := by rw [probesAsked_eq, checks]
      have probed := pinged_move kept spares
      rw [due, asked] at probed
      refine ⟨?_, probed⟩
      rw [Provider.Passes, Provider.verdict, if_pos stale] at passes
      cases outcome : (s.backend.ping c.handle).1 with
      | alive => rfl
      | failed error => simp [outcome, Provider.findingOf] at passes
      | stalled => simp [outcome, Provider.findingOf] at passes
  · exact Or.inr new

theorem HandsOut.spares (out : HandsOut s m c) : sparesHandles s m = true := by
  cases out with
  | atOnce asks => rcases asks with rfl | rfl <;> rfl
  | later => rfl

theorem HandsOut.circulates (out : HandsOut s m c) : c ∈ (s.move m).circulating := by
  have here : c ∈ (s.move m).held Holding.guarded := by
    cases out with
    | atOnce asks free got => exact mem_held got (List.mem_singleton_self c)
    | later granted got => exact mem_held got (List.mem_singleton_self c)
  simp [circulating, here]

/-! ### Probes that are lost -/

/-- A connection fails its probe, or the probe is given up: at once by a caller that does not wait,
or later with the waiter behind it, by whether later work is attended to there. -/
inductive LosesProbe (s : Session) : Bool → Move → Connection → Prop
  | failed {m p c others} (checks : s.act m = .checkout p) (front : s.pool.idle = c :: others)
      (ends : Provider.verdict s.backend s.clock c = .failed) : LosesProbe s true m c
  | blocked {name p c others} {command : Command}
      (asks : command = .get name ∨ command = .tryGet name)
      (checks : s.act (.command command) = .checkout p) (front : s.pool.idle = c :: others)
      (ends : Provider.verdict s.backend s.clock c = .stalled) :
    LosesProbe s true (.command command) c
  | givenUp {name wish c} (attended : Bool)
      (known : s.holdings.find? name = some (.waiter wish (.probing c))) :
    LosesProbe s attended (.command (givingUp name attended)) c

/-- A checkout that finds the front failing retires it. -/
theorem retired_checkout {p : Provider} {y : System} {others : List Connection}
    (front : y.pool.idle = c :: others) (ends : Provider.verdict y.backend y.clock c = .failed) :
    c ∈ (p.checkout y).2.history Movement.retired? := by
  let taken := { y with pool := { y.pool with idle := others } }.note (.taken c)
  have replaced := Provider.recycle_of_failed (p := p) (s := taken) ends
  rw [Provider.checkout_cons front, replaced]
  apply System.mem_history_of_prefix (p.writes_checkoutNew _).grows
  simp [System.history_retire, Movement.retired?]

theorem condemned_checkOut {p : Provider} {name : String} {noSlot : Answer}
    (served : s.provider = some p) (checks : s.checkingOut = .checkout p)
    (stalls : (p.checkout s.toSystem).1 = .stalled c) :
    Condemned c (rest (s.checkOut p name noSlot).2) := by
  have vacant : ¬ (s.pool.barred || decide (s.pool.free = 0)) = true := by
    intro refused
    simp [checkingOut, served, refused] at checks
  simp only [Bool.or_eq_true, decide_eq_true_eq, not_or] at vacant
  rw [checkOut, if_neg vacant.1, if_neg vacant.2]
  simp only [checkout_takeSlot, stalls]
  exact condemned_discard _ c

theorem LosesProbe.condemned (loses : LosesProbe s true m c) (orderly : Orderly s) :
    Condemned c (rest (s.move m)) := by
  cases loses with
  | @failed _ p c others checks front ends =>
    right
    change c ∈ (s.move m).history Movement.retired?
    rw [history_move, checks]
    exact retired_checkout front ends
  | @blocked name p c others command asks checks front ends =>
    have stalls : (p.checkout s.toSystem).1 = .stalled c := by
      let taken := { s.toSystem with pool := { s.pool with idle := others } }.note (.taken c)
      have left := Provider.recycle_of_stalled (p := p) (s := taken) ends
      rw [Provider.checkout_cons front, left]
    have new : command.newName?.any s.holdings.contains = false := by
      cases taken : command.newName?.any s.holdings.contains with
      | false => rfl
      | true => simp [act, taken] at checks
    have served : s.provider = some p := by
      have known := s.acts (.command command)
      rw [checks] at known
      cases known with
      | checkout served unbarred => exact served
    simp only [act, new, Bool.false_eq_true, if_false] at checks
    simp only [move, obey, new, Bool.false_eq_true, if_false]
    rcases asks with rfl | rfl
    · rw [orderly.commandAct_get] at checks
      simp only [carryOut, withProvider, served, orderly.unlessClosed_checkOut]
      exact condemned_checkOut served checks stalls
    · simp only [carryOut, withProvider, served]
      exact condemned_checkOut served checks stalls
  | @givenUp name wish c _ known =>
    rw [move_givingUp_probing true known]
    exact condemned_discard (s.letGo name) c

/-- Where no later work is attended to, a probe is only given up with its waiter. -/
theorem LosesProbe.gone (loses : LosesProbe s false m c) : c ∈ s.live ∧
    c ∈ (s.move m).history Movement.gone? ∧ (s.move m).backend = s.backend := by
  cases loses with
  | @givenUp name wish c _ known =>
    have here : c ∈ s.held Holding.probed := mem_held known (List.mem_singleton_self c)
    rw [move_givingUp_probing false known]
    exact ⟨by simp [Session.live, circulating, here], mem_gone_discard (s.letGo name) c,
      backend_discard (s.letGo name) false c⟩

theorem LosesProbe.departed {attended : Bool} (loses : LosesProbe s attended m c)
    (orderly : Orderly s) : Departed c (rest (s.move m)) := by
  cases attended with
  | true => exact (loses.condemned orderly).departed
  | false => exact Or.inr loses.gone.2.1

/-- Nobody has the connection again. Its handle is closed once where later work is attended to, and
left open otherwise. -/
structure Banned (attended : Bool) (c : Connection) (u : Session) : Prop where
  absent : c.id ∉ u.circulating.map Connection.id
  handed : ∀ m c', HandsOut u m c' → c'.id ≠ c.id
  closed : attended = true → u.settle.backend.closedHandles.count c.handle = 1
  unclosed : attended = false → u.backend.closedHandles.count c.handle = 0

theorem LosesProbe.banned {attended : Bool} (loses : LosesProbe s attended m c)
    (orderly : Orderly s) (kept : Kept (rest s)) (more : List Move) :
    Banned attended c ((s.move m).after more) := by
  have orderly' := orderly_move orderly m
  have sound' := kept.sound.move orderly m
  have gone (more : List Move) :
      c.id ∉ ((s.move m).after more).circulating.map Connection.id :=
    (sound'.after orderly' more).departed ((loses.departed orderly).after orderly' more)
  refine ⟨gone more, ?_, ?_, ?_⟩
  · -- A hand-out would put it into circulation one move later.
    intro m' c' out same
    have absent := gone (more ++ [m'])
    rw [after_append] at absent
    exact absent (same ▸ List.mem_map_of_mem out.circulates)
  · rintro rfl
    exact (loses.condemned orderly).closed_once orderly' sound' more
  · rintro rfl
    obtain ⟨here, left, told⟩ := loses.gone
    rw [List.count_eq_zero]
    have unclosed := told ▸ kept.isOpen_handle here
    exact gone_after orderly' sound' (List.mem_map_of_mem left) unclosed more

/-! ### Runs -/

/-- Callers put nothing into the queue and close no native handle. -/
def sparesPool (s : Session) (m : Move) : Bool := sparesQueue s m && sparesHandles s m

/-- What is handed out was given back at most a minute ago, was found alive, or is new. Who fails a
probe or is left behind one is never handed out again, and closed wherever later work is attended
to. Probes are those that callers ask for, and one for each checkout that takes a connection given
back more than a minute ago; so nobody new is probed. -/
theorem staleness_safe {backend : Backend} (fresh : backend.log = []) (capacity : Nat)
    (provider : Option Provider) {moves : List Move}
    (admitted : Admitted sparesPool (start backend (Pool.ofCapacity capacity) provider) moves) :
    let began := start backend (Pool.ofCapacity capacity) provider
    let past := along returns began moves
    let s := began.after moves
    (∀ m c, HandsOut s m c → c ∈ s.pool.idle ∧ Vouched past s m c ∨ s.made < c.id) ∧
      (∀ attended m c, LosesProbe s attended m c →
        ∀ more, Banned attended c ((s.move m).after more)) ∧
      s.backend.pingedHandles =
        along (fun s m => s.probesAsked m ++ s.probesDue m) began moves ∧
      s.backend.pings = (along probesAsked began moves).length +
        (along probesDue began moves).length ∧
      (∀ c ∈ s.pool.idle, Provider.isStale s.clock c = true ↔
        ∃ time, lastReturn past c.id = some time ∧
          time.nanos + 60 * Duration.perSecond < s.clock.nanos) ∧
      ∀ m, sparesPool s m = true → ∀ c ∈ (s.move m).live, s.made < c.id →
        c.handle ∉ (s.move m).backend.pingedHandles := by
  intro began past s
  have orderly : Orderly began := orderly_start backend capacity provider
  have kept : Kept (rest began) := kept_start fresh capacity provider
  have spares (s : Session) (m : Move) (both : sparesPool s m = true) :
      sparesQueue s m = true ∧ sparesHandles s m = true := by simpa [sparesPool] using both
  have empty : Ranked [] began := ⟨fun c here => absurd here List.not_mem_nil, List.Pairwise.nil⟩
  have none : began.backend.pingedHandles = [] := by
    change backend.log.filterMap Call.pinged? = []
    rw [fresh]
    rfl
  have reached := admitted.gathers
    (I := fun past s => (Orderly s ∧ Kept (rest s)) ∧ Ranked past s ∧ ProbesKnown s)
    (fun past s m allowed ⟨⟨there, now⟩, ranked, probed⟩ => by
      obtain ⟨queue, handles⟩ := spares s m allowed
      refine ⟨⟨orderly_move there m, kept_move there now handles⟩,
        ranked.move there now.sound queue, ?_⟩
      intro handle here
      exact Nat.le_trans (probed.move now handles handle here)
        (opens_le_move there now.sound m))
    ⟨⟨orderly, kept⟩, empty, by intro handle here; rw [none] at here; cases here⟩
  rw [List.nil_append] at reached
  obtain ⟨⟨there, now⟩, ranked, probed⟩ := reached
  have order := pinged_after orderly kept (admitted.weaken fun s m both => (spares s m both).2)
  rw [none, List.nil_append] at order
  refine ⟨?_, ?_, order, ?_, fun c here => ranked.isStale_iff here, ?_⟩
  · intro m c out
    rcases out.vouched ranked there now out.spares with recycled | new
    · exact Or.inl recycled
    · exact Or.inr (by omega)
  · exact fun attended m c loses more => loses.banned there now more
  · rw [Backend.pings_eq, order, length_along]
  · -- Probes are of handles that were open before the move, and new ones were not.
    intro m allowed c here new again
    have old := probed.move now (spares s m allowed).2 c.handle again
    have late := now.sound.newcomer there here new
    omega

theorem staleness_safe_failing :
    let p : Provider := ⟨.ofEndpoint "mock" "db", .single "mock" (), .empty, .none⟩
    let moves : List Move := [.command (.get "a"), .command (.get "b"), .command (.release "a"),
      .command (.release "b"), .command (.advance (Duration.ofParts 61 0)), .command (.get "c"),
      .command (.setFault .pings true)]
    let began := start .fresh (.ofCapacity 2) (some p)
    let s := began.after moves
    Backend.fresh.log = [] ∧ Admitted sparesPool began moves ∧
      s.backend.pings =
        (along probesAsked began moves).length + (along probesDue began moves).length ∧
      along probesAsked began moves = [] ∧ along probesDue began moves = [1] ∧
      ∃ c, LosesProbe s true (.command (.get "d")) c ∧
        Banned true c ((s.move (.command (.get "d"))).after [.command (.release "c")]) := by
  have fresh : Backend.fresh.log = [] := rfl
  have admitted : Admitted sparesPool (start .fresh (.ofCapacity 2) (some
      ⟨.ofEndpoint "mock" "db", .single "mock" (), .empty, .none⟩))
      [.command (.get "a"), .command (.get "b"), .command (.release "a"), .command (.release "b"),
        .command (.advance (Duration.ofParts 61 0)), .command (.get "c"),
        .command (.setFault .pings true)] := ⟨rfl, rfl, rfl, rfl, rfl, rfl, rfl, trivial⟩
  obtain ⟨-, banned, -, pings, -⟩ := staleness_safe fresh 2 _ admitted
  exact ⟨fresh, admitted, pings, by decide +kernel, by decide +kernel, _, .failed rfl rfl rfl,
    banned true (.command (.get "d")) _ (.failed rfl rfl rfl) _⟩

/-- Where no later work is attended to, a probe that is given up leaves the handle open: that of a
checkout whose waiter is dropped, and one that a caller asked for and whose guard is dropped. -/
theorem unattended_probe_unclosed :
    let p : Provider := ⟨.ofEndpoint "mock" "db", .single "mock" (), .empty, .none⟩
    let moves : List Move := [.command (.get "a"), .command (.release "a"),
      .command (.advance (Duration.ofParts 61 0)), .command (.setFault .stalls true),
      .command (.waitGet "b"), .work 0]
    let asks : List Move := [.command (.get "a"), .command (.beginTransaction "a"),
      .command (.setFault .stalls true)]
    let began := start .fresh (.ofCapacity 1) (some p)
    let s := began.after moves
    let u := began.after asks
    Admitted sparesPool began (moves ++ [.command (.abandon "b")]) ∧
      (∃ c, s.holdings.find? "b" = some (.waiter .connection (.probing c)) ∧
        (s.move (.command (.abandon "b"))).holdings.find? "b" = none ∧
        (s.move (.command (.abandon "b"))).settle.backend.closedHandles.count c.handle = 0) ∧
      Admitted sparesPool began
        (asks ++ [.command (.ping "a"), .command (.dropUnattended "a")]) ∧
      (u.obey (.ping "a")).1 = .blocked ∧
      ∃ c, u.holdings.find? "a" = some (.pooled c) ∧
        ((u.move (.command (.ping "a"))).move
          (.command (.dropUnattended "a"))).settle.backend.closedHandles.count c.handle = 0 :=
  ⟨⟨rfl, rfl, rfl, rfl, rfl, rfl, rfl, trivial⟩,
    ⟨⟨1, 1, .generic "mock", none, .zero, some .zero⟩, rfl, rfl, rfl⟩,
    ⟨rfl, rfl, rfl, rfl, rfl, trivial⟩, rfl,
    ⟨1, 1, .generic "mock", some 1, .zero, none⟩, rfl, rfl⟩

end Session
end Datastore
