import Datastore.Proofs.Session.Enact
import Datastore.Proofs.Session.Waiters

/-!
# Hand-outs

A checkout hands out the longest idle connection, if its examination lets it pass, or a new one.
Main statements: `checkout_ready`, `HandsOut.checkout`.
-/

namespace Datastore

namespace Provider

variable {p : Provider} {s : System} {c : Connection}

/-- How the examination of a connection ends. -/
def verdict (b : Backend) (now : Duration) (c : Connection) : Finding :=
  if isStale now c then findingOf (b.ping c.handle).1 else .recent

theorem examine_fst (s : System) (c : Connection) :
    (examine s c).1 = verdict s.backend s.clock c := by
  rw [examine, verdict]
  split <;> rfl

/-- Good enough to be handed out again. -/
def Passes (finding : Finding) : Prop := finding = .recent ∨ finding = .alive

theorem checkout_nil (empty : s.pool.idle = []) : p.checkout s = p.checkoutNew s := by
  simp only [checkout, empty]

/-- A checkout that finds somebody idle takes the front first. -/
theorem checkout_cons {rest : List Connection} (front : s.pool.idle = c :: rest) :
    p.checkout s =
      p.recycle ({ s with pool := { s.pool with idle := rest } }.note (.taken c)) c := by
  simp only [checkout, front]

theorem recycle_of_passes (passes : Passes (verdict s.backend s.clock c)) :
    p.recycle s c = (.ready c, { (examine s c).2 with
      backend := c.tune p.tuning (examine s c).2.backend }.note (.issued c)) := by
  rw [← examine_fst] at passes
  unfold recycle
  dsimp only
  rcases passes with recent | alive
  · rw [recent]
  · rw [alive]

theorem recycle_of_stalled (stalled : verdict s.backend s.clock c = .stalled) :
    p.recycle s c = (.stalled c, (examine s c).2) := by
  rw [← examine_fst] at stalled
  unfold recycle
  dsimp only
  rw [stalled]

/-- A connection that failed is tuned and retired before a new one is made. -/
theorem recycle_of_failed (failed : verdict s.backend s.clock c = .failed) :
    p.recycle s c = p.checkoutNew ({ (examine s c).2 with
      backend := c.tune p.tuning (examine s c).2.backend }.retire c).2 := by
  rw [← examine_fst] at failed
  unfold recycle
  dsimp only
  rw [failed]

theorem examine_made (s : System) (c : Connection) : (examine s c).2.made = s.made := by
  rw [examine]
  split <;> rfl

theorem manufacture_ok (made : (p.manufacture s).1 = .ok c) :
    ∃ handle, c = .wrap (s.made + 1) handle (p.dialects.resolve p.config.driverName) s.clock := by
  unfold manufacture at made
  split at made
  · cases made
  · split at made
    · cases made
    · split at made
      · cases made
      · split at made
        · cases made
        · exact ⟨_, (Except.ok.inj made).symm⟩

theorem checkoutNew_ready (ready : (p.checkoutNew s).1 = .ready c) :
    (p.manufacture s).1 = .ok c := by
  unfold checkoutNew at ready
  split at ready
  · cases ready
  · next made =>
    cases ready
    rw [made]

theorem recycle_ready {c' : Connection} (ready : (p.recycle s c).1 = .ready c') :
    c' = c ∧ Passes (verdict s.backend s.clock c) ∨ c'.id = s.made + 1 := by
  cases ends : verdict s.backend s.clock c with
  | recent =>
    rw [recycle_of_passes (Or.inl ends)] at ready
    cases ready
    exact Or.inl ⟨rfl, Or.inl rfl⟩
  | alive =>
    rw [recycle_of_passes (Or.inr ends)] at ready
    cases ready
    exact Or.inl ⟨rfl, Or.inr rfl⟩
  | stalled =>
    rw [recycle_of_stalled ends] at ready
    cases ready
  | failed =>
    right
    rw [recycle_of_failed ends] at ready
    obtain ⟨handle, rfl⟩ := manufacture_ok (checkoutNew_ready ready)
    exact congrArg (· + 1) (examine_made s c)

/-- A checkout hands out the front of the queue, if that passes, or a new connection. -/
theorem checkout_ready (ready : (p.checkout s).1 = .ready c) :
    (∃ rest, s.pool.idle = c :: rest ∧ Passes (verdict s.backend s.clock c)) ∨
      c.id = s.made + 1 := by
  cases line : s.pool.idle with
  | nil =>
    right
    rw [checkout_nil line] at ready
    obtain ⟨handle, rfl⟩ := manufacture_ok (checkoutNew_ready ready)
    rfl
  | cons front rest =>
    rw [checkout_cons line] at ready
    rcases recycle_ready ready with ⟨rfl, passes⟩ | new
    · exact Or.inl ⟨rest, rfl, passes⟩
    · exact Or.inr new

end Provider

namespace Session

variable {s : Session} {m : Move} {c : Connection}

/-- A checkout of the caller, or of a waiter that has a slot, ends with this connection. -/
inductive HandsOut (s : Session) : Move → Connection → Prop
  | atOnce {name c} {command : Command} (asks : command = .get name ∨ command = .tryGet name)
      (free : s.holdings.find? name = none)
      (got : (s.move (.command command)).holdings.find? name = some (.pooled c)) :
    HandsOut s (.command command) c
  | later {name c wish place} (granted : s.holdings.find? name = some (.waiter wish .granted))
      (got : (s.move (.work place)).holdings.find? name =
        some (.waiter wish (.finished (.ok (.connection c))))) :
    HandsOut s (.work place) c

/-- A checkout at once is made unless the slots are barred, and then the pool is closed. -/
theorem Orderly.commandAct_get (orderly : Orderly s) (name : String) :
    s.commandAct (.get name) = s.checkingOut := by
  simp only [commandAct]
  split
  · next shut =>
    have barred : s.pool.barred = true := orderly.barred.trans shut
    cases served : s.provider <;> simp [checkingOut, served, barred]
  · rfl

theorem checkout_takeSlot (p : Provider) (s : Session) :
    (p.checkout s.takeSlot.toSystem).1 = (p.checkout s.toSystem).1 := by
  have first := congrArg Prod.fst (p.checkout_core s.takeSlot.toSystem)
  have second := congrArg Prod.fst (p.checkout_core s.toSystem)
  exact first.symm.trans second

/-- Who gets a connection from a checkout at once. -/
theorem checkOut_got {p : Provider} {name : String} {noSlot : Answer} (orderly : Orderly s)
    (served : s.provider = some p) (free : s.holdings.find? name = none)
    (got : (s.checkOut p name noSlot).2.holdings.find? name = some (.pooled c)) :
    s.checkingOut = .checkout p ∧ (p.checkout s.toSystem).1 = .ready c := by
  -- A slot that is given back goes to somebody in line, so not to this name.
  have absent : name ∉ s.pool.waiting := fun line =>
    not_queued_of_none free ((orderly.mem_waiting name).mp line)
  rw [checkOut] at got
  by_cases shut : s.pool.barred
  · simp [shut, free] at got
  by_cases busy : s.pool.free = 0
  · simp [shut, busy, free] at got
  have asked : s.checkingOut = .checkout p := by simp [checkingOut, served, shut, busy]
  refine ⟨asked, ?_⟩
  simp only [shut, busy, Bool.false_eq_true, if_false] at got
  rw [← checkout_takeSlot]
  have line : (s.takeSlot.withSystem (p.checkout s.takeSlot.toSystem).2).pool.waiting =
      s.pool.waiting := by
    rw [withSystem, Provider.checkout_pool]
    rfl
  split at got
  · next c' ready =>
    rw [ready]
    simp only [hold, Table.find?_insert_self, Option.some.injEq, Holding.pooled.injEq] at got
    rw [got]
  · rw [find?_freeSlot (line ▸ absent)] at got
    exact absurd (free.symm.trans got) (by simp)
  · next c' _ =>
    have same : ((s.takeSlot.withSystem (p.checkout s.takeSlot.toSystem).2).discard true
        c').freeSlot.holdings.find? name = s.holdings.find? name := find?_freeSlot (line ▸ absent)
    exact absurd (free.symm.trans (same.symm.trans got)) (by simp)

/-- How far a waiter has come when its checkout ends. -/
def progress : Provider.Checkout → Progress
  | .ready c => .finished (.ok (.connection c))
  | .failed error => .finished (.error (.connection error))
  | .stalled c => .probing c

theorem find?_deliver {name : String} (absent : name ∉ s.pool.waiting)
    (outcome : Provider.Checkout) : (s.deliver name outcome).holdings.find? name =
      some (.waiter .connection (progress outcome)) := by
  cases outcome with
  | ready c => exact Table.find?_insert_self _ _ _
  | stalled c => exact Table.find?_insert_self _ _ _
  | failed error =>
    exact (find?_freeSlot (s := s.hold name _) absent).trans (Table.find?_insert_self _ _ _)

/-- A waiter with a slot that goes on gets what its checkout ends with. If it makes none, it learns
at most that the pool is closed. -/
theorem resume_connection {name : String} (orderly : Orderly s)
    (granted : s.holdings.find? name = some (.waiter .connection .granted)) :
    (∃ p, s.goingOn name = .checkout p ∧ (s.resume name).holdings.find? name =
        some (.waiter .connection (progress (p.checkout s.toSystem).1))) ∨
      s.goingOn name = .nothing ∧ ∀ outcome, (s.resume name).holdings.find? name =
        some (.waiter .connection (.finished outcome)) → outcome = .error .closed := by
  have absent : name ∉ s.pool.waiting := orderly.not_mem granted (by simp)
  by_cases shut : s.pool.barred
  · right
    have told : (s.resume name).holdings.find? name =
        some (.waiter .connection (.finished (.error .closed))) := by
      simp only [resume, granted, shut, if_true]
      exact (find?_freeSlot (s := s.hold name _) absent).trans (Table.find?_insert_self _ _ _)
    refine ⟨by cases served : s.provider <;> simp [goingOn, granted, shut, served], ?_⟩
    intro outcome same
    rw [told] at same
    cases same
    rfl
  cases served : s.provider with
  | none =>
    right
    refine ⟨by simp [goingOn, granted, served], fun outcome same => ?_⟩
    simp [resume, granted, shut, served] at same
  | some p =>
    left
    refine ⟨p, by simp [goingOn, granted, served, shut], ?_⟩
    have line : (s.withSystem (p.checkout s.toSystem).2).pool.waiting = s.pool.waiting := by
      rw [withSystem, Provider.checkout_pool]
    simp only [resume, granted, shut, served, Bool.false_eq_true, if_false]
    exact find?_deliver (line ▸ absent) _

/-- What a waiter with a slot finds when it goes on. -/
theorem resume_got {name : String} {wish : Wish} (orderly : Orderly s)
    (granted : s.holdings.find? name = some (.waiter wish .granted))
    (got : (s.resume name).holdings.find? name =
      some (.waiter wish (.finished (.ok (.connection c))))) :
    ∃ p, s.goingOn name = .checkout p ∧ (p.checkout s.toSystem).1 = .ready c := by
  cases wish with
  | slot =>
    have absent : name ∉ s.pool.waiting := orderly.not_mem granted (by simp)
    rw [resume, granted] at got
    by_cases shut : s.pool.barred
    · have told := find?_freeSlot (s := s.hold name (.waiter .slot (.finished (.error .closed))))
        absent
      simp only [shut, if_true, told] at got
      simp [hold] at got
    · simp [shut, hold] at got
  | connection =>
    rcases resume_connection orderly granted with ⟨p, goes, ended⟩ | ⟨-, closed⟩
    · rw [ended] at got
      cases ends : (p.checkout s.toSystem).1 with
      | ready c' =>
        rw [ends] at got
        cases got
        exact ⟨p, goes, ends⟩
      | failed error =>
        rw [ends] at got
        cases got
      | stalled c' =>
        rw [ends] at got
        cases got
    · cases closed _ got

/-- Work that changes what a waiter with a slot has come to is its own going on. -/
theorem resumes_of_changed {name : String} {wish : Wish} (orderly : Orderly s)
    (granted : s.holdings.find? name = some (.waiter wish .granted)) (place : Nat)
    (changed : (s.move (.work place)).holdings.find? name ≠ s.holdings.find? name) :
    s.agenda[place]? = some (.resume name) ∧
      s.move (.work place) = { s with agenda := s.agenda.eraseIdx place }.resume name := by
  have absent : name ∉ s.pool.waiting := orderly.not_mem granted (by simp)
  rw [move, doWork] at changed ⊢
  cases due : s.agenda[place]? with
  | none => simp [due] at changed
  | some task =>
    simp only [due] at changed ⊢
    cases task with
    | retire other => exact absurd rfl changed
    | resume other =>
      by_cases own : name = other
      · subst own
        exact ⟨rfl, rfl⟩
      · exact absurd (find?_resume_of_ne (s := { s with agenda := s.agenda.eraseIdx place }) own
          absent) changed

/-- Hand-outs are checkouts that end with a connection. -/
theorem HandsOut.checkout (orderly : Orderly s) (out : HandsOut s m c) :
    ∃ p, s.act m = .checkout p ∧ (p.checkout s.toSystem).1 = .ready c := by
  cases out with
  | @atOnce name c command asks free got =>
    have new : command.newName?.any s.holdings.contains = false := by
      rcases asks with rfl | rfl <;> simp [Command.newName?, Table.contains, free]
    simp only [move, obey, new, Bool.false_eq_true, if_false] at got
    cases served : s.provider with
    | none =>
      have same : (s.carryOut command).2 = s := by
        rcases asks with rfl | rfl <;> simp only [carryOut, withProvider, served, misused]
      rw [same, free] at got
      cases got
    | some p =>
      refine ⟨p, ?_⟩
      simp only [act, new, Bool.false_eq_true, if_false]
      rcases asks with rfl | rfl
      · simp only [carryOut, withProvider, served, orderly.unlessClosed_checkOut] at got
        rw [orderly.commandAct_get]
        exact checkOut_got orderly served free got
      · simp only [carryOut, withProvider, served] at got
        exact checkOut_got orderly served free got
  | @later name c wish place granted got =>
    obtain ⟨due, same⟩ := resumes_of_changed orderly granted place
      (by rw [got, granted]; simp)
    have orderly' : Orderly { s with agenda := s.agenda.eraseIdx place } :=
      orderly.of_holdings (Or.inl rfl) rfl rfl rfl fun _ => Iff.rfl
    rw [same] at got
    obtain ⟨p, checks, ready⟩ := resume_got orderly' granted got
    refine ⟨p, ?_, ready⟩
    simp only [act, due]
    exact checks

/-- Whoever is handed out was at the front of the queue, or is new. -/
theorem HandsOut.front_or_new (orderly : Orderly s) (out : HandsOut s m c) :
    (∃ rest, s.pool.idle = c :: rest ∧
        Provider.Passes (Provider.verdict s.backend s.clock c)) ∨ c.id = s.made + 1 := by
  obtain ⟨p, -, ready⟩ := out.checkout orderly
  exact Provider.checkout_ready ready

end Session
end Datastore
