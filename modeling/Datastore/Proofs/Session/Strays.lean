import Datastore.Proofs.Session.Journal
import Datastore.Proofs.Session.Origin

/-!
# Handles that nobody has

A handle is astray if it is open and no connection with it is at rest, held or about to be retired.
Strays are the handles that a failed initial statement left open and those of connections that
were dropped. They stay astray; while nobody drops connections, only failed initial statements make
more of them, and work that was put off drops nobody. Main statements: `mem_strays`, `strays_stay`,
`strays_after`, `strays_settle`.
-/

namespace Datastore

namespace Session

variable {s : Session} {handle : Nat}

def strays (s : Session) : List Nat :=
  (List.range' 1 s.backend.opens).filter fun handle =>
    !s.backend.isClosed handle && !(s.live.map Connection.handle).contains handle

theorem strays_nodup (s : Session) : s.strays.Nodup := (List.nodup_range' ..).filter _

/-- Nobody wraps a handle that was left to nobody. -/
theorem Sound.not_wrapped (sound : Sound (rest s)) (here : handle ∈ s.history Movement.orphaned?) :
    handle ∉ (s.history Movement.made?).map Connection.handle := by
  have distinct := sound.handles.nodup_iff.mpr List.nodup_range'
  exact fun wrapped => List.disjoint_of_nodup_append distinct wrapped here

/-- Whoever was made with a handle is there, retired or dropped. -/
theorem Sound.count_handle (sound : Sound (rest s)) (handle : Nat) :
    (s.live.map Connection.handle).count handle +
      (((s.history Movement.retired?).map Connection.handle).count handle +
        ((s.history Movement.forsaken?).map Connection.handle).count handle) =
      ((s.history Movement.made?).map Connection.handle).count handle := by
  have books := sound.books _ (steady_handle handle)
  have made : output (tagged Connection.handle handle) (rest s) =
    ((s.history Movement.made?).map Connection.handle).count handle := weigh_tagged ..
  rw [tally_rest, weigh_gone, made] at books
  simpa only [weigh_tagged] using books

theorem Sound.wrapped_of_forsaken (sound : Sound (rest s))
    (forsaken : handle ∈ (s.history Movement.forsaken?).map Connection.handle) :
    handle ∈ (s.history Movement.made?).map Connection.handle := by
  have count := sound.count_handle handle
  rw [← List.count_pos_iff] at forsaken ⊢
  omega

/-- Strays come from failed initial statements and from dropped connections. -/
theorem mem_strays (sound : Sound (rest s)) (grounded : Grounded (rest s)) :
    handle ∈ s.strays ↔ handle ∈ s.history Movement.orphaned? ∨
      handle ∈ (s.history Movement.forsaken?).map Connection.handle ∧
        handle ∉ s.backend.closedHandles := by
  have count := sound.count_handle handle
  have once := sound.wrapped_once handle
  have known := sound.handles.mem_iff (a := handle)
  simp only [strays, List.mem_filter, ← known, List.mem_append, Bool.and_eq_true,
    Bool.not_eq_true', ← Bool.not_eq_true, Backend.isClosed_iff, List.contains_iff_mem]
  constructor
  · rintro ⟨wrapped | orphaned, isOpen, absent⟩
    · right
      refine ⟨?_, isOpen⟩
      -- It is not there, and not retired since it is open.
      have unretired : handle ∉ (s.history Movement.retired?).map Connection.handle := by
        intro retired
        obtain ⟨c, here, rfl⟩ := List.mem_map.mp retired
        exact isOpen (sound.retired c here)
      rw [← List.count_pos_iff] at wrapped ⊢
      rw [← List.count_eq_zero] at absent unretired
      omega
    · exact Or.inl orphaned
  · rintro (orphaned | ⟨forsaken, isOpen⟩)
    · have unwrapped := sound.not_wrapped orphaned
      refine ⟨Or.inr orphaned, fun closed => unwrapped (grounded handle closed), ?_⟩
      intro there
      obtain ⟨c, here, rfl⟩ := List.mem_map.mp there
      exact unwrapped (sound.wrapped here)
    · refine ⟨Or.inl (sound.wrapped_of_forsaken forsaken), isOpen, ?_⟩
      change ((s.history Movement.made?).map Connection.handle).count handle ≤ 1 at once
      rw [← List.count_pos_iff] at forsaken
      rw [← List.count_eq_zero]
      omega

/-! ### Runs -/

theorem closed_after (orderly : Orderly s) (sound : Sound (rest s))
    (closed : handle ∈ s.backend.closedHandles) (moves : List Move) :
    handle ∈ (s.after moves).backend.closedHandles := by
  refine closing_after (I := fun d => handle ∈ d.state.backend.closedHandles) ?_ orderly sound
    moves closed
  rintro d d' closes here
  rcases closes.closed with same | ⟨other, -, one⟩
  · rwa [same]
  · rw [one, Backend.mem_closedWith]
    exact Or.inl here

/-- The handle of a connection that is gone is not closed any more. -/
theorem gone_after (orderly : Orderly s) (sound : Sound (rest s))
    (gone : handle ∈ (s.history Movement.gone?).map Connection.handle)
    (isOpen : handle ∉ s.backend.closedHandles) (moves : List Move) :
    handle ∉ (s.after moves).backend.closedHandles := by
  refine (closing_after (I := fun d =>
    handle ∈ (d.state.history Movement.gone?).map Connection.handle ∧
      handle ∉ d.state.backend.closedHandles) ?_ orderly sound moves ⟨gone, isOpen⟩).2
  rintro d d' closes ⟨gone, isOpen⟩
  constructor
  · obtain ⟨c, there, rfl⟩ := List.mem_map.mp gone
    exact List.mem_map_of_mem (System.mem_history_of_prefix closes.journal there)
  · rcases closes.closed with same | ⟨other, attached, one⟩
    · rwa [same]
    · rw [one, Backend.mem_closedWith]
      rintro (before | rfl)
      · exact isOpen before
      · exact attached.2 gone

theorem gone_of_forsaken
    (forsaken : handle ∈ (s.history Movement.forsaken?).map Connection.handle) :
    handle ∈ (s.history Movement.gone?).map Connection.handle := by
  have weight := weigh_gone (tagged Connection.handle handle) s.toSystem
  simp only [weigh_tagged] at weight
  rw [← List.count_pos_iff] at forsaken ⊢
  omega

/-- A stray handle is astray for good. -/
theorem strays_stay (orderly : Orderly s) (sound : Sound (rest s)) (grounded : Grounded (rest s))
    (astray : handle ∈ s.strays) (moves : List Move) : handle ∈ (s.after moves).strays := by
  have grows := journal_after orderly moves
  rw [mem_strays sound grounded] at astray
  rw [mem_strays (sound.after orderly moves) (grounded.after orderly sound moves)]
  rcases astray with orphaned | ⟨forsaken, isOpen⟩
  · exact Or.inl (System.mem_history_of_prefix grows orphaned)
  · right
    refine ⟨?_, gone_after orderly sound (gone_of_forsaken forsaken) isOpen moves⟩
    obtain ⟨c, there, rfl⟩ := List.mem_map.mp forsaken
    exact List.mem_map_of_mem (System.mem_history_of_prefix grows there)

/-- While nobody drops connections, only failed initial statements leave handles astray. -/
theorem strays_after (orderly : Orderly s) (sound : Sound (rest s)) (grounded : Grounded (rest s))
    (moves : List Move) {more : List Nat}
    (orphaned : (s.after moves).history Movement.orphaned? =
      s.history Movement.orphaned? ++ more)
    (forsaken : (s.after moves).history Movement.forsaken? = s.history Movement.forsaken?) :
    (s.after moves).strays.Perm (s.strays ++ more) := by
  have sound' := sound.after orderly moves
  have grounded' := grounded.after orderly sound moves
  have now (handle : Nat) : handle ∈ (s.after moves).strays ↔ _ := mem_strays sound' grounded'
  have before (handle : Nat) : handle ∈ s.strays ↔ _ := mem_strays sound grounded
  have distinct : (s.history Movement.orphaned? ++ more).Nodup := by
    have all := sound'.handles.nodup_iff.mpr List.nodup_range'
    rw [orphaned] at all
    exact all.of_append_right
  have apart : s.strays.Disjoint more := by
    intro handle astray new
    rcases (before handle).mp astray with old | ⟨old, -⟩
    · exact List.disjoint_of_nodup_append distinct old new
    · rw [← forsaken] at old
      refine sound'.not_wrapped ?_ (sound'.wrapped_of_forsaken old)
      rw [orphaned]
      exact List.mem_append_right _ new
  rw [List.perm_ext_iff_of_nodup (strays_nodup _)
    (List.nodup_append'.mpr ⟨strays_nodup s, distinct.of_append_right, apart⟩)]
  intro handle
  rw [List.mem_append, now, before, orphaned, forsaken, List.mem_append]
  constructor
  · rintro ((old | new) | ⟨old, isOpen⟩)
    · exact Or.inl (Or.inl old)
    · exact Or.inr new
    · exact Or.inl (Or.inr ⟨old, fun closed =>
        isOpen (closed_after orderly sound closed moves)⟩)
  · rintro ((old | ⟨old, isOpen⟩) | new)
    · exact Or.inl (Or.inl old)
    · exact Or.inr ⟨old, gone_after orderly sound (gone_of_forsaken old) isOpen moves⟩
    · exact Or.inl (Or.inr new)

/-! ### Work that was put off -/

theorem forsaken_work (s : Session) (place : Nat) :
    (s.move (.work place)).history Movement.forsaken? = s.history Movement.forsaken? := by
  rw [history_move, act]
  split
  · exact (System.history_retire _ _ _).trans (List.append_nil _)
  · rw [goingOn]
    split
    · split
      · rfl
      · refine (Provider.writes_checkout _ _).unchanged fun movement noted => ?_
        cases noted <;> rfl
    · rfl
  · rfl

theorem forsaken_settle (s : Session) :
    s.settle.history Movement.forsaken? = s.history Movement.forsaken? := by
  rw [settle_eq_after]
  generalize s.workload = count
  induction count generalizing s with
  | zero => rfl
  | succ count ih => rw [List.replicate_succ, after_cons, ih, forsaken_work]

/-- Once all work is done, only initial statements that failed meanwhile left handles astray. -/
theorem strays_settle (orderly : Orderly s) (sound : Sound (rest s))
    (grounded : Grounded (rest s)) :
    ∃ more, s.settle.history Movement.orphaned? = s.history Movement.orphaned? ++ more ∧
      s.settle.strays.Perm (s.strays ++ more) := by
  have forsaken := forsaken_settle s
  rw [settle_eq_after] at forsaken ⊢
  obtain ⟨more, orphaned⟩ := history_after orderly _ Movement.orphaned?
  exact ⟨more, orphaned, strays_after orderly sound grounded _ orphaned forsaken⟩

end Session
end Datastore
