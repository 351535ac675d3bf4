import TriggeredSampler.Proofs.Session.Acceptance
import TriggeredSampler.Proofs.Session.Journal

/-! # What happens while a handler runs

Whatever a handler does, the reports that it raises wait behind those that wait already, and the session
changes in nothing but its lifecycle and whether it was dropped. `Station.Inside` says so; every operation
that a handler may use keeps to it.

* `Station.lineInside_eq` — a request.
* `Station.react_inside` — a reaction: it raises reports only if it ends the run.
-/

namespace TriggeredSampler

variable {σ : Type}

/-- Reports arrive behind those that wait. -/
def Delivery.arrive (reports : List Report) (d : Delivery) : Delivery :=
  { d with queue := d.queue ++ reports }

/-- Reports arrive; without a delivery they are lost. -/
def Session.arrive (reports : List Report) (s : Session) : Session :=
  { s with delivery := s.delivery.map (Delivery.arrive reports) }

@[simp] theorem Delivery.arrive_nil (d : Delivery) : d.arrive [] = d := by
  simp [arrive]

@[simp] theorem Delivery.arrive_arrive (d : Delivery) (reports others : List Report) :
    (d.arrive reports).arrive others = d.arrive (reports ++ others) := by
  simp [arrive]

namespace Session

@[simp] theorem arrive_nil (s : Session) : s.arrive [] = s := by
  have same : s.delivery.map (Delivery.arrive []) = s.delivery := by
    rcases s.delivery with _ | d <;> simp
  rw [arrive, same]

@[simp] theorem arrive_arrive (s : Session) (reports others : List Report) :
    (s.arrive reports).arrive others = s.arrive (reports ++ others) := by
  rcases delivery : s.delivery with _ | d <;> simp [arrive, delivery]

@[simp] theorem isSome_arrive (s : Session) (reports : List Report) :
    (s.arrive reports).delivery.isSome = s.delivery.isSome := by
  simp [arrive]

@[simp] theorem handle_arrive (s : Session) (reports : List Report) :
    (s.arrive reports).handle = s.handle := rfl

theorem arrive_of_none {s : Session} (none : s.delivery = none) (reports : List Report) :
    s.arrive reports = s := by
  cases s
  simp_all [arrive]

end Session

namespace Station

variable (dev : Device σ)

theorem enqueue_eq (report : Report) (st : Station (Journal σ)) :
    ∃ device, enqueue dev.journaled st report = ⟨st.session.arrive [report],
      ⟨device, st.device.entries ++ [.sent report st.session.delivery.isSome]⟩⟩ := by
  refine ⟨dev.sent st.session.handle report st.session.delivery.isSome st.device.device, ?_⟩
  cases delivery : st.session.delivery with
  | none =>
    rw [Session.arrive_of_none delivery]
    simp only [enqueue, delivery]
    rfl
  | some d =>
    simp only [enqueue, Session.arrive, delivery]
    rfl

theorem foldl_enqueue_eq (reports : List Report) (st : Station (Journal σ)) :
    ∃ device, reports.foldl (enqueue dev.journaled) st = ⟨st.session.arrive reports,
      ⟨device, st.device.entries ++ reports.map fun report =>
        .sent report st.session.delivery.isSome⟩⟩ := by
  induction reports generalizing st with
  | nil => exact ⟨st.device.device, by simp⟩
  | cons report rest ih =>
    obtain ⟨device, first⟩ := enqueue_eq dev report st
    obtain ⟨device', others⟩ := ih ⟨st.session.arrive [report],
      ⟨device, st.device.entries ++ [.sent report st.session.delivery.isSome]⟩⟩
    refine ⟨device', ?_⟩
    rw [List.foldl_cons, first, others]
    simp

/-- A request of a handler: the reports it raises arrive, and the journal notes everything. -/
theorem lineInside_eq (r : Request) (st : Station (Journal σ)) :
    ∃ a reports device, lineInside dev.journaled r st = (a, ⟨st.session.arrive reports,
      ⟨device, st.device.entries ++ .asked r ::
        (reports.map fun report => .sent report st.session.delivery.isSome) ++
          [.answered r a]⟩⟩) := by
  unfold lineInside
  obtain ⟨device, queued⟩ := foldl_enqueue_eq dev (dev.announce st.session.handle r st.device.device).1
    ⟨st.session, ⟨(dev.announce st.session.handle r st.device.device).2,
      st.device.entries ++ [.asked r]⟩⟩
  simp only [Device.journaled] at queued ⊢
  rw [queued]
  exact ⟨(dev.answer st.session.handle r device).1,
    (dev.announce st.session.handle r st.device.device).1,
    (dev.answer st.session.handle r device).2, by simp⟩

/-- What a handler can do to a session while reports arrive. -/
structure Inside (st st' : Station (Journal σ)) (arrived : List Report) : Prop where
  frame : st'.session = { st.session.arrive arrived with
    lifecycle := st'.session.lifecycle, live := st'.session.live }
  adds : Adds st.device.entries st'.device.entries arrived
  onward : st.session.lifecycle.Onward st'.session.lifecycle
  live : st'.session.live = st.session.live ∨ st'.session.phase.isActive = false

namespace Inside

variable {st st' st'' : Station (Journal σ)} {arrived more : List Report}

theorem refl (st : Station (Journal σ)) : Inside st st [] :=
  ⟨by simp, .refl _, .refl _, .inl rfl⟩

theorem trans (first : Inside st st' arrived) (second : Inside st' st'' more) :
    Inside st st'' (arrived ++ more) := by
  refine ⟨?_, first.adds.trans second.adds, first.onward.trans second.onward, ?_⟩
  · rw [second.frame, first.frame]
    simp only [Session.arrive, Option.map_map]
    congr 1
    rcases st.session.delivery with _ | d <;> simp
  · rcases second.live with kept | idle
    · rcases first.live with kept' | idle
      · exact .inl (kept.trans kept')
      · exact .inr (second.onward.idle idle)
    · exact .inr idle

theorem ofLifecycle {l : Lifecycle Failure} (onward : st.session.lifecycle.Onward l) :
    Inside st { st with session := { st.session with lifecycle := l } } [] :=
  ⟨by simp, .refl _, onward, .inl rfl⟩

end Inside

variable (st : Station (Journal σ))

theorem lineInside_inside {r : Request} (other : (Entry.asked r).ofStart = false) :
    ∃ arrived, Inside st (lineInside dev.journaled r st).2 arrived := by
  obtain ⟨a, reports, device, eq⟩ := lineInside_eq dev r st
  refine ⟨reports, ?_⟩
  rw [eq]
  refine ⟨rfl, ⟨_, (List.append_assoc ..), ?_, ?_⟩, .refl _, .inl rfl⟩
  · intro entry member
    simp only [List.cons_append, List.mem_cons, List.mem_append, List.mem_map, List.not_mem_nil,
      or_false] at member
    rcases member with rfl | ⟨_, _, rfl⟩ | rfl
    · exact other
    · rfl
    · cases r <;> simp_all [Entry.ofStart]
  · simp

theorem stop_inside :
    ∃ arrived, Inside st (st.stop (lineInside dev.journaled)).2 arrived ∧
      (st.stop (lineInside dev.journaled)).2.session.phase.isTerminal = true ∧
      (st.session.phase.isTerminal = true → arrived = []) := by
  unfold stop
  split
  next ended => exact ⟨[], .refl st, ended, fun _ => rfl⟩
  next going =>
    split
    next => exact ⟨[], .ofLifecycle (.cancel _), Lifecycle.isTerminal_cancel _, fun _ => rfl⟩
    next =>
      obtain ⟨arrived, asked⟩ := lineInside_inside dev st (r := .stop) rfl
      refine ⟨arrived, ?_⟩
      rcases answered : lineInside dev.journaled .stop st with ⟨_ | _, st'⟩ <;> rw [answered] at asked
      · have ended : Inside st' (st'.fail (.device ‹_›)) [] := .ofLifecycle (.fail _ _)
        exact ⟨by simpa using asked.trans ended, Lifecycle.isTerminal_fail _ _,
          fun ended => absurd ended going⟩
      · have ended : Inside st' { st' with session := st'.session.cancel } [] :=
          .ofLifecycle (.cancel _)
        exact ⟨by simpa using asked.trans ended, Lifecycle.isTerminal_cancel _,
          fun ended => absurd ended going⟩

/-- Giving a session up ends an active run. -/
theorem release_inside :
    ∃ arrived, Inside st (st.release (lineInside dev.journaled)) arrived ∧
      (arrived = [] ∨ (st.release (lineInside dev.journaled)).session.phase.isTerminal = true) := by
  unfold release
  simp only
  split
  next active =>
    obtain ⟨arrived, stopped, ended, _⟩ := stop_inside dev
      { st with session := { st.session with live := false } }
    refine ⟨arrived, ⟨?_, stopped.adds, stopped.onward, ?_⟩, .inr ended⟩
    · rw [stopped.frame]
      rfl
    · exact .inr (Phase.isActive_of_isTerminal ended)
  next idle =>
    refine ⟨[], ⟨by simp, .refl _, .refl _, .inr (by simpa using idle)⟩, .inl rfl⟩

/-- A reaction raises reports only if it ends the run. -/
theorem react_inside (notified : st.session.notified = true) (reaction : Reaction) :
    ∃ arrived, Inside st (st.react dev.journaled reaction).2 arrived ∧
      (arrived = [] ∨ (st.react dev.journaled reaction).2.session.phase.isTerminal = true) := by
  cases reaction with
  | stop =>
    obtain ⟨arrived, inside, ended, _⟩ := stop_inside dev st
    exact ⟨arrived, inside, .inr ended⟩
  | poll =>
    refine ⟨[], ?_, .inl rfl⟩
    simp only [react, poll, notified, if_true]
    split <;> exact .refl st
  | drop =>
    simp only [react]
    split
    next => exact release_inside dev st
    next => exact ⟨[], .refl st, .inl rfl⟩
  | _ => exact ⟨[], .refl st, .inl rfl⟩

end Station

end TriggeredSampler
