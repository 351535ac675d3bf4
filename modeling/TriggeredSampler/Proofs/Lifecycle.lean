import TriggeredSampler.Lifecycle

/-! # The phases a lifecycle goes through

* `Lifecycle.cancel_of_isTerminal`, `Lifecycle.fail_of_isTerminal`, `Lifecycle.follow_of_isTerminal` —
  a run that is over stays as it is.
* `Lifecycle.Onward` — what the events of a run can do to it: they end it, or it goes on.
-/

namespace TriggeredSampler

namespace Phase

theorem isTerminal_of_isActive {p : Phase} (active : p.isActive = true) : p.isTerminal = false := by
  cases p <;> simp_all [isActive, isTerminal]

theorem isActive_of_isTerminal {p : Phase} (ended : p.isTerminal = true) : p.isActive = false := by
  cases p <;> simp_all [isActive, isTerminal]

/-- A phase at or behind the start of a run. -/
def begun (p : Phase) : Bool := p.isActive || p.isTerminal

theorem begun_of_isTerminal {p : Phase} (ended : p.isTerminal = true) : p.begun = true := by
  simp [begun, ended]

theorem begun_of_isActive {p : Phase} (active : p.isActive = true) : p.begun = true := by
  simp [begun, active]

theorem isActive_of_begun {p : Phase} (begun : p.begun = true) (going : p.isTerminal = false) :
    p.isActive = true := by
  cases p <;> simp_all [Phase.begun, isActive, isTerminal]

end Phase

namespace Lifecycle

variable {ε : Type} {l : Lifecycle ε}

@[simp] theorem phase_unconfigured : (unconfigured : Lifecycle ε).phase = .unconfigured := rfl
@[simp] theorem phase_configured : (configured : Lifecycle ε).phase = .configured := rfl
@[simp] theorem phase_ready : (ready : Lifecycle ε).phase = .ready := rfl
@[simp] theorem phase_running : (running : Lifecycle ε).phase = .running := rfl
@[simp] theorem phase_completed : (completed : Lifecycle ε).phase = .completed := rfl
@[simp] theorem phase_failed (e : ε) : (failed e).phase = .failed := rfl
@[simp] theorem phase_cancelled : (cancelled : Lifecycle ε).phase = .cancelled := rfl

theorem cancel_of_isTerminal (ended : l.phase.isTerminal = true) : l.cancel = (false, l) := by
  rw [cancel, if_pos ended]

theorem fail_of_isTerminal (ended : l.phase.isTerminal = true) (e : ε) : l.fail e = (false, l) := by
  rw [fail, if_pos ended]

theorem follow_of_isTerminal (ended : l.phase.isTerminal = true) (reported : Phase) :
    l.follow reported = .ok (false, l) := by
  unfold follow
  rw [if_pos (.inl ended)]

theorem configure_of_idle (idle : l.phase.isActive = false) : l.configure = .ok .configured := by
  rw [configure, if_neg (by simp [idle])]

/-- Nothing changes if the phase is reported that it is in. -/
theorem follow_phase (l : Lifecycle ε) : l.follow l.phase = .ok (false, l) := by
  unfold follow
  rw [if_pos (.inr rfl)]

theorem cancel_of_not_isTerminal (going : l.phase.isTerminal = false) :
    l.cancel = (true, cancelled) := by
  rw [cancel, if_neg (by simp [going])]

theorem fail_of_not_isTerminal (going : l.phase.isTerminal = false) (e : ε) :
    l.fail e = (true, failed e) := by
  rw [fail, if_neg (by simp [going])]

@[simp] theorem isTerminal_cancel (l : Lifecycle ε) : l.cancel.2.phase.isTerminal = true := by
  by_cases ended : l.phase.isTerminal = true
  · rw [cancel_of_isTerminal ended, ended]
  · rw [cancel_of_not_isTerminal (by simpa using ended)]
    rfl

@[simp] theorem isTerminal_fail (l : Lifecycle ε) (e : ε) : (l.fail e).2.phase.isTerminal = true := by
  by_cases ended : l.phase.isTerminal = true
  · rw [fail_of_isTerminal ended, ended]
  · rw [fail_of_not_isTerminal (by simpa using ended)]
    rfl

/-- Where the events of a run lead: a run that is over stays as it is, one that was started stays
started, and none is started. -/
structure Onward (l l' : Lifecycle ε) : Prop where
  ended : l.phase.isTerminal = true → l' = l
  begun : l.phase.begun = true → l'.phase.begun = true
  idle : l.phase.isActive = false → l'.phase.isActive = false

namespace Onward

theorem refl (l : Lifecycle ε) : l.Onward l :=
  ⟨fun _ => rfl, id, id⟩

theorem trans {l l' l'' : Lifecycle ε} (first : l.Onward l') (second : l'.Onward l'') :
    l.Onward l'' := by
  refine ⟨?_, fun begun => second.begun (first.begun begun), fun idle => second.idle (first.idle idle)⟩
  intro ended
  obtain rfl := first.ended ended
  exact second.ended ended

/-- A run that ends goes onward. -/
theorem of_isTerminal {l l' : Lifecycle ε} (kept : l.phase.isTerminal = true → l' = l)
    (ended : l'.phase.isTerminal = true) : l.Onward l' :=
  ⟨kept, fun _ => Phase.begun_of_isTerminal ended, fun _ => Phase.isActive_of_isTerminal ended⟩

theorem isTerminal {l l' : Lifecycle ε} (onward : l.Onward l') (ended : l.phase.isTerminal = true) :
    l'.phase.isTerminal = true := by
  rw [onward.ended ended, ended]

theorem cancel (l : Lifecycle ε) : l.Onward l.cancel.2 :=
  of_isTerminal (fun ended => by rw [cancel_of_isTerminal ended]) l.isTerminal_cancel

theorem fail (l : Lifecycle ε) (e : ε) : l.Onward (l.fail e).2 :=
  of_isTerminal (fun ended => by rw [fail_of_isTerminal ended]) (l.isTerminal_fail e)

theorem follow {l' : Lifecycle ε} {reported : Phase} {changed : Bool}
    (ok : l.follow reported = .ok (changed, l')) : l.Onward l' := by
  unfold Lifecycle.follow at ok
  split at ok
  next =>
    cases ok
    exact refl l
  next going =>
    obtain ⟨going, _⟩ := not_or.1 going
    have kept : l.phase.isTerminal = true → l' = l := fun ended => absurd ended going
    split at ok <;> cases ok
    · exact ⟨kept, fun _ => rfl, fun idle => by cases idle⟩
    · exact ⟨kept, fun _ => rfl, fun idle => by cases idle⟩
    · exact of_isTerminal kept rfl
    · exact of_isTerminal kept rfl
    · exact of_isTerminal kept rfl

end Onward

end Lifecycle

end TriggeredSampler
