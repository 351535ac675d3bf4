import TriggeredSampler.Proofs.Device.Scene
import TriggeredSampler.Proofs.Session.Acceptance
import TriggeredSampler.Proofs.Session.Sound

/-! # A session and its simulated device

While a session waits for an answer its device goes on. `Session.Tied` relates the two at every moment,
with the reports under way between them; how their phases restrain each other is a `Bond`, which may be
tighter at one moment than at another.

* `Session.Tied` — the relation.
* `Session.Tied.drifts`, `Session.Tied.moves` — something becomes of the device.
* `Session.Tied.lifecycle`, `Session.Tied.follow` — the session takes over a phase.
* `Session.Tied.accept` — the session takes a report in.
-/

namespace TriggeredSampler

/-- The failure blames the device for a breach of the protocol. -/
def Failure.isBreach : Failure → Bool
  | .protocol _ => true
  | _ => false

/-- What a handler's call failed with. -/
def Outcome.failure? : Outcome → Option Failure
  | .finished (.error f) => some f
  | .polled (.error f) => some f
  | _ => none

/-- Neither the notice nor the handler's call tells of a breach. -/
structure Note.Clean (note : Note) : Prop where
  notice : ∀ f ∈ note.notice.failure, f.isBreach = false
  outcome : ∀ f ∈ note.outcome.failure?, f.isBreach = false

/-- How the phases of a session and its device restrain each other. -/
abbrev Bond := Phase → Phase → Prop

namespace Bond

/-- A session that is not active has a device that is not. -/
def resting : Bond := fun session device => session.isActive = false → device.isActive = false

/-- The bond, and the session is not active. -/
def ended (bond : Bond) : Bond := fun session device => bond session device ∧ session.isActive = false

/-- The bond, and the device is not active. -/
def stopped (bond : Bond) : Bond := fun session device => bond session device ∧ device.isActive = false

/-- The bond outlasts what happens by itself: an inactive device or session stays inactive, and a session
is not over before its device. -/
structure Stable (bond : Bond) : Prop where
  drift : ∀ {session device device'}, bond session device →
    (device.isActive = false → device'.isActive = false) → bond session device'
  change : ∀ {session session' device}, bond session device →
    (session.isActive = false → session'.isActive = false) →
    (session'.isActive = false → session.isActive = false ∨ device.isActive = false) →
    bond session' device

theorem stable_resting : resting.Stable := by
  refine ⟨fun rests idle quits => idle (rests quits), ?_⟩
  intro session session' device rests _ first quits
  cases first quits with
  | inl idle => exact rests idle
  | inr idle => exact idle

theorem Stable.ended {bond : Bond} (stable : bond.Stable) : bond.ended.Stable :=
  ⟨fun bonds idle => ⟨stable.drift bonds.1 idle, bonds.2⟩,
    fun bonds onward first => ⟨stable.change bonds.1 onward first, onward bonds.2⟩⟩

theorem Stable.stopped {bond : Bond} (stable : bond.Stable) : bond.stopped.Stable :=
  ⟨fun bonds idle => ⟨stable.drift bonds.1 idle, idle bonds.2⟩,
    fun bonds onward first => ⟨stable.change bonds.1 onward first, bonds.2⟩⟩

end Bond

namespace Session

/-- The reports that wait for their delivery. -/
def waiting (s : Session) : List Report := (s.delivery.map Delivery.queue).getD []

/-- A session and its device. The reports on their way, `pending` and waiting, fit the device. A session
that was not started is in the phase of its device, which has stored its configuration; an active one
has a device that was started. No failure so far is a breach. -/
structure Tied (bond : Bond) (pending : List Report) (s : Session) (n : Node) : Prop where
  node : n.Sound s.tracked
  sound : s.Sound
  fits : ∀ report ∈ pending ++ s.waiting, report.Fits s.tracked n.status.phase
  agrees : s.phase.begun = false → n.status.phase = s.phase
  stored : s.phase = .configured → ∃ c : Configuration, n.record = some c.encode ∧
    c.tracked.length ≤ Configuration.maxTracked ∧ c.tracked.length = s.tracked
  begun : s.phase.isActive = true → n.status.phase.begun = true
  bonds : bond s.phase n.status.phase
  cause : ∀ f ∈ s.lifecycle.cause, f.isBreach = false
  notes : ∀ note ∈ s.notes, note.Clean

/-- A session that waits for the start of its device, with a handler for the reports or without. -/
def armed (s : Session) (handler : Option (List Reaction)) (tag : Int) : Session :=
  { s with
    lifecycle := .ready, notified := handler.isSome
    delivery := handler.map fun reactions => ⟨tag, reactions, []⟩ }

/-- A session whose device refused the start. -/
def refused (s : Session) (handler : Option (List Reaction)) (fault : DeviceFault) : Session :=
  { s with lifecycle := .failed (.device fault), notified := handler.isSome, delivery := none }

variable {bond bond' : Bond} {pending reports : List Report} {s s' : Session} {n n' : Node}

/-- A new session at a new device. -/
theorem tied_bind (handle : Handle) (options : Options) :
    (bind handle options).Tied .resting [] .fresh :=
  ⟨Node.sound_fresh 0, ⟨rfl, by simp [bind], rfl⟩, by simp [bind, waiting], fun _ => rfl,
    by simp [bind, phase], by simp [bind, phase, Phase.isActive], fun _ => rfl,
    by simp [bind, Lifecycle.cause], by simp [bind]⟩

namespace Tied

theorem rebond (tied : s.Tied bond pending n) (bonds : bond' s.phase n.status.phase) :
    s.Tied bond' pending n :=
  { tied with bonds := bonds }

theorem failure (tied : s.Tied bond pending n) : ∀ f ∈ s.failure, f.isBreach = false := by
  intro f shown
  unfold Session.failure at shown
  cases cause : s.lifecycle.cause with
  | none =>
    rw [cause] at shown
    rcases panic : s.panic with _ | message <;> simp [panic] at shown
    rw [← shown]
    rfl
  | some g =>
    rw [cause] at shown
    exact tied.cause f (cause.trans shown)

/-- The device of a session that was not started is not active. -/
theorem idle_of_not_begun (tied : s.Tied bond pending n) (early : s.phase.begun = false) :
    n.status.phase.isActive = false := by
  rw [tied.agrees early]
  by_contra active
  rw [Phase.begun_of_isActive (by simpa using active)] at early
  cases early

/-! ## The device -/

theorem drifts (stable : bond.Stable) (tied : s.Tied bond pending n)
    (drifts : n.Drifts s.tracked n' reports) : s.Tied bond (reports ++ pending) n' := by
  have idle : n.status.phase.isActive = false → n'.status.phase.isActive = false :=
    fun idle => (drifts.idle idle).1
  refine ⟨drifts.sound, tied.sound, ?_, ?_, ?_, ?_, stable.drift tied.bonds idle, tied.cause, tied.notes⟩
  · -- what is on its way still fits a device that came to rest
    intro report member
    rw [List.append_assoc, List.mem_append] at member
    cases member with
    | inl raised => exact drifts.fits report raised
    | inr earlier => exact (tied.fits report earlier).idle idle
  · -- a device whose session was not started is at rest, so it keeps its phase
    intro early
    rw [drifts.still (tied.idle_of_not_begun early), tied.agrees early]
  · rw [drifts.record]
    exact tied.stored
  · exact fun active => drifts.begun (tied.begun active)

theorem moves (stable : bond.Stable) (tied : s.Tied bond pending n) (begun : s.phase.begun = true)
    (moves : n.Moves s.tracked n' reports) (stops : n'.status.phase.isActive = false) :
    s.Tied bond.stopped (reports ++ pending) n' := by
  have idle : n.status.phase.isActive = false → n'.status.phase.isActive = false := fun _ => stops
  refine ⟨moves.sound, tied.sound, ?_, by simp [begun], ?_, ?_, ⟨stable.drift tied.bonds idle, stops⟩,
    tied.cause, tied.notes⟩
  · intro report member
    rw [List.append_assoc, List.mem_append] at member
    cases member with
    | inl raised => exact moves.fits report raised
    | inr earlier => exact (tied.fits report earlier).idle idle
  · intro configured
    rw [configured] at begun
    cases begun
  · exact fun active => moves.begun (tied.begun active)

/-! ## The session -/

/-- The delivery and the notes change, and no report is added. -/
theorem reshape (tied : s.Tied bond pending n) {pending' : List Report}
    (lifecycle : s'.lifecycle = s.lifecycle) (tracked : s'.tracked = s.tracked)
    (numbering : s'.numbering.tracked = s.numbering.tracked) (stalled : s'.stalled = s.stalled)
    (delivering : s'.delivery.isSome = true → s.delivery.isSome = true ∧ s'.notified = s.notified)
    (waits : ∀ report ∈ pending' ++ s'.waiting, report ∈ pending ++ s.waiting)
    (notes : ∀ note ∈ s'.notes, note ∈ s.notes ∨ note.Clean) : s'.Tied bond pending' n := by
  have phase : s'.phase = s.phase := congrArg Lifecycle.phase lifecycle
  refine ⟨?_, ⟨?_, ?_, by rw [stalled, tied.sound.stalled]⟩, ?_, ?_, ?_, ?_, ?_, ?_, ?_⟩
  · rw [tracked]
    exact tied.node
  · rw [numbering, tracked, tied.sound.numbering]
  · intro delivers
    obtain ⟨delivered, notified⟩ := delivering delivers
    rw [notified, phase]
    exact tied.sound.delivering delivered
  · intro report member
    rw [tracked]
    exact tied.fits report (waits report member)
  · rw [phase]
    exact tied.agrees
  · rw [phase, tracked]
    exact tied.stored
  · rw [phase]
    exact tied.begun
  · rw [phase]
    exact tied.bonds
  · rw [lifecycle]
    exact tied.cause
  · intro note member
    cases notes note member with
    | inl earlier => exact tied.notes note earlier
    | inr clean => exact clean

/-- The session changes into a phase behind its start. -/
theorem lifecycle (tied : s.Tied bond pending n) {l : Lifecycle Failure} (begun : l.phase.begun = true)
    (active : l.phase.isActive = true → n.status.phase.begun = true)
    (cause : ∀ f ∈ l.cause, f.isBreach = false) (bonds : bond' l.phase n.status.phase) :
    ({ s with lifecycle := l }).Tied bond' pending n := by
  refine ⟨tied.node, ⟨tied.sound.numbering, ?_, tied.sound.stalled⟩, tied.fits, ?_, ?_, active, bonds,
    cause, tied.notes⟩
  · exact fun delivers => ⟨(tied.sound.delivering delivers).1, begun⟩
  · intro early
    rw [show ({ s with lifecycle := l } : Session).phase = l.phase from rfl, begun] at early
    cases early
  · intro configured
    rw [show l.phase = .configured from configured] at begun
    cases begun

theorem fail (tied : s.Tied bond pending n) {f : Failure} (clean : f.isBreach = false)
    (bonds : ∀ p : Phase, p.isTerminal = true → bond' p n.status.phase) :
    (s.fail f).Tied bond' pending n := by
  have ended := Lifecycle.isTerminal_fail s.lifecycle f
  refine tied.lifecycle (Phase.begun_of_isTerminal ended) ?_ ?_ (bonds _ ended)
  · intro active
    rw [Phase.isActive_of_isTerminal ended] at active
    cases active
  · by_cases already : s.lifecycle.phase.isTerminal = true
    · rw [Lifecycle.fail_of_isTerminal already]
      exact tied.cause
    · rw [Lifecycle.fail_of_not_isTerminal (by simpa using already)]
      intro g member
      obtain rfl : f = g := by simpa [Lifecycle.cause] using member
      exact clean

theorem cancel (stable : bond.Stable) (tied : s.Tied bond pending n)
    (idle : n.status.phase.isActive = false) : s.cancel.Tied bond.ended pending n := by
  have ended := Lifecycle.isTerminal_cancel s.lifecycle
  have inactive := Phase.isActive_of_isTerminal ended
  refine tied.lifecycle (Phase.begun_of_isTerminal ended) ?_ ?_
    ⟨stable.change tied.bonds (fun _ => inactive) fun _ => .inr idle, inactive⟩
  · intro active
    rw [inactive] at active
    cases active
  · by_cases already : s.lifecycle.phase.isTerminal = true
    · rw [Lifecycle.cancel_of_isTerminal already]
      exact tied.cause
    · rw [Lifecycle.cancel_of_not_isTerminal (by simpa using already)]
      simp [Lifecycle.cause]

/-- The device of a session refused the start, and is not active. -/
theorem refused (tied : s.Tied .resting [] n) (handler : Option (List Reaction)) (fault : DeviceFault)
    (idle : n.status.phase.isActive = false) : (s.refused handler fault).Tied .resting [] n := by
  have without : ({ s with notified := handler.isSome, delivery := none }).Tied .resting [] n :=
    tied.reshape rfl rfl rfl rfl (by simp) (by simp [waiting]) fun _ member => .inl member
  exact without.lifecycle (l := .failed (.device fault)) rfl (fun active => by cases active)
    (by simp [Lifecycle.cause, Failure.isBreach]) fun _ => idle

/-- The device of a session that waits for its start was started. -/
theorem started (tied : s.Tied bond pending n) (handler : Option (List Reaction)) (tag : Int)
    (sound : n'.Sound s.tracked) (ready : n'.status.phase = .ready) :
    (s.armed handler tag).Tied .resting [] n' := by
  refine ⟨sound, ⟨tied.sound.numbering, ?_, tied.sound.stalled⟩, ?_, ?_, ?_, ?_, ?_,
    by simp [armed, Lifecycle.cause], tied.notes⟩
  · intro delivering
    cases handler with
    | none => cases delivering
    | some reactions => exact ⟨rfl, rfl⟩
  · cases handler <;> simp [armed, waiting]
  · intro early
    cases early
  · intro configured
    cases configured
  · intro _
    rw [ready]
    rfl
  · intro idle
    cases idle

end Tied

/-- An active session takes over whatever phase a started device reports. -/
theorem phase_follow {reported : Phase} (active : s.phase.isActive = true) (begun : reported.begun = true)
    (fault : Option DeviceFault) : (s.follow reported fault).phase = reported := by
  unfold phase at active
  cases lifecycle : s.lifecycle with
  | ready | running =>
    cases reported with
    | unconfigured | configured => cases begun
    | failed => simp [follow, Session.fail, phase, lifecycle, Lifecycle.fail, Phase.isTerminal]
    | _ => simp [follow, phase, lifecycle, Lifecycle.follow, Phase.isTerminal]
  | _ => simp [lifecycle, Phase.isActive] at active

theorem follow_reported {reported : Phase} {fault : Option DeviceFault} (active : s.phase.isActive = true)
    (begun : reported.begun = true) (explained : reported = .failed → fault.isSome = true) :
    (s.follow reported fault).phase = reported ∧
      ∀ f ∈ (s.follow reported fault).lifecycle.cause, f.isBreach = false := by
  have phase := phase_follow active begun fault
  refine ⟨phase, ?_⟩
  by_cases failed : reported = .failed
  · obtain ⟨f, rfl⟩ := Option.isSome_iff_exists.1 (explained failed)
    have going : s.lifecycle.phase.isTerminal = false := Phase.isTerminal_of_isActive active
    simp [follow, failed, Session.fail, Lifecycle.fail_of_not_isTerminal going, Lifecycle.cause,
      Failure.isBreach]
  · intro f member
    have cause : (s.follow reported fault).lifecycle.phase = .failed := by
      cases lifecycle : (s.follow reported fault).lifecycle <;> simp [lifecycle, Lifecycle.cause] at member
      rfl
    exact absurd (phase.symm.trans cause) failed

theorem follow_idle {reported : Phase} (idle : s.phase.isActive = false)
    (reach : s.phase.begun = false → reported = s.phase) (fault : Option DeviceFault) :
    s.follow reported fault = s := by
  unfold follow
  by_cases ended : s.lifecycle.phase.isTerminal = true
  · rw [Session.fail, Lifecycle.fail_of_isTerminal ended, Lifecycle.follow_of_isTerminal ended]
    simp
  · have early : s.phase.begun = false := by
      rw [Phase.begun, idle, Bool.false_or]
      simpa [phase] using ended
    obtain rfl := reach early
    have going : s.phase ≠ .failed := by
      intro failed
      rw [failed] at early
      cases early
    rw [if_neg going, phase, Lifecycle.follow_phase]

/-- The session follows to a phase that its device was in. -/
theorem Tied.follow (stable : bond.Stable) (tied : s.Tied bond pending n) (reported : Phase)
    (fault : Option DeviceFault) (reach : s.phase.begun = false → reported = s.phase)
    (begun : s.phase.isActive = true → reported.begun = true)
    (explained : reported = .failed → fault.isSome = true)
    (ended : reported.isTerminal = true → n.status.phase.isActive = false) :
    (s.follow reported fault).Tied bond pending n := by
  by_cases active : s.phase.isActive = true
  · obtain ⟨phase, cause⟩ := follow_reported (s := s) active (begun active) explained
    rw [follow_eq]
    have phase : (s.follow reported fault).lifecycle.phase = reported := phase
    refine tied.lifecycle ?_ (fun _ => tied.begun active) cause ?_
    · rw [phase]
      exact begun active
    · rw [phase]
      -- the session comes to rest only with its device
      refine stable.change tied.bonds (fun idle => ?_) fun idle => .inr (ended ?_)
      · rw [active] at idle
        cases idle
      · by_contra going
        rw [Phase.isActive_of_begun (begun active) (by simpa using going)] at idle
        cases idle
  · -- a session that is not active does not follow
    rw [follow_idle (by simpa using active) reach]
    exact tied

/-- The session takes a report in. It is not malformed, and the notice tells of no breach. -/
theorem Tied.accept (stable : bond.Stable) {report : Report} (tied : s.Tied bond (report :: pending) n)
    (delivering : s.delivery.isSome = true) :
    ∃ notice s', s.accept report = (notice, false, s') ∧ s'.Tied bond pending n ∧
      s'.handle = s.handle ∧ s'.delivery = s.delivery ∧ ∀ f ∈ notice.failure, f.isBreach = false := by
  have fits := tied.fits report (by simp)
  obtain ⟨rows, numbering, tracked, eq⟩ := accept_of_whole tied.sound.numbering fits.whole
  have numbered : ({ s with numbering := numbering }).Tied bond pending n :=
    tied.reshape rfl rfl tracked rfl (fun delivers => ⟨delivers, rfl⟩)
      (fun _ member => List.mem_cons_of_mem _ member) fun _ member => .inl member
  have begun := (tied.sound.delivering delivering).2
  have followed := numbered.follow stable report.phase report.fault
    (fun early => by rw [show s.phase.begun = false from early] at begun; cases begun)
    (fun _ => fits.begun) fits.explained fits.ended
  refine ⟨_, _, eq, followed, ?_, ?_, followed.failure⟩
  · rw [follow_eq]
  · rw [follow_eq]

end Session

end TriggeredSampler
