import TriggeredSampler.Proofs.Device.Scene
import TriggeredSampler.Proofs.Device.Twins
import TriggeredSampler.Proofs.Engine.Conservation

/-! # The rows that a device sampled

A device does not remember the rows that it sampled. An `Observed` scene does: whenever the worker of a
handle ticks, the row that the tick stores is noted, wherever it goes from there.

* `Node.sampledInPass`, `Node.sampledInStop` — the rows of a millisecond, and of a stop.
* `Observed.device` — simulated devices that are observed.
* `Node.Accounted` — the rows that were handed out and those that wait are the rows sampled.
* `Observed.announce_goes`, `Observed.announce_stop` — everything that happens to the device keeps that.
-/

namespace TriggeredSampler

open Engine (rowsIn rowIn)

/-! ## The rows that wait -/

namespace Batch

variable {tracked : Nat} {data : List Batch} {batch : Batch}

/-- A batch that is joined adds its rows. -/
theorem rows_join (whole : wholeSamples tracked data = true) :
    (join data batch).flatMap (rowsIn tracked) = data.flatMap (rowsIn tracked) ++ rowsIn tracked batch := by
  induction data with
  | nil => simp [join]
  | cons first rest ih =>
    rw [wholeSamples, List.all_cons, Bool.and_eq_true] at whole
    cases rest with
    | nil =>
      unfold join
      split
      next same =>
        simp only [List.flatMap_singleton, rowsIn, cut_whole _ whole.1, List.map_append, same]
      next => simp
    | cons second rest =>
      have joined : join (first :: second :: rest) batch = first :: join (second :: rest) batch := rfl
      rw [joined, List.flatMap_cons, ih whole.2, ← List.append_assoc, ← List.flatMap_cons]

theorem filled_join (filled : ∀ b ∈ data, b.readings ≠ []) (more : batch.readings ≠ []) :
    ∀ b ∈ join data batch, b.readings ≠ [] := by
  induction data with
  | nil => simpa [join] using more
  | cons first rest ih =>
    obtain ⟨head, tail⟩ := List.forall_mem_cons.1 filled
    cases rest with
    | nil =>
      unfold join
      split
      next => simp [head]
      next => simp [head, more]
    | cons second rest =>
      have joined : join (first :: second :: rest) batch = first :: join (second :: rest) batch := rfl
      rw [joined, List.forall_mem_cons]
      exact ⟨head, ih tail⟩

/-- Data without rows is no data, if every batch has some. -/
theorem eq_nil_of_rows (some : 0 < tracked) (whole : wholeSamples tracked data = true)
    (filled : ∀ b ∈ data, b.readings ≠ []) (none : data.flatMap (rowsIn tracked) = []) : data = [] := by
  cases data with
  | nil => rfl
  | cons first rest =>
    rw [wholeSamples, List.all_cons, Bool.and_eq_true] at whole
    have length := List.length_pos_iff.2 (filled first List.mem_cons_self)
    simp only [Bool.and_eq_true, beq_iff_eq] at whole
    obtain ⟨count, eq⟩ := Nat.dvd_of_mod_eq_zero whole.1.2
    have positive : count ≠ 0 := by
      rintro rfl
      omega
    obtain ⟨count, rfl⟩ := Nat.exists_eq_succ_of_ne_zero positive
    simp [rowsIn, eq, Nat.mul_div_cancel_left _ some, cut] at none

end Batch

namespace Status

variable {tracked : Nat} {s : Status} {batches : List Batch}

theorem rows_buffer (whole : wholeSamples tracked s.data = true)
    (more : wholeSamples tracked batches = true) :
    (s.buffer batches).data.flatMap (rowsIn tracked) =
      s.data.flatMap (rowsIn tracked) ++ batches.flatMap (rowsIn tracked) := by
  unfold buffer
  simp only
  generalize s.data = data at whole ⊢
  -- by induction on the batches that are joined
  induction batches generalizing data with
  | nil => simp
  | cons batch rest ih =>
    rw [← List.singleton_append, wholeSamples_append, Bool.and_eq_true] at more
    rw [List.foldl_cons, ih more.2 _ (Node.wholeSamples_join whole more.1), Batch.rows_join whole,
      List.append_assoc, ← List.flatMap_cons]

theorem filled_buffer (filled : ∀ b ∈ s.data, b.readings ≠ []) (more : ∀ b ∈ batches, b.readings ≠ []) :
    ∀ b ∈ (s.buffer batches).data, b.readings ≠ [] := by
  unfold buffer
  simp only
  generalize s.data = data at filled ⊢
  induction batches generalizing data with
  | nil => exact filled
  | cons batch rest ih =>
    obtain ⟨head, tail⟩ := List.forall_mem_cons.1 more
    exact ih tail _ (Batch.filled_join filled head)

end Status

namespace Engine

variable {ρ : Type} {c : Configuration} {e : Engine} {m : Numbering}

/-- What is handed out behind a tick holds the row that it stored, and no empty batch. -/
theorem Drained.rows_handed (drained : e.Drained c m) (source : Source ρ) (now : Nat) (r : ρ) :
    ((e.tick source now r).engine.takeData.1.flatMap (rowsIn c.tracked.length) =
      (if (e.tick source now r).sampled then [e.sampledBy source now r] else []).map rowIn) ∧
    ∀ batch ∈ (e.tick source now r).engine.takeData.1, batch.readings ≠ [] := by
  have handed := drained.handed source now r
  have some := drained.width
  by_cases sampled : (e.tick source now r).sampled = true
  · rw [if_pos sampled] at handed
    obtain ⟨width, batch⟩ := handed
    have one : Batch.cut c.tracked.length (c.tracked.length / c.tracked.length)
        (e.sampledBy source now r).row = [(e.sampledBy source now r).row] := by
      rw [Nat.div_self some]
      simp [Batch.cut, ← width]
    rw [batch, if_pos sampled]
    refine ⟨?_, ?_⟩
    · rw [List.flatMap_singleton, rowsIn, width, one]
      rfl
    · simpa [← List.length_pos_iff, width] using some
  · rw [if_neg sampled] at handed
    rw [handed, if_neg sampled]
    exact ⟨rfl, List.forall_mem_nil _⟩

end Engine

/-! ## The rows that are sampled -/

namespace Node

/-- The row that a tick of the worker stores, if it stores one. -/
def sampledInTick (n : Node) (w : Worker) : List Sampled :=
  let source : Source Unit := fun a r => (n.read a, r)
  let now := w.ticks * w.engine.configuration.period.toNat
  if (w.engine.tick source now ()).sampled then [w.engine.sampledBy source now ()] else []

/-- The row that is sampled in a millisecond. -/
def sampledInPass (n : Node) : List Sampled :=
  match n.worker with
  | none => []
  | some w => if w.engine.phase.isTerminal || w.pause != 0 then [] else n.sampledInTick w

/-- The row that is sampled by a stop, which lets a worker tick that did not. -/
def sampledInStop (n : Node) : List Sampled :=
  match n.worker with
  | none => []
  | some w => if w.ticks = 0 && !w.engine.phase.isTerminal then n.sampledInTick w else []

end Node

/-- The rows that the device of a handle samples during an incident. -/
def Incident.sampled (h : Handle) (incident : Incident) (s : Simulation) : List Sampled :=
  match incident with
  | .pass => ((s.node? h).map Node.sampledInPass).getD []
  | _ => []

/-- The rows that are sampled during several incidents. -/
def Incident.sampledAll (h : Handle) : List Incident → Simulation → List Sampled
  | [], _ => []
  | incident :: rest, s => incident.sampled h s ++ sampledAll h rest (incident.occur s).2

namespace Scene

/-- The rows that are sampled before the next request. -/
def sampledNext (h : Handle) (scene : Scene) : List Sampled :=
  Incident.sampledAll h (scene.ahead.headD []) scene.simulation

/-- The rows that are sampled before a request is answered: behind the incidents, only a stop lets the
device sample. -/
def sampledIn (h own : Handle) (r : Request) (scene : Scene) : List Sampled :=
  scene.sampledNext h ++
    if own = h ∧ r = .stop then ((scene.next.2.node? h).map Node.sampledInStop).getD [] else []

/-- The rows that are sampled in a millisecond, behind some incidents. -/
def sampledInAdvance (h : Handle) (scene : Scene) : List Sampled :=
  scene.sampledNext h ++ Incident.pass.sampled h scene.next.2.simulation

end Scene

/-- A scene with the rows that the device of a handle has sampled. -/
structure Observed where
  scene : Scene
  sampled : List Sampled

namespace Observed

/-- Simulated devices, of which that of the handle `h` is observed. They behave as if they were not. -/
def device (h : Handle) : Device Observed where
  announce own r o :=
    let (reports, scene) := o.scene.announce own r
    (reports, ⟨scene, o.sampled ++ o.scene.sampledIn h own r⟩)
  answer own r o :=
    let (result, scene) := o.scene.answer own r
    (result, { o with scene := scene })
  sent _ _ _ o := o
  advance o :=
    let (raised, scene) := o.scene.advance
    (raised, ⟨scene, o.sampled ++ o.scene.sampledInAdvance h⟩)
  holdsOn _ _ := false

end Observed

/-! ## The account of a device -/

namespace Node

variable {c : Configuration} {past : List (Nat × List Reading)}
  {sampled sampled' sampled'' more : List Sampled} {n n' n'' : Node} {w : Worker}

/-- The rows that were handed out, `past`, and those that wait are the rows sampled. A worker that is not
over is polled, and keeps no row to itself between two ticks. -/
structure Accounted (c : Configuration) (past : List (Nat × List Reading)) (sampled : List Sampled)
    (n : Node) : Prop where
  valid : c.validate = .ok ()
  sound : n.Sound c.tracked.length
  stored : n.record = some c.encode
  account : past ++ n.status.data.flatMap (rowsIn c.tracked.length) = sampled.map rowIn
  filled : ∀ batch ∈ n.status.data, batch.readings ≠ []
  polled : ∀ w, n.worker = some w → w.engine.phase.isTerminal = false →
    w.reported = false ∧ ∃ m, w.engine.Drained c m

/-- What becomes of an accounted device that nobody stops: it raises nothing, and one that is at rest
samples nothing. -/
structure Goes (c : Configuration) (past : List (Nat × List Reading)) (n : Node) (sampled : List Sampled)
    (n' : Node) (sampled' : List Sampled) : Prop where
  accounted : n'.Accounted c past sampled'
  drifts : n.Drifts c.tracked.length n' []
  rests : n.status.phase.isActive = false → n'.status.data = n.status.data ∧ sampled' = sampled

theorem Accounted.refl (accounted : n.Accounted c past sampled) : Goes c past n sampled n sampled :=
  ⟨accounted, accounted.sound.refl, fun _ => ⟨rfl, rfl⟩⟩

theorem Goes.trans (first : Goes c past n sampled n' sampled')
    (second : Goes c past n' sampled' n'' sampled'') : Goes c past n sampled n'' sampled'' := by
  refine ⟨second.accounted, first.drifts.trans second.drifts, fun idle => ?_⟩
  obtain ⟨data, same⟩ := first.rests idle
  obtain ⟨data', same'⟩ := second.rests (first.drifts.idle idle).1
  exact ⟨data'.trans data, same'.trans same⟩

/-- Neither the status nor the worker's engine changes. -/
theorem Accounted.keeps (accounted : n.Accounted c past sampled) (status : n'.status = n.status)
    (record : n'.record = n.record) (worker : ∀ w', n'.worker = some w' → ∃ w, n.worker = some w ∧
      w'.engine = w.engine ∧ w'.reported = w.reported) (engine : n'.engine? = n.engine?) :
    Goes c past n sampled n' sampled := by
  have drifts : n.Drifts c.tracked.length n' [] := accounted.sound.drifts (by rw [status])
    (by rw [status]) (by rw [status]; exact accounted.sound.whole) engine record
  refine ⟨⟨accounted.valid, drifts.sound, record.trans accounted.stored, ?_, ?_, ?_⟩, drifts,
    fun _ => ⟨by rw [status], rfl⟩⟩
  · rw [status]
    exact accounted.account
  · rw [status]
    exact accounted.filled
  · intro w' found going
    obtain ⟨w, found, same, reported⟩ := worker w' found
    rw [same] at going ⊢
    rw [reported]
    exact accounted.polled w found going

/-! ### Ticks -/

/-- An active worker publishes what its engine hands out, which are the rows `more`. -/
theorem Accounted.publish (accounted : n.Accounted c past sampled) (more : List Sampled)
    (active : n.status.phase.isActive = true) (polled : w.reported = false)
    (works : Works c.tracked.length w.engine) (changed : Bool)
    (rows : w.engine.takeData.1.flatMap (rowsIn c.tracked.length) = more.map rowIn)
    (filled : ∀ batch ∈ w.engine.takeData.1, batch.readings ≠ [])
    (drained : w.engine.phase.isTerminal = false → ∃ m, w.engine.takeData.2.Drained c m) :
    (n.publish w changed).1 = [] ∧ Goes c past n sampled (n.publish w changed).2 (sampled ++ more) := by
  obtain ⟨-, whole, phase, -⟩ := works.takeData
  have drifts := (publish_drifts accounted.sound active works changed).1
  have account : past ++ (n.status.buffer w.engine.takeData.1).data.flatMap (rowsIn c.tracked.length) =
      (sampled ++ more).map rowIn := by
    rw [Status.rows_buffer accounted.sound.whole whole, ← List.append_assoc, accounted.account, rows,
      List.map_append]
  rw [publish_of_polled polled] at drifts ⊢
  refine ⟨rfl, ⟨accounted.valid, drifts.sound, accounted.stored, account,
    Status.filled_buffer accounted.filled filled, ?_⟩, drifts, by simp [active]⟩
  · rintro w' found going
    obtain rfl := Option.some.inj found
    rw [show w.engine.takeData.2.phase = w.engine.phase from phase] at going
    exact ⟨polled, drained going⟩

theorem Accounted.tick (accounted : n.Accounted c past sampled) (worker : n.worker = some w)
    (going : w.engine.phase.isTerminal = false) :
    (n.tick w).1 = [] ∧ Goes c past n sampled (n.tick w).2 (sampled ++ n.sampledInTick w) := by
  obtain ⟨active, works⟩ := accounted.sound.active (e := w.engine) (by rw [engine?, worker]; rfl) going
  obtain ⟨c', width, tidy⟩ := works.tidy
  obtain ⟨polled, m, drained⟩ := accounted.polled w worker going
  have ticked : Works c.tracked.length (n.ticked w).engine :=
    ⟨Engine.begun_tick _ _ _ works.begun, c', width, (tidy.call () (.tick _ _)).1⟩
  obtain ⟨rows, filled⟩ := drained.rows_handed (fun a r => (n.read a, r))
    (w.ticks * w.engine.configuration.period.toNat) ()
  have after : ∃ m, (n.ticked w).engine.takeData.2.Drained c m := by
    rcases drained.tick (Phase.isActive_of_begun works.begun going) (fun a r => (n.read a, r))
      (w.ticks * w.engine.configuration.period.toNat) () with ⟨-, after⟩ | ⟨_, -, -, after⟩
    · exact ⟨_, after⟩
    · exact ⟨_, after⟩
  exact accounted.publish (w := n.ticked w) _ active polled ticked _ rows filled fun _ => after

/-- A worker that is cancelled between two ticks has nothing left to hand out. -/
theorem Accounted.cancel (accounted : n.Accounted c past sampled) (worker : n.worker = some w)
    (going : w.engine.phase.isTerminal = false) :
    (n.cancel w).1 = [] ∧ (n.cancel w).2.Accounted c past sampled := by
  obtain ⟨active, works⟩ := accounted.sound.active (e := w.engine) (by rw [engine?, worker]; rfl) going
  obtain ⟨c', width, tidy⟩ := works.tidy
  obtain ⟨polled, m, drained⟩ := accounted.polled w worker going
  have ended : w.engine.cancel.2.phase.isTerminal = true := Lifecycle.isTerminal_cancel w.engine.lifecycle
  have cancelled : Works c.tracked.length w.engine.cancel.2 :=
    ⟨Phase.begun_of_isTerminal ended, c', width, (tidy.call () (.cancel : Call Unit)).1⟩
  have nothing := drained.handed_cancel
  have published := accounted.publish (w := { w with engine := w.engine.cancel.2 }) [] active polled cancelled
    true (by rw [nothing]; rfl) (by rw [nothing]; exact List.forall_mem_nil _) (by simp [ended])
  rw [List.append_nil] at published
  exact ⟨published.1, published.2.accounted⟩

/-! ### Passing time -/

theorem Accounted.pass (accounted : n.Accounted c past sampled) :
    n.pass.1 = [] ∧ Goes c past n sampled n.pass.2 (sampled ++ n.sampledInPass) := by
  cases worker : n.worker with
  | none =>
    have passes : n.pass = ([], { n with age := n.age + 1 }) := by simp [Node.pass, worker]
    rw [passes, sampledInPass, worker, List.append_nil]
    exact ⟨rfl, accounted.keeps rfl rfl (by simp) (by simp [engine?, worker])⟩
  | some w =>
    by_cases idle : w.engine.phase.isTerminal = true ∨ w.pause ≠ 0
    · obtain ⟨pause, passes, -⟩ := pass_of_idle worker idle
      have none : n.sampledInPass = [] := by
        simp only [sampledInPass, worker]
        rw [if_pos (by simpa using idle)]
      rw [passes, none, List.append_nil]
      refine ⟨rfl, accounted.keeps rfl rfl ?_ (by simp [engine?, worker])⟩
      rintro w' found
      obtain rfl := Option.some.inj found
      exact ⟨w, worker, rfl, rfl⟩
    · obtain ⟨going, due⟩ := not_or.1 idle
      have going : w.engine.phase.isTerminal = false := by simpa using going
      have due : w.pause = 0 := by simpa using due
      have one : n.sampledInPass = n.sampledInTick w := by simp [sampledInPass, worker, going, due]
      obtain ⟨silent, ticks⟩ := accounted.tick worker going
      rw [pass_of_due worker going due, one]
      -- counting the time until the next tick changes nothing that is seen
      refine ⟨silent, ticks.trans (ticks.accounted.keeps rfl rfl ?_ ?_)⟩
      · rintro w' found
        obtain ⟨w'', found', rfl⟩ := Option.map_eq_some_iff.1 found
        exact ⟨w'', found', rfl, rfl⟩
      · simp only [engine?, Option.map_map]
        rfl

/-! ### Stopping -/

/-- Without a worker nothing else counts. -/
theorem Accounted.dismiss (accounted : n.Accounted c past sampled) (sound : n'.Sound c.tracked.length)
    (record : n'.record = n.record) (data : n'.status.data = n.status.data) (worker : n'.worker = none) :
    n'.Accounted c past sampled := by
  refine ⟨accounted.valid, sound, record.trans accounted.stored, ?_, ?_, by simp [worker]⟩
  · rw [data]
    exact accounted.account
  · rw [data]
    exact accounted.filled

/-- The last publication of a worker takes the rest with it, so a stop loses nothing. -/
theorem Accounted.stop (accounted : n.Accounted c past sampled) :
    n.stop.1 = [] ∧ n.stop.2.Accounted c past (sampled ++ n.sampledInStop) := by
  have sound := (stop_moves accounted.sound).1.sound
  unfold Node.stop sampledInStop at *
  cases worker : n.worker with
  | none =>
    simp only [worker] at sound ⊢
    rw [List.append_nil]
    refine ⟨trivial, accounted.dismiss sound ?_ ?_ ?_⟩ <;> split <;> first | rfl | exact worker
  | some w =>
    simp only [worker] at sound ⊢
    -- the first tick of a worker that has not ticked yet
    have ticks : (if (w.ticks = 0 && !w.engine.phase.isTerminal) = true then n.tick w else ([], n)).1 = [] ∧
        (if (w.ticks = 0 && !w.engine.phase.isTerminal) = true then n.tick w else ([], n)).2.Accounted c past
          (sampled ++
            if (w.ticks = 0 && !w.engine.phase.isTerminal) = true then n.sampledInTick w else []) := by
      split
      next first =>
        simp only [Bool.and_eq_true, Bool.not_eq_true'] at first
        obtain ⟨silent, ticks⟩ := accounted.tick worker first.2
        exact ⟨silent, ticks.accounted⟩
      next => exact ⟨rfl, by rw [List.append_nil]; exact accounted⟩
    generalize (if (w.ticks = 0 && !w.engine.phase.isTerminal) = true then n.tick w else ([], n)) = ticked,
      (if (w.ticks = 0 && !w.engine.phase.isTerminal) = true then n.sampledInTick w else []) = last
      at ticks sound ⊢
    obtain ⟨reports, n'⟩ := ticked
    obtain ⟨rfl, ticks⟩ := ticks
    simp only [List.nil_append] at ticks sound ⊢
    cases worker' : n'.worker with
    | none =>
      simp only [worker'] at sound ⊢
      exact ⟨trivial, ticks.dismiss sound rfl rfl rfl⟩
    | some w' =>
      simp only [worker'] at sound ⊢
      split at sound
      next ended =>
        rw [if_pos ended]
        exact ⟨rfl, ticks.dismiss sound rfl rfl rfl⟩
      next going =>
        rw [if_neg going]
        obtain ⟨silent, cancelled⟩ := ticks.cancel worker' (by simpa using going)
        exact ⟨silent, cancelled.dismiss sound rfl rfl rfl⟩

/-- The stop of a sampler that is not active changes no data. -/
theorem Accounted.stop_idle (accounted : n.Accounted c past sampled)
    (idle : n.status.phase.isActive = false) :
    n.sampledInStop = [] ∧ n.stop.2.status.data = n.status.data := by
  cases worker : n.worker with
  | none =>
    simp only [sampledInStop, Node.stop, worker, true_and]
    split <;> rfl
  | some w =>
    have ended := accounted.sound.isTerminal_engine idle (e := w.engine) (by rw [engine?, worker]; rfl)
    simp [sampledInStop, Node.stop, worker, ended]

/-! ### Answers -/

/-- The data that is handed out waits no longer. -/
theorem Accounted.data (accounted : n.Accounted c past sampled) :
    ({ n with status := { n.status with data := [] } } : Node).Accounted c
      (past ++ n.status.data.flatMap (rowsIn c.tracked.length)) sampled := by
  have drifts := answer_drifts accounted.sound (r := .data) rfl
  exact ⟨accounted.valid, drifts.sound, accounted.stored, by simpa using accounted.account, nofun,
    accounted.polled⟩

/-- A request that neither steers the sampler nor takes its data. -/
theorem Accounted.answer (accounted : n.Accounted c past sampled) {r : Request} (other : r.steers = false)
    (quiet : r ≠ .data) : Goes c past n sampled (n.answer r).2 sampled := by
  cases r with
  | configure | start | stop => cases other
  | data => exact absurd rfl quiet
  | write | configuration | phase | fault =>
    exact accounted.keeps rfl rfl (fun w found => ⟨w, found, rfl, rfl⟩) rfl

/-- An inactive sampler without data starts to be polled, or refuses and stays as it is. -/
theorem Accounted.start (accounted : n.Accounted c past sampled) (idle : n.status.phase.isActive = false)
    (empty : n.status.data = []) (tag : Int) :
    (∃ fault n', n.start false tag = (.error fault, n') ∧ Goes c past n sampled n' sampled) ∨
      ∃ n', n.start false tag = (.ok (), n') ∧ n'.Accounted c past sampled ∧ n'.status.phase = .ready := by
  have fits := (Configuration.validate_eq_ok_iff.1 accounted.valid).2.2.1
  have starts := start_starts ⟨accounted.sound, idle, c, accounted.stored, fits, rfl⟩ false tag
  unfold Node.start at starts ⊢
  split
  next => exact .inl ⟨_, _, rfl, accounted.keeps rfl rfl (fun w found => ⟨w, found, rfl, rfl⟩) rfl⟩
  next accepts =>
    rw [if_neg (by simp [idle])]
    rw [if_neg accepts, if_neg (by simp [idle])] at starts
    cases armed : n.armedEngine with
    | error fault => exact .inl ⟨fault, n, rfl, accounted.refl⟩
    | ok e =>
      obtain ⟨made, accepted, arms⟩ := armedEngine_eq_ok accounted.stored fits armed
      simp only [armed] at starts ⊢
      obtain ⟨_, _, refused, _⟩ | ⟨_, started, sound, ready⟩ := starts
      · cases refused
      cases started
      refine .inr ⟨_, rfl, ⟨accounted.valid, sound, accounted.stored, ?_, nofun, ?_⟩, rfl⟩
      · simpa [empty] using accounted.account
      · rintro w found _
        obtain rfl := Option.some.inj found
        exact ⟨rfl, _, .of_new accepted arms⟩

end Node

/-! ## The device of a handle -/

variable {c : Configuration} {past : List (Nat × List Reading)} {sampled : List Sampled} {n : Node}
  {h own : Handle}

namespace Simulation

variable {s : Simulation}

/-- Neither the status nor the worker of a device changes. -/
theorem change_goes (accounted : n.Accounted c past sampled) (node : s.node? h = some n) {f : Node → Node}
    (status : (f n).status = n.status) (worker : (f n).worker = n.worker) (record : (f n).record = n.record) :
    ∃ n', (s.change own f).2.node? h = some n' ∧ n.Goes c past sampled n' sampled := by
  unfold change
  cases found : s.node? own with
  | none => exact ⟨n, node, accounted.refl⟩
  | some n' =>
    by_cases same : own = h
    · subst same
      obtain rfl := Option.some.inj (node.symm.trans found)
      refine ⟨f n, node?_putNode node _, accounted.keeps status record ?_ (by rw [Node.engine?, worker]; rfl)⟩
      intro w found
      exact ⟨w, worker.symm.trans found, rfl, rfl⟩
    · exact ⟨n, by rw [node?_putNode_of_ne same]; exact node, accounted.refl⟩

end Simulation

namespace Incident

variable {s : Simulation}

theorem occur_goes (accounted : n.Accounted c past sampled) (node : s.node? h = some n) (incident : Incident) :
    reportsOf h (incident.occur s).1 = [] ∧
      ∃ n', (incident.occur s).2.node? h = some n' ∧
        n.Goes c past sampled n' (sampled ++ incident.sampled h s) := by
  by_cases time : incident = .pass
  · subst time
    obtain ⟨passed, reports⟩ := Simulation.advance_node node
    obtain ⟨silent, goes⟩ := accounted.pass
    have rows : Incident.pass.sampled h s = n.sampledInPass := by simp [Incident.sampled, node]
    rw [rows]
    exact ⟨reports.trans silent, n.pass.2, passed, goes⟩
  have nothing : incident.sampled h s = [] := by
    cases incident <;> first | rfl | exact absurd rfl time
  rw [nothing, List.append_nil]
  by_cases device : incident = .connect
  · subst device
    exact ⟨rfl, n, Simulation.node?_connect_of_some node, accounted.refl⟩
  obtain nothing | ⟨own, f, changed, same⟩ := occur_change time device s
  · rw [nothing]
    exact ⟨rfl, n, node, accounted.refl⟩
  · rw [changed]
    obtain ⟨status, worker, record, _⟩ := same n
    exact ⟨rfl, Simulation.change_goes accounted node status worker record⟩

theorem occurAll_goes (accounted : n.Accounted c past sampled) (node : s.node? h = some n)
    (incidents : List Incident) :
    reportsOf h (occurAll incidents s).1 = [] ∧
      ∃ n', (occurAll incidents s).2.node? h = some n' ∧
        n.Goes c past sampled n' (sampled ++ sampledAll h incidents s) := by
  -- by induction on the incidents
  induction incidents generalizing s n sampled with
  | nil =>
    rw [sampledAll, List.append_nil]
    exact ⟨rfl, n, node, accounted.refl⟩
  | cons incident rest ih =>
    obtain ⟨silent, n', node', first⟩ := occur_goes accounted node incident
    obtain ⟨silent', n'', node'', others⟩ := ih first.accounted node'
    refine ⟨?_, n'', node'', ?_⟩
    · simp only [occurAll, reportsOf_append, silent, silent', List.append_nil]
    · rw [sampledAll, ← List.append_assoc]
      exact first.trans others

end Incident

namespace Observed

variable {o : Observed}

/-- The device before the next request. -/
theorem next_goes (accounted : n.Accounted c past o.sampled) (node : o.scene.node? h = some n) :
    reportsOf h o.scene.next.1 = [] ∧ ∃ n', o.scene.next.2.node? h = some n' ∧
      n.Goes c past o.sampled n' (o.sampled ++ o.scene.sampledNext h) :=
  Incident.occurAll_goes accounted node _

/-- Before any request but a stop is answered the device goes on, and raises nothing. -/
theorem announce_goes (accounted : n.Accounted c past o.sampled) (node : o.scene.node? h = some n)
    {r : Request} (other : r ≠ .stop) :
    ((device h).announce h r o).1 = [] ∧ ∃ n', ((device h).announce h r o).2.scene.node? h = some n' ∧
      n.Goes c past o.sampled n' ((device h).announce h r o).2.sampled := by
  obtain ⟨silent, n', node', goes⟩ := next_goes accounted node
  have raised : n'.announce r = ([], n') := by cases r <;> first | rfl | exact absurd rfl other
  have found : o.scene.next.2.simulation.node? h = some n' := node'
  simp only [device, Scene.announce, Simulation.announce, found, raised, silent, Scene.sampledIn, other,
    and_false, if_false, List.append_nil]
  exact ⟨trivial, n', Simulation.node?_putNode node' n', goes⟩

/-- Before a stop is answered the sampler is inactive, and every row is accounted for. -/
theorem announce_stop (accounted : n.Accounted c past o.sampled) (node : o.scene.node? h = some n) :
    ((device h).announce h .stop o).1 = [] ∧ ∃ n', ((device h).announce h .stop o).2.scene.node? h = some n' ∧
      n'.Accounted c past ((device h).announce h .stop o).2.sampled ∧ n'.status.phase.isActive = false ∧
      (n.status.phase.isActive = false →
        n'.status.data = n.status.data ∧ ((device h).announce h .stop o).2.sampled = o.sampled) := by
  obtain ⟨silent, n', node', goes⟩ := next_goes accounted node
  obtain ⟨quiet, stopped⟩ := goes.accounted.stop
  have found : o.scene.next.2.simulation.node? h = some n' := node'
  have last : o.scene.sampledIn h h .stop = o.scene.sampledNext h ++ n'.sampledInStop := by
    simp [Scene.sampledIn, node']
  simp only [device, Scene.announce, Simulation.announce, found, silent, Node.announce, quiet, last,
    List.append_nil, ← List.append_assoc]
  refine ⟨trivial, n'.stop.2, Simulation.node?_putNode node' _, stopped,
    (Node.stop_moves goes.accounted.sound).2, ?_⟩
  intro idle
  obtain ⟨none, data⟩ := goes.accounted.stop_idle (goes.drifts.idle idle).1
  obtain ⟨same, rows⟩ := goes.rests idle
  exact ⟨data.trans same, by rw [none, List.append_nil, rows]⟩

theorem answer_eq (node : o.scene.node? h = some n) (r : Request) :
    ((device h).answer h r o).1 = (n.answer r).1 ∧
      ((device h).answer h r o).2.scene.node? h = some (n.answer r).2 ∧
      ((device h).answer h r o).2.sampled = o.sampled := by
  obtain ⟨answer, after⟩ := Scene.answer_eq node r
  exact ⟨answer, after, rfl⟩

theorem advance_goes (accounted : n.Accounted c past o.sampled) (node : o.scene.node? h = some n) :
    reportsOf h ((device h).advance o).1 = [] ∧ ∃ n', ((device h).advance o).2.scene.node? h = some n' ∧
      n.Goes c past o.sampled n' ((device h).advance o).2.sampled := by
  obtain ⟨silent, n', node', goes⟩ := next_goes accounted node
  obtain ⟨silent', n'', node'', passes⟩ := Incident.occur_goes goes.accounted node' .pass
  refine ⟨?_, n'', node'', ?_⟩
  · simp only [device, Scene.advance, reportsOf_append, silent, List.nil_append]
    exact silent'
  · simp only [device, Scene.sampledInAdvance, ← List.append_assoc]
    exact goes.trans passes

end Observed

end TriggeredSampler
