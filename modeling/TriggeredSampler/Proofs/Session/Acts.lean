import TriggeredSampler.Proofs.Device.Observed
import TriggeredSampler.Proofs.Sample.Counting
import TriggeredSampler.Proofs.Session.Alike.Operations
import TriggeredSampler.Proofs.Session.Coupling

/-! # What happens to a session, and what it replies

The `Act`s of a history are the turns of a session, and polls in the middle of which the run is stopped. They
happen to a session at its devices, or at devices that are observed, which makes no difference to the session.

* `Act.occurAll` — several acts, with their replies.
* `Act.handed` — the rows that the replies hand out.
* `Act.occurAll_observed` — observing the devices changes nothing.
-/

namespace TriggeredSampler

open Engine (rowsIn)

variable {σ : Type}

/-! ## Rows without their numbers -/

/-- A row with its iteration, but without its number. -/
def Row.unnumbered (row : Row) : Nat × List Reading := (row.iteration, row.readings)

namespace Numbering

theorem map_unnumbered_numberSamples (n : Numbering) (samples : List (List Reading)) :
    (n.numberSamples samples).1.map Row.unnumbered = samples.map (Prod.mk n.iteration) := by
  induction samples generalizing n with
  | nil => rfl
  | cons sample rest ih =>
    have others := ih { n with next := n.next + 1 }
    rw [numberSamples, List.map_cons, others, List.map_cons, Row.unnumbered]

/-- Numbering neither drops nor moves a row. -/
theorem map_unnumbered_number {n n' : Numbering} {data : List Batch} {rows : List Row}
    (numbers : n.number data = (.ok rows, n')) :
    rows.map Row.unnumbered = data.flatMap (rowsIn n.tracked) := by
  -- by induction on the batches
  induction data generalizing n rows with
  | nil =>
    cases numbers
    rfl
  | cons batch rest ih =>
    obtain ⟨samples, more, split, others, rfl⟩ := number_cons_eq_ok numbers
    have behind := ih others
    rw [tracked_numberSamples, tracked_enter] at behind
    have cut : samples = Batch.cut n.tracked (batch.readings.length / n.tracked) batch.readings := by
      unfold Batch.samples at split
      split at split
      · cases split
      · exact (Except.ok.inj split).symm
    rw [List.map_append, map_unnumbered_numberSamples, iteration_enter, behind, List.flatMap_cons, rowsIn, cut]

end Numbering

/-- The rows that a poll handed out, if it succeeded. -/
def Reply.handed? (width : Nat) : Reply → Option (List (Nat × List Reading))
  | .batches (.ok data) => some (data.flatMap (rowsIn width))
  | .rows (.ok numbered) => some (numbered.map Row.unnumbered)
  | _ => none

/-! ## Acts -/

/-- Devices, with what incidents do to them. -/
structure World (σ : Type) where
  device : Device σ
  befall : List Incident → σ → List (Handle × Report) × σ

def Scene.world : World Scene where
  device := device
  befall incidents scene :=
    let (raised, s) := Incident.occurAll incidents scene.simulation
    (raised, { scene with simulation := s })

def Observed.world (h : Handle) : World Observed where
  device := device h
  befall incidents o :=
    let (raised, scene) := Scene.world.befall incidents o.scene
    (raised, ⟨scene, o.sampled ++ Incident.sampledAll h incidents o.scene.simulation⟩)

/-- Something that happens to a session. -/
inductive Act where
  | turn (turn : Turn)
  /-- A poll, with numbered rows or without. Between its two requests the run is stopped through a handle. -/
  | pollHalted (numbered : Bool)

namespace Station

/-- The line of an owner whose run is stopped through a handle just before the data is asked for. -/
def lineHalting (dev : Device σ) : Line σ := fun r st =>
  match r with
  | .data => line dev .data (st.halt dev).2
  | r => line dev r st

/-- A poll of an owner whose run is stopped between the two requests. -/
def pollHalted (dev : Device σ) (numbered : Bool) (st : Station σ) : Reply × Station σ :=
  if numbered then (st.pollRowsAt (lineHalting dev)).map .rows id
  else (st.poll (lineHalting dev)).map .batches id

theorem poll_lineHalting (dev : Device σ) (st : Station σ) :
    st.poll (lineHalting dev) =
      if st.session.notified then (.error (.misuse .pollWithHandler), st)
      else if st.session.phase = .unconfigured then (.error (.misuse .notConfigured), st)
      else
        match st.refresh (line dev) with
        | (.error f, st) => (.error f, st)
        | (.ok _, st) => (st.halt dev).2.fetch (line dev) := rfl

end Station

namespace Act

/-- An act, and the reply of a call. -/
def occur (w : World σ) (act : Act) (st : Station σ) : Option Reply × Station σ :=
  match act with
  | .turn (.perform command) =>
    if st.session.live then (st.perform w.device command).map some id else (none, st)
  | .turn .halt => (st.halt w.device).map (fun result => some (.finished result)) id
  | .turn (.pass milliseconds) => (none, st.elapse w.device milliseconds)
  | .turn (.befall incidents) =>
    let (raised, device) := w.befall incidents st.device
    (none, raised.foldl (Station.overhear w.device) { st with device := device })
  | .turn .close => (none, st.close w.device)
  | .pollHalted numbered =>
    if st.session.live then (st.pollHalted w.device numbered).map some id else (none, st)

/-- Several acts, and those that were replied to. -/
def occurAll (w : World σ) : List Act → Station σ → List (Act × Reply) × Station σ
  | [], st => ([], st)
  | act :: rest, st =>
    let (reply, st) := act.occur w st
    let (replies, st) := occurAll w rest st
    ((reply.map (Prod.mk act)).toList ++ replies, st)

theorem occurAll_append (w : World σ) (acts more : List Act) (st : Station σ) :
    occurAll w (acts ++ more) st =
      ((occurAll w acts st).1 ++ (occurAll w more (occurAll w acts st).2).1,
        (occurAll w more (occurAll w acts st).2).2) := by
  induction acts generalizing st with
  | nil => rfl
  | cons act rest ih => simp only [List.cons_append, occurAll, ih, List.append_assoc]

/-- The rows that were handed out with some replies. -/
def handed (width : Nat) (replies : List (Act × Reply)) : List (Nat × List Reading) :=
  replies.flatMap fun entry => (entry.2.handed? width).getD []

theorem handed_append (width : Nat) (replies more : List (Act × Reply)) :
    handed width (replies ++ more) = handed width replies ++ handed width more := List.flatMap_append

theorem handed_reply (width : Nat) (act : Act) (reply : Option Reply) :
    handed width (reply.map (Prod.mk act)).toList = (reply.bind (Reply.handed? width)).getD [] := by
  cases reply <;> simp [handed]

theorem forall_mem_reply {P : Act × Reply → Prop} {act : Act} {reply : Option Reply} :
    (∀ entry ∈ (reply.map (Prod.mk act)).toList, P entry) ↔ ∀ r ∈ reply, P (act, r) := by
  cases reply <;> simp

/-- The act polls the session. -/
def isPoll : Act → Bool
  | .turn (.perform .poll) | .turn (.perform .pollRows) | .pollHalted _ => true
  | _ => false

/-- By the reply, a configuration was accepted. -/
def renews : Act → Reply → Bool
  | .turn (.perform (.configure _)), .finished (.ok ()) => true
  | _, _ => false

/-- What a poll hands out does not tell of a configuration. -/
theorem renews_of_handed (act : Act) {reply : Reply} {width : Nat} {rows : List (Nat × List Reading)}
    (handed : reply.handed? width = some rows) : act.renews reply = false := by
  unfold renews
  split
  · cases handed
  · rfl

end Act

/-! ## Observing -/

/-- The scene is the one that is observed. -/
def Observed.Sees (scene : Scene) (o : Observed) : Prop := o.scene = scene

theorem Observed.matches_device (h : Handle) : Scene.device.Matches (device h) Sees where
  announce := by rintro _ o own r rfl; exact ⟨rfl, rfl⟩
  answer := by rintro _ o own r rfl; exact ⟨rfl, rfl⟩
  sent := by rintro _ o own report heard rfl; rfl
  advance := by rintro _ o rfl; exact ⟨rfl, rfl⟩
  holdsOn := by rintro _ o own rfl; rfl

namespace Act

open Observed (Sees)
open Station (Alike Concur)

variable {h : Handle} {st : Station Scene} {st' : Station Observed}

theorem lineHalting_observed :
    (Station.lineHalting Scene.device).Concur Sees (Station.lineHalting (Observed.device h)) := by
  have matching := Observed.matches_device h
  intro r st st' alike
  cases r with
  | data => exact Alike.line matching .data (alike.halt matching).alike
  | _ => exact Alike.line matching _ alike

theorem occur_observed (alike : Alike Sees st st') (act : Act) :
    Concur Sees (act.occur Scene.world st) (act.occur (Observed.world h) st') := by
  have matching := Observed.matches_device h
  cases act with
  | pollHalted numbered =>
    simp only [occur, alike.session.live]
    split
    next =>
      cases numbered with
      | false => exact ((alike.poll lineHalting_observed).map Reply.batches).map some
      | true => exact ((alike.pollRowsAt lineHalting_observed).map Reply.rows).map some
    next => exact .intro none alike
  | turn turn =>
    cases turn with
    | perform command =>
      simp only [occur, alike.session.live]
      split
      next => exact (alike.perform matching (.same command)).map some
      next => exact .intro none alike
    | halt => exact (alike.halt matching).map fun result => some (Reply.finished result)
    | pass milliseconds => exact .intro none (Alike.elapse matching milliseconds alike)
    | befall incidents =>
      obtain ⟨s, scene⟩ := st
      obtain ⟨session, sees⟩ := alike
      obtain rfl : st'.device.scene = scene := sees
      exact .intro none (Alike.foldl_overhear matching _ ⟨session, rfl⟩)
    | close => exact .intro none (alike.close matching)

/-- Observing a device changes nothing: every reply is the same. -/
theorem occurAll_observed (acts : List Act) (alike : Alike Sees st st') :
    Concur Sees (occurAll Scene.world acts st) (occurAll (Observed.world h) acts st') := by
  -- by induction on the acts
  induction acts generalizing st st' with
  | nil => exact .intro [] alike
  | cons act rest ih =>
    have first := occur_observed (h := h) alike act
    simp only [occurAll]
    generalize act.occur Scene.world st = outcome, act.occur (Observed.world h) st' = outcome' at first ⊢
    cases first with
    | intro reply alike =>
      have others := ih alike
      simp only
      generalize occurAll Scene.world rest _ = outcome,
        occurAll (Observed.world h) rest _ = outcome' at others ⊢
      cases others with
      | intro replies alike => exact .intro _ alike

end Act

end TriggeredSampler
