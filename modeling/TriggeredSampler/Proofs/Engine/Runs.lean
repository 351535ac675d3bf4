import TriggeredSampler.Proofs.Engine.Reads

/-! # Runs of an engine

The owner of an engine makes `Call`s. `Engine.handedOut` is the data that a list of calls hands out, and
`Engine.events` what the calls do to the rows: some are stored, and now and then the rings are emptied.

* `Sampled` — a row as it was read.
* `segmentsFrom` — the rows stored between two emptyings.
* `flatten_segmentsFrom` — the segments hold every stored row, once and in order.
-/

namespace TriggeredSampler

/-- A call of an engine's owner. Each tick may bring a source of its own. -/
inductive Call (ρ : Type) where
  | arm
  | tick (now : Nat) (source : Source ρ)
  | cancel
  | takeData

/-- A row as it was read: the iteration that the engine was in before the tick, the time of the tick, and
the reads that make up the row. -/
structure Sampled where
  iteration : Nat
  time : Nat
  reads : Reads

/-- The readings of a row: what was answered, with the time of the tick. -/
def Sampled.row (s : Sampled) : List Reading :=
  s.reads.filterMap fun read => read.2.toOption.map fun value => ⟨value, s.time⟩

/-- A row read without a fault holds one reading for each address. -/
theorem Sampled.row_eq {s : Sampled} {tracked : List Address} {values : List Int}
    (count : values.length = tracked.length) (read : s.reads = tracked.zip (values.map .ok)) :
    s.row = values.map fun value => ⟨value, s.time⟩ := by
  rw [row, read]
  clear read
  induction tracked generalizing values with
  | nil => simp [List.length_eq_zero_iff.1 count]
  | cons a rest ih =>
    cases values with
    | nil => simp at count
    | cons value values =>
      simpa [Except.toOption] using @ih values (by simpa using count)

/-- What happens to the rows of an engine. -/
inductive Event where
  /-- A row is stored. -/
  | sampled (s : Sampled)
  /-- The rings are emptied. -/
  | flushed

/-- The rows that are stored. -/
def samplesOf : List Event → List Sampled
  | [] => []
  | .sampled s :: rest => s :: samplesOf rest
  | .flushed :: rest => samplesOf rest

/-- The rows stored between two emptyings; `stored` are those of the first segment so far. -/
def segmentsFrom (stored : List Sampled) : List Event → List (List Sampled)
  | [] => [stored]
  | .sampled s :: rest => segmentsFrom (stored ++ [s]) rest
  | .flushed :: rest => stored :: segmentsFrom [] rest

theorem flatten_segmentsFrom (stored : List Sampled) (events : List Event) :
    (segmentsFrom stored events).flatten = stored ++ samplesOf events := by
  induction events generalizing stored with
  | nil => simp [segmentsFrom, samplesOf]
  | cons event rest ih =>
    cases event with
    | sampled s => simp [segmentsFrom, samplesOf, ih]
    | flushed => simp [segmentsFrom, samplesOf, ih]

theorem samplesOf_append (events others : List Event) :
    samplesOf (events ++ others) = samplesOf events ++ samplesOf others := by
  induction events with
  | nil => rfl
  | cons event rest ih => cases event <;> simp [samplesOf, ih]

namespace Engine

variable {ρ : Type}

/-- A tick ended the iteration: another one follows, or the run is completed. -/
def endsIteration (e done : Engine) : Bool :=
  done.iteration != e.iteration || (done.phase == .completed && e.phase != .completed)

/-- The row that a tick reads. -/
def sampledBy (source : Source ρ) (now : Nat) (e : Engine) (r : ρ) : Sampled :=
  ⟨e.iteration, now,
    ((e.reads source now r).drop e.leadingReads).take e.configuration.tracked.length⟩

/-- The engine and the source behind a call. -/
def after (e : Engine) (r : ρ) : Call ρ → Engine × ρ
  | .arm => (match e.arm with | .ok armed => armed | .error _ => e, r)
  | .tick now source => ((e.tick source now r).engine, (e.tick source now r).source)
  | .cancel => (e.cancel.2, r)
  | .takeData => (e.takeData.2, r)

/-- The data that a call hands out. -/
def handsOut (e : Engine) : Call ρ → List Batch
  | .takeData => e.takeData.1
  | _ => []

/-- What a call does to the rows. -/
def eventsOf (e : Engine) (r : ρ) : Call ρ → List Event
  | .tick now source =>
    (if (e.tick source now r).sampled then [.sampled (e.sampledBy source now r)] else []) ++
      if e.endsIteration (e.tick source now r).engine then [.flushed] else []
  | .takeData => [.flushed]
  | _ => []

/-- Everything that some calls hand out, and a last one that takes the data. -/
def handedOut (e : Engine) (r : ρ) : List (Call ρ) → List Batch
  | [] => e.takeData.1
  | call :: rest => e.handsOut call ++ (e.after r call).1.handedOut (e.after r call).2 rest

/-- What some calls do to the rows. -/
def events (e : Engine) (r : ρ) : List (Call ρ) → List Event
  | [] => []
  | call :: rest => e.eventsOf r call ++ (e.after r call).1.events (e.after r call).2 rest

/-- The rows that some calls store. -/
def samples (e : Engine) (r : ρ) (calls : List (Call ρ)) : List Sampled :=
  samplesOf (e.events r calls)

/-- The rows that some calls store, cut where the rings are emptied. -/
def segments (e : Engine) (r : ρ) (calls : List (Call ρ)) : List (List Sampled) :=
  segmentsFrom [] (e.events r calls)

/-- The segments hold every stored row, once and in order. -/
theorem flatten_segments (e : Engine) (r : ρ) (calls : List (Call ρ)) :
    (e.segments r calls).flatten = e.samples r calls := by
  rw [segments, flatten_segmentsFrom, List.nil_append, samples]

end Engine

end TriggeredSampler
