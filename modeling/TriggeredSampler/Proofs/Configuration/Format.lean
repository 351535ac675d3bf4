import Mathlib.Tactic.IntervalCases
import TriggeredSampler.Proofs.Configuration.RoundTrip

/-! # The format of a record

The bytes that decode are those of a format that needs no reader to be stated.

* `Record.WellFormed` — the format: a length, and codes at four places.
* `Record.takeConfiguration_eq_ok` — each step of reading takes the bytes of what it reads, no others.
* `Configuration.decode_encode_eq` — what becomes of a configuration that is written and read back.
* `Configuration.decode_wellFormed` — exactly the records of the format decode.
-/

namespace TriggeredSampler

namespace Record

variable {α β : Type} {bytes rest : List UInt8}

/-- The byte is the code of a condition. -/
def IsCondition (byte : UInt8) : Prop := byte = 0 ∨ byte = 1 ∨ 0x10 ≤ byte ∧ byte ≤ 0x1C

instance (byte : UInt8) : Decidable (IsCondition byte) :=
  inferInstanceAs (Decidable (_ ∨ _ ∨ _ ∧ _))

/-- The format of a record: the length that its number of addresses asks for, and known codes. -/
def WellFormed (bytes : List UInt8) : Prop :=
  ∃ _ : 31 ≤ bytes.length,
    bytes[30] ≤ 12 ∧ bytes.length = 31 + 3 * bytes[30].toNat ∧ bytes[4] ≤ 2 ∧
      IsCondition bytes[14] ∧ IsCondition bytes[22]

instance (bytes : List UInt8) : Decidable (WellFormed bytes) :=
  inferInstanceAs (Decidable (∃ _ : 31 ≤ bytes.length, _ ∧ _ ∧ _ ∧ _ ∧ _))

/-! ## Codes -/

theorem bytesOf_number {width : Nat} (length : bytes.length = width) :
    bytesOf width (number bytes) = bytes := by
  induction bytes generalizing width with
  | nil =>
    cases length
    rfl
  | cons byte rest ih =>
    have low : UInt8.ofNat (number (byte :: rest)) = byte := by
      rw [← UInt8.toNat_inj, UInt8.toNat_ofNat', number]
      have := byte.toNat_lt
      omega
    have high : number (byte :: rest) / 256 = number rest := by
      rw [number]
      have := byte.toNat_lt
      omega
    rw [← length, List.length_cons, bytesOf, low, high, ih rfl]

theorem number_lt {width : Nat} (length : bytes.length = width) : number bytes < 256 ^ width := by
  induction bytes generalizing width with
  | nil => exact Nat.pow_pos (by decide)
  | cons byte rest ih =>
    rw [number, ← length, List.length_cons, Nat.pow_succ]
    have := byte.toNat_lt
    have := ih rfl
    omega

theorem ofAddress_address (length : bytes.length = 3) : ofAddress (address bytes) = bytes := by
  have index : (bytes.take 2).length = 2 := by simp [length]
  have subindex : (bytes.drop 2).length = 1 := by simp [length]
  have low : bytesOf 2 (UInt16.ofNat (number (bytes.take 2))).toNat = bytes.take 2 := by
    rw [UInt16.toNat_ofNat_of_lt' (number_lt index), bytesOf_number index]
  have high : [UInt8.ofNat (number (bytes.drop 2))] = bytes.drop 2 := bytesOf_number subindex
  rw [ofAddress, address, low, high, List.take_append_drop]

theorem code_of_mode {code : Nat} {mode : Mode} (known : Mode.ofCode? code = some mode) :
    mode.code = UInt8.ofNat code := by
  unfold Mode.ofCode? at known
  split at known <;> cases known <;> rfl

theorem code_of_condition {code : Nat} {condition : Condition}
    (known : Condition.ofCode? code = some condition) : condition.code = UInt8.ofNat code := by
  unfold Condition.ofCode? at known
  split at known <;> cases known <;> rfl

theorem exists_mode {byte : UInt8} (known : byte ≤ 2) : ∃ mode, Mode.ofCode? byte.toNat = some mode := by
  have : byte.toNat ≤ 2 := UInt8.le_iff_toNat_le.1 known
  interval_cases byte.toNat <;> exact ⟨_, rfl⟩

theorem exists_condition {byte : UInt8} (known : IsCondition byte) :
    ∃ condition, Condition.ofCode? byte.toNat = some condition := by
  obtain rfl | rfl | ⟨low, high⟩ := known
  · exact ⟨_, rfl⟩
  · exact ⟨_, rfl⟩
  · have low : 16 ≤ byte.toNat := UInt8.le_iff_toNat_le.1 low
    have high : byte.toNat ≤ 28 := UInt8.le_iff_toNat_le.1 high
    interval_cases byte.toNat <;> exact ⟨_, rfl⟩

theorem code_le (mode : Mode) : mode.code ≤ 2 := by
  cases mode <;> decide

theorem isCondition_code (condition : Condition) : IsCondition condition.code := by
  cases condition <;> decide

/-! ## What a step takes -/

theorem bind_eq_ok {read : Reader α} {next : α → Reader β} {b : β} :
    (read >>= next) bytes = .ok (b, rest) ↔
      ∃ a behind, read bytes = .ok (a, behind) ∧ next a behind = .ok (b, rest) := by
  cases result : read bytes with
  | error flaw => simp [bind, StateT.bind, Except.bind, result]
  | ok taken => rw [bind_of_ok result]; aesop

theorem bind_of_error {read : Reader α} {next : α → Reader β} {flaw : Flaw}
    (error : read bytes = .error flaw) :
    (read >>= next) bytes = .error flaw := by
  simp only [bind, StateT.bind, error, Except.bind]

theorem take_eq_ok {field : Field} {width : Nat} {taken : List UInt8} :
    take field width bytes = .ok (taken, rest) ↔ taken.length = width ∧ bytes = taken ++ rest := by
  constructor
  · intro ok
    unfold take at ok
    split at ok
    · cases ok
    next enough =>
      obtain ⟨rfl, rfl⟩ := Prod.mk.inj (Except.ok.inj ok)
      exact ⟨by rw [List.length_take]; omega, (List.take_append_drop width bytes).symm⟩
  · rintro ⟨length, rfl⟩
    exact take_append field length

theorem takeNumber_eq_ok {field : Field} {width n : Nat} :
    takeNumber field width bytes = .ok (n, rest) ↔ n < 256 ^ width ∧ bytes = bytesOf width n ++ rest := by
  constructor
  · intro ok
    obtain ⟨taken, behind, taking, next⟩ := bind_eq_ok.1 ok
    obtain ⟨length, rfl⟩ := take_eq_ok.1 taking
    cases next
    exact ⟨number_lt length, by rw [bytesOf_number length]⟩
  · rintro ⟨fits, rfl⟩
    exact takeNumber_bytesOf field fits

theorem takeMode_eq_ok {mode : Mode} : takeMode bytes = .ok (mode, rest) ↔ bytes = mode.code :: rest := by
  constructor
  · intro ok
    obtain ⟨code, behind, taking, next⟩ := bind_eq_ok.1 ok
    obtain ⟨-, rfl⟩ := takeNumber_eq_ok.1 taking
    cases known : Mode.ofCode? code with
    | none =>
      rw [known] at next
      cases next
    | some mode =>
      rw [known] at next
      cases next
      rw [code_of_mode known]
      rfl
  · rintro rfl
    exact takeMode_cons mode

theorem takeTrigger_eq_ok {field : Field} {t : Trigger} :
    takeTrigger field bytes = .ok (t, rest) ↔ bytes = ofTrigger t ++ rest := by
  constructor
  · intro ok
    obtain ⟨taken, behind, taking, next⟩ := bind_eq_ok.1 ok
    obtain ⟨length, rfl⟩ := take_eq_ok.1 taking
    cases known : Condition.ofCode? (number (taken.take 1)) with
    | none =>
      rw [known] at next
      cases next
    | some condition =>
      rw [known] at next
      cases next
      have code : [condition.code] = taken.take 1 := by
        have length : (taken.take 1).length = 1 := by simp [length]
        rw [code_of_condition known]
        exact bytesOf_number length
      have place : ofAddress (address ((taken.drop 1).take 3)) = (taken.drop 1).take 3 :=
        ofAddress_address (by simp [length])
      have value : bytesOf 4 (UInt32.ofNat (number (taken.drop 4))).toNat = taken.drop 4 := by
        have length : (taken.drop 4).length = 4 := by simp [length]
        rw [UInt32.toNat_ofNat_of_lt' (number_lt length), bytesOf_number length]
      have parts : taken.drop 1 = (taken.drop 1).take 3 ++ taken.drop 4 := by
        simpa using (List.take_append_drop 3 (taken.drop 1)).symm
      rw [ofTrigger, place, value, ← parts, ← List.singleton_append, code, List.take_append_drop]
  · rintro rfl
    exact takeTrigger_ofTrigger field t

theorem takeAddresses_eq_ok {count : Nat} {tracked : List Address} :
    takeAddresses count bytes = .ok (tracked, rest) ↔
      tracked.length = count ∧ bytes = tracked.flatMap ofAddress ++ rest := by
  constructor
  · intro ok
    induction count generalizing bytes tracked with
    | zero =>
      cases ok
      exact ⟨rfl, rfl⟩
    | succ count ih =>
      obtain ⟨taken, behind, taking, next⟩ := bind_eq_ok.1 ok
      obtain ⟨length, rfl⟩ := take_eq_ok.1 taking
      obtain ⟨others, _, reading, next⟩ := bind_eq_ok.1 next
      cases next
      obtain ⟨rfl, rfl⟩ := ih reading
      exact ⟨rfl, by simp [ofAddress_address length]⟩
  · rintro ⟨rfl, rfl⟩
    exact takeAddresses_ofAddress tracked

theorem takeCount_eq_ok {count : Nat} :
    takeCount bytes = .ok (count, rest) ↔
      count ≤ Configuration.maxTracked ∧ bytes = UInt8.ofNat count :: rest := by
  constructor
  · intro ok
    obtain ⟨announced, behind, taking, next⟩ := bind_eq_ok.1 ok
    obtain ⟨-, rfl⟩ := takeNumber_eq_ok.1 taking
    split at next
    next => cases next
    next fits =>
      cases next
      exact ⟨Nat.le_of_not_lt fits, rfl⟩
  · rintro ⟨fits, rfl⟩
    exact takeCount_cons fits

/-- A configuration is read from its bytes and no others, except for the unused bits of its flags. -/
theorem takeConfiguration_eq_ok {c : Configuration} :
    takeConfiguration bytes = .ok (c, rest) ↔
      c.tracked.length ≤ Configuration.maxTracked ∧ ∃ byte, flags c = byte &&& 3 ∧
        bytes = c.front byte ++ UInt8.ofNat c.tracked.length :: (c.tracked.flatMap ofAddress ++ rest) := by
  constructor
  · intro ok
    simp only [takeConfiguration, bind_eq_ok, takeNumber_eq_ok, takeMode_eq_ok, takeTrigger_eq_ok,
      takeCount_eq_ok, takeAddresses_eq_ok] at ok
    obtain ⟨version, _, ⟨version_lt, rfl⟩, mode, _, rfl, byte, _, ⟨byte_lt, rfl⟩,
      period, _, ⟨period_lt, rfl⟩, duration, _, ⟨duration_lt, rfl⟩, preTrigger, _, ⟨preTrigger_lt, rfl⟩,
      start, _, rfl, stop, _, rfl, count, _, ⟨fits, rfl⟩, tracked, _, ⟨rfl, rfl⟩, done⟩ := ok
    cases done
    refine ⟨fits, UInt8.ofNat byte, flags_eq_iff.2 ?_, ?_⟩
    · rw [UInt8.toNat_ofNat_of_lt' byte_lt]
      exact ⟨rfl, rfl⟩
    · simp [Configuration.front, UInt32.toNat_ofNat_of_lt' version_lt, UInt16.toNat_ofNat_of_lt' period_lt,
        UInt32.toNat_ofNat_of_lt' duration_lt, UInt16.toNat_ofNat_of_lt' preTrigger_lt, bytesOf]
  · rintro ⟨fits, byte, same, rfl⟩
    exact takeConfiguration_written same fits

/-! ## Where a step leads -/

variable {start count : Nat}

theorem take_drop {field : Field} {width : Nat} (enough : start + width ≤ bytes.length) :
    take field width (bytes.drop start) =
      .ok ((bytes.drop start).take width, bytes.drop (start + width)) := by
  rw [take, if_neg (by rw [List.length_drop]; omega), List.drop_drop]

theorem takeNumber_drop {field : Field} {width : Nat} (enough : start + width ≤ bytes.length) :
    takeNumber field width (bytes.drop start) =
      .ok (number ((bytes.drop start).take width), bytes.drop (start + width)) := by
  rw [takeNumber, bind_of_ok (take_drop enough)]
  rfl

theorem number_take_one (inside : start < bytes.length) :
    number ((bytes.drop start).take 1) = bytes[start].toNat := by
  rw [List.drop_eq_getElem_cons inside, List.take_succ_cons, List.take_zero]
  exact Nat.add_zero _

theorem takeMode_drop (inside : start < bytes.length) (known : bytes[start] ≤ 2) :
    ∃ mode, takeMode (bytes.drop start) = .ok (mode, bytes.drop (start + 1)) := by
  obtain ⟨mode, known⟩ := exists_mode known
  refine ⟨mode, ?_⟩
  rw [takeMode, bind_of_ok (takeNumber_drop inside), number_take_one inside, known]
  rfl

theorem takeTrigger_drop (field : Field) (enough : start + 8 ≤ bytes.length)
    (known : IsCondition bytes[start]) :
    ∃ t, takeTrigger field (bytes.drop start) = .ok (t, bytes.drop (start + 8)) := by
  obtain ⟨condition, known⟩ := exists_condition known
  have code : number (((bytes.drop start).take 8).take 1) = bytes[start].toNat := by
    rw [List.take_take, Nat.min_eq_left (by decide), number_take_one]
  have read : takeTrigger field (bytes.drop start) = _ := bind_of_ok (take_drop enough)
  simp only [code, known] at read
  exact ⟨_, read⟩

theorem takeCount_drop (inside : start < bytes.length) (fits : bytes[start] ≤ 12) :
    takeCount (bytes.drop start) = .ok (bytes[start].toNat, bytes.drop (start + 1)) := by
  have fits : ¬Configuration.maxTracked < bytes[start].toNat :=
    Nat.not_lt.2 (UInt8.le_iff_toNat_le.1 fits)
  rw [takeCount, bind_of_ok (takeNumber_drop inside), number_take_one inside, if_neg fits]
  rfl

theorem takeAddresses_drop (start : Nat) (enough : start + 3 * count ≤ bytes.length) :
    ∃ tracked, takeAddresses count (bytes.drop start) = .ok (tracked, bytes.drop (start + 3 * count)) := by
  induction count generalizing start with
  | zero => exact ⟨[], rfl⟩
  | succ count ih =>
    obtain ⟨others, read⟩ := ih (start + 3) (by omega)
    have behind : start + 3 + 3 * count = start + 3 * (count + 1) := by omega
    rw [behind] at read
    have read : takeAddresses (count + 1) (bytes.drop start) = _ :=
      (bind_of_ok (take_drop (by omega))).trans (bind_of_ok read)
    exact ⟨_, read⟩

/-- A record of the format is read to its end. -/
theorem takeConfiguration_of_wellFormed (format : WellFormed bytes) :
    ∃ c, takeConfiguration bytes = .ok (c, []) := by
  obtain ⟨long, fits, length, mode, start, stop⟩ := format
  obtain ⟨mode, readMode⟩ := takeMode_drop _ mode
  obtain ⟨start, readStart⟩ := takeTrigger_drop .startTrigger (by omega) start
  obtain ⟨stop, readStop⟩ := takeTrigger_drop .stopTrigger (by omega) stop
  obtain ⟨tracked, readTracked⟩ := takeAddresses_drop 31 (Nat.le_of_eq length.symm)
  rw [← length, List.drop_length] at readTracked
  rw [← List.drop_zero (l := bytes), takeConfiguration, bind_of_ok (takeNumber_drop (by omega)),
    bind_of_ok readMode, bind_of_ok (takeNumber_drop (by omega)), bind_of_ok (takeNumber_drop (by omega)),
    bind_of_ok (takeNumber_drop (by omega)), bind_of_ok (takeNumber_drop (by omega)),
    bind_of_ok readStart, bind_of_ok readStop, bind_of_ok (takeCount_drop (by omega) fits),
    bind_of_ok readTracked]
  exact ⟨_, rfl⟩

/-! ## The format -/

@[simp] theorem length_front (c : Configuration) (byte : UInt8) : (c.front byte).length = 30 := by
  simp [Configuration.front, ofTrigger]

@[simp] theorem length_flatMap_ofAddress (tracked : List Address) :
    (tracked.flatMap ofAddress).length = 3 * tracked.length := by
  induction tracked with
  | nil => rfl
  | cons a others ih =>
    rw [List.flatMap_cons, List.length_append, ih, length_ofAddress, List.length_cons]
    omega

theorem wellFormed_written {c : Configuration} {byte : UInt8}
    (fits : c.tracked.length ≤ Configuration.maxTracked) :
    WellFormed (c.front byte ++ UInt8.ofNat c.tracked.length :: c.tracked.flatMap ofAddress) := by
  have count : (UInt8.ofNat c.tracked.length).toNat = c.tracked.length :=
    UInt8.toNat_ofNat_of_lt' (Nat.lt_of_le_of_lt fits (by decide))
  have length : (c.front byte ++ UInt8.ofNat c.tracked.length :: c.tracked.flatMap ofAddress).length =
      31 + 3 * c.tracked.length := by
    rw [List.length_append, length_front, List.length_cons, length_flatMap_ofAddress]
    omega
  refine ⟨by omega, ?count, ?length, code_le c.mode, isCondition_code c.start.condition,
    isCondition_code c.stop.condition⟩
  case count => exact UInt8.le_iff_toNat_le.2 (Nat.le_trans (Nat.le_of_eq count) fits)
  case length => exact length.trans (congrArg (31 + 3 * ·) count.symm)

/-- A record of the format neither begins another one nor goes on behind another one. -/
theorem WellFormed.eq_of_prefix {bytes other : List UInt8} (format : WellFormed bytes)
    (more : WellFormed other) (pre : bytes <+: other) : bytes = other := by
  obtain ⟨long, -, length, -⟩ := format
  obtain ⟨_, -, length', -⟩ := more
  have same : bytes[30] = other[30] := pre.getElem long
  rw [same] at length
  exact pre.eq_of_length (length.trans length'.symm)

end Record

namespace Configuration

variable {bytes : List UInt8}

/-- A record decodes to a configuration if and only if it is written like it, except for the unused bits
of its flags. -/
theorem decode_eq_ok {c : Configuration} :
    decode bytes = .ok c ↔
      c.tracked.length ≤ maxTracked ∧ ∃ byte, Record.flags c = byte &&& 3 ∧
        bytes = c.front byte ++ UInt8.ofNat c.tracked.length :: c.tracked.flatMap Record.ofAddress := by
  have read : decode bytes = .ok c ↔ Record.takeConfiguration bytes = .ok (c, []) := by
    unfold decode
    split <;> simp_all
  rw [read, Record.takeConfiguration_eq_ok]
  simp only [List.append_nil]

theorem exists_decode_iff : (∃ c, decode bytes = .ok c) ↔ Record.WellFormed bytes := by
  constructor
  · rintro ⟨c, ok⟩
    obtain ⟨fits, byte, -, rfl⟩ := decode_eq_ok.1 ok
    exact Record.wellFormed_written fits
  · intro format
    obtain ⟨c, read⟩ := Record.takeConfiguration_of_wellFormed format
    exact ⟨c, by rw [decode, read]⟩

example : Record.WellFormed (List.replicate 31 0) ∧ ¬Record.WellFormed (List.replicate 32 0) := by decide

/-- A record that decodes is what its configuration is written to, with the unused bits of the flags
cleared. -/
theorem encode_of_decode {c : Configuration} (ok : decode bytes = .ok c) :
    c.encode = bytes.modify 5 (· &&& 3) := by
  obtain ⟨-, byte, same, rfl⟩ := decode_eq_ok.1 ok
  rw [encode_eq, same]
  rfl

/-- Exactly the records of the format decode, every other one is malformed. A record that decodes is
what its configuration is written to, except that the six upper bits of the flags are lost; no record
that goes on behind it and none that it goes on behind decodes. -/
theorem decode_wellFormed (bytes : List UInt8) :
    ((∃ c, decode bytes = .ok c) ↔ Record.WellFormed bytes) ∧
    (¬Record.WellFormed bytes →
      ∃ message, (decode bytes).mapError Record.Flaw.defect = .error (.malformedRecord message)) ∧
    ∀ c, decode bytes = .ok c →
      c.encode = bytes.modify 5 (· &&& 3) ∧
      ∀ other, other ≠ bytes → other <+: bytes ∨ bytes <+: other → ∀ c', decode other ≠ .ok c' := by
  refine ⟨exists_decode_iff, ?other, fun c ok => ⟨encode_of_decode ok, ?alone⟩⟩
  case other =>
    intro malformed
    cases result : decode bytes with
    | ok c => exact absurd (exists_decode_iff.1 ⟨c, result⟩) malformed
    | error flaw => exact ⟨flaw.message, rfl⟩
  case alone =>
    intro other different related c' ok'
    have format := exists_decode_iff.1 ⟨c, ok⟩
    have format' := exists_decode_iff.1 ⟨c', ok'⟩
    obtain shorter | longer := related
    · exact different (format'.eq_of_prefix format shorter)
    · exact different (format.eq_of_prefix format' longer).symm

theorem decode_of_left {c : Configuration} {rest : List UInt8}
    (read : Record.takeConfiguration bytes = .ok (c, rest)) (left : rest ≠ []) :
    decode bytes = .error (.trailing rest) := by
  obtain ⟨byte, others, rfl⟩ := List.exists_cons_of_ne_nil left
  rw [decode, read]

/-- More addresses are announced than can be tracked. -/
theorem decode_encode_of_announced {c : Configuration} (announced : maxTracked < c.tracked.length % 256) :
    decode c.encode = .error (.addressCount (c.tracked.length % 256)) := by
  have low : Record.flags c = Record.flags c &&& 3 := Record.flags_eq_iff.2 (Record.flags_eq c)
  have read : Record.takeConfiguration c.encode = .error (.addressCount (c.tracked.length % 256)) := by
    rw [encode_eq, Record.takeConfiguration_front low]
    refine Record.bind_of_error ((Record.bind_of_ok (Record.takeNumber_cons _ _)).trans ?_)
    rw [UInt8.toNat_ofNat', if_pos announced]
    rfl
  rw [decode, read]

/-- Fewer addresses are announced than there are. -/
theorem decode_encode_of_wrapped {c : Configuration} (tooMany : maxTracked < c.tracked.length)
    (announced : c.tracked.length % 256 ≤ maxTracked) :
    decode c.encode =
      .error (.trailing ((c.tracked.drop (c.tracked.length % 256)).flatMap Record.ofAddress)) := by
  have low : Record.flags c = Record.flags c &&& 3 := Record.flags_eq_iff.2 (Record.flags_eq c)
  have first : (c.tracked.take (c.tracked.length % 256)).length = c.tracked.length % 256 := by
    rw [List.length_take]
    omega
  -- What is read is a configuration with the addresses that are announced.
  have read : Record.takeConfiguration c.encode =
      .ok ({ c with tracked := c.tracked.take (c.tracked.length % 256) },
        (c.tracked.drop (c.tracked.length % 256)).flatMap Record.ofAddress) := by
    refine Record.takeConfiguration_eq_ok.2 ⟨by rwa [first], Record.flags c, low, ?_⟩
    rw [first, ← List.flatMap_append, List.take_append_drop, UInt8.ofNat_mod_size]
    exact encode_eq c
  have left : (c.tracked.drop (c.tracked.length % 256)).flatMap Record.ofAddress ≠ [] := by
    have : maxTracked = 12 := rfl
    rw [← List.length_pos_iff, Record.length_flatMap_ofAddress, List.length_drop]
    omega
  exact decode_of_left read left

/-- A record of no addresses with unused bits of its flags set. -/
theorem decode_wellFormed_flags :
    decode ((List.replicate 31 0).set 5 0xFE) = .ok { ofMode .normal with version := 0, newFirmware := true } ∧
      ({ ofMode .normal with version := 0, newFirmware := true } : Configuration).encode =
        (List.replicate 31 0).set 5 2 := by
  have ok : decode ((List.replicate 31 0).set 5 0xFE) =
      .ok { ofMode .normal with version := 0, newFirmware := true } := by decide
  exact ⟨ok, ((decode_wellFormed _).2.2 _ ok).1⟩

/-- A configuration is read back from its record if it tracks no more addresses than can be tracked.
Otherwise its record is malformed: it announces too many addresses, or, as it announces the low byte of
their number, it goes on behind the last one it announces. -/
theorem decode_encode_eq (c : Configuration) :
    (decode c.encode).mapError Record.Flaw.defect =
      if c.tracked.length ≤ maxTracked then .ok c
      else .error (.malformedRecord (Record.Flaw.message (
        if maxTracked < c.tracked.length % 256 then .addressCount (c.tracked.length % 256)
        else .trailing ((c.tracked.drop (c.tracked.length % 256)).flatMap Record.ofAddress)))) := by
  split
  next fits => rw [decode_encode fits, Except.mapError]
  next tooMany =>
    split
    next announced =>
      rw [decode_encode_of_announced announced]
      rfl
    next announced =>
      rw [decode_encode_of_wrapped (Nat.lt_of_not_le tooMany) (Nat.le_of_not_lt announced)]
      rfl

end Configuration

end TriggeredSampler
