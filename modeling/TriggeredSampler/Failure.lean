import TriggeredSampler.Configuration.Defect
import TriggeredSampler.Sample.Breach
import TriggeredSampler.Text.Span

/-! # Failures

A device answers a request with a `DeviceFault`; a caller that does what the session does not allow
commits a `Misuse`. A `Failure` is whatever a session can report: a rejected configuration, a device
fault, a breach of the protocol, a misuse, a wait that took too long, a handler that panicked.

* `DeviceFault.message`, `Misuse.message`, `Failure.message` — the wordings.
* `DeviceFault.ofDefect` — how a device reports a configuration it rejects.
* `DeviceFault.ofRefusal` — how a thread is reported that the system does not create.
-/

namespace TriggeredSampler

/-- The kinds of device faults. -/
inductive FaultCode where
  | general
  | invalidArguments
  | timeout
  | busy
  | unavailable
  | protocol
  | notConnected
  | invalidHandle
  | addressNotFound
deriving DecidableEq, Inhabited

namespace FaultCode

/-- The number a device reports the kind by. -/
def code : FaultCode → Nat
  | general => 1
  | invalidArguments => 2
  | timeout => 3
  | busy => 4
  | unavailable => 5
  | protocol => 6
  | notConnected => 7
  | invalidHandle => 8
  | addressNotFound => 9

/-- The kind a number stands for; numbers without a meaning are general errors. -/
def ofCode (code : Nat) : FaultCode :=
  match code with
  | 2 => invalidArguments
  | 3 => timeout
  | 4 => busy
  | 5 => unavailable
  | 6 => protocol
  | 7 => notConnected
  | 8 => invalidHandle
  | 9 => addressNotFound
  | _ => general

/-- The name used in messages. -/
def name : FaultCode → String
  | general => "GeneralError"
  | invalidArguments => "InvalidArguments"
  | timeout => "TimeoutError"
  | busy => "Busy"
  | unavailable => "ResourceUnavailable"
  | protocol => "ProtocolError"
  | notConnected => "NotConnected"
  | invalidHandle => "InvalidHandle"
  | addressNotFound => "OdAddressNotFound"

end FaultCode

/-- An error reported by a device: its kind, a vendor's extended code (0 if there is none) and a
description. -/
structure DeviceFault where
  code : FaultCode
  extended : UInt32
  description : String
deriving DecidableEq, Inhabited

namespace DeviceFault

/-- The description, followed by the codes. -/
def message (f : DeviceFault) : String :=
  f.description ++ " (" ++ f.code.name ++ ", extended 0x" ++
    Hexadecimal.upper 8 f.extended.toNat ++ ")"

/-- A device calls a configuration it rejects an invalid argument. -/
def ofDefect (d : Defect) : DeviceFault :=
  ⟨.invalidArguments, 0, d.message⟩

/-- A thread that the system refuses for the given reason is a resource that is not available. -/
def ofRefusal (reason : String) : DeviceFault :=
  ⟨.unavailable, 0, reason⟩

end DeviceFault

/-- What a caller did against the rules of a session. -/
inductive Misuse where
  /-- Polling although a handler receives the data. -/
  | pollWithHandler
  /-- Starting without an accepted configuration. -/
  | notConfigured
  /-- Configuring or starting a run that is not over. -/
  | alreadyActive
  /-- Configuring or starting from inside a handler. -/
  | reentrantCall
  /-- Binding a handle that a session holds. -/
  | handleBound (handle : Nat)
deriving DecidableEq

namespace Misuse

/-- The wording of a misuse. -/
def message : Misuse → String
  | pollWithHandler => "poll() is not available while a notification handler is registered"
  | notConfigured => "sampler is not configured"
  | alreadyActive => "sampler is already active"
  | reentrantCall => "start() and configure() must not be called from a notification handler"
  | handleBound handle =>
    "device handle " ++ toString handle ++ " is already bound to a sampler session"

end Misuse

/-- Whatever a session can report. -/
inductive Failure where
  /-- The configuration was rejected before it reached the device. -/
  | configuration (defect : Defect)
  /-- The device answered with a fault. -/
  | device (fault : DeviceFault)
  /-- The device breached the protocol. -/
  | protocol (detail : String)
  /-- The session was used against its rules. -/
  | misuse (misuse : Misuse)
  /-- A wait reached its limit. -/
  | timeout (limit : Span)
  /-- A handler panicked. -/
  | handlerPanicked (detail : String)
deriving DecidableEq

namespace Failure

/-- The wording of a failure; a device's own words stand alone. -/
def message : Failure → String
  | configuration defect => "configuration error: " ++ defect.message
  | device fault => fault.message
  | protocol detail => "protocol error: " ++ detail
  | misuse m => "usage error: " ++ m.message
  | timeout limit => "timed out after " ++ limit.text
  | handlerPanicked detail => "notification handler panicked: " ++ detail

/-- The failure of a breach. -/
def ofBreach (b : Breach) : Failure := .protocol b.message

end Failure

end TriggeredSampler
