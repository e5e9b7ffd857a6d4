/-
This file models `Throttle`, the interceptor that all connections share: it reads the rate limit
headers and the statuses of responses, and says until when requests are suspended.

The interceptor sees the headers and the ends of responses one by one. The responses of several
connections may interleave in any way.
-/

import GateFutures.Library.Run
import Mathlib.Algebra.Order.Ring.Int

namespace GateFutures.Tools

open Library

/-- What the interceptor is constructed with, and the host's hash and number parsers. A parser
that raises an exception reads nothing. -/
structure Config where
  enableRateLimit : Bool
  fnv : String → UInt64
  fromCharsInt32 : String → Option (BitVec 32)
  fromCharsInt64 : String → Option (BitVec 64)

/-- The two clocks at one moment, in nanoseconds: `clock::get_system` and
`clock::get_realtime`. -/
structure Clock where
  system : Int
  realtime : Int

/-- `DEFAULT_BACKOFF`: five seconds. -/
def defaultBackoff : Int := 5000000000

/-- `BLOCKED_BACKOFF`: ten minutes. -/
def blockedBackoff : Int := 600000000000

/-- `Header`. -/
inductive Header
  | unknown | limit | requestsRemain | resetTimestamp
  deriving DecidableEq, Repr

/-- `parse_header`. Names are compared by their hashes. -/
def parseHeader (config : Config) (text : String) : Header :=
  let key := config.fnv text.toLower
  if key = config.fnv "x-gate-ratelimit-limit" then .limit
  else if key = config.fnv "x-gate-ratelimit-requests-remain" then .requestsRemain
  else if key = config.fnv "x-gate-ratelimit-reset-timestamp" then .resetTimestamp
  else .unknown

/-- `web::http::Status`, as far as the interceptor tells statuses apart. -/
inductive Status
  | forbidden | tooManyRequests | other (code : Nat)
  deriving DecidableEq, Repr

/-- `Throttle::Params`. The reset timestamp counts seconds. -/
structure Params where
  limit : BitVec 32
  requestsRemain : BitVec 32
  resetTimestamp : BitVec 64
  deriving DecidableEq

/-- `Throttle`. -/
structure Throttle where
  params : Params
  suspendUntil : Int
  deriving DecidableEq

/-- A number of seconds, converted to nanoseconds in 64 bits. -/
def toNanoseconds (seconds : BitVec 64) : Int := (seconds * 1000000000).toInt

/-- The quota is not known to be used up. -/
def Params.Permit (params : Params) : Prop :=
  0 < params.requestsRemain.toInt ∨ params.resetTimestamp = 0

instance (params : Params) : Decidable params.Permit := inferInstanceAs (Decidable (_ ∨ _))

namespace Throttle

/-- The interceptor as constructed. -/
def initial : Throttle where
  params := ⟨0, 0, 0⟩
  suspendUntil := 0

/-- `update_suspend_until`. -/
def updateSuspendUntil (config : Config) (clock : Clock) (throttle : Throttle) : Throttle :=
  if ¬ config.enableRateLimit then throttle
  else if throttle.params.Permit then { throttle with suspendUntil := 0 }
  else
    let timestamp := toNanoseconds throttle.params.resetTimestamp
    if clock.realtime < timestamp then
      { throttle with
        suspendUntil := max throttle.suspendUntil (clock.system + (timestamp - clock.realtime)) }
    else
      { throttle with suspendUntil := max throttle.suspendUntil (clock.system + defaultBackoff) }

/-- `Throttle::operator()(Trace<web::rest::MessageHeader>)`. The limit is only remembered. -/
def messageHeader (config : Config) (clock : Clock) (name value : String) (throttle : Throttle) :
    Throttle :=
  match parseHeader config name with
  | .unknown => throttle
  | .limit =>
    match config.fromCharsInt32 value with
    | some limit => { throttle with params.limit := limit }
    | none => throttle
  | .requestsRemain =>
    match config.fromCharsInt32 value with
    | some requestsRemain =>
      if throttle.params.requestsRemain ≠ requestsRemain then
        updateSuspendUntil config clock { throttle with params.requestsRemain := requestsRemain }
      else throttle
    | none => throttle
  | .resetTimestamp =>
    match config.fromCharsInt64 value with
    | some resetTimestamp =>
      if throttle.params.resetTimestamp ≠ resetTimestamp then
        updateSuspendUntil config clock { throttle with params.resetTimestamp := resetTimestamp }
      else throttle
    | none => throttle

/-- `Throttle::operator()(Trace<web::rest::MessageEnd>)`. -/
def messageEnd (config : Config) (clock : Clock) (status : Status) (throttle : Throttle) :
    Throttle :=
  if ¬ config.enableRateLimit then throttle
  else match status with
    | .forbidden =>
      { throttle with suspendUntil := max throttle.suspendUntil (clock.system + blockedBackoff) }
    | .tooManyRequests =>
      if throttle.suspendUntil = 0 then
        { throttle with suspendUntil := clock.system + defaultBackoff }
      else throttle
    | .other _ => throttle

end Throttle

/-! ### The machine -/

/-- An event the interceptor sees. -/
inductive Event
  | messageBegin
  | messageHeader (name value : String)
  | messageEnd (status : Status)
  deriving DecidableEq

/-- An event, and the clocks when it is handled. -/
structure Input where
  clock : Clock
  event : Event

/-- Handle an event. -/
def Throttle.handle (config : Config) (clock : Clock) (throttle : Throttle) : Event → Throttle
  | .messageBegin => throttle
  | .messageHeader name value => throttle.messageHeader config clock name value
  | .messageEnd status => throttle.messageEnd config clock status

/-- The interceptor as the connections see it: after every event they read until when requests
are suspended. -/
def interceptor (config : Config) : Machine Throttle Input Int Empty where
  initial := Throttle.initial
  step throttle input :=
    let next := throttle.handle config input.clock input.event
    .ok (next, next.suspendUntil)

/-- The history of the interceptor. -/
abbrev ThrottleHistory := History Throttle Input Int

/-! ### What headers report -/

/-- A report of the quota. -/
inductive Report
  | requestsRemain (value : BitVec 32)
  | resetTimestamp (value : BitVec 64)
  deriving DecidableEq

/-- The report of a header, if it carries one and can be parsed. -/
def parseReport (config : Config) (name value : String) : Option Report :=
  match parseHeader config name with
  | .requestsRemain => (config.fromCharsInt32 value).map .requestsRemain
  | .resetTimestamp => (config.fromCharsInt64 value).map .resetTimestamp
  | .unknown | .limit => none

/-- The report of an event. -/
def Event.report (config : Config) : Event → Option Report
  | .messageHeader name value => parseReport config name value
  | .messageBegin | .messageEnd _ => none

/-- Remember a report. -/
def Params.record (params : Params) : Report → Params
  | .requestsRemain value => { params with requestsRemain := value }
  | .resetTimestamp value => { params with resetTimestamp := value }

theorem Params.record_requestsRemain (params : Params) (value : BitVec 32) :
    params.record (.requestsRemain value) = params ↔ params.requestsRemain = value :=
  ⟨fun same => (congrArg Params.requestsRemain same).symm, fun same => by subst same; rfl⟩

theorem Params.record_resetTimestamp (params : Params) (value : BitVec 64) :
    params.record (.resetTimestamp value) = params ↔ params.resetTimestamp = value :=
  ⟨fun same => (congrArg Params.resetTimestamp same).symm, fun same => by subst same; rfl⟩

/-- The parameters after an event that reports something else than what is remembered. -/
def Event.changes (config : Config) (params : Params) (event : Event) : Option Params :=
  match event.report config with
  | some report => if params.record report = params then none else some (params.record report)
  | none => none

theorem Event.changes_none {config : Config} {params : Params} {event : Event}
    (unchanged : event.changes config params = none) :
    ∀ report ∈ event.report config, params.record report = params := by
  intro report reports
  rw [Option.mem_def] at reports
  by_contra differs
  rw [Event.changes, reports] at unchanged
  exact absurd unchanged (by simp [differs])

theorem Event.changes_some {config : Config} {params changed : Params} {event : Event}
    (changes : event.changes config params = some changed) :
    ∃ report ∈ event.report config, changed = params.record report := by
  unfold Event.changes at changes
  split at changes
  next report reports =>
    split at changes
    · cases changes
    · cases changes
      exact ⟨report, reports, rfl⟩
  next => cases changes

/-! ### How an event is handled -/

/-- How an event is handled while rate limiting is enabled: nothing new is reported, the
parameters change, or a response ends that sets requests back. -/
inductive Throttle.Handles (config : Config) (clock : Clock) (throttle : Throttle) :
    Event → Throttle → Prop
  | keeps {event : Event} (limit : BitVec 32)
      (unchanged : event.changes config throttle.params = none)
      (unblocked : event ≠ .messageEnd .forbidden)
      (unlimited : event ≠ .messageEnd .tooManyRequests) :
      Handles config clock throttle event { throttle with params.limit := limit }
  | changes {event : Event} (params : Params)
      (differs : event.changes config throttle.params = some params) :
      Handles config clock throttle event
        (updateSuspendUntil config clock { throttle with params := params })
  | blocks :
      Handles config clock throttle (.messageEnd .forbidden)
        { throttle with suspendUntil := max throttle.suspendUntil (clock.system + blockedBackoff) }
  | limits :
      Handles config clock throttle (.messageEnd .tooManyRequests)
        { throttle with
          suspendUntil :=
            if throttle.suspendUntil = 0 then clock.system + defaultBackoff
            else throttle.suspendUntil }

namespace Throttle

/-- A report of what is remembered is ignored, any other is remembered and followed by an
update. -/
theorem messageHeader_reports {config : Config} {name value : String} {report : Report}
    (clock : Clock) (throttle : Throttle)
    (reports : parseReport config name value = some report) :
    throttle.messageHeader config clock name value =
      if throttle.params.record report = throttle.params then throttle
      else updateSuspendUntil config clock
        { throttle with params := throttle.params.record report } := by
  unfold parseReport at reports
  unfold messageHeader
  split at reports
  next header =>
    obtain ⟨requestsRemain, parsed, rfl⟩ := Option.map_eq_some_iff.mp reports
    simp only [header, parsed, Params.record_requestsRemain, ne_eq, ite_not]
    rfl
  next header =>
    obtain ⟨resetTimestamp, parsed, rfl⟩ := Option.map_eq_some_iff.mp reports
    simp only [header, parsed, Params.record_resetTimestamp, ne_eq, ite_not]
    rfl
  next => cases reports
  next => cases reports

/-- A header that reports nothing may set the limit. -/
theorem messageHeader_silent {config : Config} {name value : String} (clock : Clock)
    (throttle : Throttle) (silent : parseReport config name value = none) :
    ∃ limit, throttle.messageHeader config clock name value =
      { throttle with params.limit := limit } := by
  unfold parseReport at silent
  unfold messageHeader
  split at silent
  next header =>
    rw [Option.map_eq_none_iff] at silent
    exact ⟨throttle.params.limit, by simp only [header, silent]⟩
  next header =>
    rw [Option.map_eq_none_iff] at silent
    exact ⟨throttle.params.limit, by simp only [header, silent]⟩
  next header => exact ⟨throttle.params.limit, by simp only [header]⟩
  next header =>
    cases parsed : config.fromCharsInt32 value with
    | none => exact ⟨throttle.params.limit, by simp only [header]⟩
    | some limit => exact ⟨limit, by simp only [header]⟩

theorem handles {config : Config} (enabled : config.enableRateLimit = true) (clock : Clock)
    (throttle : Throttle) (event : Event) :
    throttle.Handles config clock event (throttle.handle config clock event) := by
  cases event with
  | messageBegin => exact .keeps throttle.params.limit rfl nofun nofun
  | messageHeader name value =>
    rw [handle]
    cases reported : parseReport config name value with
    | none =>
      obtain ⟨limit, handled⟩ := messageHeader_silent clock throttle reported
      rw [handled]
      exact .keeps limit (by simp only [Event.changes, Event.report, reported]) nofun nofun
    | some report =>
      rw [messageHeader_reports clock throttle reported]
      split
      next same =>
        refine .keeps throttle.params.limit ?_ nofun nofun
        simp only [Event.changes, Event.report, reported, if_pos same]
      next differs =>
        refine .changes _ ?_
        simp only [Event.changes, Event.report, reported, if_neg differs]
  | messageEnd status =>
    have active : ¬ ¬ config.enableRateLimit = true := not_not_intro enabled
    cases status with
    | forbidden =>
      simp only [handle, messageEnd, if_neg active]
      exact .blocks
    | tooManyRequests =>
      have handled : throttle.handle config clock (.messageEnd .tooManyRequests) =
          { throttle with
            suspendUntil :=
              if throttle.suspendUntil = 0 then clock.system + defaultBackoff
              else throttle.suspendUntil } := by
        simp only [handle, messageEnd, if_neg active]
        split <;> rfl
      rw [handled]
      exact .limits
    | other code =>
      simp only [handle, messageEnd, if_neg active]
      exact .keeps throttle.params.limit rfl nofun nofun

/-- A step handles its event, and shows the suspension. -/
theorem step_handles {config : Config} (enabled : config.enableRateLimit = true)
    {throttle next : Throttle} {input : Input} {shown : Int}
    (taken : (interceptor config).step throttle input = .ok (next, shown)) :
    throttle.Handles config input.clock input.event next ∧ shown = next.suspendUntil := by
  cases taken
  exact ⟨handles enabled input.clock throttle input.event, rfl⟩

end Throttle

/-! ### A plain interceptor -/

/-- The FNV-1a hash of a text, in 64 bits. -/
def plainFnv (text : String) : UInt64 :=
  text.toList.foldl (fun hash character => (hash ^^^ UInt64.ofNat character.toNat) * 1099511628211)
    14695981039346656037

/-- Read a text of digits. -/
def plainDigits (text : String) : Option Nat :=
  if text ≠ "" ∧ text.toList.all Char.isDigit then some (Nat.ofDigitChars 10 text.toList 0)
  else none

/-- An interceptor with rate limiting, which reads numbers without a sign. -/
def plainConfig : Config where
  enableRateLimit := true
  fnv := plainFnv
  fromCharsInt32 text := (plainDigits text).map (BitVec.ofNat 32)
  fromCharsInt64 text := (plainDigits text).map (BitVec.ofNat 64)

example : parseHeader plainConfig "X-Gate-RateLimit-Requests-Remain" = .requestsRemain := by
  decide +kernel

/-- Events at the given times, in seconds, with both clocks set alike. -/
def plainInputs (events : List (Nat × Event)) : List Input := events.map fun event =>
  ⟨⟨event.1 * 1000000000, event.1 * 1000000000⟩, event.2⟩

end GateFutures.Tools
