/-
This file models how `Throttle` computes until when requests are suspended, in nanoseconds of 64
bits, and proves when nothing overflows.

A reset timestamp is any number of 64 bits, and counts seconds. It is converted to nanoseconds
before it is compared with the clock. Only numbers of seconds up to about the year 2262 survive
that, so that a timestamp in milliseconds overflows.
-/

import GateFutures.Library.Checked
import GateFutures.Tools.Quota

namespace GateFutures.Tools

open Library

namespace Word

/-! ### The interceptor in 64 bits -/

/-- `std::chrono::nanoseconds`. -/
abbrev Nanoseconds := BitVec 64

/-- The two clocks at one moment: `clock::get_system` and `clock::get_realtime`. -/
structure Clock where
  system : Nanoseconds
  realtime : Nanoseconds

/-- `Throttle`. -/
structure Throttle where
  params : Params
  suspendUntil : Nanoseconds

/-- `DEFAULT_BACKOFF`: five seconds. -/
def defaultBackoff : Nanoseconds := 5000000000

/-- `BLOCKED_BACKOFF`: ten minutes. -/
def blockedBackoff : Nanoseconds := 600000000000

/-- A number of seconds, converted to nanoseconds. -/
def toNanoseconds (seconds : BitVec 64) : Checked Nanoseconds := .mul seconds 1000000000

namespace Throttle

/-- The interceptor as constructed. -/
def initial : Throttle where
  params := ⟨0, 0, 0⟩
  suspendUntil := 0

/-- The end of `update_suspend_until`: suspend requests until a timestamp, or for a while if that
has passed. -/
def suspend (clock : Clock) (throttle : Throttle) (timestamp : Nanoseconds) : Checked Throttle :=
  if clock.realtime.slt timestamp then do
    let period ← Checked.sub timestamp clock.realtime
    let resume ← Checked.add clock.system period
    return { throttle with suspendUntil := signedMax throttle.suspendUntil resume }
  else do
    let resume ← Checked.add clock.system defaultBackoff
    return { throttle with suspendUntil := signedMax throttle.suspendUntil resume }

/-- `update_suspend_until`. The comparison and the difference convert the same timestamp. -/
def updateSuspendUntil (config : Config) (clock : Clock) (throttle : Throttle) :
    Checked Throttle :=
  if ¬ config.enableRateLimit then pure throttle
  else if throttle.params.Permit then pure { throttle with suspendUntil := 0 }
  else do
    let timestamp ← toNanoseconds throttle.params.resetTimestamp
    throttle.suspend clock timestamp

/-- `Throttle::operator()(Trace<web::rest::MessageHeader>)`. -/
def messageHeader (config : Config) (clock : Clock) (name value : String) (throttle : Throttle) :
    Checked Throttle :=
  match parseHeader config name with
  | .unknown => pure throttle
  | .limit =>
    match config.fromCharsInt32 value with
    | some limit => pure { throttle with params.limit := limit }
    | none => pure throttle
  | .requestsRemain =>
    match config.fromCharsInt32 value with
    | some requestsRemain =>
      if throttle.params.requestsRemain ≠ requestsRemain then
        updateSuspendUntil config clock { throttle with params.requestsRemain := requestsRemain }
      else pure throttle
    | none => pure throttle
  | .resetTimestamp =>
    match config.fromCharsInt64 value with
    | some resetTimestamp =>
      if throttle.params.resetTimestamp ≠ resetTimestamp then
        updateSuspendUntil config clock { throttle with params.resetTimestamp := resetTimestamp }
      else pure throttle
    | none => pure throttle

/-- `Throttle::operator()(Trace<web::rest::MessageEnd>)`. -/
def messageEnd (config : Config) (clock : Clock) (status : Status) (throttle : Throttle) :
    Checked Throttle :=
  if ¬ config.enableRateLimit then pure throttle
  else match status with
    | .forbidden => do
      let resume ← Checked.add clock.system blockedBackoff
      return { throttle with suspendUntil := signedMax throttle.suspendUntil resume }
    | .tooManyRequests =>
      if throttle.suspendUntil = 0 then do
        let resume ← Checked.add clock.system defaultBackoff
        return { throttle with suspendUntil := resume }
      else pure throttle
    | .other _ => pure throttle

/-- Handle an event. -/
def handle (config : Config) (clock : Clock) (throttle : Throttle) : Event → Checked Throttle
  | .messageBegin => pure throttle
  | .messageHeader name value => throttle.messageHeader config clock name value
  | .messageEnd status => throttle.messageEnd config clock status

end Throttle

/-- An event, and the clocks when it is handled. -/
structure Input where
  clock : Clock
  event : Event

/-- The interceptor as the connections see it. What it does after an overflow is undefined. -/
def interceptor (config : Config) : Machine Throttle Input Nanoseconds Checked.Overflow where
  initial := Throttle.initial
  step throttle input := do
    let next ← (throttle.handle config input.clock input.event).run
    return (next, next.suspendUntil)

/-! ### What the numbers stand for -/

/-- The readings, as integers. -/
def Clock.exact (clock : Clock) : Tools.Clock where
  system := clock.system.toInt
  realtime := clock.realtime.toInt

/-- The interceptor, with an integer for the suspension. -/
@[simps]
def Throttle.exact (throttle : Throttle) : Tools.Throttle where
  params := throttle.params
  suspendUntil := throttle.suspendUntil.toInt

def Input.exact (input : Input) : Tools.Input where
  clock := input.clock.exact
  event := input.event

theorem toInt_defaultBackoff : defaultBackoff.toInt = Tools.defaultBackoff := by decide

theorem toInt_blockedBackoff : blockedBackoff.toInt = Tools.blockedBackoff := by decide

/-! ### Updates -/

/-- The difference and the sum of an update stay in 64 bits. -/
def DurationsFit (clock : Tools.Clock) (timestamp : ℤ) : Prop :=
  if clock.realtime < timestamp then
    InRange 64 (timestamp - clock.realtime) ∧
      InRange 64 (clock.system + (timestamp - clock.realtime))
  else InRange 64 (clock.system + Tools.defaultBackoff)

/-- Nothing overflows in an update. -/
def UpdateFits (config : Config) (clock : Tools.Clock) (params : Params) : Prop :=
  config.enableRateLimit = true → ¬ params.Permit →
    Fits params.resetTimestamp ∧ DurationsFit clock (params.resetTimestamp.toInt * 1000000000)

/-- Nothing overflows when an event is handled. -/
def HandleFits (config : Config) (clock : Tools.Clock) (throttle : Tools.Throttle)
    (event : Event) : Prop :=
  match event with
  | .messageBegin => True
  | .messageHeader _ _ => ∀ params ∈ event.changes config throttle.params,
      UpdateFits config clock params
  | .messageEnd .forbidden => config.enableRateLimit = true →
      InRange 64 (clock.system + Tools.blockedBackoff)
  | .messageEnd .tooManyRequests => config.enableRateLimit = true → throttle.suspendUntil = 0 →
      InRange 64 (clock.system + Tools.defaultBackoff)
  | .messageEnd (.other _) => True

/-- Until when requests are suspended for a timestamp. -/
def resumeAt (clock : Tools.Clock) (timestamp : ℤ) : ℤ :=
  if clock.realtime < timestamp then clock.system + (timestamp - clock.realtime)
  else clock.system + Tools.defaultBackoff

/-- If the conversion does not overflow, an update suspends requests for the timestamp. -/
theorem resume_exact {params : Params} (clock : Tools.Clock) (fits : Fits params.resetTimestamp) :
    params.resume clock = resumeAt clock (params.resetTimestamp.toInt * 1000000000) := by
  rw [Params.resume, toNanoseconds_fits fits, resumeAt]

namespace Throttle

/-- The suspension is raised to a while from now, without overflow exactly if the sum fits. -/
theorem raise_ensures (clock : Clock) (throttle : Throttle) (period : Nanoseconds)
    (condition : Tools.Throttle → Prop) :
    ((Checked.add clock.system period >>= fun resume =>
        pure { throttle with suspendUntil := signedMax throttle.suspendUntil resume }).Ensures
          fun next => condition next.exact) ↔
      InRange 64 (clock.exact.system + period.toInt) ∧
        condition ⟨throttle.params,
          max throttle.suspendUntil.toInt (clock.exact.system + period.toInt)⟩ := by
  rw [Checked.ensures_bind]
  simp only [Checked.ensures_pure, exact, toInt_signedMax]
  exact Checked.ensures_add clock.system period
    fun resume => condition ⟨throttle.params, max throttle.suspendUntil.toInt resume⟩

/-- Requests are suspended until when integers say, without overflow exactly if the durations
fit. -/
theorem suspend_ensures (clock : Clock) (throttle : Throttle) (timestamp : Nanoseconds)
    (condition : Tools.Throttle → Prop) :
    (throttle.suspend clock timestamp).Ensures (fun next => condition next.exact) ↔
      DurationsFit clock.exact timestamp.toInt ∧
        condition ⟨throttle.params,
          max throttle.suspendUntil.toInt (resumeAt clock.exact timestamp.toInt)⟩ := by
  rw [suspend, DurationsFit, resumeAt]
  by_cases future : clock.exact.realtime < timestamp.toInt
  · rw [if_pos (BitVec.slt_iff_toInt_lt.mpr future), if_pos future, if_pos future,
      Checked.ensures_bind, and_assoc]
    simp only [raise_ensures]
    exact Checked.ensures_sub timestamp clock.realtime fun period =>
      InRange 64 (clock.exact.system + period) ∧
        condition ⟨throttle.params, max throttle.suspendUntil.toInt (clock.exact.system + period)⟩
  · rw [if_neg (mt BitVec.slt_iff_toInt_lt.mp future), if_neg future, if_neg future,
      raise_ensures, toInt_defaultBackoff]

/-- An update is that of the integers, without overflow exactly if it fits. -/
theorem updateSuspendUntil_ensures (config : Config) (clock : Clock) (throttle : Throttle)
    (condition : Tools.Throttle → Prop) :
    (throttle.updateSuspendUntil config clock).Ensures (fun next => condition next.exact) ↔
      UpdateFits config clock.exact throttle.params ∧
        condition (throttle.exact.updateSuspendUntil config clock.exact) := by
  have integers : throttle.exact = ⟨throttle.params, throttle.suspendUntil.toInt⟩ := rfl
  rw [updateSuspendUntil, UpdateFits]
  by_cases enabled : config.enableRateLimit = true
  · rw [if_neg (not_not_intro enabled), forall_prop_of_true enabled, integers]
    by_cases permit : throttle.params.Permit
    · rw [if_pos permit, Checked.ensures_pure,
        Tools.Throttle.updateSuspendUntil_permit enabled _ _ permit]
      exact (and_iff_right fun used => absurd permit used).symm
    · rw [if_neg permit, forall_prop_of_true permit, Checked.ensures_bind,
        Tools.Throttle.updateSuspendUntil_used enabled _ _ permit]
      simp only [suspend_ensures]
      refine (Checked.ensures_mul throttle.params.resetTimestamp 1000000000 fun timestamp =>
        DurationsFit clock.exact timestamp ∧ condition ⟨throttle.params,
          max throttle.suspendUntil.toInt (resumeAt clock.exact timestamp)⟩).trans ?_
      rw [and_assoc]
      refine and_congr_right fun fits => and_congr_right fun _ => ?_
      rw [resume_exact clock.exact fits]
      rfl
  · rw [if_pos enabled, Checked.ensures_pure, Tools.Throttle.updateSuspendUntil, if_pos enabled]
    exact (and_iff_right fun on => absurd on enabled).symm

/-! ### Events -/

/-- A report of what is remembered is ignored, any other is remembered and followed by an
update. -/
theorem messageHeader_reports {config : Config} {name value : String} {report : Report}
    (clock : Clock) (throttle : Throttle)
    (reports : parseReport config name value = some report) :
    throttle.messageHeader config clock name value =
      if throttle.params.record report = throttle.params then pure throttle
      else updateSuspendUntil config clock
        { throttle with params := throttle.params.record report } := by
  unfold parseReport at reports
  unfold messageHeader
  split at reports
  next header =>
    obtain ⟨requestsRemain, parsed, rfl⟩ := Option.map_eq_some_iff.mp reports
    simp only [header, parsed, Params.record_requestsRemain, ne_eq, ite_not]
    rfl
  next header =>
    obtain ⟨resetTimestamp, parsed, rfl⟩ := Option.map_eq_some_iff.mp reports
    simp only [header, parsed, Params.record_resetTimestamp, ne_eq, ite_not]
    rfl
  next => cases reports
  next => cases reports

/-- A header that reports nothing sets the limit that it sets in integers, if any. -/
theorem messageHeader_silent {config : Config} {name value : String} (clock : Clock)
    (throttle : Throttle) (silent : parseReport config name value = none) :
    ∃ limit, throttle.messageHeader config clock name value =
        pure { throttle with params.limit := limit } ∧
      throttle.exact.messageHeader config clock.exact name value =
        exact { throttle with params.limit := limit } := by
  unfold parseReport at silent
  unfold messageHeader Tools.Throttle.messageHeader
  split at silent
  next header =>
    rw [Option.map_eq_none_iff] at silent
    simp only [header, silent]
    exact ⟨throttle.params.limit, rfl, rfl⟩
  next header =>
    rw [Option.map_eq_none_iff] at silent
    simp only [header, silent]
    exact ⟨throttle.params.limit, rfl, rfl⟩
  next header =>
    simp only [header]
    exact ⟨throttle.params.limit, rfl, rfl⟩
  next header =>
    simp only [header]
    cases config.fromCharsInt32 value with
    | none => exact ⟨throttle.params.limit, rfl, rfl⟩
    | some limit => exact ⟨limit, rfl, rfl⟩

theorem messageHeader_ensures (config : Config) (clock : Clock) (name value : String)
    (throttle : Throttle) (condition : Tools.Throttle → Prop) :
    (throttle.messageHeader config clock name value).Ensures (fun next => condition next.exact) ↔
      (∀ params ∈ (Event.messageHeader name value).changes config throttle.params,
        UpdateFits config clock.exact params) ∧
        condition (throttle.exact.messageHeader config clock.exact name value) := by
  have nothing : ∀ params ∈ (none : Option Params), UpdateFits config clock.exact params := by
    rintro _ ⟨⟩
  rw [Event.changes, Event.report]
  cases reported : parseReport config name value with
  | none =>
    obtain ⟨limit, machine, integers⟩ := messageHeader_silent clock throttle reported
    rw [machine, integers, Checked.ensures_pure]
    exact (and_iff_right nothing).symm
  | some report =>
    rw [messageHeader_reports clock throttle reported,
      Tools.Throttle.messageHeader_reports clock.exact throttle.exact reported]
    simp only [exact_params]
    split
    next => exact (Checked.ensures_pure _ _).trans (and_iff_right nothing).symm
    next =>
      rw [updateSuspendUntil_ensures]
      refine and_congr ?_ Iff.rfl
      exact ⟨fun fits params same => Option.some.inj same ▸ fits, fun fits => fits _ rfl⟩

theorem messageEnd_ensures (config : Config) (clock : Clock) (status : Status)
    (throttle : Throttle) (condition : Tools.Throttle → Prop) :
    (throttle.messageEnd config clock status).Ensures (fun next => condition next.exact) ↔
      HandleFits config clock.exact throttle.exact (.messageEnd status) ∧
        condition (throttle.exact.messageEnd config clock.exact status) := by
  unfold messageEnd Tools.Throttle.messageEnd
  by_cases enabled : config.enableRateLimit = true
  · rw [if_neg (not_not_intro enabled), if_neg (not_not_intro enabled)]
    cases status with
    | forbidden =>
      simp only [HandleFits, forall_prop_of_true enabled]
      rw [← toInt_blockedBackoff]
      exact raise_ensures clock throttle blockedBackoff condition
    | tooManyRequests =>
      have zero : throttle.suspendUntil = 0 ↔ throttle.exact.suspendUntil = 0 :=
        BitVec.toInt_inj.symm
      simp only [HandleFits, forall_prop_of_true enabled]
      by_cases cleared : throttle.suspendUntil = 0
      · rw [if_pos cleared, if_pos (zero.mp cleared), forall_prop_of_true (zero.mp cleared),
          Checked.ensures_bind, ← toInt_defaultBackoff]
        simp only [Checked.ensures_pure]
        exact Checked.ensures_add clock.system defaultBackoff
          fun resume => condition ⟨throttle.params, resume⟩
      · rw [if_neg cleared, if_neg (mt zero.mpr cleared), Checked.ensures_pure]
        exact (and_iff_right fun same => absurd (zero.mpr same) cleared).symm
    | other code => exact (Checked.ensures_pure _ _).trans (and_iff_right trivial).symm
  · rw [if_pos enabled, if_pos enabled, Checked.ensures_pure]
    refine (and_iff_right ?_).symm
    cases status with
    | forbidden => exact fun on => absurd on enabled
    | tooManyRequests => exact fun on => absurd on enabled
    | other code => trivial

/-- An event is handled as in integers, without overflow exactly if what it computes fits. -/
theorem handle_ensures (config : Config) (clock : Clock) (throttle : Throttle) (event : Event)
    (condition : Tools.Throttle → Prop) :
    (throttle.handle config clock event).Ensures (fun next => condition next.exact) ↔
      HandleFits config clock.exact throttle.exact event ∧
        condition (throttle.exact.handle config clock.exact event) := by
  cases event with
  | messageBegin => exact (Checked.ensures_pure _ _).trans (and_iff_right trivial).symm
  | messageHeader name value =>
    exact messageHeader_ensures config clock name value throttle condition
  | messageEnd status => exact messageEnd_ensures config clock status throttle condition

end Throttle

/-! ### Runs -/

/-- A step is a step in integers. -/
theorem step_exact {config : Config} {throttle next : Throttle} {input : Input}
    {shown : Nanoseconds}
    (taken : (interceptor config).step throttle input = .ok (next, shown)) :
    (Tools.interceptor config).step throttle.exact input.exact =
      .ok (next.exact, shown.toInt) := by
  obtain ⟨handled, ran, returned⟩ := bind_ok.mp taken
  cases returned
  have ensures := (Checked.run_ok.mp ran).imp fun value same => congrArg Throttle.exact same
  have same := ((Throttle.handle_ensures config input.clock throttle input.event
    (· = next.exact)).mp ensures).2
  show Except.ok (throttle.exact.handle config input.clock.exact input.event,
    (throttle.exact.handle config input.clock.exact input.event).suspendUntil) = _
  rw [same]
  rfl

/-- The history of the interceptor in 64 bits. -/
abbrev ThrottleHistory := History Throttle Input Nanoseconds

/-- A history, as one in integers. -/
def exactHistory (history : ThrottleHistory) : Tools.ThrottleHistory :=
  history.map (Entry.map Throttle.exact Input.exact BitVec.toInt)

/-- As long as nothing overflows, the interceptor runs as it does in integers. -/
theorem run_exact {config : Config} {allowed : Environment Throttle Input Nanoseconds}
    {admits : Environment Tools.Throttle Tools.Input Int}
    (admitted : ∀ history throttle input, allowed history throttle input →
      admits (exactHistory history) throttle.exact input.exact)
    {history : ThrottleHistory} {throttle : Throttle}
    (run : (interceptor config).Run allowed history throttle) :
    (Tools.interceptor config).Run admits (exactHistory history) throttle.exact := by
  have initially : Throttle.initial.exact = Tools.Throttle.initial := rfl
  exact run.map initially (fun _ _ _ _ taken => step_exact taken) admitted

/-! ### This century -/

/-- Both clocks are read between the years 2000 and 2100. The system clock counts up from zero,
the realtime clock from the epoch. -/
def ThisCentury (clock : Tools.Clock) : Prop :=
  (946684800000000000 ≤ clock.realtime ∧ clock.realtime < 4133980800000000000) ∧
    0 ≤ clock.system ∧ clock.system < 4133980800000000000

instance (clock : Tools.Clock) : Decidable (ThisCentury clock) :=
  inferInstanceAs (Decidable (_ ∧ _))

/-- The seconds are nanoseconds in 64 bits, and the system clock can count to the moment they
stand for. -/
def ResetFits (clock : Tools.Clock) (seconds : BitVec 64) : Prop :=
  (-9223372036 ≤ seconds.toInt ∧ seconds.toInt ≤ 9223372036) ∧
    clock.system + (seconds.toInt * 1000000000 - clock.realtime) < 2 ^ 63

instance (clock : Tools.Clock) (seconds : BitVec 64) : Decidable (ResetFits clock seconds) :=
  inferInstanceAs (Decidable (_ ∧ _))

theorem fits_iff (seconds : BitVec 64) :
    Fits seconds ↔ -9223372036 ≤ seconds.toInt ∧ seconds.toInt ≤ 9223372036 := by
  rw [Fits]
  omega

theorem inRange_iff (number : ℤ) :
    InRange 64 number ↔ -9223372036854775808 ≤ number ∧ number < 9223372036854775808 := Iff.rfl

/-- In this century the durations fit exactly if the system clock can count to the timestamp. -/
theorem durationsFit_iff {clock : Tools.Clock} (century : ThisCentury clock) (timestamp : ℤ) :
    DurationsFit clock timestamp ↔ clock.system + (timestamp - clock.realtime) < 2 ^ 63 := by
  obtain ⟨⟨realtimeFrom, realtimeUntil⟩, systemFrom, systemUntil⟩ := century
  rw [DurationsFit, inRange_iff, inRange_iff, inRange_iff, Tools.defaultBackoff]
  split
  next future => omega
  next past => omega

/-- Nothing overflows in an update exactly if the reset timestamp fits. -/
theorem updateFits_iff {config : Config} (enabled : config.enableRateLimit = true)
    {clock : Tools.Clock} (century : ThisCentury clock) {params : Params}
    (used : params.requestsRemain.toInt ≤ 0) :
    UpdateFits config clock params ↔ ResetFits clock params.resetTimestamp := by
  rw [UpdateFits, forall_prop_of_true enabled, ResetFits, ← fits_iff, durationsFit_iff century]
  constructor
  · intro fits
    by_cases permit : params.Permit
    · have zero : params.resetTimestamp = 0 := permit.resolve_left (not_lt.mpr used)
      rw [zero]
      obtain ⟨⟨realtimeFrom, realtimeUntil⟩, systemFrom, systemUntil⟩ := century
      have epoch : (0 : BitVec 64).toInt = 0 := rfl
      rw [fits_iff, epoch]
      omega
    · exact fits permit
  · exact fun fits _ => fits

/-! ### Suspensions in exact arithmetic -/

/-- Until when requests are suspended after an update, in exact arithmetic. -/
def suspendExactly (clock : Tools.Clock) (params : Params) (suspendUntil : ℤ) : ℤ :=
  if params.Permit then 0
  else max suspendUntil (resumeAt clock (params.resetTimestamp.toInt * 1000000000))

/-- The parameters are remembered, and requests are suspended as in exact arithmetic. Where a reset
is known, the suspension does not end in the past. -/
structure SuspendsExactly (clock : Tools.Clock) (params : Params) (suspendUntil : ℤ)
    (next : Tools.Throttle) : Prop where
  remembered : next.params = params
  exact : next.suspendUntil = suspendExactly clock params suspendUntil
  notPast : params.resetTimestamp ≠ 0 → clock.system < next.suspendUntil

/-- A report of something else than what is remembered is followed by an update. -/
theorem handle_changes {config : Config} (enabled : config.enableRateLimit = true)
    (clock : Tools.Clock) (throttle : Tools.Throttle) {event : Event} {params : Params}
    (changes : event.changes config throttle.params = some params) :
    throttle.handle config clock event =
      Tools.Throttle.updateSuspendUntil config clock { throttle with params } := by
  have handles := Tools.Throttle.handles enabled clock throttle event
  generalize throttle.handle config clock event = next at handles ⊢
  cases handles with
  | keeps limit unchanged unblocked unlimited => cases unchanged.symm.trans changes
  | changes params' differs =>
    cases differs.symm.trans changes
    rfl
  | blocks => cases changes
  | limits => cases changes

/-- What fits is exact. -/
theorem suspendsExactly_of_fits {config : Config} (enabled : config.enableRateLimit = true)
    {clock : Tools.Clock} (throttle : Tools.Throttle) {event : Event} {params : Params}
    (changes : event.changes config throttle.params = some params)
    (used : params.requestsRemain.toInt ≤ 0) (fits : Fits params.resetTimestamp) :
    SuspendsExactly clock params throttle.suspendUntil (throttle.handle config clock event) := by
  rw [handle_changes enabled clock throttle changes]
  by_cases permit : params.Permit
  · have zero : params.resetTimestamp = 0 := permit.resolve_left (not_lt.mpr used)
    rw [Tools.Throttle.updateSuspendUntil_permit enabled clock _ permit]
    exact ⟨rfl, (if_pos permit).symm, fun known => absurd zero known⟩
  · rw [Tools.Throttle.updateSuspendUntil_used enabled clock _ permit, resume_exact clock fits]
    refine ⟨rfl, ?_, fun _ => lt_max_of_lt_right ?_⟩
    · rw [suspendExactly, if_neg permit]
    · rw [resumeAt, Tools.defaultBackoff]
      split <;> omega

/-- A header that changes what is remembered overflows nothing exactly if its update does not. -/
theorem handleFits_changes {config : Config} {clock : Tools.Clock} {throttle : Tools.Throttle}
    {event : Event} {params : Params}
    (changes : event.changes config throttle.params = some params) :
    HandleFits config clock throttle event ↔ UpdateFits config clock params := by
  cases event with
  | messageBegin => cases changes
  | messageHeader name value =>
    rw [HandleFits, changes]
    exact ⟨fun fits => fits params rfl, fun fits _ same => Option.some.inj same ▸ fits⟩
  | messageEnd status => cases changes

/-- A header that changes what is remembered to a used-up quota suspends requests as in exact
arithmetic, and without overflow, exactly if the reset timestamp fits. -/
theorem suspension_exact_iff (config : Config) (enabled : config.enableRateLimit = true)
    (clock : Clock) (century : ThisCentury clock.exact) (throttle : Throttle) (event : Event)
    (params : Params) (changes : event.changes config throttle.params = some params)
    (used : params.requestsRemain.toInt ≤ 0) :
    (throttle.handle config clock event).Ensures
        (fun next => SuspendsExactly clock.exact params throttle.suspendUntil.toInt next.exact) ↔
      ResetFits clock.exact params.resetTimestamp := by
  rw [Throttle.handle_ensures, handleFits_changes changes, updateFits_iff enabled century used]
  refine and_iff_left_of_imp fun fits => ?_
  exact suspendsExactly_of_fits enabled throttle.exact changes used ((fits_iff _).mpr fits.1)

/-- The clocks of a process that was started a thousand seconds ago, on a day of 2024. -/
def plainClock : Clock where
  system := 1000000000000
  realtime := 1727232753000000000

/-- The first header reports a reset half a minute later. -/
theorem suspension_exact_plain :
    (Throttle.initial.handle plainConfig plainClock (plainReset "1727232783")).Ensures
      fun next => SuspendsExactly plainClock.exact ⟨0, 0, 1727232783⟩ 0 next.exact :=
  (suspension_exact_iff plainConfig rfl plainClock (by decide) Throttle.initial
    (plainReset "1727232783") ⟨0, 0, 1727232783⟩ (by decide +kernel) (by decide)).mpr (by decide)

/-- The same reset in milliseconds overflows. It is taken to have passed, and requests are
suspended for five seconds. -/
theorem millisecond_reset_overflows :
    (plainReset "1727232783000").changes plainConfig Throttle.initial.params =
        some ⟨0, 0, 1727232783000⟩ ∧
      ¬ (Throttle.initial.handle plainConfig plainClock (plainReset "1727232783000")).Ensures
        (fun next => SuspendsExactly plainClock.exact ⟨0, 0, 1727232783000⟩ 0 next.exact) ∧
      (Throttle.initial.handle plainConfig plainClock
        (plainReset "1727232783000")).value.suspendUntil = 1005000000000 := by
  refine ⟨by decide +kernel, fun ensures => absurd ensures.1 ?_, ?_⟩ <;> decide +kernel

/-- What an update leaves does not end in the past, even where the conversion overflows, unless the
system clock is ahead of the realtime clock. -/
theorem updateSuspendUntil_notPast {config : Config} (enabled : config.enableRateLimit = true)
    {clock : Clock} (century : ThisCentury clock.exact)
    (behind : clock.exact.system ≤ clock.exact.realtime) {throttle : Throttle}
    (used : ¬ throttle.params.Permit) :
    clock.exact.system <
      (throttle.updateSuspendUntil config clock).value.exact.suspendUntil := by
  rw [Throttle.updateSuspendUntil, if_neg (not_not_intro enabled), if_neg used]
  refine Checked.value_of_forall
    (fun next : Throttle => clock.exact.system < next.exact.suspendUntil) _ _ fun timestamp => ?_
  have bits : timestamp.toInt < 2 ^ 63 := BitVec.toInt_lt
  have fits : DurationsFit clock.exact timestamp.toInt := by
    rw [durationsFit_iff century]
    omega
  have future : clock.exact.system < resumeAt clock.exact timestamp.toInt := by
    rw [resumeAt, Tools.defaultBackoff]
    split <;> omega
  exact ((throttle.suspend_ensures clock timestamp
    (clock.exact.system < ·.suspendUntil)).mpr ⟨fits, lt_max_of_lt_right future⟩).2

/-! ### No overflow in a run -/

/-- This century, and a header that changes what is remembered to a used-up quota reports or finds
a reset timestamp that fits. -/
def ResetsFit (config : Config) : Environment Throttle Input Nanoseconds :=
  fun _ throttle input => ThisCentury input.clock.exact ∧
    ∀ params ∈ input.event.changes config throttle.params, params.requestsRemain.toInt ≤ 0 →
      ResetFits input.clock.exact params.resetTimestamp

theorem handleFits_of_resetsFit {config : Config} {history : ThrottleHistory}
    {throttle : Throttle} {input : Input} (admitted : ResetsFit config history throttle input) :
    HandleFits config input.clock.exact throttle.exact input.event := by
  obtain ⟨clock, event⟩ := input
  obtain ⟨century, fits⟩ := admitted
  have later : 0 ≤ clock.exact.system ∧ clock.exact.system < 4133980800000000000 := century.2
  cases event with
  | messageBegin => trivial
  | messageHeader name value =>
    intro params changes enabled unpermitted
    have used : params.requestsRemain.toInt ≤ 0 := not_lt.mp (not_or.mp unpermitted).1
    exact (updateFits_iff enabled century used).mpr (fits params changes used) enabled unpermitted
  | messageEnd status =>
    cases status with
    | forbidden =>
      intro _
      show InRange 64 (clock.exact.system + _)
      rw [inRange_iff, Tools.blockedBackoff]
      omega
    | tooManyRequests =>
      intro _ _
      show InRange 64 (clock.exact.system + _)
      rw [inRange_iff, Tools.defaultBackoff]
      omega
    | other code => trivial

/-- In such an environment every event is handled, in every state. -/
theorem interceptor_proceeds {config : Config} {history : ThrottleHistory} {throttle : Throttle}
    {input : Input} (admitted : ResetsFit config history throttle input) :
    ∃ next shown, (interceptor config).step throttle input = .ok (next, shown) := by
  have fits := handleFits_of_resetsFit admitted
  have ensures := (Throttle.handle_ensures config input.clock throttle input.event
    fun _ => True).mpr ⟨fits, trivial⟩
  have ran := Checked.run_ok.mpr ⟨ensures.1, rfl⟩
  exact ⟨_, _, bind_ok.mpr ⟨_, ran, rfl⟩⟩

/-- In such a run the interceptor in 64 bits is the one in integers: it went through the same
history, and handles whatever comes next as that one does. -/
theorem interceptor_refines (config : Config) (history : ThrottleHistory) (throttle : Throttle)
    (run : (interceptor config).Run (ResetsFit config) history throttle) :
    (Tools.interceptor config).Run (fun _ _ _ => True) (exactHistory history) throttle.exact ∧
      ∀ input, ResetsFit config history throttle input → ∃ next shown,
        (interceptor config).step throttle input = .ok (next, shown) ∧
          (Tools.interceptor config).step throttle.exact input.exact =
            .ok (next.exact, shown.toInt) := by
  refine ⟨run_exact (fun _ _ _ _ => trivial) run, fun input admitted => ?_⟩
  obtain ⟨next, shown, taken⟩ := interceptor_proceeds admitted
  exact ⟨next, shown, taken, step_exact taken⟩

/-- A header reports a reset half a minute later, and then the response is refused. -/
theorem interceptor_refines_plain : ∃ history throttle,
    (interceptor plainConfig).Run (ResetsFit plainConfig) history throttle ∧
      history.length = 2 ∧
      (Tools.interceptor plainConfig).Run (fun _ _ _ => True) (exactHistory history)
        throttle.exact := by
  have reported : ResetsFit plainConfig [] Throttle.initial
      ⟨plainClock, plainReset "1727232783"⟩ := by
    unfold ResetsFit
    decide +kernel
  obtain ⟨throttle, shown, taken⟩ := interceptor_proceeds reported
  have refused : ∀ history, ResetsFit plainConfig history throttle
      ⟨plainClock, .messageEnd .tooManyRequests⟩ :=
    fun _ => ⟨by decide, fun _ changes => nomatch changes⟩
  obtain ⟨last, shown', taken'⟩ := interceptor_proceeds (refused [])
  have run := (Machine.Run.start.step reported taken).step (refused _) taken'
  exact ⟨_, _, run, rfl, (interceptor_refines plainConfig _ _ run).1⟩

end Word

end GateFutures.Tools
