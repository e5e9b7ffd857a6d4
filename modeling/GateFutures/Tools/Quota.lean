/-
This file proves that requests are suspended while the quota is known to be used up.

The suspension is computed anew only when a header changes what is remembered, from the new value
and the remembered other one. In between, blocks and limited responses only raise it.
-/

import GateFutures.Tools.Suspension

namespace GateFutures.Tools

open Library

/-! ### Reports and clocks -/

/-- What headers last reported of the quota, zero before they reported it. -/
def lastReported (config : Config) : ThrottleHistory → Params
  | [] => ⟨0, 0, 0⟩
  | entry :: before =>
    match entry.input.event.report config with
    | some report => (lastReported config before).record report
    | none => lastReported config before

/-- A number of seconds that is a number of nanoseconds in 64 bits. -/
def Fits (seconds : BitVec 64) : Prop :=
  -2 ^ 63 ≤ seconds.toInt * 1000000000 ∧ seconds.toInt * 1000000000 < 2 ^ 63

instance (seconds : BitVec 64) : Decidable (Fits seconds) :=
  inferInstanceAs (Decidable (_ ∧ _))

/-- The reset timestamp an event reports. -/
def Event.resetTimestamp (config : Config) (event : Event) : Option (BitVec 64) :=
  match event.report config with
  | some (.resetTimestamp value) => some value
  | some (.requestsRemain _) | none => none

/-- The clocks advance together, at a fixed offset, and reset timestamps are small enough for
nanoseconds. -/
def ClocksTogether (config : Config) (offset : Int) : Environment Throttle Input Int :=
  fun history throttle input => ClockAdvances history throttle input ∧
    input.clock.realtime = input.clock.system + offset ∧
      ∀ seconds ∈ input.event.resetTimestamp config, Fits seconds

instance (config : Config) (offset : Int) (history : ThrottleHistory) (throttle : Throttle)
    (input : Input) : Decidable (ClocksTogether config offset history throttle input) :=
  have : Decidable (∀ seconds ∈ input.event.resetTimestamp config, Fits seconds) :=
    Option.decidableForallMem _
  inferInstanceAs (Decidable (_ ∧ _ ∧ ∀ seconds ∈ input.event.resetTimestamp config, _))

/-- The same quota. -/
structure Params.Agrees (first second : Params) : Prop where
  requestsRemain : first.requestsRemain = second.requestsRemain
  resetTimestamp : first.resetTimestamp = second.resetTimestamp

theorem Params.Agrees.record {first second : Params} (agrees : first.Agrees second)
    (report : Report) : (first.record report).Agrees (second.record report) := by
  cases report with
  | requestsRemain value => exact ⟨rfl, agrees.resetTimestamp⟩
  | resetTimestamp value => exact ⟨agrees.requestsRemain, rfl⟩

/-- When the quota of a reset timestamp is reset, on the system clock. -/
def resetInstant (offset : Int) (seconds : BitVec 64) : Int := seconds.toInt * 1000000000 - offset

/-! ### The quota invariant -/

/-- The quota invariant: what is remembered is what was last reported, it fits, and unless it is a
permit requests are suspended until the reset. -/
structure QuotaKept (config : Config) (offset : Int) (history : ThrottleHistory)
    (throttle : Throttle) : Prop where
  reported : throttle.params.Agrees (lastReported config history)
  fits : Fits throttle.params.resetTimestamp
  suspended : ¬ throttle.params.Permit →
    resetInstant offset throttle.params.resetTimestamp ≤ throttle.suspendUntil

theorem toNanoseconds_fits {seconds : BitVec 64} (fits : Fits seconds) :
    toNanoseconds seconds = seconds.toInt * 1000000000 := by
  obtain ⟨above, below⟩ := fits
  have factor : (1000000000 : BitVec 64).toInt = 1000000000 := by decide
  rw [toNanoseconds, BitVec.toInt_mul, factor]
  exact Int.bmod_eq_of_le (by omega) (by omega)

/-- An update suspends requests until the reset. -/
theorem Params.resume_reset {params : Params} {clock : Clock} {offset : Int}
    (together : clock.realtime = clock.system + offset) (fits : Fits params.resetTimestamp) :
    resetInstant offset params.resetTimestamp ≤ params.resume clock := by
  rw [Params.resume, toNanoseconds_fits fits, resetInstant]
  split
  next => omega
  next =>
    rw [defaultBackoff]
    omega

/-- What an event changes is what it reports, and its reset timestamp fits if it is new. -/
theorem Event.changes_fits {config : Config} {params changed : Params} {event : Event}
    (changes : event.changes config params = some changed) (before : Fits params.resetTimestamp)
    (small : ∀ seconds ∈ event.resetTimestamp config, Fits seconds) :
    Fits changed.resetTimestamp := by
  obtain ⟨report, reports, rfl⟩ := Event.changes_some changes
  cases report with
  | requestsRemain value => exact before
  | resetTimestamp value =>
    refine small value ?_
    rw [Event.resetTimestamp, reports]
    rfl

theorem QuotaKept.step {config : Config} (enabled : config.enableRateLimit = true) {offset : Int}
    {history : ThrottleHistory} {throttle next : Throttle} {input : Input} {shown : Int}
    (kept : QuotaKept config offset history throttle)
    (together : ClocksTogether config offset history throttle input)
    (taken : (interceptor config).step throttle input = .ok (next, shown)) :
    QuotaKept config offset (⟨throttle, input, shown⟩ :: history) next := by
  obtain ⟨handles, -⟩ := Throttle.step_handles enabled taken
  obtain ⟨clock, event⟩ := input
  obtain ⟨⟨started, -⟩, sameOffset, small⟩ := together
  cases handles with
  | keeps limit unchanged unblocked unlimited =>
    refine ⟨?_, kept.fits, kept.suspended⟩
    rw [lastReported]
    cases reports : event.report config with
    | none => exact ⟨kept.reported.requestsRemain, kept.reported.resetTimestamp⟩
    | some report =>
      have same := Event.changes_none unchanged report reports
      have agrees := kept.reported.record report
      rw [same] at agrees
      exact ⟨agrees.requestsRemain, agrees.resetTimestamp⟩
  | changes params differs =>
    have fits := Event.changes_fits differs kept.fits small
    obtain ⟨report, reports, rfl⟩ := Event.changes_some differs
    have agrees : (throttle.params.record report).Agrees
        (lastReported config (⟨throttle, ⟨clock, event⟩, shown⟩ :: history)) := by
      rw [lastReported, reports]
      exact kept.reported.record report
    by_cases permit : (throttle.params.record report).Permit
    · rw [Throttle.updateSuspendUntil_permit enabled clock throttle.suspendUntil permit]
      exact ⟨agrees, fits, fun used => absurd permit used⟩
    · rw [Throttle.updateSuspendUntil_used enabled clock throttle.suspendUntil permit]
      exact ⟨agrees, fits, fun _ =>
        le_trans (Params.resume_reset sameOffset fits) (le_max_right _ _)⟩
  | blocks =>
    exact ⟨kept.reported, kept.fits,
      fun used => le_trans (kept.suspended used) (le_max_left _ _)⟩
  | limits =>
    refine ⟨kept.reported, kept.fits, fun used => ?_⟩
    have before := kept.suspended used
    simp only []
    split
    next cleared =>
      have started : 0 ≤ clock.system := started
      rw [cleared] at before
      rw [defaultBackoff]
      omega
    next => exact before

/-- While the quota last reported is used up, requests are suspended until it is reset. -/
theorem quota_respected (config : Config) (enabled : config.enableRateLimit = true)
    (offset : Int) (history : ThrottleHistory) (throttle : Throttle)
    (run : (interceptor config).Run (ClocksTogether config offset) history throttle)
    (used : (lastReported config history).requestsRemain.toInt ≤ 0)
    (known : (lastReported config history).resetTimestamp ≠ 0) :
    resetInstant offset (lastReported config history).resetTimestamp ≤ throttle.suspendUntil := by
  have kept : QuotaKept config offset history throttle := by
    have fits : Fits 0 := by decide
    refine run.invariant (QuotaKept config offset) ⟨⟨rfl, rfl⟩, fits, ?_⟩ ?_
    · exact fun unpermitted => absurd (Or.inr rfl) unpermitted
    · exact fun history throttle input next shown kept together taken =>
        kept.step enabled together taken
  have unpermitted : ¬ throttle.params.Permit := by
    rw [Params.Permit, kept.reported.requestsRemain, kept.reported.resetTimestamp]
    exact not_or.mpr ⟨not_lt.mpr used, known⟩
  rw [← kept.reported.resetTimestamp]
  exact kept.suspended unpermitted

/-- The last request of a quota that is reset half a minute later. -/
theorem quota_respected_plain : ∃ history throttle,
    (interceptor plainConfig).Run (ClocksTogether plainConfig 0) history throttle ∧
      30000000000 ≤ throttle.suspendUntil := by
  have run : (interceptor plainConfig).Run (ClocksTogether plainConfig 0) _ _ :=
    .of_replay (plainInputs
      [(1, .messageHeader "X-Gate-RateLimit-Requests-Remain" "1"),
        (1, .messageHeader "X-Gate-RateLimit-Reset-Timestamp" "30"),
        (2, .messageHeader "X-Gate-RateLimit-Requests-Remain" "0"),
        (2, .messageHeader "X-Gate-RateLimit-Reset-Timestamp" "30"),
        (3, .messageEnd .tooManyRequests)]) rfl (by decide +kernel)
  have until_reset := quota_respected plainConfig rfl 0 _ _ run (by decide +kernel)
    (by decide +kernel)
  exact ⟨_, _, run, le_of_eq_of_le (by decide +kernel) until_reset⟩

end GateFutures.Tools
