/-
This file proves how long the interceptor suspends requests.

A response with status 403 blocks requests for ten minutes. Other responses may raise the
suspension, but a header that reports a quota clears it, block or not. A response with status 429
sets requests back only if nothing was ever suspended, or the suspension was cleared since. The
two headers of a response are handled one after the other, each with the other value as
remembered, so that their order can matter.
-/

import GateFutures.Tools.Throttle

namespace GateFutures.Tools

open Library

/-! ### One step -/

/-- Until when an update suspends requests: until the quota is reset, or for a while if that has
passed. -/
def Params.resume (params : Params) (clock : Clock) : Int :=
  if clock.realtime < toNanoseconds params.resetTimestamp then
    clock.system + (toNanoseconds params.resetTimestamp - clock.realtime)
  else clock.system + defaultBackoff

namespace Throttle

/-- With a permit, an update clears the suspension. -/
theorem updateSuspendUntil_permit {config : Config} (enabled : config.enableRateLimit = true)
    (clock : Clock) {params : Params} (suspendUntil : Int) (permit : params.Permit) :
    updateSuspendUntil config clock ⟨params, suspendUntil⟩ = ⟨params, 0⟩ := by
  rw [updateSuspendUntil, if_neg (not_not_intro enabled), if_pos permit]

/-- Without a permit, an update may only raise the suspension. -/
theorem updateSuspendUntil_used {config : Config} (enabled : config.enableRateLimit = true)
    (clock : Clock) {params : Params} (suspendUntil : Int) (used : ¬ params.Permit) :
    updateSuspendUntil config clock ⟨params, suspendUntil⟩ =
      ⟨params, max suspendUntil (params.resume clock)⟩ := by
  rw [updateSuspendUntil, if_neg (not_not_intro enabled), if_neg used, Params.resume]
  simp only []
  split
  next => rfl
  next => rfl

end Throttle

/-! ### Blocks -/

/-- When the responses with status 403 ended. -/
def blocks : ThrottleHistory → List Int
  | [] => []
  | entry :: before =>
    if entry.input.event = .messageEnd .forbidden then entry.input.clock.system :: blocks before
    else blocks before

/-- The system clock counts up from zero. -/
def ClockAdvances : Environment Throttle Input Int := fun history _ input =>
  0 ≤ input.clock.system ∧ ∀ entry ∈ history.head?, entry.input.clock.system ≤ input.clock.system

instance (history : ThrottleHistory) (throttle : Throttle) (input : Input) :
    Decidable (ClockAdvances history throttle input) :=
  inferInstanceAs (Decidable (0 ≤ _ ∧ ∀ entry ∈ history.head?, _))

/-- Ten minutes from the end of a response with status 403, that one included, have not passed, or
requests are suspended until then. -/
def BlocksHold : StepProperty Throttle Input Int := fun history entry =>
  ∀ ended ∈ blocks (entry :: history), entry.input.clock.system < ended + blockedBackoff →
    ended + blockedBackoff ≤ entry.output

/-- A header that changes what is remembered of the quota to a permit comes after every block. -/
def LiftsNoBlock (config : Config) : Environment Throttle Input Int :=
  fun history throttle input => ∀ params ∈ input.event.changes config throttle.params,
    params.Permit → ∀ ended ∈ blocks history, ended + blockedBackoff ≤ input.clock.system

instance (config : Config) (history : ThrottleHistory) (throttle : Throttle) (input : Input) :
    Decidable (LiftsNoBlock config history throttle input) :=
  inferInstanceAs (Decidable (∀ params ∈ input.event.changes config throttle.params, _ → _))

/-- The block invariant: a block that has not passed at the last event suspends requests. -/
def Blocked (history : ThrottleHistory) (throttle : Throttle) : Prop :=
  ∀ ended ∈ blocks history, (∀ entry ∈ history.head?,
    entry.input.clock.system < ended + blockedBackoff) →
      ended + blockedBackoff ≤ throttle.suspendUntil

/-- No response ended before the clock started. -/
theorem blocks_nonneg {config : Config} {history : ThrottleHistory} {throttle : Throttle}
    (run : (interceptor config).Run ClockAdvances history throttle) :
    ∀ ended ∈ blocks history, 0 ≤ ended := by
  refine run.invariant (fun history _ => ∀ ended ∈ blocks history, 0 ≤ ended)
    (List.forall_mem_nil _) ?_
  intro history throttle input next shown before advances taken ended member
  rw [blocks] at member
  split at member
  · rcases List.mem_cons.mp member with rfl | member
    · exact advances.1
    · exact before ended member
  · exact before ended member

/-- Without a lifting header a step keeps every block. -/
theorem Blocked.step {config : Config} (enabled : config.enableRateLimit = true)
    {history : ThrottleHistory} {throttle next : Throttle} {input : Input} {shown : Int}
    (blocked : Blocked history throttle) (advances : ClockAdvances history throttle input)
    (lifts : LiftsNoBlock config history throttle input)
    (taken : (interceptor config).step throttle input = .ok (next, shown)) :
    Blocked (⟨throttle, input, shown⟩ :: history) next := by
  obtain ⟨handles, -⟩ := Throttle.step_handles enabled taken
  obtain ⟨clock, event⟩ := input
  -- A block that has not passed now had not passed at the event before.
  have earlier : ∀ ended ∈ blocks history, clock.system < ended + blockedBackoff →
      ended + blockedBackoff ≤ throttle.suspendUntil := by
    intro ended member ongoing
    refine blocked ended member fun entry last => ?_
    exact lt_of_le_of_lt (advances.2 entry last) ongoing
  intro ended member waits
  have ongoing : clock.system < ended + blockedBackoff := waits _ rfl
  cases handles with
  | keeps limit unchanged unblocked unlimited =>
    rw [blocks, if_neg unblocked] at member
    exact earlier ended member ongoing
  | changes params differs =>
    have header : event ≠ .messageEnd .forbidden := by
      rintro rfl
      cases differs
    rw [blocks, if_neg header] at member
    by_cases permit : params.Permit
    · exact absurd ongoing (not_lt_of_ge (lifts params differs permit ended member))
    · rw [Throttle.updateSuspendUntil_used enabled clock throttle.suspendUntil permit]
      exact le_trans (earlier ended member ongoing) (le_max_left _ _)
  | blocks =>
    rw [Tools.blocks, if_pos rfl] at member
    rcases List.mem_cons.mp member with rfl | member
    · exact le_max_right _ _
    · exact le_trans (earlier ended member ongoing) (le_max_left _ _)
  | limits =>
    rw [blocks, if_neg nofun] at member
    have before := earlier ended member ongoing
    simp only []
    split
    next cleared =>
      have started : 0 ≤ clock.system := advances.1
      rw [cleared] at before
      rw [defaultBackoff]
      omega
    next => exact before

/-- In a run without lifting headers every block is kept. -/
theorem Blocked.of_run {config : Config} (enabled : config.enableRateLimit = true)
    {history : ThrottleHistory} {throttle : Throttle}
    (run : (interceptor config).Run
      (fun before throttle input => ClockAdvances before throttle input ∧
        LiftsNoBlock config before throttle input) history throttle) :
    Blocked history throttle := by
  refine run.invariant Blocked (List.forall_mem_nil _) ?_
  intro history throttle input next shown blocked admitted taken
  exact blocked.step enabled admitted.1 admitted.2 taken

/-- A header that lifts a block that has not passed breaks it. -/
theorem BlocksHold.lifts {config : Config} (enabled : config.enableRateLimit = true)
    {history : ThrottleHistory} {throttle next : Throttle} {input : Input} {shown : Int}
    (started : ∀ ended ∈ blocks history, 0 ≤ ended)
    (holds : BlocksHold history ⟨throttle, input, shown⟩)
    (taken : (interceptor config).step throttle input = .ok (next, shown)) :
    LiftsNoBlock config history throttle input := by
  intro params changes permit ended member
  by_contra early
  have cleared : shown = 0 := by
    obtain ⟨handles, rfl⟩ := Throttle.step_handles enabled taken
    generalize input.event = event at handles changes
    cases handles with
    | keeps limit unchanged unblocked unlimited => cases unchanged.symm.trans changes
    | changes params' differs =>
      cases differs.symm.trans changes
      rw [Throttle.updateSuspendUntil_permit enabled input.clock throttle.suspendUntil permit]
    | blocks => cases changes
    | limits => cases changes
  have earlier : ended ∈ blocks (⟨throttle, input, shown⟩ :: history) := by
    rw [blocks]
    split
    · exact List.mem_cons_of_mem _ member
    · exact member
  have suspended : ended + blockedBackoff ≤ shown := holds ended earlier (not_le.mp early)
  have started : 0 ≤ ended := started ended member
  rw [cleared, blockedBackoff] at suspended
  omega

/-- Every block holds, at every event, exactly in the runs in which no header reports a permit
before it has passed. -/
theorem blocks_hold_iff (config : Config) (enabled : config.enableRateLimit = true)
    (history : ThrottleHistory) (throttle : Throttle)
    (run : (interceptor config).Run ClockAdvances history throttle) :
    History.Always BlocksHold history ↔
      History.Always
        (fun before entry => LiftsNoBlock config before entry.before entry.input) history := by
  constructor
  · intro holds
    induction run with
    | start => trivial
    | step before advances taken inductionHypothesis =>
      exact ⟨BlocksHold.lifts enabled (blocks_nonneg before) holds.1 taken,
        inductionHypothesis holds.2⟩
  · intro lifts
    refine (run.restrict lifts).always ?_
    intro history throttle input next shown before admitted taken
    have blocked := (Blocked.of_run enabled before).step enabled admitted.1 admitted.2 taken
    obtain ⟨-, rfl⟩ := Throttle.step_handles enabled taken
    intro ended member ongoing
    exact blocked ended member fun entry last => by
      cases last
      exact ongoing

/-- A block, a used-up quota and a limited response before it has passed, and a permit after. -/
theorem blocks_hold_plain : ∃ history throttle,
    (interceptor plainConfig).Run ClockAdvances history throttle ∧
      blocks history = [1000000000] ∧ History.Always BlocksHold history := by
  have run : (interceptor plainConfig).Run ClockAdvances _ _ :=
    .of_replay (plainInputs
      [(1, .messageEnd .forbidden),
        (2, .messageHeader "X-Gate-RateLimit-Reset-Timestamp" "30"),
        (3, .messageEnd .tooManyRequests),
        (601, .messageHeader "X-Gate-RateLimit-Requests-Remain" "99")]) rfl (by decide +kernel)
  exact ⟨_, _, run, by decide +kernel,
    (blocks_hold_iff plainConfig rfl _ _ run).mpr (by decide +kernel)⟩

/-- The next response's quota lifts a block one second after it began. -/
theorem block_lifted_early : ∃ history throttle,
    (interceptor plainConfig).Run ClockAdvances history throttle ∧
      ¬ History.Always BlocksHold history := by
  refine ⟨_, _, .of_replay (plainInputs
    [(1, .messageEnd .forbidden),
      (2, .messageHeader "X-Gate-RateLimit-Requests-Remain" "99")]) rfl (by decide +kernel), ?_⟩
  intro always
  exact absurd (always.1 1000000000 (by decide +kernel) (by decide +kernel)) (by decide +kernel)

/-! ### Limited responses -/

/-- After a response with status 429 requests are suspended. -/
def BacksOff : StepProperty Throttle Input Int := fun _ entry =>
  entry.input.event = .messageEnd .tooManyRequests → entry.input.clock.system < entry.output

/-- When a response with status 429 ends, no suspension that was not cleared has run out. -/
def NoneRunOut : Environment Throttle Input Int := fun _ throttle input =>
  input.event = .messageEnd .tooManyRequests →
    throttle.suspendUntil = 0 ∨ input.clock.system < throttle.suspendUntil

instance (history : ThrottleHistory) (throttle : Throttle) (input : Input) :
    Decidable (NoneRunOut history throttle input) :=
  inferInstanceAs (Decidable (_ → _ ∨ _))

/-- Every response with status 429 sets requests back exactly in the runs in which no suspension
has run out uncleared when one ends. -/
theorem backs_off_iff (config : Config) (enabled : config.enableRateLimit = true)
    (history : ThrottleHistory) (throttle : Throttle)
    (run : (interceptor config).Run (fun _ _ _ => True) history throttle) :
    History.Always BacksOff history ↔
      History.Always
        (fun before entry => NoneRunOut before entry.before entry.input) history := by
  refine run.always_iff ?_
  intro history throttle input next shown before admitted taken
  obtain ⟨handles, rfl⟩ := Throttle.step_handles enabled taken
  obtain ⟨clock, event⟩ := input
  refine forall_congr' fun limited => ?_
  cases limited
  cases handles with
  | keeps limit unchanged unblocked unlimited => exact absurd rfl unlimited
  | changes params differs => cases differs
  | limits =>
    simp only []
    split
    next cleared =>
      rw [defaultBackoff]
      exact ⟨fun _ => Or.inl cleared, fun _ => by omega⟩
    next suspended => exact ⟨Or.inr, fun either => either.resolve_left suspended⟩

/-- Limited responses while requests are suspended, and after the suspension was cleared. -/
theorem backs_off_plain : ∃ history throttle,
    (interceptor plainConfig).Run (fun _ _ _ => True) history throttle ∧
      throttle.suspendUntil = 15000000000 ∧ History.Always BacksOff history := by
  have run : (interceptor plainConfig).Run (fun _ _ _ => True) _ _ :=
    .of_replay (plainInputs
      [(1, .messageEnd .tooManyRequests), (3, .messageEnd .tooManyRequests),
        (9, .messageHeader "X-Gate-RateLimit-Requests-Remain" "99"),
        (10, .messageEnd .tooManyRequests)]) rfl (History.always_of_forall (fun _ _ => trivial) _)
  exact ⟨_, _, run, by decide +kernel,
    (backs_off_iff plainConfig rfl _ _ run).mpr (by decide +kernel)⟩

/-- A second limited response, after the back-off of the first, sets nothing back. -/
theorem second_limit_ignored : ∃ history throttle,
    (interceptor plainConfig).Run (fun _ _ _ => True) history throttle ∧
      ¬ History.Always BacksOff history := by
  refine ⟨_, _, .of_replay (plainInputs
    [(1, .messageEnd .tooManyRequests), (10, .messageEnd .tooManyRequests)]) rfl
    (History.always_of_forall (fun _ _ => trivial) _), ?_⟩
  intro always
  exact absurd (always.1 (by decide +kernel)) (by decide +kernel)

/-! ### The order of headers -/

namespace Throttle

/-- Until when requests are suspended after the parameters change. -/
def suspendAfter (clock : Clock) (throttle : Throttle) (params : Params) : Int :=
  if params = throttle.params then throttle.suspendUntil
  else if params.Permit then 0
  else max throttle.suspendUntil (params.resume clock)

@[simp]
theorem suspendAfter_self (clock : Clock) (throttle : Throttle) :
    throttle.suspendAfter clock throttle.params = throttle.suspendUntil := if_pos rfl

/-- A header is remembered, and the suspension follows. -/
theorem handle_report {config : Config} (enabled : config.enableRateLimit = true) (clock : Clock)
    (throttle : Throttle) {event : Event} {report : Report}
    (reports : event.report config = some report) :
    throttle.handle config clock event =
      ⟨throttle.params.record report,
        throttle.suspendAfter clock (throttle.params.record report)⟩ := by
  cases event with
  | messageBegin => cases reports
  | messageEnd status => cases reports
  | messageHeader name value =>
    rw [handle, messageHeader_reports clock throttle reports, suspendAfter]
    by_cases same : throttle.params.record report = throttle.params
    · rw [if_pos same, if_pos same, same]
    · rw [if_neg same, if_neg same]
      by_cases permit : (throttle.params.record report).Permit
      · rw [updateSuspendUntil_permit enabled clock throttle.suspendUntil permit, if_pos permit]
      · rw [updateSuspendUntil_used enabled clock throttle.suspendUntil permit, if_neg permit]

/-- What a used-up quota leaves of the past, if it is reported first: nothing where no reset was
remembered, and otherwise the suspension or the remembered reset, whichever is later. -/
def keptFromReset (clock : Clock) (throttle : Throttle) : Int :=
  if throttle.params.resetTimestamp = 0 then 0
  else max throttle.suspendUntil (throttle.params.resume clock)

/-- What a reset leaves of the past, if it is reported first: nothing where a quota was
remembered, and otherwise the suspension. -/
def keptFromQuota (throttle : Throttle) : Int :=
  if 0 < throttle.params.requestsRemain.toInt then 0 else throttle.suspendUntil

/-- The order of the headers of one response does not matter: not both values are new, or together
they permit requests, or both orders keep the same of the past, or nothing that ends later than
the new reset. -/
def OrderIrrelevant (clock : Clock) (throttle : Throttle) (requestsRemain : BitVec 32)
    (resetTimestamp : BitVec 64) : Prop :=
  requestsRemain = throttle.params.requestsRemain ∨
    resetTimestamp = throttle.params.resetTimestamp ∨
    0 < requestsRemain.toInt ∨ resetTimestamp = 0 ∨
    throttle.keptFromReset clock = throttle.keptFromQuota ∨
    max (throttle.keptFromReset clock) throttle.keptFromQuota ≤
      { throttle.params with resetTimestamp }.resume clock

/-- Where both values are new and do not permit requests, what either order keeps of the past is
raised to the new reset. -/
theorem suspendAfter_both (clock : Clock) {throttle : Throttle} {requestsRemain : BitVec 32}
    {resetTimestamp : BitVec 64} (newQuota : requestsRemain ≠ throttle.params.requestsRemain)
    (newReset : resetTimestamp ≠ throttle.params.resetTimestamp)
    (used : ¬ 0 < requestsRemain.toInt) (known : resetTimestamp ≠ 0) :
    max (throttle.suspendAfter clock { throttle.params with requestsRemain })
        ({ throttle.params with resetTimestamp }.resume clock) =
      max (throttle.keptFromReset clock) ({ throttle.params with resetTimestamp }.resume clock) ∧
    max (throttle.suspendAfter clock { throttle.params with resetTimestamp })
        ({ throttle.params with resetTimestamp }.resume clock) =
      max throttle.keptFromQuota ({ throttle.params with resetTimestamp }.resume clock) := by
  have differsQuota : { throttle.params with requestsRemain } ≠ throttle.params :=
    fun same => newQuota (congrArg Params.requestsRemain same)
  have differsReset : { throttle.params with resetTimestamp } ≠ throttle.params :=
    fun same => newReset (congrArg Params.resetTimestamp same)
  have permitQuota : { throttle.params with requestsRemain }.Permit ↔
      throttle.params.resetTimestamp = 0 := or_iff_right used
  have permitReset : { throttle.params with resetTimestamp }.Permit ↔
      0 < throttle.params.requestsRemain.toInt := or_iff_left known
  unfold suspendAfter keptFromReset keptFromQuota
  rw [if_neg differsQuota, if_neg differsReset]
  simp only [permitQuota, permitReset]
  refine ⟨rfl, ?_⟩
  split
  · rfl
  · rw [max_assoc, max_self]

/-- Two times are raised to one time exactly if they are the same, or neither is later. -/
theorem max_eq_max_iff (first second bound : Int) :
    max first bound = max second bound ↔ first = second ∨ max first second ≤ bound := by
  omega

/-- The two headers of a response leave the same suspension in either order exactly if their order
does not matter. -/
theorem headers_commute_iff (config : Config) (enabled : config.enableRateLimit = true)
    (clock : Clock) (throttle : Throttle) (remains resets : Event) (requestsRemain : BitVec 32)
    (resetTimestamp : BitVec 64)
    (quota : remains.report config = some (.requestsRemain requestsRemain))
    (reset : resets.report config = some (.resetTimestamp resetTimestamp)) :
    ((throttle.handle config clock remains).handle config clock resets).suspendUntil =
        ((throttle.handle config clock resets).handle config clock remains).suspendUntil ↔
      throttle.OrderIrrelevant clock requestsRemain resetTimestamp := by
  rw [handle_report enabled clock throttle quota, handle_report enabled clock throttle reset,
    handle_report enabled clock _ quota, handle_report enabled clock _ reset]
  unfold OrderIrrelevant
  by_cases oldQuota : requestsRemain = throttle.params.requestsRemain
  · refine iff_of_true ?_ (Or.inl oldQuota)
    subst oldQuota
    show suspendAfter clock ⟨throttle.params, throttle.suspendAfter clock throttle.params⟩ _ =
      suspendAfter clock ⟨{ throttle.params with resetTimestamp }, _⟩
        { throttle.params with resetTimestamp }
    rw [suspendAfter_self clock throttle]
    exact (suspendAfter_self clock ⟨{ throttle.params with resetTimestamp }, _⟩).symm
  by_cases oldReset : resetTimestamp = throttle.params.resetTimestamp
  · refine iff_of_true ?_ (Or.inr (Or.inl oldReset))
    subst oldReset
    show suspendAfter clock ⟨{ throttle.params with requestsRemain }, _⟩
        { throttle.params with requestsRemain } =
      suspendAfter clock ⟨throttle.params, throttle.suspendAfter clock throttle.params⟩ _
    rw [suspendAfter_self clock throttle]
    exact suspendAfter_self clock ⟨{ throttle.params with requestsRemain }, _⟩
  rw [or_iff_right oldQuota, or_iff_right oldReset]
  have resetLast (suspendUntil : Int) : suspendAfter clock
      ⟨{ throttle.params with requestsRemain }, suspendUntil⟩
        { throttle.params with requestsRemain, resetTimestamp } =
      if 0 < requestsRemain.toInt ∨ resetTimestamp = 0 then 0
      else max suspendUntil ({ throttle.params with resetTimestamp }.resume clock) :=
    if_neg fun same => oldReset (congrArg Params.resetTimestamp same)
  have quotaLast (suspendUntil : Int) : suspendAfter clock
      ⟨{ throttle.params with resetTimestamp }, suspendUntil⟩
        { throttle.params with requestsRemain, resetTimestamp } =
      if 0 < requestsRemain.toInt ∨ resetTimestamp = 0 then 0
      else max suspendUntil ({ throttle.params with resetTimestamp }.resume clock) :=
    if_neg fun same => oldQuota (congrArg Params.requestsRemain same)
  show suspendAfter clock ⟨{ throttle.params with requestsRemain }, _⟩ _ =
    suspendAfter clock ⟨{ throttle.params with resetTimestamp }, _⟩ _ ↔ _
  simp only [Params.record]
  rw [resetLast, quotaLast, ← or_assoc]
  by_cases permit : 0 < requestsRemain.toInt ∨ resetTimestamp = 0
  · rw [if_pos permit, if_pos permit]
    exact iff_of_true rfl (Or.inl permit)
  · obtain ⟨used, known⟩ := not_or.mp permit
    obtain ⟨first, second⟩ := suspendAfter_both clock oldQuota oldReset used known
    rw [if_neg permit, if_neg permit, first, second, or_iff_right permit]
    exact max_eq_max_iff _ _ _

end Throttle

/-- A header that reports how many requests remain. -/
def plainRemain (value : String) : Event := .messageHeader "X-Gate-RateLimit-Requests-Remain" value

/-- A header that reports when the quota is reset. -/
def plainReset (value : String) : Event := .messageHeader "X-Gate-RateLimit-Reset-Timestamp" value

/-- Five requests remain until 30s. At 20s none remain until 40s, which both orders take in. -/
theorem headers_commute_plain : ∃ history throttle,
    (interceptor plainConfig).Run (fun _ _ _ => True) history throttle ∧
      throttle.params.requestsRemain = 5 ∧ throttle.params.resetTimestamp = 30 ∧
        ((throttle.handle plainConfig ⟨20000000000, 20000000000⟩ (plainRemain "0")).handle
            plainConfig ⟨20000000000, 20000000000⟩ (plainReset "40")).suspendUntil =
          ((throttle.handle plainConfig ⟨20000000000, 20000000000⟩ (plainReset "40")).handle
            plainConfig ⟨20000000000, 20000000000⟩ (plainRemain "0")).suspendUntil := by
  have run : (interceptor plainConfig).Run (fun _ _ _ => True) _ _ :=
    .of_replay (plainInputs [(1, plainRemain "5"), (1, plainReset "30")]) rfl
      (History.always_of_forall (fun _ _ => trivial) _)
  refine ⟨_, _, run, by decide +kernel, by decide +kernel, ?_⟩
  refine (Throttle.headers_commute_iff plainConfig rfl _ _ _ _ 0 40 (by decide +kernel)
    (by decide +kernel)).mpr ?_
  exact Or.inr (Or.inr (Or.inr (Or.inr (Or.inr (by decide +kernel)))))

/-- Five requests remain until 30s. At 35s none remain until 37s. If that is reported first, the
reset that has passed sets requests back until 40s. -/
theorem headers_do_not_commute : ∃ history throttle,
    (interceptor plainConfig).Run (fun _ _ _ => True) history throttle ∧
      ((throttle.handle plainConfig ⟨35000000000, 35000000000⟩ (plainRemain "0")).handle
          plainConfig ⟨35000000000, 35000000000⟩ (plainReset "37")).suspendUntil = 40000000000 ∧
        ((throttle.handle plainConfig ⟨35000000000, 35000000000⟩ (plainReset "37")).handle
          plainConfig ⟨35000000000, 35000000000⟩ (plainRemain "0")).suspendUntil =
            37000000000 := by
  refine ⟨_, _, .of_replay (plainInputs [(1, plainRemain "5"), (1, plainReset "30")]) rfl
    (History.always_of_forall (fun _ _ => trivial) _), ?_, ?_⟩ <;> decide +kernel

end GateFutures.Tools
