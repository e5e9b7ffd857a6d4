/-
This file proves what an order update says about the order it reports.

The exchange reports an order with a status, and with the reason why it finished. The order update
takes its status from the reason, and from the status only where the reason is not documented. The
sizes of the order are signed integers; those of the update are doubles without a sign.
-/

import GateFutures.Gateway.Account

namespace GateFutures.Gateway

open Framework Protocol Roq

/-! ### Reports -/

/-- The statuses that `index.rst` documents, by the reason that an order is reported with. -/
def documentedStatuses : List (String × Roq.OrderStatus) :=
  [("filled", .completed), ("cancelled", .canceled), ("liquidated", .canceled),
    ("ioc", .completed), ("auto_deleveraged", .canceled), ("reduce_only", .canceled),
    ("position_close", .canceled), ("stp", .canceled), ("_new", .working),
    ("_update", .working), ("reduce_out", .working)]

/-- The reason is documented. -/
def IsDocumented (reason : String) : Prop := reason ∈ documentedStatuses.map Prod.fst

instance (reason : String) : Decidable (IsDocumented reason) :=
  inferInstanceAs (Decidable (_ ∈ _))

/-- The reasons an order is over for. -/
def terminalReasons : List String :=
  ["filled", "cancelled", "liquidated", "ioc", "auto_deleveraged", "reduce_only",
    "position_close", "stp"]

/-- The order is over. -/
def IsTerminal (status : Roq.OrderStatus) : Prop := status = .completed ∨ status = .canceled

instance (status : Roq.OrderStatus) : Decidable (IsTerminal status) :=
  inferInstanceAs (Decidable (_ ∨ _))

/-- The exchange reports an order of the gateway: what is left has the sign of the size and is
no more. -/
structure IsReport {width : Nat} (item : OrderItem width) (clientOrderId reason : String) :
    Prop where
  text : item.text = "t-" ++ clientOrderId
  named : clientOrderId ≠ ""
  finishAs : item.finishAs = .parse reason
  status : item.status = .open ∨ item.status = .finished
  sized : item.size ≠ 0
  within : 0 ≤ item.left.toInt ∧ item.left.toInt ≤ item.size.toInt ∨
    item.size.toInt ≤ item.left.toInt ∧ item.left.toInt ≤ 0

/-- What an order update says about the order it reports. Its quantities are integers that a
`double` holds, so none is rounded. -/
structure Reports {width : Nat} (item : OrderItem width) (clientOrderId reason : String)
    (update : OrderUpdate) : Prop where
  clientOrderId : update.clientOrderId = clientOrderId
  side : update.side = .sell ↔ item.size.toInt < 0
  held : Double.Holds item.size.toInt
  quantity : update.quantity = .ofInt |item.size.toInt|
  remainingQuantity : update.remainingQuantity = .ofInt |item.left.toInt|
  tradedQuantity : ∃ traded : Int, update.tradedQuantity = .ofInt traded ∧
    traded + |item.left.toInt| = |item.size.toInt| ∧ 0 ≤ traded ∧
      update.averageTradedPrice = if 0 < traded then item.fillPrice else .nan
  orderStatus : update.orderStatus = (documentedStatuses.lookup reason).getD .working
  terminal : IsTerminal update.orderStatus ↔ reason ∈ terminalReasons
  working : update.orderStatus = .working ↔ reason ∉ terminalReasons

/-! ### Reasons and statuses -/

theorem isDocumented_iff {reason : String} :
    IsDocumented reason ↔ ∃ status, documentedStatuses.lookup reason = some status := by
  rw [← Option.isSome_iff_exists, List.lookup_isSome_iff, IsDocumented, List.mem_map]
  refine exists_congr fun entry => and_congr_right fun _ => ?_
  rw [beq_iff_eq, eq_comm]

/-- A documented reason maps to its status. -/
theorem map_parse_documented :
    ∀ entry ∈ documentedStatuses, (FinishAs.parse entry.1).map = entry.2 := by
  decide

/-- Other reasons, and none, map to no status. -/
theorem map_parse_undocumented {reason : String} (undocumented : ¬ IsDocumented reason) :
    (FinishAs.parse reason).map = .undefined := by
  simp only [IsDocumented, documentedStatuses, List.map_cons, List.map_nil, List.mem_cons,
    List.not_mem_nil, or_false, not_or] at undocumented
  obtain ⟨filled, cancelled, liquidated, ioc, autoDeleveraged, reduceOnly, positionClose, stp, new,
    update, reduceOut⟩ := undocumented
  unfold FinishAs.parse
  by_cases absent : reason = ""
  · rw [if_pos absent]
    rfl
  · rw [if_neg absent, if_neg filled, if_neg cancelled, if_neg liquidated, if_neg ioc,
      if_neg autoDeleveraged, if_neg reduceOnly, if_neg positionClose, if_neg stp, if_neg new,
      if_neg update, if_neg reduceOut]
    rfl

/-- The statuses that are documented are defined, and say that an order is over exactly for the
reasons that are over. -/
theorem documented_terminal : ∀ entry ∈ documentedStatuses, entry.2 ≠ .undefined ∧
    (IsTerminal entry.2 ↔ entry.1 ∈ terminalReasons) ∧
      (entry.2 = .working ↔ entry.1 ∉ terminalReasons) := by
  decide

theorem terminal_documented : ∀ reason ∈ terminalReasons, IsDocumented reason := by
  decide

/-- An order with a documented reason, or an open one, has the documented status, or is working. -/
theorem DropCopy.getOrderStatus_reported {reason : String} {status : Protocol.OrderStatus}
    (reported : IsDocumented reason ∨ status = .open) :
    ∃ orderStatus, getOrderStatus (.parse reason) status = .ok orderStatus ∧
      orderStatus = (documentedStatuses.lookup reason).getD .working ∧
      (IsTerminal orderStatus ↔ reason ∈ terminalReasons) ∧
        (orderStatus = .working ↔ reason ∉ terminalReasons) := by
  unfold getOrderStatus
  by_cases documented : IsDocumented reason
  · obtain ⟨documentedStatus, found⟩ := isDocumented_iff.mp documented
    have member : (reason, documentedStatus) ∈ documentedStatuses := by
      obtain ⟨before, behind, parts, -⟩ := List.lookup_eq_some_iff.mp found
      rw [parts]
      exact List.mem_append_right _ List.mem_cons_self
    obtain ⟨defined, terminal, working⟩ := documented_terminal _ member
    rw [map_parse_documented _ member, if_pos defined, found]
    exact ⟨documentedStatus, rfl, rfl, terminal, working⟩
  · have none : documentedStatuses.lookup reason = none :=
      Option.eq_none_iff_forall_ne_some.mpr fun status found =>
        documented (isDocumented_iff.mpr ⟨status, found⟩)
    have going : reason ∉ terminalReasons := fun ended =>
      documented (terminal_documented reason ended)
    rw [map_parse_undocumented documented, if_neg (not_not_intro rfl),
      if_pos (reported.resolve_left documented), none]
    refine ⟨.working, rfl, rfl, ?_, iff_of_true rfl going⟩
    exact iff_of_false (by decide) going

/-! ### The update -/

/-- The magnitude of a size that is not the smallest of its width. -/
theorem toInt_abs {width : Nat} {size : BitVec width} (representable : size ≠ BitVec.intMin width) :
    size.abs.toInt = |size.toInt| := by
  rw [BitVec.toInt_abs_eq_natAbs_of_ne_intMin representable, Int.abs_eq_natAbs]

/-- What is left is no more than the size, whatever the side. -/
theorem IsReport.left_le {width : Nat} {item : OrderItem width} {clientOrderId reason : String}
    (report : IsReport item clientOrderId reason) : |item.left.toInt| ≤ |item.size.toInt| := by
  rcases report.within with ⟨nonnegative, le⟩ | ⟨le, nonpositive⟩
  · rw [abs_of_nonneg nonnegative, abs_of_nonneg (nonnegative.trans le)]
    exact le
  · rw [abs_of_nonpos nonpositive, abs_of_nonpos (le.trans nonpositive)]
    exact Int.neg_le_neg le

/-- What is left has a magnitude if the size has. -/
theorem IsReport.left_ne_intMin {width : Nat} {item : OrderItem width}
    {clientOrderId reason : String} (report : IsReport item clientOrderId reason)
    (representable : item.size ≠ BitVec.intMin width) : item.left ≠ BitVec.intMin width := by
  intro smallest
  have positive : 0 < width := by
    refine Nat.pos_of_ne_zero fun zero => report.sized ?_
    subst zero
    exact BitVec.eq_of_zero_length rfl
  have negative : (BitVec.intMin width).toInt < 0 := by
    rw [BitVec.toInt_intMin_of_pos positive]
    exact Int.neg_neg_of_pos (Int.pow_pos (by decide))
  rcases report.within with ⟨nonnegative, -⟩ | ⟨le, -⟩
  · rw [smallest] at nonnegative
    exact absurd nonnegative (not_le.mpr negative)
  · rw [smallest, BitVec.toInt_intMin_of_pos positive] at le
    have least := BitVec.le_toInt item.size
    refine representable (BitVec.eq_of_toInt_eq ?_)
    rw [BitVec.toInt_intMin_of_pos positive]
    exact le_antisymm le least

/-- A report with a documented reason, or of an open order, makes one order update, which says what
was reported. A report of a finished order with any other reason ends the process. -/
theorem orders_reported (config : Config) {width : Nat} (item : OrderItem width)
    (clientOrderId reason : String) (updateType : UpdateType)
    (report : IsReport item clientOrderId reason)
    (representable : item.size ≠ BitVec.intMin width) (held : Double.Holds item.size.toInt) :
    (IsDocumented reason ∨ item.status = .open →
      ∃ update, DropCopy.createOrderUpdate config item updateType = .ok (some update) ∧
        Reports item clientOrderId reason update) ∧
      (¬ IsDocumented reason → item.status = .finished →
        DropCopy.createOrderUpdate config item updateType = .error .unexpectedOrderStatus) := by
  unfold DropCopy.createOrderUpdate
  simp only [report.text, DropCopy.getClientOrderId_prefixed, if_neg report.named, report.finishAs]
  constructor
  · intro reported
    obtain ⟨orderStatus, mapped, documented, terminal, working⟩ :=
      DropCopy.getOrderStatus_reported reported
    have size := toInt_abs representable
    have left := toInt_abs (report.left_ne_intMin representable)
    have traded := sub_nonneg.mpr report.left_le
    simp only [mapped, size, left]
    refine ⟨_, rfl, rfl, ?_, held, rfl, rfl, ⟨_, rfl, sub_add_cancel _ _, traded, rfl⟩, documented,
      terminal, working⟩
    split
    next sells => exact iff_of_true rfl sells
    next buys => exact iff_of_false nofun buys
  · intro undocumented finished
    have unknown : DropCopy.getOrderStatus (.parse reason) item.status =
        .error .unexpectedOrderStatus := by
      rw [DropCopy.getOrderStatus, map_parse_undocumented undocumented,
        if_neg (not_not_intro rfl), if_neg (by rw [finished]; decide)]
    rw [unknown]
    rfl

/-! ### A plain report -/

/-- An order to sell three, of which one is left. -/
def plainReport (reason : String) (status : Protocol.OrderStatus) : OrdersItem where
  text := "t-c1"
  price := .number 100
  tif := .gtc
  status
  contract := "BTC_USDT"
  finishAs := .parse reason
  fillPrice := .number 101
  id := 7
  createTime := 0
  createTimeMs := some 1
  size := -3
  updateTime := 1
  left := -1

theorem plainReport_isReport (reason : String) (status : Protocol.OrderStatus)
    (known : status = .open ∨ status = .finished) :
    IsReport (plainReport reason status) "c1" reason where
  text := rfl
  named := by decide
  finishAs := rfl
  status := known
  sized := by
    show (-3 : BitVec 64) ≠ 0
    decide
  within := by
    show _ ∨ (-3 : BitVec 64).toInt ≤ (-1 : BitVec 64).toInt ∧ (-1 : BitVec 64).toInt ≤ 0
    exact Or.inr (by decide)

/-- A canceled order is reported as canceled, with what it traded. -/
theorem orders_reported_plain : ∃ update,
    DropCopy.createOrderUpdate plainConfig (plainReport "cancelled" .finished) .incremental =
        .ok (some update) ∧
      Reports (plainReport "cancelled" .finished) "c1" "cancelled" update := by
  have representable : (-3 : BitVec 64) ≠ BitVec.intMin 64 := by decide
  have held : Double.Holds (-3 : BitVec 64).toInt := by decide
  have report := plainReport_isReport "cancelled" .finished (by decide)
  exact (orders_reported plainConfig _ _ _ .incremental report representable held).1 (by decide)

/-- An order that is finished for the reason `reduce_out` is reported as working, and one that is
finished for a reason that is absent or not documented ends the process. -/
theorem finished_orders_not_terminal :
    (∃ update, IsReport (plainReport "reduce_out" .finished) "c1" "reduce_out" ∧
      DropCopy.createOrderUpdate plainConfig (plainReport "reduce_out" .finished) .incremental =
          .ok (some update) ∧
        ¬ (IsTerminal update.orderStatus ↔
          (plainReport "reduce_out" .finished).status = .finished)) ∧
      ∀ reason ∈ ["", "expired"], IsReport (plainReport reason .finished) "c1" reason ∧
        DropCopy.createOrderUpdate plainConfig (plainReport reason .finished) .incremental =
          .error .unexpectedOrderStatus := by
  constructor
  · refine ⟨_, plainReport_isReport _ _ (by decide), rfl, fun reported => ?_⟩
    exact absurd (reported.mpr rfl) (by decide)
  · intro reason listed
    refine ⟨plainReport_isReport _ _ (by decide), ?_⟩
    simp only [List.mem_cons, List.not_mem_nil, or_false] at listed
    rcases listed with rfl | rfl <;> rfl

end GateFutures.Gateway
