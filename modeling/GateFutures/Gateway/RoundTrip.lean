/-
This file proves which orders come back from the exchange as they were sent.

The encoder prints a size with as many decimals as the instrument has. The decoder keeps it
in a signed integer, 32 bits wide in five of the six result types and 64 bits wide in the
order channel's, and takes its magnitude there. So an order comes back as it was sent when
its quantity is a whole number of contracts that the result type can hold.
-/

import GateFutures.Gateway.DropCopy
import GateFutures.Gateway.Resolution
import Mathlib.Algebra.Group.Nat.Defs

namespace GateFutures.Gateway

open Framework Library Protocol Roq

/-! ### The wire -/

/-- The numbers on the wire: the one a decimal prints, and what a schema's integer and double
fields hold once it is read. A field that cannot be read holds nothing. -/
structure Wire where
  printed : Decimal → Double
  getInt : (width : Nat) → Double → Option (BitVec width)
  getDouble : Double → Option Double

/-- A value has no more decimals than the precision. -/
def Representable (value : ℚ) (precision : Nat) : Prop := (value * 10 ^ precision).den = 1

instance (value : ℚ) (precision : Nat) : Decidable (Representable value precision) :=
  inferInstanceAs (Decidable (_ = _))

/-- The sign of a side is the usual one, a decimal prints its value at its precision, and a
number is delivered in every field that can hold it. -/
structure Wire.Lawful (sign : Side → ℚ) (wire : Wire) : Prop where
  sign_buy : sign .buy = 1
  sign_sell : sign .sell = -1
  printed_exact : ∀ (value : ℚ) (precision : Nat), Representable value precision →
    wire.printed ⟨.number value, precision⟩ = .number value
  getInt_exact : ∀ (width : Nat) (value : Int), -2 ^ (width - 1) ≤ value →
    value < 2 ^ (width - 1) →
    wire.getInt width (.number value) = some (BitVec.ofInt width value)
  getDouble_exact : ∀ value : Double, wire.getDouble value = some value

/-- What a result reports besides what the request said. -/
structure Reported where
  status : Protocol.OrderStatus
  finishAs : FinishAs
  fillPrice : Double
  id : BitVec 64
  createTime : Int
  createTimeMs : Option Int
  updateTime : Int

/-- The status is one `get_order_status` knows. -/
def Reported.IsKnown (reported : Reported) : Prop :=
  reported.finishAs.map ≠ .undefined ∨ reported.status = .open

/-- The result with the given contract, size, price, tif and text, and `left` equal to
`size`. -/
def Reported.item {width : Nat} (reported : Reported) (contract : String) (size : BitVec width)
    (price : Double) (tif text : String) : OrderItem width where
  text
  price
  tif := Tif.parse tif
  status := reported.status
  contract
  finishAs := reported.finishAs
  fillPrice := reported.fillPrice
  id := reported.id
  createTime := reported.createTime
  createTimeMs := reported.createTimeMs
  size
  updateTime := reported.updateTime
  left := size

/-- The result that echoes an order request, if its numbers can be read. -/
def Wire.echo (wire : Wire) (width : Nat) (reported : Reported) :
    Payload → Option (OrderItem width)
  | .orderPlace _ contract size price _ tif text => do
    let size ← wire.getInt width (wire.printed size)
    let price ← wire.getDouble (wire.printed price)
    return reported.item contract size price tif text
  | _ => none

/-- The result types the trading connection decodes orders from. -/
inductive ResultType
  | orderPlace | orderAmend | orderCancel | orderList | orderStatus | orders
  deriving DecidableEq

/-- The width of a result type's `size` and `left`. -/
def ResultType.width : ResultType → Nat
  | .orderPlace => 32
  | .orderAmend => 32
  | .orderCancel => 32
  | .orderList => 32
  | .orderStatus => 32
  | .orders => 64

theorem ResultType.width_pos (resultType : ResultType) : 0 < resultType.width := by
  cases resultType <;> decide

/-! ### What comes back -/

/-- The time in force an order comes back with: immediate-or-cancel for a market order,
good-till-cancel for a post-only order, and otherwise the requested one. -/
def expectedTimeInForce (createOrder : CreateOrder) : TimeInForce :=
  if createOrder.orderType = .market then .ioc
  else if createOrder.executionInstructions.contains .participateDoNotInitiate then .gtc
  else createOrder.timeInForce

/-- An update gives back the order that was requested. -/
structure Restores (createOrder : CreateOrder) (symbol requestId : String)
    (price : Double) (update : OrderUpdate) : Prop where
  clientOrderId : update.clientOrderId = requestId
  symbol : update.symbol = symbol
  side : update.side = createOrder.side
  quantity : update.quantity = createOrder.quantity
  remainingQuantity : update.remainingQuantity = createOrder.quantity
  price : update.price = price
  timeInForce : update.timeInForce = expectedTimeInForce createOrder

/-- The time in force that is sent reads back as the expected one. -/
theorem orderPlaceTif_restored {createOrder : CreateOrder} {tif : String}
    (accepted : Encoder.orderPlaceTif createOrder = .ok tif) :
    (Tif.parse tif).map = expectedTimeInForce createOrder := by
  unfold Encoder.orderPlaceTif at accepted
  unfold expectedTimeInForce
  by_cases isMarket : createOrder.orderType = .market
  · rw [if_pos isMarket] at accepted ⊢
    cases accepted
    decide
  · rw [if_neg isMarket] at accepted ⊢
    split at accepted
    next isPostOnly =>
      rw [if_pos isPostOnly]
      cases accepted
      decide
    next isPlain =>
      rw [if_neg isPlain]
      split at accepted
      next isGtc =>
        rw [isGtc]
        cases accepted
        decide
      next isIoc =>
        rw [isIoc]
        cases accepted
        decide
      next isFok =>
        rw [isFok]
        cases accepted
        decide
      next => cases accepted

/-- What an update says of the result it was created from. -/
theorem createOrderUpdate_describes {width : Nat} {config : Config} {value : OrderItem width}
    {updateType : UpdateType} {update : OrderUpdate}
    (created : DropCopy.createOrderUpdate config value updateType = .ok (some update)) :
    update.symbol = value.contract ∧
      update.side = (if value.size.toInt < 0 then .sell else .buy) ∧
      update.quantity = .ofInt value.size.abs.toInt ∧
      update.remainingQuantity = .ofInt value.left.abs.toInt ∧
      update.price = value.price ∧ update.timeInForce = value.tif.map := by
  rw [DropCopy.createOrderUpdate] at created
  by_cases external : DropCopy.getClientOrderId value.text = ""
  · rw [if_pos external] at created
    cases created
  · rw [if_neg external] at created
    obtain ⟨orderStatus, -, created⟩ := bind_ok.mp created
    cases created
    exact ⟨rfl, rfl, rfl, rfl, rfl, rfl⟩

theorem natCast_lt_twoPow {contracts exponent : Nat} :
    (contracts : Int) < 2 ^ exponent ↔ contracts < 2 ^ exponent := by
  have power : ((2 ^ exponent : Nat) : Int) = 2 ^ exponent := Int.natCast_pow 2 exponent
  rw [← power]
  exact Int.ofNat_lt

/-- A magnitude stays below the largest power of two of its width. -/
theorem abs_whole {width : Nat} {size : BitVec width} {quantity : ℚ} (positive : 0 < quantity)
    (same : Double.ofInt size.abs.toInt = .number quantity) :
    ∃ contracts : Nat, quantity = contracts ∧ contracts < 2 ^ (width - 1) := by
  have magnitude : quantity = size.abs.toInt := (Double.number.inj same).symm
  have nonnegative : 0 ≤ size.abs.toInt := by
    rw [magnitude] at positive
    exact Int.le_of_lt (Rat.intCast_pos.mp positive)
  obtain ⟨contracts, whole⟩ := Int.eq_ofNat_of_zero_le nonnegative
  refine ⟨contracts, by rw [magnitude, whole, Rat.intCast_natCast], ?_⟩
  have bound := BitVec.toInt_lt (x := size.abs)
  rw [whole] at bound
  exact natCast_lt_twoPow.mp bound

/-- A signed number of contracts below that power keeps its sign and its magnitude. -/
theorem toInt_restored {width contracts : Nat} {signed : Int} (wide : 0 < width)
    (magnitude : signed.natAbs = contracts) (bound : contracts < 2 ^ (width - 1)) :
    (BitVec.ofInt width signed).toInt = signed ∧
      (BitVec.ofInt width signed).abs.toInt = contracts := by
  have boundInt : (contracts : Int) < 2 ^ (width - 1) := natCast_lt_twoPow.mpr bound
  have same : (BitVec.ofInt width signed).toInt = signed :=
    BitVec.toInt_ofInt_eq_self wide (by omega) (by omega)
  refine ⟨same, ?_⟩
  have smallest : BitVec.ofInt width signed ≠ BitVec.intMin width := by
    intro smallest
    have value := congrArg BitVec.toInt smallest
    rw [same, BitVec.toInt_intMin_of_pos wide] at value
    omega
  rw [BitVec.toInt_abs_eq_natAbs, if_neg smallest, same, magnitude]

/-! ### The round trip -/

theorem orderPlace_payload {sign : Side → ℚ} {messageInfo : MessageInfo}
    {createOrder : CreateOrder} {order : Order} {refData : RefData} {requestId : String}
    {requestId2 : UInt32} {frame : Frame}
    (accepted : Encoder.orderPlace sign messageInfo createOrder order refData requestId
      requestId2 = .ok frame) :
    ∃ tif, Encoder.orderPlaceTif createOrder = .ok tif ∧
      frame.payload = .orderPlace requestId order.symbol
        ⟨createOrder.quantity.scale (sign createOrder.side), refData.quantityPrecision⟩
        ⟨Encoder.orderPlacePrice createOrder, refData.pricePrecision⟩
        (createOrder.executionInstructions.contains .doNotIncrease) tif ("t-" ++ requestId) := by
  obtain ⟨tif, acceptedTif, sent⟩ := bind_ok.mp accepted
  cases sent
  exact ⟨tif, acceptedTif, rfl⟩

/-- The size on the wire is the quantity, with the sign of the side. -/
theorem Wire.Lawful.printed_size {sign : Side → ℚ} {wire : Wire} (lawful : wire.Lawful sign)
    {side : Side} (sided : side = .buy ∨ side = .sell) {quantity : ℚ} {precision : Nat}
    (representable : Representable quantity precision) :
    wire.printed ⟨(Double.number quantity).scale (sign side), precision⟩ =
      .number (sign side * quantity) := by
  refine lawful.printed_exact _ _ ?_
  unfold Representable at representable ⊢
  rcases sided with rfl | rfl
  · rw [lawful.sign_buy, Rat.one_mul]
    exact representable
  · rw [lawful.sign_sell, Rat.neg_mul, Rat.one_mul, Rat.neg_mul, Rat.neg_den]
    exact representable

/-- A whole number of contracts, with the sign of the side. -/
theorem Wire.Lawful.signed_size {sign : Side → ℚ} {wire : Wire} (lawful : wire.Lawful sign)
    {side : Side} (sided : side = .buy ∨ side = .sell) {contracts : Nat}
    (positive : 0 < contracts) :
    ∃ signed : Int, sign side * contracts = signed ∧ signed.natAbs = contracts ∧
      (if signed < 0 then Side.sell else .buy) = side := by
  rcases sided with rfl | rfl
  · refine ⟨contracts, ?_, Int.natAbs_natCast contracts, if_neg (by omega)⟩
    rw [lawful.sign_buy, Rat.one_mul, Rat.intCast_natCast]
  · refine ⟨-contracts, ?_, by omega, if_pos (by omega)⟩
    rw [lawful.sign_sell, Rat.neg_mul, Rat.one_mul, Rat.intCast_neg, Rat.intCast_natCast]

/-- An accepted order comes back as it was sent, in any result type, exactly when its reported
status is known and its quantity is a whole number of contracts that the type's `size` can hold
on either side. -/
theorem order_round_trip_iff (config : Config) (wire : Wire) (lawful : wire.Lawful config.sign)
    (resultType : ResultType) (reported : Reported) (updateType : UpdateType)
    (messageInfo : MessageInfo) (createOrder : CreateOrder) (order : Order) (refData : RefData)
    (requestId : String) (requestId2 : UInt32) (frame : Frame)
    (accepted : Encoder.orderPlace config.sign messageInfo createOrder order refData requestId
      requestId2 = .ok frame)
    (sided : createOrder.side = .buy ∨ createOrder.side = .sell) (quantity : ℚ)
    (requested : createOrder.quantity = .number quantity) (positive : 0 < quantity)
    (representable : Representable quantity refData.quantityPrecision)
    (named : requestId ≠ "") :
    (∃ item update, wire.echo resultType.width reported frame.payload = some item ∧
        DropCopy.createOrderUpdate config item updateType = .ok (some update) ∧
        Restores createOrder order.symbol requestId
          (wire.printed ⟨Encoder.orderPlacePrice createOrder, refData.pricePrecision⟩) update) ↔
      reported.IsKnown ∧
        ∃ contracts : Nat, quantity = contracts ∧ contracts < 2 ^ (resultType.width - 1) := by
  obtain ⟨tif, acceptedTif, sent⟩ := orderPlace_payload accepted
  rw [sent, requested]
  unfold Wire.echo
  simp only [lawful.printed_size sided representable, lawful.getDouble_exact]
  constructor
  · rintro ⟨item, update, echoed, created, restores⟩
    obtain ⟨size, -, echoed⟩ := Option.bind_eq_some_iff.mp echoed
    cases echoed
    have known := (createOrderUpdate_names config _ updateType requestId).mp
      ⟨update, created, restores.clientOrderId⟩
    have sameQuantity := (createOrderUpdate_describes created).2.2.1.symm.trans restores.quantity
    exact ⟨known.2.2, abs_whole positive (sameQuantity.trans requested)⟩
  · rintro ⟨known, contracts, rfl, bound⟩
    obtain ⟨signed, onWire, magnitude, signedSide⟩ :=
      lawful.signed_size sided (Rat.natCast_pos.mp positive)
    have read : wire.getInt resultType.width (.number (config.sign createOrder.side * contracts)) =
        some (BitVec.ofInt resultType.width signed) := by
      have boundInt : (contracts : Int) < 2 ^ (resultType.width - 1) := natCast_lt_twoPow.mpr bound
      rw [onWire]
      exact lawful.getInt_exact _ _ (by omega) (by omega)
    rw [read]
    let item := reported.item order.symbol (BitVec.ofInt resultType.width signed)
      (wire.printed ⟨Encoder.orderPlacePrice createOrder, refData.pricePrecision⟩) tif
      ("t-" ++ requestId)
    obtain ⟨keepsSign, keepsMagnitude⟩ : item.size.toInt = signed ∧
        item.size.abs.toInt = contracts := toInt_restored resultType.width_pos magnitude bound
    have whole : Double.ofInt item.size.abs.toInt = createOrder.quantity := by
      rw [keepsMagnitude, requested]
      rfl
    obtain ⟨update, created, clientOrderId⟩ :=
      (createOrderUpdate_names config item updateType requestId).mpr
        ⟨named, DropCopy.getClientOrderId_prefixed requestId, known⟩
    obtain ⟨symbol, side, quantity, remaining, price, timeInForce⟩ :=
      createOrderUpdate_describes created
    exact ⟨item, update, rfl, created, {
      clientOrderId
      symbol
      side := by rw [side, keepsSign, signedSide]
      quantity := quantity.trans whole
      remainingQuantity := remaining.trans whole
      price
      timeInForce := timeInForce.trans (orderPlaceTif_restored acceptedTif) }⟩

/-! ### A plain order -/

/-- A wire that prints every decimal in full and reads what its fields can hold. -/
def plainWire : Wire where
  printed decimal := decimal.value
  getInt width
    | .number value =>
      if value.den = 1 ∧ -2 ^ (width - 1) ≤ value.num ∧ value.num < 2 ^ (width - 1) then
        some (BitVec.ofInt width value.num)
      else none
    | _ => none
  getDouble := some

theorem plainWire_lawful : plainWire.Lawful plainConfig.sign where
  sign_buy := rfl
  sign_sell := rfl
  printed_exact _ _ _ := rfl
  getInt_exact _ _ low high := if_pos ⟨rfl, low, high⟩
  getDouble_exact _ := rfl

/-- A limit order to buy the given quantity. -/
def plainOrder (quantity : ℚ) : CreateOrder where
  side := .buy
  orderType := .limit
  timeInForce := .gtc
  executionInstructions := []
  quantity := .number quantity
  price := .number 1500

/-- The request that is sent for it. -/
def plainFrame (quantity : ℚ) : Except NotSupported Frame :=
  Encoder.orderPlace plainConfig.sign ⟨0⟩ (plainOrder quantity) ⟨"BTC_USDT", .buy, "A1", ""⟩
    ⟨0, 0⟩ "A1" 1

/-- An open order. -/
def plainReported : Reported where
  status := .open
  finishAs := .undefinedInternal
  fillPrice := .number 0
  id := 1
  createTime := 0
  createTimeMs := none
  updateTime := 0

/-- Three contracts come back. -/
theorem order_round_trip_plain :
    ∃ frame item update, plainFrame 3 = .ok frame ∧
      plainWire.echo ResultType.orderPlace.width plainReported frame.payload = some item ∧
      DropCopy.createOrderUpdate plainConfig item .incremental = .ok (some update) ∧
      Restores (plainOrder 3) "BTC_USDT" "A1" (.number 1500) update := by
  have representable : Representable 3 0 := by decide +kernel
  obtain ⟨item, update, comesBack⟩ :=
    (order_round_trip_iff plainConfig plainWire plainWire_lawful .orderPlace plainReported
      .incremental ⟨0⟩ (plainOrder 3) ⟨"BTC_USDT", .buy, "A1", ""⟩ ⟨0, 0⟩ "A1" 1 _ rfl (Or.inl rfl)
      3 rfl (by decide +kernel) representable (by decide)).mpr
      ⟨Or.inr rfl, 3, rfl, by decide⟩
  exact ⟨_, item, update, rfl, comesBack⟩

/-- Three billion contracts do not: the order is accepted, and the answer to its placement has
a field too narrow for them, although the order channel's is wide enough. -/
theorem large_order_does_not_come_back :
    ∃ frame, plainFrame 3000000000 = .ok frame ∧ Representable 3000000000 0 ∧
      (plainWire.echo ResultType.orders.width plainReported frame.payload).isSome ∧
      ¬ ∃ item update,
        plainWire.echo ResultType.orderPlace.width plainReported frame.payload = some item ∧
        DropCopy.createOrderUpdate plainConfig item .incremental = .ok (some update) ∧
        Restores (plainOrder 3000000000) "BTC_USDT" "A1" (.number 1500) update := by
  refine ⟨_, rfl, by decide +kernel, by decide +kernel, ?_⟩
  rintro ⟨item, update, echoed, -, -⟩
  exact absurd (Option.isSome_iff_exists.mpr ⟨item, echoed⟩) (by decide +kernel)

end GateFutures.Gateway
