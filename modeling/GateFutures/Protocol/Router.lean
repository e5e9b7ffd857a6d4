/-
This file models the routers of the inbound frames, `TradeParser::dispatch` and
`Parser::dispatch`, and proves what they do with every frame.

A router makes at most one callback, of the type that belongs to the frame's event and channel,
and returns `true` exactly if it made one. A flag lets it return `false` for what the schemas do
not list, but the flag is not looked at everywhere: the theorem says for which unlisted frames it
works.
-/

import GateFutures.Protocol.Json
import Mathlib.Data.List.Nodup

namespace GateFutures.Protocol

/-! ### Enumerations -/

/-- `Event`. -/
inductive Event
  | undefinedInternal | unknownInternal | subscribe | update | api
  deriving DecidableEq, Repr

/-- The texts of the schema of `Event`. -/
def Event.texts : List (String × Event) :=
  [("subscribe", .subscribe), ("update", .update), ("api", .api)]

/-- The texts of the schema of `Channel`. -/
def Channel.texts : List (String × Channel) :=
  [("futures.tickers", .tickers), ("futures.trades", .trades),
    ("futures.book_ticker", .bookTicker), ("futures.order_book_update", .orderBookUpdate),
    ("futures.candlesticks", .candlesticks), ("futures.login", .login),
    ("futures.balances", .balances), ("futures.positions", .positions),
    ("futures.orders", .orders), ("futures.usertrades", .usertrades),
    ("futures.order_place", .orderPlace), ("futures.order_amend", .orderAmend),
    ("futures.order_cancel", .orderCancel), ("futures.order_cancel_cp", .orderCancelCp),
    ("futures.order_list", .orderList), ("futures.order_status", .orderStatus),
    ("futures.system", .futuresSystem)]

/-- Decode a text of an enumeration. -/
def decodeText {Value : Type} (texts : List (String × Value)) (undefined unknown : Value)
    (text : String) : Value :=
  if text = "" then undefined else (texts.lookup text).getD unknown

/-- Decode an `Event`. -/
def Event.parse : String → Event := decodeText texts .undefinedInternal .unknownInternal

/-- Decode a `Channel`. -/
def Channel.parse : String → Channel := decodeText texts .undefinedInternal .unknownInternal

/-- The schema does not list the event. -/
def Event.isUnlisted : Event → Bool
  | .undefinedInternal | .unknownInternal => true
  | .subscribe | .update | .api => false

/-- The schema does not list the channel. -/
def Channel.isUnlisted : Channel → Bool
  | .undefinedInternal | .unknownInternal => true
  | _ => false

/-! ### Frames -/

/-- The texts and numbers of a frame of the trading connection that its router reads. A frame
without a header has status 0, and a text that a frame does not have is empty. -/
structure TradeFrame where
  errorCode : BitVec 32
  headerStatus : BitVec 32
  headerEvent : String
  headerChannel : String
  event : String
  channel : String

/-- `TradeMessage`, as far as the router reads it. -/
structure TradeMessage where
  errorCode : BitVec 32
  headerStatus : BitVec 32
  headerEvent : Event
  headerChannel : Channel
  event : Event
  channel : Channel

/-- Decode a frame of the trading connection. -/
def TradeFrame.decode (frame : TradeFrame) : TradeMessage where
  errorCode := frame.errorCode
  headerStatus := frame.headerStatus
  headerEvent := Event.parse frame.headerEvent
  headerChannel := Channel.parse frame.headerChannel
  event := Event.parse frame.event
  channel := Channel.parse frame.channel

/-- The texts of a frame of a market data connection that its router reads. -/
structure MarketFrame where
  event : String
  channel : String

/-- `Message`, as far as the router reads it. -/
structure Message where
  event : Event
  channel : Channel

/-- Decode a frame of a market data connection. -/
def MarketFrame.decode (frame : MarketFrame) : Message where
  event := Event.parse frame.event
  channel := Channel.parse frame.channel

/-! ### Routing -/

/-- How a router ends: it returns, it ends the process, an assertion fails, or the exception of
an object that does not decode leaves it. -/
inductive RouterEnding
  | returned (value : Bool) | fatal | assertion | exception
  deriving DecidableEq, Repr

/-- The callbacks a router makes, and how it ends. Callbacks return. -/
structure Routing (Callback : Type) where
  callbacks : List Callback
  ending : RouterEnding
  deriving DecidableEq

/-- `dispatch_helper`, and the return after it. The function says which objects decode. -/
def dispatchHelper {Callback : Type} (decodes : Callback → Bool) (callback : Callback) :
    Routing Callback :=
  if decodes callback then ⟨[callback], .returned true⟩ else ⟨[], .exception⟩

/-- `TradeParser::Handler`. -/
inductive TradeCallback
  | tradeLogin | tradeSubscribe | tradeBalances | tradePositions | tradeOrders | tradeTrades
  | tradeOrderPlace | tradeOrderAmend | tradeOrderCancel | tradeOrderCancelCp | tradeOrderList
  | tradeOrderStatus | futuresSystem
  deriving DecidableEq, Repr

/-- `TradeParser::dispatch`, for a frame with a header. -/
def TradeParser.dispatchHeader (decodes : TradeCallback → Bool) (allowUnknownEventTypes : Bool)
    (event : Event) (channel : Channel) : Routing TradeCallback :=
  if event ≠ .api then ⟨[], .assertion⟩
  else match channel with
    | .undefinedInternal => ⟨[], .fatal⟩
    | .unknownInternal =>
      if allowUnknownEventTypes then ⟨[], .returned false⟩ else ⟨[], .fatal⟩
    | .tickers | .trades | .bookTicker | .orderBookUpdate | .candlesticks => ⟨[], .fatal⟩
    | .login => dispatchHelper decodes .tradeLogin
    | .balances | .positions | .orders | .usertrades => ⟨[], .fatal⟩
    | .orderPlace => dispatchHelper decodes .tradeOrderPlace
    | .orderAmend => dispatchHelper decodes .tradeOrderAmend
    | .orderCancel => dispatchHelper decodes .tradeOrderCancel
    | .orderCancelCp => dispatchHelper decodes .tradeOrderCancelCp
    | .orderList => dispatchHelper decodes .tradeOrderList
    | .orderStatus => dispatchHelper decodes .tradeOrderStatus
    | .futuresSystem => ⟨[], .fatal⟩

/-- `TradeParser::dispatch`, for a frame without a header. -/
def TradeParser.dispatchPlain (decodes : TradeCallback → Bool) (allowUnknownEventTypes : Bool)
    (event : Event) (channel : Channel) : Routing TradeCallback :=
  match event with
  | .undefinedInternal => ⟨[], .fatal⟩
  | .unknownInternal => if allowUnknownEventTypes then ⟨[], .returned false⟩ else ⟨[], .fatal⟩
  | .subscribe =>
    match channel with
    | .undefinedInternal => ⟨[], .fatal⟩
    | .unknownInternal =>
      if allowUnknownEventTypes then ⟨[], .returned false⟩ else ⟨[], .fatal⟩
    | .tickers | .trades | .bookTicker | .orderBookUpdate | .candlesticks | .login =>
      ⟨[], .fatal⟩
    | .balances | .positions | .orders | .usertrades => dispatchHelper decodes .tradeSubscribe
    | .orderPlace | .orderAmend | .orderCancel | .orderCancelCp | .orderList | .orderStatus
    | .futuresSystem => ⟨[], .fatal⟩
  | .update =>
    match channel with
    | .undefinedInternal => ⟨[], .fatal⟩
    | .unknownInternal => ⟨[], .assertion⟩
    | .tickers | .trades | .bookTicker | .orderBookUpdate | .candlesticks | .login =>
      ⟨[], .fatal⟩
    | .balances => dispatchHelper decodes .tradeBalances
    | .positions => dispatchHelper decodes .tradePositions
    | .orders => dispatchHelper decodes .tradeOrders
    | .usertrades => dispatchHelper decodes .tradeTrades
    | .orderPlace | .orderAmend | .orderCancel | .orderCancelCp | .orderList | .orderStatus =>
      ⟨[], .fatal⟩
    | .futuresSystem => dispatchHelper decodes .futuresSystem
  | .api => if allowUnknownEventTypes then ⟨[], .returned false⟩ else ⟨[], .fatal⟩

/-- `TradeParser::dispatch`. -/
def TradeParser.dispatch (decodes : TradeCallback → Bool) (allowUnknownEventTypes : Bool)
    (message : TradeMessage) : Routing TradeCallback :=
  if message.errorCode ≠ 0 then ⟨[], .fatal⟩
  else if message.headerStatus ≠ 0 then
    dispatchHeader decodes allowUnknownEventTypes message.headerEvent message.headerChannel
  else dispatchPlain decodes allowUnknownEventTypes message.event message.channel

/-- `Parser::Handler`. -/
inductive MarketCallback
  | subscribe | tickers | trades | bookTicker | orderBookUpdate | candlesticks | futuresSystem
  deriving DecidableEq, Repr

/-- `Parser::dispatch`. It does not look at the error. -/
def Parser.dispatch (decodes : MarketCallback → Bool) (allowUnknownEventTypes : Bool)
    (message : Message) : Routing MarketCallback :=
  match message.event with
  | .undefinedInternal => ⟨[], .fatal⟩
  | .unknownInternal => if allowUnknownEventTypes then ⟨[], .returned false⟩ else ⟨[], .fatal⟩
  | .subscribe => dispatchHelper decodes .subscribe
  | .update =>
    match message.channel with
    | .undefinedInternal => ⟨[], .fatal⟩
    | .unknownInternal =>
      if allowUnknownEventTypes then ⟨[], .returned false⟩ else ⟨[], .fatal⟩
    | .tickers => dispatchHelper decodes .tickers
    | .trades => dispatchHelper decodes .trades
    | .bookTicker => dispatchHelper decodes .bookTicker
    | .orderBookUpdate => dispatchHelper decodes .orderBookUpdate
    | .candlesticks => dispatchHelper decodes .candlesticks
    | .login | .balances | .positions | .orders | .usertrades | .orderPlace | .orderAmend
    | .orderCancel | .orderCancelCp | .orderList | .orderStatus => ⟨[], .fatal⟩
    | .futuresSystem => dispatchHelper decodes .futuresSystem
  | .api => ⟨[], .returned false⟩

/-! ### What a router promises -/

/-- The type that belongs to an event and a channel of the trading connection. -/
def tradeCallback : Event → Channel → Option TradeCallback
  | .api, .login => some .tradeLogin
  | .api, .orderPlace => some .tradeOrderPlace
  | .api, .orderAmend => some .tradeOrderAmend
  | .api, .orderCancel => some .tradeOrderCancel
  | .api, .orderCancelCp => some .tradeOrderCancelCp
  | .api, .orderList => some .tradeOrderList
  | .api, .orderStatus => some .tradeOrderStatus
  | .subscribe, .balances | .subscribe, .positions | .subscribe, .orders
  | .subscribe, .usertrades => some .tradeSubscribe
  | .update, .balances => some .tradeBalances
  | .update, .positions => some .tradePositions
  | .update, .orders => some .tradeOrders
  | .update, .usertrades => some .tradeTrades
  | .update, .futuresSystem => some .futuresSystem
  | _, _ => none

/-- The type that belongs to an event and a channel of a market data connection. -/
def marketCallback : Event → Channel → Option MarketCallback
  | .subscribe, _ => some .subscribe
  | .update, .tickers => some .tickers
  | .update, .trades => some .trades
  | .update, .bookTicker => some .bookTicker
  | .update, .orderBookUpdate => some .orderBookUpdate
  | .update, .candlesticks => some .candlesticks
  | .update, .futuresSystem => some .futuresSystem
  | _, _ => none

/-- At most one callback is made, of the type that belongs to the frame, and `true` is returned
exactly if one was made. -/
structure Routes {Callback : Type} (belongs : Option Callback) (routing : Routing Callback) :
    Prop where
  once : routing.callbacks.length ≤ 1
  returnsTrue : routing.ending = .returned true ↔ routing.callbacks.length = 1
  typed : ∀ callback ∈ routing.callbacks, belongs = some callback

/-- The schemas do not list a text of the frame. -/
def IsUnlisted (event channel : String) : Prop :=
  event ∉ Event.texts.map Prod.fst ∨ channel ∉ Channel.texts.map Prod.fst

/-- The frame is routed, and if the flag is set and a text is not listed, no callback is made and
`false` is returned. -/
structure RoutesSafely {Callback : Type} (belongs : Option Callback)
    (allowUnknownEventTypes : Bool) (event channel : String) (routing : Routing Callback) :
    Prop where
  routes : Routes belongs routing
  tolerates : allowUnknownEventTypes = true → IsUnlisted event channel →
    routing = ⟨[], .returned false⟩

/-- The event a frame of the trading connection is routed by. -/
def TradeFrame.routedEvent (frame : TradeFrame) : String :=
  if frame.headerStatus ≠ 0 then frame.headerEvent else frame.event

/-- The channel a frame of the trading connection is routed by. -/
def TradeFrame.routedChannel (frame : TradeFrame) : String :=
  if frame.headerStatus ≠ 0 then frame.headerChannel else frame.channel

/-- The unlisted frames the router of the trading connection survives. -/
def TradeFrame.IsSurvivable (frame : TradeFrame) : Prop :=
  if frame.headerStatus ≠ 0 then frame.headerEvent = "api" ∧ frame.headerChannel ≠ ""
  else frame.event ≠ "" ∧ frame.event ≠ "update" ∧
    (frame.event = "subscribe" → frame.channel ≠ "")

/-- The unlisted frames the router of a market data connection survives. -/
def MarketFrame.IsSurvivable (frame : MarketFrame) : Prop :=
  frame.event ≠ "" ∧ frame.event ≠ "subscribe" ∧ (frame.event = "update" → frame.channel ≠ "")

/-! ### Decoded texts -/

section Texts

variable {Value : Type} {texts : List (String × Value)} {undefined unknown : Value}

/-- A decoded text is empty, listed or unknown. -/
theorem decodeText_cases (texts : List (String × Value)) (undefined unknown : Value)
    (text : String) :
    text = "" ∧ decodeText texts undefined unknown text = undefined ∨
      text ≠ "" ∧ (∃ value, (text, value) ∈ texts ∧
        decodeText texts undefined unknown text = value) ∨
      text ≠ "" ∧ text ∉ texts.map Prod.fst ∧
        decodeText texts undefined unknown text = unknown := by
  unfold decodeText
  by_cases empty : text = ""
  · exact Or.inl ⟨empty, if_pos empty⟩
  · rw [if_neg empty]
    cases found : texts.lookup text with
    | some value =>
      obtain ⟨before, later, split, -⟩ := List.lookup_eq_some_iff.mp found
      have member : (text, value) ∈ texts := split ▸ List.mem_append_right _ List.mem_cons_self
      exact Or.inr (Or.inl ⟨empty, value, member, rfl⟩)
    | none =>
      refine Or.inr (Or.inr ⟨empty, fun listed => ?_, rfl⟩)
      obtain ⟨entry, member, same⟩ := List.mem_map.mp listed
      have different := List.lookup_eq_none_iff.mp found entry member
      simp [same] at different

/-- Only the empty text decodes to the undefined value. -/
theorem decodeText_undefined (defined : ∀ entry ∈ texts, entry.2 ≠ undefined)
    (other : unknown ≠ undefined) (text : String) :
    decodeText texts undefined unknown text = undefined ↔ text = "" := by
  rcases decodeText_cases texts undefined unknown text with
    ⟨empty, decoded⟩ | ⟨written, value, listed, decoded⟩ | ⟨written, -, decoded⟩
  · exact iff_of_true decoded empty
  · exact iff_of_false (decoded ▸ defined _ listed) written
  · exact iff_of_false (fun same => other (decoded.symm.trans same)) written

/-- Only its own text decodes to a listed value. -/
theorem decodeText_listed {value : Value} (defined : undefined ≠ value) (known : unknown ≠ value)
    (written : "" ∉ texts.map Prod.fst) (distinct : (texts.map Prod.fst).Nodup)
    (text : String) :
    decodeText texts undefined unknown text = value ↔ (text, value) ∈ texts := by
  rcases decodeText_cases texts undefined unknown text with
    ⟨rfl, decoded⟩ | ⟨-, other, listed, decoded⟩ | ⟨-, unlisted, decoded⟩
  · exact iff_of_false (decoded ▸ defined) fun listed => written (List.mem_map_of_mem listed)
  · rw [decoded]
    refine ⟨fun same => same ▸ listed, fun member => ?_⟩
    exact congrArg Prod.snd (List.inj_on_of_nodup_map distinct listed member rfl)
  · exact iff_of_false (fun same => known (decoded.symm.trans same)) fun listed =>
      unlisted (List.mem_map_of_mem listed)

/-- A text is not listed exactly if it decodes to a value that is not. -/
theorem decodeText_unlisted {isUnlisted : Value → Bool} (undefinedValue : isUnlisted undefined)
    (unknownValue : isUnlisted unknown)
    (listedValues : ∀ entry ∈ texts, isUnlisted entry.2 = false)
    (written : "" ∉ texts.map Prod.fst) (text : String) :
    isUnlisted (decodeText texts undefined unknown text) = true ↔
      text ∉ texts.map Prod.fst := by
  rcases decodeText_cases texts undefined unknown text with
    ⟨rfl, decoded⟩ | ⟨-, value, listed, decoded⟩ | ⟨-, unlisted, decoded⟩
  · exact iff_of_true (decoded ▸ undefinedValue) written
  · rw [decoded, listedValues _ listed]
    exact iff_of_false Bool.false_ne_true fun unlisted => unlisted (List.mem_map_of_mem listed)
  · exact iff_of_true ((congrArg isUnlisted decoded).trans unknownValue) unlisted

end Texts

theorem Event.parse_undefined (text : String) : parse text = .undefinedInternal ↔ text = "" :=
  decodeText_undefined (by decide) (by decide) text

theorem Event.parse_subscribe (text : String) : parse text = .subscribe ↔ text = "subscribe" :=
  (decodeText_listed (by decide) (by decide) (by decide) (by decide) text).trans
    (by simp [texts])

theorem Event.parse_update (text : String) : parse text = .update ↔ text = "update" :=
  (decodeText_listed (by decide) (by decide) (by decide) (by decide) text).trans
    (by simp [texts])

theorem Event.parse_api (text : String) : parse text = .api ↔ text = "api" :=
  (decodeText_listed (by decide) (by decide) (by decide) (by decide) text).trans
    (by simp [texts])

theorem Event.parse_isUnlisted (text : String) :
    (parse text).isUnlisted = true ↔ text ∉ texts.map Prod.fst :=
  decodeText_unlisted rfl rfl (by decide) (by decide) text

theorem Channel.parse_undefined (text : String) : parse text = .undefinedInternal ↔ text = "" :=
  decodeText_undefined (by decide) (by decide) text

theorem Channel.parse_isUnlisted (text : String) :
    (parse text).isUnlisted = true ↔ text ∉ texts.map Prod.fst :=
  decodeText_unlisted rfl rfl (by decide) (by decide) text

/-- A text of the frame is not listed exactly if it decodes to a value that is not. -/
theorem isUnlisted_iff (event channel : String) :
    IsUnlisted event channel ↔
      (Event.parse event).isUnlisted = true ∨ (Channel.parse channel).isUnlisted = true :=
  (or_congr (Event.parse_isUnlisted event) (Channel.parse_isUnlisted channel)).symm

/-! ### The routers -/

section Routers

variable {Callback : Type} {belongs : Option Callback}

theorem Routes.silent {ending : RouterEnding} (other : ending ≠ .returned true) :
    Routes belongs ⟨[], ending⟩ :=
  ⟨Nat.zero_le 1, iff_of_false other (by simp), List.forall_mem_nil _⟩

theorem Routes.helper (decodes : Callback → Bool) (callback : Callback) :
    Routes (some callback) (dispatchHelper decodes callback) := by
  unfold dispatchHelper
  split
  · exact ⟨Nat.le_refl 1, iff_of_true rfl rfl, by simp⟩
  · exact .silent (by decide)

/-- An object that is dispatched is never ignored. -/
theorem dispatchHelper_ne (decodes : Callback → Bool) (callback : Callback) :
    dispatchHelper decodes callback ≠ ⟨[], .returned false⟩ := by
  unfold dispatchHelper
  split <;> simp

end Routers

theorem TradeParser.dispatchHeader_routes (decodes : TradeCallback → Bool) (allow : Bool)
    (event : Event) (channel : Channel) :
    Routes (tradeCallback event channel) (dispatchHeader decodes allow event channel) := by
  unfold dispatchHeader
  split
  · exact .silent (by decide)
  next api =>
    rw [not_not.mp api]
    cases channel with
    | unknownInternal => cases allow <;> exact .silent (by decide)
    | login | orderPlace | orderAmend | orderCancel | orderCancelCp | orderList | orderStatus =>
      exact .helper decodes _
    | _ => exact .silent (by decide)

theorem TradeParser.dispatchPlain_routes (decodes : TradeCallback → Bool) (allow : Bool)
    (event : Event) (channel : Channel) :
    Routes (tradeCallback event channel) (dispatchPlain decodes allow event channel) := by
  cases event with
  | undefinedInternal => exact .silent (by decide)
  | unknownInternal | api => cases allow <;> exact .silent (by decide)
  | subscribe =>
    cases channel with
    | unknownInternal => cases allow <;> exact .silent (by decide)
    | balances | positions | orders | usertrades => exact .helper decodes _
    | _ => exact .silent (by decide)
  | update =>
    cases channel with
    | balances | positions | orders | usertrades | futuresSystem => exact .helper decodes _
    | _ => exact .silent (by decide)

theorem Parser.dispatch_routes (decodes : MarketCallback → Bool) (allow : Bool)
    (message : Message) :
    Routes (marketCallback message.event message.channel) (dispatch decodes allow message) := by
  obtain ⟨event, channel⟩ := message
  cases event with
  | undefinedInternal | api => exact .silent (by decide)
  | unknownInternal => cases allow <;> exact .silent (by decide)
  | subscribe => exact .helper decodes _
  | update =>
    cases channel with
    | unknownInternal => cases allow <;> exact .silent (by decide)
    | tickers | trades | bookTicker | orderBookUpdate | candlesticks | futuresSystem =>
      exact .helper decodes _
    | _ => exact .silent (by decide)

/-! ### Unlisted frames -/

/-- A channel that is not listed is the undefined or the unknown one. -/
theorem Channel.isUnlisted_cases {channel : Channel} (unlisted : channel.isUnlisted = true) :
    channel = .undefinedInternal ∨ channel = .unknownInternal := by
  cases channel <;> first | exact Or.inl rfl | exact Or.inr rfl | cases unlisted

/-- An unlisted frame with a header is ignored if its event is the interface's and its channel is
not empty. -/
theorem TradeParser.dispatchHeader_ignores (decodes : TradeCallback → Bool) {event : Event}
    {channel : Channel} (unlisted : event.isUnlisted = true ∨ channel.isUnlisted = true) :
    dispatchHeader decodes true event channel = ⟨[], .returned false⟩ ↔
      event = .api ∧ channel ≠ .undefinedInternal := by
  unfold dispatchHeader
  by_cases api : event = .api
  · subst api
    rw [if_neg (not_not.mpr rfl)]
    rcases Channel.isUnlisted_cases (unlisted.resolve_left (by decide)) with rfl | rfl
    · exact iff_of_false nofun fun both => both.2 rfl
    · exact iff_of_true rfl ⟨rfl, nofun⟩
  · rw [if_pos api]
    exact iff_of_false nofun fun both => api both.1

/-- An unlisted frame without a header is ignored, unless it is an update, or the text the router
looks at is empty. -/
theorem TradeParser.dispatchPlain_ignores (decodes : TradeCallback → Bool) {event : Event}
    {channel : Channel} (unlisted : event.isUnlisted = true ∨ channel.isUnlisted = true) :
    dispatchPlain decodes true event channel = ⟨[], .returned false⟩ ↔
      event ≠ .undefinedInternal ∧ event ≠ .update ∧
        (event = .subscribe → channel ≠ .undefinedInternal) := by
  cases event with
  | undefinedInternal => exact iff_of_false nofun fun all => all.1 rfl
  | unknownInternal | api => exact iff_of_true rfl ⟨nofun, nofun, nofun⟩
  | subscribe =>
    rcases Channel.isUnlisted_cases (unlisted.resolve_left (by decide)) with rfl | rfl
    · exact iff_of_false nofun fun all => all.2.2 rfl rfl
    · exact iff_of_true rfl ⟨nofun, nofun, nofun⟩
  | update =>
    rcases Channel.isUnlisted_cases (unlisted.resolve_left (by decide)) with rfl | rfl <;>
      exact iff_of_false nofun fun all => all.2.1 rfl

/-- An unlisted frame of a market data connection is ignored, unless it is a subscription, or the
text the router looks at is empty. -/
theorem Parser.dispatch_ignores (decodes : MarketCallback → Bool) (message : Message)
    (unlisted : message.event.isUnlisted = true ∨ message.channel.isUnlisted = true) :
    dispatch decodes true message = ⟨[], .returned false⟩ ↔
      message.event ≠ .undefinedInternal ∧ message.event ≠ .subscribe ∧
        (message.event = .update → message.channel ≠ .undefinedInternal) := by
  obtain ⟨event, channel⟩ := message
  cases event with
  | undefinedInternal => exact iff_of_false nofun fun all => all.1 rfl
  | unknownInternal | api => exact iff_of_true rfl ⟨nofun, nofun, nofun⟩
  | subscribe =>
    exact iff_of_false (dispatchHelper_ne decodes .subscribe) fun all => all.2.1 rfl
  | update =>
    rcases Channel.isUnlisted_cases (unlisted.resolve_left Bool.false_ne_true) with rfl | rfl
    · exact iff_of_false nofun fun all => all.2.2 rfl rfl
    · exact iff_of_true rfl ⟨nofun, nofun, nofun⟩

/-- A frame without an error is routed by its header if it has one. -/
theorem TradeFrame.dispatch_eq (decodes : TradeCallback → Bool) (allow : Bool)
    {frame : TradeFrame} (decoded : frame.errorCode = 0) :
    TradeParser.dispatch decodes allow frame.decode =
      if frame.headerStatus ≠ 0 then
        TradeParser.dispatchHeader decodes allow (Event.parse frame.headerEvent)
          (Channel.parse frame.headerChannel)
      else
        TradeParser.dispatchPlain decodes allow (Event.parse frame.event)
          (Channel.parse frame.channel) :=
  if_neg (not_not.mpr decoded)

/-- The router of the trading connection ignores the unlisted frames that it survives. -/
theorem TradeFrame.dispatch_ignores (decodes : TradeCallback → Bool) {frame : TradeFrame}
    (decoded : frame.errorCode = 0)
    (unlisted : IsUnlisted frame.routedEvent frame.routedChannel) :
    TradeParser.dispatch decodes true frame.decode = ⟨[], .returned false⟩ ↔
      frame.IsSurvivable := by
  rw [isUnlisted_iff, routedEvent, routedChannel] at unlisted
  rw [dispatch_eq decodes true decoded, IsSurvivable]
  by_cases header : frame.headerStatus ≠ 0
  · rw [if_pos header, if_pos header] at unlisted
    rw [if_pos header, if_pos header, TradeParser.dispatchHeader_ignores decodes unlisted,
      Event.parse_api, ne_eq, Channel.parse_undefined]
  · rw [if_neg header, if_neg header] at unlisted
    rw [if_neg header, if_neg header, TradeParser.dispatchPlain_ignores decodes unlisted,
      ne_eq, ne_eq, ne_eq, Event.parse_undefined, Event.parse_update, Event.parse_subscribe,
      Channel.parse_undefined]

/-- The router of the trading connection routes every frame without an error. -/
theorem TradeFrame.dispatch_routes (decodes : TradeCallback → Bool) (allow : Bool)
    {frame : TradeFrame} (decoded : frame.errorCode = 0) :
    Routes (tradeCallback (Event.parse frame.routedEvent) (Channel.parse frame.routedChannel))
      (TradeParser.dispatch decodes allow frame.decode) := by
  rw [dispatch_eq decodes allow decoded, routedEvent, routedChannel]
  by_cases header : frame.headerStatus ≠ 0
  · rw [if_pos header, if_pos header, if_pos header]
    exact TradeParser.dispatchHeader_routes decodes allow _ _
  · rw [if_neg header, if_neg header, if_neg header]
    exact TradeParser.dispatchPlain_routes decodes allow _ _

/-- The router of a market data connection ignores the unlisted frames that it survives. -/
theorem MarketFrame.dispatch_ignores (decodes : MarketCallback → Bool) {frame : MarketFrame}
    (unlisted : IsUnlisted frame.event frame.channel) :
    Parser.dispatch decodes true frame.decode = ⟨[], .returned false⟩ ↔ frame.IsSurvivable := by
  rw [isUnlisted_iff] at unlisted
  refine (Parser.dispatch_ignores decodes frame.decode unlisted).trans ?_
  show Event.parse frame.event ≠ _ ∧ Event.parse frame.event ≠ _ ∧
    (Event.parse frame.event = _ → Channel.parse frame.channel ≠ _) ↔ _
  rw [ne_eq, ne_eq, ne_eq, Event.parse_undefined, Event.parse_update, Event.parse_subscribe,
    Channel.parse_undefined, IsSurvivable]

/-- A frame that is routed is routed safely exactly if it is ignored where it has to be. -/
theorem Routes.safely_iff {Callback : Type} {belongs : Option Callback} {allow : Bool}
    {event channel : String} {survivable : Prop} (route : Bool → Routing Callback)
    (routes : Routes belongs (route allow))
    (ignores : IsUnlisted event channel → (route true = ⟨[], .returned false⟩ ↔ survivable)) :
    RoutesSafely belongs allow event channel (route allow) ↔
      (allow = true → IsUnlisted event channel → survivable) := by
  constructor
  · rintro ⟨-, tolerates⟩ rfl unlisted
    exact (ignores unlisted).mp (tolerates rfl unlisted)
  · intro survives
    refine ⟨routes, ?_⟩
    rintro rfl unlisted
    exact (ignores unlisted).mpr (survives rfl unlisted)

/-- Both routers route every frame without an error, and they ignore unlisted frames, if they are
told to, exactly if they survive them. -/
theorem routes_safely_iff (allowUnknownEventTypes : Bool) :
    (∀ (frame : TradeFrame) (decodes : TradeCallback → Bool), frame.errorCode = 0 →
      (RoutesSafely (tradeCallback (Event.parse frame.routedEvent)
            (Channel.parse frame.routedChannel))
          allowUnknownEventTypes frame.routedEvent frame.routedChannel
          (TradeParser.dispatch decodes allowUnknownEventTypes frame.decode) ↔
        (allowUnknownEventTypes = true → IsUnlisted frame.routedEvent frame.routedChannel →
          frame.IsSurvivable))) ∧
      ∀ (frame : MarketFrame) (decodes : MarketCallback → Bool),
        (RoutesSafely (marketCallback (Event.parse frame.event) (Channel.parse frame.channel))
            allowUnknownEventTypes frame.event frame.channel
            (Parser.dispatch decodes allowUnknownEventTypes frame.decode) ↔
          (allowUnknownEventTypes = true → IsUnlisted frame.event frame.channel →
            frame.IsSurvivable)) :=
  ⟨fun frame decodes decoded =>
      Routes.safely_iff (fun allow => TradeParser.dispatch decodes allow frame.decode)
        (TradeFrame.dispatch_routes decodes _ decoded)
        fun unlisted => TradeFrame.dispatch_ignores decodes decoded unlisted,
    fun frame decodes =>
      Routes.safely_iff (fun allow => Parser.dispatch decodes allow frame.decode)
        (Parser.dispatch_routes decodes _ frame.decode)
        fun unlisted => MarketFrame.dispatch_ignores decodes unlisted⟩

/-- A frame without a header and without an error. -/
def TradeFrame.plain (event channel : String) : TradeFrame where
  errorCode := 0
  headerStatus := 0
  headerEvent := ""
  headerChannel := ""
  event
  channel

/-- The subscription of a new channel is ignored. -/
theorem routes_safely_plain :
    RoutesSafely none true "subscribe" "futures.new"
      (TradeParser.dispatch (fun _ => true) true
        (TradeFrame.plain "subscribe" "futures.new").decode) := by
  have survivable : (TradeFrame.plain "subscribe" "futures.new").IsSurvivable :=
    ⟨by decide, by decide, fun _ => by decide⟩
  exact ((routes_safely_iff true).1 (.plain "subscribe" "futures.new") (fun _ => true) rfl).mpr
    fun _ _ => survivable

/-- The update of a new channel fails an assertion. -/
theorem unlisted_update_asserts :
    (TradeFrame.plain "update" "futures.new").errorCode = 0 ∧
      ¬ RoutesSafely
        (tradeCallback (Event.parse (TradeFrame.plain "update" "futures.new").routedEvent)
          (Channel.parse (TradeFrame.plain "update" "futures.new").routedChannel))
        true "update" "futures.new"
        (TradeParser.dispatch (fun _ => true) true
          (TradeFrame.plain "update" "futures.new").decode) := by
  refine ⟨rfl, fun safely => ?_⟩
  have ignored := safely.tolerates rfl (Or.inr (by decide))
  exact absurd ignored (by decide)

end GateFutures.Protocol
