/-
This file models the texts that the three `MarketData::subscribe` write, and proves that each
reads as the frame the market data connection sends.
-/

import GateFutures.Market.Queues
import GateFutures.Protocol.Texts

namespace GateFutures.Market

open Framework Library Library.Json Protocol Roq
open Gateway (toSeconds)

variable {Store Queue : Type}

/-! ### Texts -/

namespace MarketData

/-- The text `MarketData::subscribe` writes. -/
def subscribeSymbolsText (context : Context) (channel : String) (symbols : List String) : String :=
  let now := toSeconds context.now
  let symbols := "\",\"".intercalate symbols
  "\x7b" ++
    s!"\"time\":{now}," ++
    s!"\"channel\":\"{channel}\"," ++
    "\"event\":\"subscribe\"," ++
    s!"\"payload\":[\"{symbols}\"]" ++
    "\x7d"

/-- The text `MarketData::subscribe` writes for the order book of a symbol. -/
def subscribeOrderBookText (context : Context) (channel : String) (frequency : Int) (depth : Nat)
    (symbol : String) : String :=
  let now := toSeconds context.now
  "\x7b" ++
    s!"\"time\":{now}," ++
    s!"\"channel\":\"{channel}\"," ++
    "\"event\":\"subscribe\"," ++
    s!"\"payload\":[\"{symbol}\",\"{frequency}ms\",\"{depth}\"]" ++
    "\x7d"

/-- The text `MarketData::subscribe` writes for the candlesticks of a symbol. -/
def subscribeCandlesticksText (context : Context) (channel interval symbol : String) : String :=
  let now := toSeconds context.now
  "\x7b" ++
    s!"\"time\":{now}," ++
    s!"\"channel\":\"{channel}\"," ++
    "\"event\":\"subscribe\"," ++
    s!"\"payload\":[\"{interval}\",\"{symbol}\"]" ++
    "\x7d"

end MarketData

/-! ### Reading -/

/-- The frame an output sends. -/
def Output.subscribeFrame? : Output → Option SubscribeFrame
  | .sendText _ frame => some frame
  | _ => none

/-- A sender sends one frame for each text it writes, as which the text reads. -/
def SendsTexts (texts : List String) (before after : Feeds Store Queue) : Prop :=
  ∃ outputs, after.outbox = before.outbox ++ outputs ∧
    texts.map parse =
      (outputs.filterMap Output.subscribeFrame?).map fun frame => some frame.json

theorem isPlain_subscribe : IsPlain "subscribe".toList := rfl

/-- Symbols joined by quotes and commas are the texts of the symbols, less the outer quotes. -/
theorem joined_symbols {symbols : List String} (written : symbols ≠ []) :
    '"' :: (("\",\"".intercalate symbols).toList ++ ['"']) =
      joined (symbols.map fun symbol => stringText symbol.toList) := by
  induction symbols with
  | nil => exact absurd rfl written
  | cons symbol symbols inductionHypothesis =>
    cases symbols with
    | nil => simp
    | cons second symbols =>
      have later := inductionHypothesis (List.cons_ne_nil _ _)
      rw [List.map_cons] at later
      rw [List.map_cons, List.map_cons, joined_cons_cons, ← later, String.intercalate_cons_cons]
      simp

namespace SendsTexts

variable {first second third : Feeds Store Queue} {texts texts' : List String}

theorem refl (feeds : Feeds Store Queue) : SendsTexts [] feeds feeds :=
  ⟨[], (List.append_nil _).symm, rfl⟩

theorem trans (earlier : SendsTexts texts first second) (later : SendsTexts texts' second third) :
    SendsTexts (texts ++ texts') first third := by
  obtain ⟨outputs, grown, same⟩ := earlier
  obtain ⟨outputs', grown', same'⟩ := later
  refine ⟨outputs ++ outputs', by rw [grown', grown, List.append_assoc], ?_⟩
  rw [List.map_append, same, same', List.filterMap_append, List.map_append]

/-- A frame is sent. -/
theorem emit {text : String} {frame : SubscribeFrame} (reads : Reads text.toList frame.json)
    (feeds : Feeds Store Queue) (index : Nat) :
    SendsTexts [text] feeds (feeds.emit (.sendText index frame)) :=
  ⟨_, rfl, congrArg (fun value => [value]) reads.parse⟩

theorem emplaceBack [LimitQueue String Queue] (feeds : Feeds Store Queue) (kind : SnapshotKind)
    (symbol : String) : SendsTexts [] feeds (feeds.emplaceBack kind symbol) :=
  ⟨_, rfl, rfl⟩

/-- A loop that sends one frame for each symbol. -/
theorem foldl {text : String → String} {body : Feeds Store Queue → String → Feeds Store Queue}
    {symbols : List String}
    (each : ∀ feeds, ∀ symbol ∈ symbols, SendsTexts [text symbol] feeds (body feeds symbol))
    (feeds : Feeds Store Queue) :
    SendsTexts (symbols.map text) feeds (symbols.foldl body feeds) := by
  induction symbols generalizing feeds with
  | nil => exact refl feeds
  | cons symbol symbols inductionHypothesis =>
    exact (each feeds symbol List.mem_cons_self).trans
      (inductionHypothesis (fun feeds other member => each feeds other (.tail _ member)) _)

end SendsTexts

namespace MarketData

variable {context : Context} {stream : MarketData} {channel : String} {symbols : List String}

/-- The text of `MarketData::subscribe` reads as its frame. -/
theorem subscribeSymbols_sendsTexts (written : symbols ≠ []) (plainChannel : IsPlain channel.toList)
    (plain : ∀ symbol ∈ symbols, IsPlain symbol.toList) (feeds : Feeds Store Queue) :
    SendsTexts [subscribeSymbolsText context channel symbols] feeds
      (subscribeSymbols context stream channel symbols feeds) := by
  refine .emit ?_ feeds stream.index
  set now := toSeconds context.now with nowIs
  have text : (subscribeSymbolsText context channel symbols).toList =
      subscribeFrameText now channel "subscribe"
        (arrayText (symbols.map fun symbol => stringText symbol.toList)) := by
    rw [arrayText, ← joined_symbols written]
    unfold subscribeSymbolsText
    simp [← nowIs]
  rw [text]
  exact subscribeFrame_reads plainChannel isPlain_subscribe (.array (strings_read plain))

/-- The texts of `MarketData::subscribe` for order books read as their frames. -/
theorem subscribeOrderBook_sendsTexts (plainChannel : IsPlain channel.toList)
    (plain : ∀ symbol ∈ symbols, IsPlain symbol.toList) (frequency : Int) (depth : Nat)
    (feeds : Feeds Store Queue) :
    SendsTexts (symbols.map (subscribeOrderBookText context channel frequency depth)) feeds
      (subscribeOrderBook context stream channel symbols frequency depth feeds) := by
  refine .foldl (fun current symbol member => .emit ?_ current stream.index) feeds
  set now := toSeconds context.now with nowIs
  have text : (subscribeOrderBookText context channel frequency depth symbol).toList =
      subscribeFrameText now channel "subscribe"
        (arrayText
          [stringText symbol.toList, stringText (toString frequency ++ "ms").toList,
            stringText (toString depth).toList]) := by
    unfold subscribeOrderBookText
    simp [← nowIs]
  have plainFrequency : IsPlain (toString frequency ++ "ms").toList := by
    rw [String.toList_append]
    exact isPlain_append (isNumber_integer frequency).isPlain rfl
  rw [text]
  exact subscribeFrame_reads plainChannel isPlain_subscribe <| .array <|
    .cons (.string (plain symbol member)) <|
    .cons (.string plainFrequency) <|
    .cons (.string (isNumber_natural depth).isPlain) .nil

/-- The texts of `MarketData::subscribe` for candlesticks read as their frames. -/
theorem subscribeCandlesticks_sendsTexts [LimitQueue String Queue]
    (plainChannel : IsPlain channel.toList) (plain : ∀ symbol ∈ symbols, IsPlain symbol.toList)
    {interval : String} (plainInterval : IsPlain interval.toList) (feeds : Feeds Store Queue) :
    SendsTexts (symbols.map (subscribeCandlesticksText context channel interval)) feeds
      (subscribeCandlesticks context stream channel symbols interval feeds) := by
  refine .foldl (fun current symbol member => ?_) feeds
  refine SendsTexts.trans (.emit ?_ current stream.index) (.emplaceBack _ .candlesticks symbol)
  set now := toSeconds context.now with nowIs
  have text : (subscribeCandlesticksText context channel interval symbol).toList =
      subscribeFrameText now channel "subscribe"
        (arrayText [stringText interval.toList, stringText symbol.toList]) := by
    unfold subscribeCandlesticksText
    simp [← nowIs]
  rw [text]
  exact subscribeFrame_reads plainChannel isPlain_subscribe <| .array <|
    .cons (.string plainInterval) <| .cons (.string (plain symbol member)) .nil

end MarketData

end GateFutures.Market
