/-!
Signals: the countable outcomes of initiations.
-/

namespace PayOnce

/-- Something that operators count. -/
inductive Signal
  /-- The cache could not be read. -/
  | cacheDegraded
  /-- A request was answered from the cache. -/
  | cacheReplay
  /-- A request was answered from the store. -/
  | storeReplay
  /-- A request lost the race for its key and took over the winner's payment. -/
  | creationRaceResolved
  /-- A request created its payment. -/
  | paymentCreated
deriving DecidableEq, Repr

/-- The label under which a signal is counted. -/
def Signal.label : Signal → String
  | .cacheDegraded => "cache_degraded"
  | .cacheReplay => "cache_replay"
  | .storeReplay => "store_replay"
  | .creationRaceResolved => "creation_race_resolved"
  | .paymentCreated => "payment_created"

end PayOnce
