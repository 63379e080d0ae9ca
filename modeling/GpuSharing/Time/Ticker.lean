import GpuSharing.Time.Timestamp

/-!
# Tickers

A loop that works at fixed intervals is due at once, and then whenever its deadline
has come. A late loop skips the ticks that it has missed.
-/

set_option autoImplicit false

namespace GpuSharing

structure Ticker where
  period : Duration
  deadline : Instant
  deriving DecidableEq, Repr

namespace Ticker

def start (period : Duration) (now : Instant) : Ticker := ⟨period, now⟩

def isDue (ticker : Ticker) (now : Instant) : Bool := ticker.deadline.nanos ≤ now.nanos

/-- The next deadline: the first one on the ticker's grid that lies ahead. -/
def rearm (ticker : Ticker) (now : Instant) : Ticker :=
  let passed := (now.nanos - ticker.deadline.nanos) / ticker.period.nanos
  { ticker with deadline := ⟨ticker.deadline.nanos + (passed + 1) * ticker.period.nanos⟩ }

def run {σ : Type} (ticker : Ticker) (now : Instant) (work : σ → σ) (state : σ) : Ticker × σ :=
  if ticker.isDue now then (ticker.rearm now, work state) else (ticker, state)

end Ticker

end GpuSharing
