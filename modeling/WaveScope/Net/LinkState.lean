/-!
# Link state

The state of the connection to the sample source, as the display reports it.
-/

namespace WaveScope

/-- How far the connection to the sample source has come. -/
inductive LinkState where
  | disconnected
  | connecting
  | connected
deriving DecidableEq, Repr, Inhabited

end WaveScope
