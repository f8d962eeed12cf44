import DualEval.Session.Basic

/-!
# Runs of a station

A station is brought up, used and shut down in any order, and another script may be put in force
between any two calls.  What holds at the beginning and is kept by each of these holds after every
run.
-/

namespace DualEval

open Device

/-- What can be asked of a station. -/
inductive Station.Request where
  | setScript (script : Script)
  | bringUp (settings : AcceleratorSettings) (observed : Bool)
  | dispatch (settings : AcceleratorSettings) (e : Expression)
  | shutDown

namespace Station

/-- The station with another script in force. -/
def withScript (station : Station) (script : Script) : Station :=
  { station with bench := { station.bench with script } }

/-- The station after one request. -/
def serve (station : Station) : Request → Station
  | .setScript script => station.withScript script
  | .bringUp settings observed => (station.bringUp settings observed).state
  | .dispatch settings e => (station.dispatch settings e).state
  | .shutDown => station.shutDown.state

/-- The station after a run of requests, from the beginning. -/
def after (requests : List Request) : Station := requests.foldl serve {}

/-- What holds at the beginning and is kept by every request holds after every run. -/
theorem after_induction {P : Station → Prop} (initial : P {})
    (step : ∀ station request, P station → P (station.serve request)) (requests : List Request) :
    P (after requests) := by
  have run : ∀ station, P station → P (requests.foldl serve station) := by
    induction requests with
    | nil => exact fun _ holds => holds
    | cons request requests ih => exact fun station holds => ih _ (step station request holds)
  exact run {} initial

theorem after_concat (requests : List Request) (request : Request) :
    after (requests ++ [request]) = (after requests).serve request := by
  rw [after, List.foldl_append]
  rfl

end Station

end DualEval
