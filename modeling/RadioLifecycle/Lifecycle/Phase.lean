import RadioLifecycle.Text.Named

/-!
The phases of a radio session. A session is brought up by a start, runs until a stop, and stays in
teardown until both the vendor's cleanup command and its event loop are done.
-/

namespace RadioLifecycle

/-- Where the control plane stands between two sessions. -/
inductive Phase where
  /-- There is no vendor session. -/
  | stopped
  /-- A vendor session exists and its event loop runs. -/
  | started
  /-- Teardown has been submitted and is not complete. -/
  | stopping
  deriving DecidableEq, Repr

namespace Phase

instance : Named Phase where
  all := [stopped, started, stopping]
  name
    | stopped => "STOPPED"
    | started => "STARTED"
    | stopping => "STOPPING"
  find_name a := by cases a <;> decide

def render (p : Phase) : String :=
  Named.name p

end Phase

end RadioLifecycle
