import FleetHealth.Text.Duration

/- What can go wrong when the backend that runs the fleet is asked a question. -/
namespace FleetHealth

inductive BackendError where
  | unavailable (reason : Text)
  | command (commandLine : Text) (status : Int) (stderr : Text)
  | io (reason : Text)
  | parse (reason : Text)
  | timeout (limit : Duration)
  deriving DecidableEq, Repr

def BackendError.message : BackendError → Text
  | .unavailable reason => "backend unavailable: ".toList ++ reason
  | .command commandLine status stderr =>
    "`".toList ++ commandLine ++ "` exited with status ".toList ++ intText status ++
      ": ".toList ++ stderr
  | .io reason => "failed to run backend command: ".toList ++ reason
  | .parse reason => "unexpected backend output: ".toList ++ reason
  | .timeout limit => "timed out after ".toList ++ limit.text

/-- The text of the error that ends a whole run. -/
def unavailableMessage (reason : Text) : Text :=
  "Orchestration backend unavailable: ".toList ++ reason

end FleetHealth
