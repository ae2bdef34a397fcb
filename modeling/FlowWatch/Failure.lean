import FlowWatch.Text.Quoted

/-!
# Failures of the health check

What can go wrong between a configured health check and a serving one: a point
that cannot be read or does not exist, an operation at the wrong time, and a
listener that cannot be bound.
-/

namespace FlowWatch

/-- Why an operation of the health check failed. -/
inductive Failure
  /-- The operation does not fit the configuration or the time. -/
  | configuration (reason : String)
  /-- The pipeline has no such element. -/
  | elementNotFound (element : String)
  /-- The element has no such pad. -/
  | padNotFound (element pad : String)
  /-- The text does not name an observation point. -/
  | invalidPoint (text : String)
  /-- The listener could not be bound. -/
  | bind (address reason : String)
  /-- The server could not be run. -/
  | server (reason : String)
  deriving DecidableEq, Repr

/-- The wording of the failure. -/
def Failure.message : Failure → String
  | .configuration reason => "configuration error: " ++ reason
  | .elementNotFound element => "unable to get element " ++ element
  | .padNotFound element pad => "unable to get " ++ pad ++ " pad of " ++ element
  | .invalidPoint text =>
    "invalid observation point " ++ Text.quote text ++
      ": expected \"element\" or \"element:pad\""
  | .bind address reason =>
    "failed to bind health check listener on " ++ address ++ ": " ++ reason
  | .server reason => "health check server error: " ++ reason

end FlowWatch
