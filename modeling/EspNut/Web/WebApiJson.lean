import EspNut.Server.Protocol

/-!
# Setting a variable from the Web UI

The body of the request names a variable and its value. The checks come in a fixed order: the form of the body, the host, the custom variables and the checks of SET VAR. Only then the host sets the variable.
-/

namespace EspNut.WebApiJson

open Lib NutTable NUTServer

def maxCommandBodyLength : Nat := 256

def overriddenVariableError : String := "Variable overridden in the NUT Server tab"

/-- The fields of a body that are JSON strings. -/
structure Fields where
  name : Option String
  value : Option String

/-- An error, or the value a variable has afterwards; there is none when the UPS is gone by then. -/
inductive Response where
  | error (status : Nat) (message : String)
  | value (value : Option String)
  deriving DecidableEq

/-- The name and, when asked for, the value of a body, which `deserialize` reads as JSON. -/
def parseVariableBody (deserialize : String → Option Fields) (withValue : Bool) (body : String) :
    Option (String × Option String) :=
  if maxCommandBodyLength < body.toList.length then none
  else
    match deserialize body with
    | none => none
    | some fields =>
        match fields.name with
        | none => none
        | some name =>
            if name = "" then none
            else if withValue then fields.value.map fun value => (name, some value)
            else some (name, none)

def isPrintableAscii (s : String) : Bool := s.toList.all fun c => decide (0x20 ≤ c.toNat ∧ c.toNat ≤ 0x7E)

/-- The source, when it can write. -/
def checkHost (ups : Option UpsSource) : Except Response UpsSource :=
  match ups with
  | none => .error (.error 503 "UPS not connected")
  | some ups =>
      if ups.isConnected = false then .error (.error 503 "UPS not connected")
      else if ups.isDataStale then .error (.error 503 "UPS data stale")
      else .ok ups

/-- The value in the data once it is written or reset. -/
def sendValue (after : UpsSource) (name : String) : Response :=
  .value (if after.isConnected then some (after.upsData.get name "") else none)

/-- The answer to the outcome of the host; `after` is the source by then. -/
def setResponse (after : UpsSource) (canonical : String) : SetStatus → Response
  | .ok => sendValue after canonical
  | .conversionFailed => .error 400 "Invalid value"
  | .unknown => .error 400 "Variable not supported"
  | .notConnected => .error 503 "UPS not connected"
  | .failed => .error 500 "Rejected by the UPS"

/-- The response and the calls of the host. -/
def runUpsVariable (deserialize : String → Option Fields) (ups : Option UpsSource) (after : UpsSource)
    (overrides : Option (List NutOverride)) (body : String) : Response × List Call :=
  match parseVariableBody deserialize true body with
  | some (name, some value) =>
      if isPrintableAscii value = false then (.error 400 "Invalid value", [])
      else
        match checkHost ups with
        | .error response => (response, [])
        | .ok ups =>
            if (NutOverrides.find overrides name).isSome then (.error 400 overriddenVariableError, [])
            else
              match checkSetValue ups.writableVariables name value with
              | (.tooLong, v) =>
                  (.error 400 ("Value too long (max " ++ toString ((v.map RWVariable.aux).getD 0) ++ ")"), [])
              | (.invalidValue, _) => (.error 400 "Invalid value", [])
              | (.notWritable, _) | (.invalidAux, _) => (.error 400 "Variable not writable", [])
              | (.ok, v) =>
                  -- the name of the catalog, not the one of the client
                  let canonical := (v.map RWVariable.name).getD ""
                  (setResponse after canonical (ups.setVariable canonical value), [.setVariable canonical value])
  | _ => (.error 400 "Invalid request", [])

end EspNut.WebApiJson
