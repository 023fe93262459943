import VideoProbe.Decimal.Reading
import VideoProbe.Error
import VideoProbe.Text.Quoted

/-!
# The environment

Settings come from environment variables, looked up by name.  An empty variable counts as missing
for most of them.
-/

namespace VideoProbe

/-- The variables of an environment. -/
abbrev Environment := String → Option String

namespace Environment

/-- The environment of a list of variables. -/
def ofList (vars : List (String × String)) : Environment :=
  fun name => vars.lookup name

/-- The value of a variable, unless it is empty. -/
def nonempty? (env : Environment) (name : String) : Option String :=
  (env name).filter fun v => v ≠ ""

/-- The value of a variable that has to be there. -/
def require (env : Environment) (name : String) : Except ServiceError String :=
  match env.nonempty? name with
  | some v => .ok v
  | none => .error (.config (name ++ " is not set"))

/-- A port number, or a default where none is given. -/
def port (env : Environment) (name : String) (default : Nat) : Except ServiceError Nat :=
  match env.nonempty? name with
  | none => .ok default
  | some raw =>
    match Decimal.word16? raw with
    | some n => .ok n
    | none => .error (.config (name ++ " must be a port number, got " ++ Text.quote raw))

/-- A positive number of seconds of sixty-four bits; anything else counts as missing. -/
def seconds? (env : Environment) (name : String) : Option Nat :=
  ((env name).bind Decimal.word64?).filter fun n => 0 < n

/-- A variable that is switched on by `true` or `1`. -/
def isOn (v : String) : Bool :=
  v == "true" || v == "1"

end Environment

end VideoProbe
