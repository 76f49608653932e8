import ClusterScript.Script.World

/-!
# Tallies

A tally counts how often it was hit. Classes of tallies are the smallest that
use all of the registry: methods with and without a receiver, a constructor,
a trap and a look-up of the wrong sort.
-/
namespace ClusterScript.Script.Tally

def hitsOf (i : Instance) : Run Int64 := do
  match ← Run.lookup i with
  | .tally hits => return hits
  | _ => Run.notFound i

/-- The methods that have a receiver. -/
def performOn (i : Instance) (b : TallyBody) (args : List Value) : Run (List Value) := do
  match b with
  | .hit => do
    Run.update i (.tally ((← hitsOf i) + 1))
    return [.instance i]
  | .hits => return [.int (← hitsOf i)]
  | .set => do
    let _ ← hitsOf i
    match args with
    | .int n :: _ => do
      Run.update i (.tally n)
      return []
    | _ => Run.refuse (.stated "set needs an integer")
  | .echo => return args
  | .mistaken =>
    match ← Run.lookup i with
    | .tally _ => Run.notFound i
    | _ => return [.bool true]
  | .text s => return [.text s]
  | .fail => Run.fault (.cluster "handler failed")
  | .countArgs | .make => return []

/-- The methods of a class of tallies itself. -/
def performFor (cls : Nat) (b : TallyBody) (args : List Value) : Run (List Value) := do
  match b with
  | .countArgs => return [.ofNat args.length]
  | .make =>
    let hits := match args with
      | .int n :: _ => n
      | _ => 0
    return [.instance (← Run.newInstance cls (.tally hits))]
  | _ => return []

/-- A member that the class does not define. -/
def member (i : Instance) (name : String) : Run Value := do
  if name = "forbidden" then Run.refuse (.stated "forbidden member")
  else return .text s!"trapped:{name}:{← hitsOf i}"

end ClusterScript.Script.Tally
