import ClusterScript.Script.Operations

/-!
# Logs of pods

A handle to the log of one pod, fixed when it is made. The text is read from
the cluster when it is first needed, and again only when a script asks for it;
a failed attempt leaves the text that was there.
-/
namespace ClusterScript.Script.Logs

def contents (i : Instance) : Run (String × String × Option String) := do
  match ← Run.lookup i with
  | .logs ns pod text => return (ns, pod, text)
  | _ => Run.notFound i

/-- `fetch`: reads the log and keeps it. -/
def download [Library] (i : Instance) : Run String := do
  let (ns, pod, _) ← contents i
  let text ← Run.askCluster (Cluster.logs ns pod)
  Run.update i (.logs ns pod (some text))
  return text

/-- `text`: the text that is kept, read if there is none yet. -/
def textOf [Library] (i : Instance) : Run String := do
  match ← contents i with
  | (_, _, some text) => return text
  | _ => download i

/-- The tests that the expressions of arguments stand for, in order. -/
def patterns [Library] : List Value → Except Fault (List (String → Bool))
  | [] => .ok []
  | v :: rest => do
    match ← v.hostText with
    | none => throw (.refused (.patternType v.typeName))
    | some s =>
      match Library.compile s with
      | .error text => throw (.refused (.badPattern text))
      | .ok p => do return p :: (← patterns rest)

/-- What stands before a line of a log. -/
def mark (ns pod : String) : String := s!"[{ns}/{pod}] "

/-- The lines that some pattern matches, each with its mark. -/
def matching (ps : List (String → Bool)) (ns pod text : String) : List String :=
  ((Text.lines text).filter fun line => ps.any fun p => p line).map (mark ns pod ++ ·)

/-- `grep`: the lines that one of the arguments matches. -/
def grep [Library] (i : Instance) (args : List Value) : Run (List String) := do
  if args.isEmpty then Run.refuse .noPattern
  else
    let ps ← Run.lift (patterns args)
    let (ns, pod, _) ← contents i
    return matching ps ns pod (← textOf i)

def perform [Library] (i : Instance) (b : LogBody) (args : List Value) : Run (List Value) := do
  match b with
  | .refresh => do
    let _ ← download i
    return [.instance i]
  | .describe => do
    let (ns, pod, _) ← contents i
    return [.text s!"PodLogs {ns}/{pod}"]
  | .text => return [.text (← textOf i)]
  | .lines => return [← Run.newSequence ((Text.lines (← textOf i)).map .text)]
  | .puts => do
    Run.print (Text.dropFeeds (← textOf i) ++ "\n")
    return []
  | .grep => return [← Run.newSequence ((← grep i args).map .text)]

def methods : List Method :=
  let method (name : String) (b : LogBody) : Method := ⟨name, .exact 0, .logs b⟩
  [method "refresh" .refresh, method "get!" .refresh, method "to_s" .describe,
    method "inspect" .describe, method "text" .text, method "lines" .lines,
    method "puts" .puts, ⟨"grep", .any, .logs .grep⟩]

end ClusterScript.Script.Logs
