import CallPath.Metrics
import CallPath.Json
/-!
# Export of metrics

Counters are exported as JSON and as lines of the text exposition format, where each metric has a
help line, a type line and one line per sample, and metrics are separated by blank lines.
-/

namespace CallPath.Metrics

/-- What a 64-bit counter shows. -/
def shown (n : Nat) : Nat :=
  n % UInt64.size

/-- The counters as JSON. -/
def toJson (m : Metrics) : Json :=
  let count (n : Nat) : Json := .integer (shown n)
  .object [
    ("lifecycle", .object [
      ("created", count m.created),
      ("started", count m.started),
      ("ended", count m.ended),
      ("failed", count m.failed),
      ("leaked", count m.leaked),
      ("usage_errors", count m.usageErrors),
      ("created_by_kind",
        .object (m.createdByKind.bindings.map fun (k, n) => (k.name, count n)))]),
    ("correlation", .object [
      ("paths_completed", count m.pathsCompleted),
      ("tags_resolved", count m.tagsResolved),
      ("tags_unresolved", count m.tagsUnresolved)])]

/-- The two lines that introduce a metric. -/
def header (name type help : String) : List String :=
  ["# HELP " ++ name ++ " " ++ help, "# TYPE " ++ name ++ " " ++ type]

/-- A sample without labels. -/
def sample (name : String) (n : Nat) : String :=
  name ++ " " ++ toString (shown n)

/-- A sample with one label. -/
def labelled (name label value : String) (n : Nat) : String :=
  name ++ "\x7b" ++ label ++ "=\"" ++ value ++ "\"\x7d " ++ toString (shown n)

/-- The kinds of which tracers were created, with their counts, sorted by name. -/
def kindsByName (m : Metrics) : List (Kind × Nat) :=
  m.createdByKind.bindings.mergeSort fun a b => !(b.1.name < a.1.name)

/-- The lines of the text exposition. -/
def exposition (m : Metrics) (uptimeSeconds : Nat) : List String :=
  let transitions := "tracepath_tracers_total"
  let byKind := "tracepath_tracers_created_total"
  let errors := "tracepath_usage_errors_total"
  let paths := "tracepath_paths_completed_total"
  let tags := "tracepath_tags_total"
  header "tracepath_uptime_seconds" "gauge" "Time since the session started" ++
  [sample "tracepath_uptime_seconds" uptimeSeconds, ""] ++
  header transitions "counter" "Tracer lifecycle transitions" ++
  [labelled transitions "event" "created" m.created,
    labelled transitions "event" "started" m.started,
    labelled transitions "event" "ended" m.ended,
    labelled transitions "event" "failed" m.failed,
    labelled transitions "event" "leaked" m.leaked, ""] ++
  (if m.createdByKind.bindings.isEmpty then []
    else
      header byKind "counter" "Tracers created per kind" ++
      m.kindsByName.map (fun (k, n) => labelled byKind "kind" k.name n) ++ [""]) ++
  header errors "counter" "Tracer API misuse" ++
  [sample errors m.usageErrors, ""] ++
  header paths "counter" "Completed root paths" ++
  [sample paths m.pathsCompleted, ""] ++
  header tags "counter" "Incoming tags processed by the resolver" ++
  [labelled tags "result" "resolved" m.tagsResolved,
    labelled tags "result" "unresolved" m.tagsUnresolved]

end CallPath.Metrics
