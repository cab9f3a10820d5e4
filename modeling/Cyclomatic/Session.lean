import Cyclomatic.Analysis

/-!
# Sessions

Calls that share a registry. Each call answers and leaves the registry to the next one.
-/

namespace Cyclomatic

/-- One use of a registry. -/
inductive Call where
  /-- Asks for the calculator that is reused. -/
  | get (wanted : Wanted)
  /-- Asks for a new calculator. -/
  | create (wanted : Wanted)
  | resolve (key path : Option String)
  | analyze (settings : Settings) (source : Source) (language fileName : Option String)

/-- What a call answers. -/
inductive Answer where
  | calculator (taken : Except Error Calculator)
  | language (found : Except Error Language)
  | report (result : Except Failure Report)

/-- The answer to a call, and the registry after it. -/
def Call.perform (parser : Java.Parser) (registry : Registry) : Call → Answer × Registry
  | .get wanted =>
      let taken := registry.takeFor registry.get wanted
      (.calculator taken.1, taken.2)
  | .create wanted =>
      let taken := registry.takeFor registry.create wanted
      (.calculator taken.1, taken.2)
  | .resolve key path => (.language (Registry.resolve key path), registry)
  | .analyze settings source language fileName =>
      let outcome := analyzeSource parser registry settings source language fileName
      (.report outcome.result, outcome.registry)

/-- The answers to calls that are made one after the other, and the registry after them. -/
def performAll (parser : Java.Parser) (registry : Registry) :
    List Call → List Answer × Registry
  | [] => ([], registry)
  | call :: rest =>
      let first := call.perform parser registry
      let others := performAll parser first.2 rest
      (first.1 :: others.1, others.2)

end Cyclomatic
