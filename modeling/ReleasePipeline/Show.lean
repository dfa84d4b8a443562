/-
The module that shows the variables and the artifacts of a run.

It is registered for every stage, so that the state can be looked at between any two modules. It
says line by line what there is and changes nothing: variables in the order of their names,
artifacts in the order in which they were recorded.
-/
import ReleasePipeline.Registry

set_option autoImplicit false

namespace ReleasePipeline.Show

/-- The module has no settings. -/
def schema : Schema Unit := { defaults := (), fields := [] }

/-- The part of the program that speaks. -/
def source : String := "shipline::modules::show"

/-- What is shown, line by line. -/
def lines (ctx : Context) : List String :=
  "Environment:" :: ctx.environment.toList.map (fun (name, value) =>
      "- " ++ name ++ " = " ++ Text.quoted value)
    ++ "Artifacts:" :: ctx.catalog.artifacts.map fun a =>
      "- " ++ a.id ++ ": " ++ a.filename ++ " (" ++ a.key ++ ")"

/-- Logs each line. -/
def sayAll : List String → HostM Unit
  | [] => pure ()
  | line :: rest => do
    HostM.info source line
    sayAll rest

/-- Shows the variables and the artifacts. -/
def run (ctx : Context) : HostM Unit := sayAll (lines ctx)

/-- The module. -/
def module (_ : Unit) : Module := .ofReading run

end ReleasePipeline.Show
