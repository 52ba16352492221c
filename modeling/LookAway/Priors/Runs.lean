/-
  Runs over one data directory: a sequence of commands, each by its own process, that may fail
  or be killed at any step.
-/
import Mathlib.Logic.Relation
import LookAway.Priors.FreqTable

namespace LookAway.Priors

open LookAway.Base LookAway.Base.Script LookAway.Data

/-- A command line, with what its process finds outside the directory. -/
inductive Command where
  | build (hub : Hub) (pool : PoolRun) (args : BuildArgs)
  | prepare (world : World) (args : PrepareArgs)
  | freqTable (world : World) (args : FreqArgs)
  | launch (world : World) (env : LaunchEnv)

section Runs

variable (sha256 : Digest)

/-- The training run after the launch check writes nothing into the data directory. -/
def Command.script : Command → Py Unit
  | .build hub pool args => buildTrainsetMain hub pool args
  | .prepare world args => prepareMain sha256 world args
  | .freqTable world args => freqMain sha256 world args
  | .launch world env => read (launchCheck sha256 world env)

/-- One command, under a condition on the directory it finds. -/
def Step (ok : DataDir → Command → Prop) (s t : DataDir) : Prop :=
  ∃ command faults, ok s command ∧ t = ((command.script sha256).run faults s).state

/-- The directories that runs from `s` leave, when each of their steps meets `ok`. -/
def Reaches (ok : DataDir → Command → Prop) : DataDir → DataDir → Prop :=
  Relation.ReflTransGen (Step sha256 ok)

/-- No script has generated anything in the directory yet. -/
structure Fresh (s : DataDir) : Prop where
  manifest : s.manifest = none
  parquet : s.parquet = none
  priors : s.priors = none
  dump : s.dump = none
  part : ∀ k, s.part k = none
  freqCounts : s.freqCounts = none

variable {sha256 : Digest} {ok : DataDir → Command → Prop} {s t u : DataDir}

/-- An invariant of every command that meets the condition. -/
theorem Reaches.invariant {I : DataDir → Prop} (h : Reaches sha256 ok s t) (hs : I s)
    (hstep : ∀ u command, ok u command → I u →
      wp (command.script sha256) (fun _ => I) (fun _ => I) I u) : I t := by
  induction h with
  | refl => exact hs
  | tail _ hlast ih =>
      obtain ⟨command, faults, hok, rfl⟩ := hlast
      exact (hstep _ command hok ih).state faults

/-- A run can go on with a command that returns. -/
theorem Reaches.finish (h : Reaches sha256 ok s t) (command : Command) (hok : ok t command)
    (hf : Finishes (command.script sha256) t () u) : Reaches sha256 ok s u := by
  obtain ⟨faults, _, hrun⟩ := hf.run
  exact h.tail ⟨command, faults, hok, hrun.symm⟩

end Runs

end LookAway.Priors
