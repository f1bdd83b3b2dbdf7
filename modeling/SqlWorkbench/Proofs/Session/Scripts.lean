import Mathlib.Tactic.Common
import SqlWorkbench.Session.Operation

/-!
# Statements that a script sends

Running a script hands its statements to the transport, one by one and in their order, and ends with
the first that fails.
-/

namespace SqlWorkbench

open Script

namespace Session

variable {t : Transport} {c : Connection}

/-- A statement of a script as the transport receives it over a connection. -/
def scriptCall (c : Connection) (sql : String) : Call where
  dialect := c.dialect
  connectionString := c.connectionString
  sql := Wording.forDispatch c.dialect sql
  parameters := []

/-- Sending a statement makes one call. -/
lemma calls_dispatch (s : Session) (sql : String) :
    (s.dispatch t c sql []).1.calls = s.calls ++ [scriptCall c sql] :=
  rfl

/-- Running steps calls the transport for the first ones of them. -/
lemma calls_runSteps (s : Session) (steps : List ScriptStep) : ∃ tried, tried <+: steps ∧
    (s.runSteps t c steps).1.calls = s.calls ++ tried.map fun step => scriptCall c step.sql := by
  induction steps generalizing s with
  | nil => exact ⟨[], List.prefix_rfl, by simp [runSteps]⟩
  | cons step rest ih =>
    have hcalls := calls_dispatch (t := t) (c := c) s step.sql
    rw [runSteps]
    split
    · next s' e hdispatch =>
      rw [hdispatch] at hcalls
      refine ⟨[step], ⟨rest, rfl⟩, hcalls⟩
    · next s' output hdispatch =>
      rw [hdispatch] at hcalls
      obtain ⟨tried, htried, hrest⟩ := ih s'
      refine ⟨step :: tried, List.cons_prefix_cons.mpr ⟨rfl, htried⟩, ?_⟩
      rw [hrest, hcalls, List.append_assoc]
      rfl

/-- Running a script calls the transport for the first ones of its statements. -/
lemma calls_runScript (s : Session) (text : String) : ∃ sent, sent <+: statements text ∧
    (s.runScript t c text).1.calls = s.calls ++ sent.map (scriptCall c) := by
  obtain ⟨tried, htried, hcalls⟩ := calls_runSteps (t := t) (c := c) s (Script.steps text)
  refine ⟨tried.map ScriptStep.sql, ?_, ?_⟩
  · have hsteps : (Script.steps text).map ScriptStep.sql = statements text := by
      simp [Script.steps, statements, List.map_flatMap, Function.comp_def]
    rw [← hsteps]
    exact htried.map ScriptStep.sql
  · rw [Session.runScript, hcalls, List.map_map]
    rfl

end Session

end SqlWorkbench
