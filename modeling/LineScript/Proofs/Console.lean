import LineScript.Interpreter

/-! Consoles in memory. What was written and asked stays on the record. -/
namespace LineScript

def Interpreter.inMemory (catalog : Catalog) (limit : Nat) : Interpreter Transcript :=
  ⟨Transcript.console, catalog, limit⟩

namespace Transcript

structure Grows (before after : Transcript) : Prop where
  output : before.output.toList <+: after.output.toList
  prompts : before.prompts.toList <+: after.prompts.toList

theorem Grows.refl (record : Transcript) : record.Grows record := ⟨List.prefix_rfl, List.prefix_rfl⟩

theorem Grows.trans {first second third : Transcript} (before : first.Grows second)
    (after : second.Grows third) : first.Grows third :=
  ⟨before.output.trans after.output, before.prompts.trans after.prompts⟩

theorem grows_write (line : String) (record : Transcript) : record.Grows (write line record).2 := by
  rw [write]
  split
  · exact .refl record
  · exact ⟨by simp, List.prefix_rfl⟩

theorem grows_prompt (message : String) (record : Transcript) :
    record.Grows (prompt message record).2 := by
  rw [prompt]
  split
  · exact .refl record
  · exact ⟨List.prefix_rfl, by simp⟩

theorem grows_answer (world : World Transcript) (request : Request) :
    world.console.Grows (world.answer console request).2.console := by
  cases request with
  | write line => exact grows_write line world.console
  | prompt message => exact grows_prompt message world.console
  | setVariable name value | setConstant name value =>
    simp only [World.answer, World.rebind]
    split <;> exact .refl _
  | _ => exact .refl _

theorem grows_run {ε α : Type} (action : Action ε α) (world : World Transcript) :
    world.console.Grows (action.run console world).2.console := by
  induction action generalizing world with
  | done value => exact .refl _
  | fail error => exact .refl _
  | ask request next ih => exact (grows_answer world request).trans (ih _ _)

end Transcript

end LineScript
