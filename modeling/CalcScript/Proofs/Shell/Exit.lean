import CalcScript.Proofs.Shell.Isolation
import CalcScript.Proofs.Text.Padding

/-!
# Leaving a session

A line is stripped before it is compared with the exit command, the command itself is not. So a
command without blanks at its ends is met by itself, and the session stops at it or at a line before
it. A command with such a blank is met by no line whatever, and a session runs all its lines to the
end of input.
-/
namespace CalcScript
variable {settings : ShellSettings} {line : String} {lines : List String}

namespace ShellSettings

theorem isExit_iff : settings.isExit line = true ↔
    Text.lowercase (Text.strip line.toList) = Text.lowercase settings.exitCommand.toList := by
  simp [isExit]

theorem strip_exitCommand_of_isExit (h : settings.isExit line = true) :
    Text.strip settings.exitCommand.toList = settings.exitCommand.toList :=
  Text.strip_eq_self_of_lowercase_eq (isExit_iff.mp h)

theorem isExit_exitCommand_iff : settings.isExit settings.exitCommand = true ↔
    Text.strip settings.exitCommand.toList = settings.exitCommand.toList := by
  constructor
  · exact strip_exitCommand_of_isExit
  · intro h
    rw [isExit_iff, h]

end ShellSettings

/-- A session stops at the first line that ends it: the lines before have a turn each, and those
after it are not read. -/
theorem exists_runSessionFrom_stopped (hexit : settings.isExit line = true)
    (before after : List String) (store : Store) :
    ∃ t, runSessionFrom settings store (before ++ line :: after) = .ok t ∧
      t.turns.length ≤ before.length ∧ after.length ≤ t.unread := by
  induction before generalizing store with
  | nil =>
    have hstopped := runSessionFrom_of_isExit hexit store after
    exact ⟨⟨[], after.length⟩, hstopped, by simp, by simp⟩
  | cons first before ih =>
    by_cases hfirst : settings.isExit first = true
    · have hstopped := runSessionFrom_of_isExit hfirst store (before ++ line :: after)
      refine ⟨⟨[], (before ++ line :: after).length⟩, hstopped, by simp, ?_⟩
      simp only [List.length_append, List.length_cons]
      omega
    · obtain ⟨block, next, hrun⟩ :=
        exists_runSubmission_eq_ok settings first (settings.carried store)
      obtain ⟨t, ht, hturns, hunread⟩ := ih next
      rw [Bool.not_eq_true] at hfirst
      refine ⟨.cons ⟨block, next⟩ t, runSessionFrom_cons hfirst hrun ht, ?_, hunread⟩
      simpa [Transcript.cons] using hturns

theorem exists_runSession_all (hexit : ∀ line ∈ lines, settings.isExit line = false) :
    ∃ t, runSession settings lines = .ok t ∧ t.turns.length = lines.length ∧ t.unread = 0 := by
  obtain ⟨turns, last, hlength, hturns⟩ := exists_turns_append hexit Store.empty
  have hsession := hturns [] ⟨[], 0⟩ rfl
  rw [List.append_nil, List.append_nil] at hsession
  exact ⟨⟨turns, 0⟩, hsession, hlength, rfl⟩

/-- The exit command as a line ends the session exactly when the command has no blanks at its ends:
then the line is not run, no line after it is read, and the output closes with the prompt of the
line that the session stopped at and the farewell. Otherwise all lines of every session are run. -/
theorem exitCommand_ends_session_iff (settings : ShellSettings) (before after : List String) :
    ((∃ t, runSession settings (before ++ settings.exitCommand :: after) = .ok t ∧
        t.turns.length ≤ before.length ∧ after.length ≤ t.unread ∧
        t.output settings = t.turns.flatMap (fun turn => settings.prompt :: turn.block) ++
          [settings.prompt, settings.farewell]) ↔
      Text.strip settings.exitCommand.toList = settings.exitCommand.toList) ∧
    (Text.strip settings.exitCommand.toList ≠ settings.exitCommand.toList →
      ∀ lines, ∃ t, runSession settings lines = .ok t ∧ t.turns.length = lines.length ∧
        t.unread = 0) := by
  have hall (hpadded : Text.strip settings.exitCommand.toList ≠ settings.exitCommand.toList)
      (lines : List String) :
      ∃ t, runSession settings lines = .ok t ∧ t.turns.length = lines.length ∧ t.unread = 0 := by
    apply exists_runSession_all
    intro line _
    rw [Bool.eq_false_iff]
    exact fun hexit => hpadded (ShellSettings.strip_exitCommand_of_isExit hexit)
  refine ⟨⟨?_, ?_⟩, hall⟩
  · rintro ⟨t, ht, hturns, -⟩
    by_contra hpadded
    obtain ⟨u, hu, hlength, -⟩ := hall hpadded (before ++ settings.exitCommand :: after)
    rw [ht] at hu
    cases hu
    simp only [List.length_append, List.length_cons] at hlength
    omega
  · intro hstrip
    obtain ⟨t, ht, hturns, hunread⟩ := exists_runSessionFrom_stopped
      (ShellSettings.isExit_exitCommand_iff.mpr hstrip) before after Store.empty
    exact ⟨t, ht, hturns, hunread, rfl⟩

/-- The exit command `quit` with a space after it is run as a program, and so is the next line. -/
theorem padded_exitCommand_runs :
    let settings : ShellSettings := { exitCommand := "quit " }
    (runSession settings [settings.exitCommand, "Display x"]).toOption.map
        (fun t => (t.output settings, t.unread)) =
      some ([settings.prompt, "Parser error: Expected EQUAL after 'quit'\nquit\n     ^",
        settings.prompt, "Error: Undefined variable x", settings.prompt, settings.farewell],
        0) := by
  decide +kernel

end CalcScript
