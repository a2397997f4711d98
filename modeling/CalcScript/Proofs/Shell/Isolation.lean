import CalcScript.Proofs.Shell.Session

/-!
# Lines that leave no trace

A line of a session reaches the lines after it through the store alone. Where variables are not
kept the next line starts with an empty store whatever came before, and a line that is refused
leaves the store as it found it. In both cases the session without the line prints the same, less
the line's own prompt and block.
-/
namespace CalcScript
variable {settings : ShellSettings} {store : Store} {line : String} {lines : List String}

/-- The scanner or the grammar refuses the line. -/
def ShellSettings.Refuses (settings : ShellSettings) (line : String) : Prop :=
  (∃ e, Token.scanAs settings.strictTokens line = .error e) ∨
    ∃ ts e, Token.scanAs settings.strictTokens line = .ok ts ∧ parse ts = .error e

theorem ShellSettings.Refuses.runSubmission_eq (h : settings.Refuses line) (store : Store) :
    ∃ message, runSubmission settings line store = .ok ([message], store) := by
  rcases h with ⟨e, he⟩ | ⟨ts, e, hts, he⟩
  · exact ⟨e.message, runSubmission_of_scanAs_error he⟩
  · exact ⟨e.message, runSubmission_of_parse_error hts he⟩

/-! ### What a line hands on -/

theorem ShellSettings.carried_of_not_keepVariables (h : settings.keepVariables = false)
    (store : Store) : settings.carried store = Store.empty := by
  simp [carried, h]

theorem ShellSettings.carried_carried (settings : ShellSettings) (store : Store) :
    settings.carried (settings.carried store) = settings.carried store := by
  by_cases h : settings.keepVariables = true
  · rw [carried_of_keepVariables h (settings.carried store)]
  · rw [Bool.not_eq_true] at h
    rw [carried_of_not_keepVariables h store, carried_of_not_keepVariables h Store.empty]

/-- Only the store that the first line starts with matters to a session. -/
theorem runSessionFrom_eq_of_carried_eq {other : Store}
    (h : settings.carried store = settings.carried other) (lines : List String) :
    runSessionFrom settings store lines = runSessionFrom settings other lines := by
  cases lines with
  | nil => rfl
  | cons line rest => rw [runSessionFrom, runSessionFrom, takeTurn, takeTurn, h]

/-- A line hands on what it got where variables are not kept, and where it is refused. -/
theorem carried_runSubmission (h : settings.keepVariables = false ∨ settings.Refuses line)
    {block : List String} {after : Store}
    (hline : runSubmission settings line (settings.carried store) = .ok (block, after)) :
    settings.carried after = settings.carried store := by
  rcases h with hkeep | hrefuses
  · rw [ShellSettings.carried_of_not_keepVariables hkeep,
      ShellSettings.carried_of_not_keepVariables hkeep]
  · obtain ⟨message, hmessage⟩ := hrefuses.runSubmission_eq (settings.carried store)
    rw [hmessage] at hline
    cases hline
    exact settings.carried_carried store

/-! ### Sessions line by line -/

theorem exists_runSessionFrom (settings : ShellSettings) (store : Store) (lines : List String) :
    ∃ t, runSessionFrom settings store lines = .ok t := by
  induction lines generalizing store with
  | nil => exact ⟨⟨[], 0⟩, rfl⟩
  | cons line rest ih =>
    by_cases hexit : settings.isExit line = true
    · exact ⟨⟨[], rest.length⟩, runSessionFrom_of_isExit hexit store rest⟩
    · obtain ⟨block, after, hline⟩ :=
        exists_runSubmission_eq_ok settings line (settings.carried store)
      obtain ⟨t, ht⟩ := ih after
      rw [Bool.not_eq_true] at hexit
      exact ⟨.cons ⟨block, after⟩ t, runSessionFrom_cons hexit hline ht⟩

/-- Lines before the exit each have a turn, and the session goes on from the store they leave. -/
theorem exists_turns_append (hexit : ∀ line ∈ lines, settings.isExit line = false)
    (store : Store) :
    ∃ (turns : List Turn) (last : Store), turns.length = lines.length ∧
      ∀ rest t, runSessionFrom settings last rest = .ok t →
        runSessionFrom settings store (lines ++ rest) = .ok ⟨turns ++ t.turns, t.unread⟩ := by
  induction lines generalizing store with
  | nil => exact ⟨[], store, rfl, fun rest t ht => ht⟩
  | cons line lines ih =>
    obtain ⟨hline, hlines⟩ := List.forall_mem_cons.mp hexit
    obtain ⟨block, after, hrun⟩ :=
      exists_runSubmission_eq_ok settings line (settings.carried store)
    obtain ⟨turns, last, hlength, hturns⟩ := ih hlines after
    refine ⟨⟨block, after⟩ :: turns, last, by simp [hlength], fun rest t ht => ?_⟩
    exact runSessionFrom_cons hline hrun (hturns rest t ht)

theorem Transcript.output_append (settings : ShellSettings) (earlier later : List Turn)
    (unread : Nat) :
    Transcript.output settings ⟨earlier ++ later, unread⟩ =
      earlier.flatMap (fun turn => settings.prompt :: turn.block) ++
        Transcript.output settings ⟨later, unread⟩ := by
  rw [output, output, List.flatMap_append, List.append_assoc]

/-- A line before the exit, in a session that does not keep its variables or refused by the scanner
or the grammar, can be left out: the session loses the line's prompt and block, and the blocks of
all other lines, the farewell and the number of unread lines stay. Where variables are not kept the
line's block is its output as a submission of its own. -/
theorem runSession_leave_out {before after : List String}
    (hbefore : ∀ l ∈ before, settings.isExit l = false) (hexit : settings.isExit line = false)
    (h : settings.keepVariables = false ∨ settings.Refuses line) :
    ∃ (earlier later : List Turn) (turn : Turn) (unread : Nat) (start : Store)
      (printed rest : List String),
      earlier.length = before.length ∧
      runSession settings (before ++ line :: after) = .ok ⟨earlier ++ turn :: later, unread⟩ ∧
      runSession settings (before ++ after) = .ok ⟨earlier ++ later, unread⟩ ∧
      Transcript.output settings ⟨earlier ++ turn :: later, unread⟩ =
        printed ++ (settings.prompt :: turn.block) ++ rest ∧
      Transcript.output settings ⟨earlier ++ later, unread⟩ = printed ++ rest ∧
      printed = earlier.flatMap (fun turn => settings.prompt :: turn.block) ∧
      runSubmission settings line start = .ok (turn.block, turn.store) ∧
      (settings.keepVariables = false → start = Store.empty) := by
  obtain ⟨earlier, last, hlength, hearlier⟩ := exists_turns_append hbefore Store.empty
  obtain ⟨block, next, hrun⟩ := exists_runSubmission_eq_ok settings line (settings.carried last)
  obtain ⟨t, ht⟩ := exists_runSessionFrom settings next after
  -- The lines after it find the same store with the line and without it.
  have hwithout : runSessionFrom settings last after = .ok t := by
    rw [← ht]
    exact runSessionFrom_eq_of_carried_eq (carried_runSubmission h hrun).symm after
  refine ⟨earlier, t.turns, ⟨block, next⟩, t.unread, settings.carried last, _,
    t.output settings, hlength, hearlier _ _ (runSessionFrom_cons hexit hrun ht),
    hearlier _ _ hwithout, ?_, Transcript.output_append settings earlier t.turns t.unread, rfl,
    hrun, fun hkeep => ShellSettings.carried_of_not_keepVariables hkeep last⟩
  rw [Transcript.output_append, List.append_assoc]
  simp only [Transcript.output, List.flatMap_cons, List.append_assoc]

/-- An assignment without an expression between two lines that share a variable. -/
theorem runSession_leave_out_refused :
    let settings : ShellSettings := { keepVariables := true }
    settings.Refuses "x = ;" ∧
    ∃ (earlier later : List Turn) (turn : Turn) (unread : Nat) (start : Store)
      (printed rest : List String),
      earlier.length = 1 ∧
      runSession settings ["x = 7;", "x = ;", "Display x"] =
        .ok ⟨earlier ++ turn :: later, unread⟩ ∧
      runSession settings ["x = 7;", "Display x"] = .ok ⟨earlier ++ later, unread⟩ ∧
      Transcript.output settings ⟨earlier ++ turn :: later, unread⟩ =
        printed ++ (settings.prompt :: turn.block) ++ rest ∧
      Transcript.output settings ⟨earlier ++ later, unread⟩ = printed ++ rest ∧
      printed = earlier.flatMap (fun turn => settings.prompt :: turn.block) ∧
      runSubmission settings "x = ;" start = .ok (turn.block, turn.store) ∧
      (settings.keepVariables = false → start = Store.empty) := by
  intro settings
  have hrefuses : settings.Refuses "x = ;" := by
    let ts : List Token := [⟨.identifier, "x"⟩, ⟨.equal, "="⟩, ⟨.semicolon, ";"⟩]
    exact .inr ⟨ts, ⟨.expressionExpected "x", ts, 2⟩, by decide +kernel, by decide +kernel⟩
  have hbefore : ∀ l ∈ ["x = 7;"], settings.isExit l = false := by decide +kernel
  exact ⟨hrefuses, runSession_leave_out hbefore (by decide +kernel) (.inr hrefuses)⟩

end CalcScript
