import CalcScript.Shell.Session
import CalcScript.Proofs.Shell.Submission
import CalcScript.Proofs.Statement.Concatenation

/-!
# Sessions as single programs

A session that keeps its variables runs its lines one after the other in one store. Where every line
is a closed program, scanning, reading and executing all go on from line to line as they do inside
one text, so the blocks of the session together are the output of the joined lines.
-/
namespace CalcScript
variable {settings : ShellSettings} {lines : List String}

theorem ShellSettings.carried_of_keepVariables (h : settings.keepVariables = true) (store : Store) :
    settings.carried store = store :=
  if_pos h

theorem runSessionFrom_of_isExit {line : String} (hexit : settings.isExit line = true)
    (store : Store) (rest : List String) :
    runSessionFrom settings store (line :: rest) = .ok ⟨[], rest.length⟩ := by
  rw [runSessionFrom, takeTurn, if_pos hexit]

theorem runSessionFrom_cons {store after : Store} {line : String} {block : List String}
    {t : Transcript} (hexit : settings.isExit line = false)
    (hline : runSubmission settings line (settings.carried store) = .ok (block, after))
    (hrest : runSessionFrom settings after lines = .ok t) :
    runSessionFrom settings store (line :: lines) = .ok (.cons ⟨block, after⟩ t) := by
  have hturn : takeTurn settings store line = .ok (some ⟨block, after⟩) := by
    rw [takeTurn, if_neg (by simp [hexit]), hline]
    rfl
  rw [runSessionFrom, hturn]
  dsimp only
  rw [hrest]
  rfl

/-- The blocks of a session make up the output of one run over all statements. -/
theorem exists_runSessionFrom_eq_ok {program : String → List Statement}
    (hkeep : settings.keepVariables = true) (hexit : ∀ line ∈ lines, settings.isExit line = false)
    (hprogram : ∀ line ∈ lines, ∀ store,
      runSubmission settings line store = execute store (program line)) (store : Store) :
    ∃ t last, runSessionFrom settings store lines = .ok t ∧ t.unread = 0 ∧
      t.turns.length = lines.length ∧
      execute store (lines.flatMap program) = .ok ((t.turns.map Turn.block).flatten, last) := by
  induction lines generalizing store with
  | nil => exact ⟨⟨[], 0⟩, store, rfl, rfl, rfl, rfl⟩
  | cons line lines ih =>
    obtain ⟨hexitLine, hexitRest⟩ := List.forall_mem_cons.mp hexit
    obtain ⟨hprogramLine, hprogramRest⟩ := List.forall_mem_cons.mp hprogram
    obtain ⟨block, after, hline⟩ := exists_runSubmission_eq_ok settings line store
    obtain ⟨t, last, ht, hunread, hlength, hrest⟩ := ih hexitRest hprogramRest after
    have hcarried := ShellSettings.carried_of_keepVariables hkeep store
    have hsession := runSessionFrom_cons hexitLine (hcarried.symm ▸ hline) ht
    refine ⟨.cons ⟨block, after⟩ t, last, hsession, hunread, ?_, ?_⟩
    · simp [Transcript.cons, hlength]
    · rw [hprogramLine] at hline
      exact execute_append hline hrest

/-- A session that keeps its variables prints, for lines that are closed programs, a prompt and a
block for each line, and at the end a prompt and the farewell; and the blocks together are the
output of the joined lines as one submission. -/
theorem runSession_eq_runSubmission_joined (hkeep : settings.keepVariables = true)
    (hexit : ∀ line ∈ lines, settings.isExit line = false)
    (hlines : ∀ line ∈ lines, ∃ ts ss, Token.scanAs settings.strictTokens line = .ok ts ∧
      parse ts = .ok ss ∧ (ts = [] ∨ ∃ t, ts.getLast? = some t ∧ t.kind = .semicolon)) :
    ∃ (t : Transcript) (blocks : List (List String)) (after : Store),
      runSession settings lines = .ok t ∧ t.unread = 0 ∧ blocks.length = lines.length ∧
      t.output settings = blocks.flatMap (fun block => settings.prompt :: block) ++
        [settings.prompt, settings.farewell] ∧
      runSubmission settings ("\n".intercalate lines) Store.empty =
        .ok (blocks.flatten, after) := by
  -- Each stage goes on over the ends of lines: scanning at the newline, reading after the
  -- semicolon, executing in the store that is left.
  choose! tokens program hscan hparse hlast using hlines
  obtain ⟨t, last, ht, hunread, hlength, hexecute⟩ := exists_runSessionFrom_eq_ok hkeep hexit
    (fun line hline store => runSubmission_of_parse (hscan line hline) (hparse line hline))
    Store.empty
  refine ⟨t, t.turns.map Turn.block, last, ht, hunread, by simpa using hlength, ?_, ?_⟩
  · rw [List.flatMap_map]
    rfl
  · have hjoined : parse (lines.flatMap tokens) = .ok (lines.flatMap program) :=
      parse_flatMap fun line hline => ⟨hparse line hline, closed_iff.mpr (hlast line hline)⟩
    rw [runSubmission_of_parse (Token.scanAs_joined hscan) hjoined, hexecute]

/-- Three lines, one of them blank, share the variable `x` as one program does. -/
theorem runSession_eq_runSubmission_joined_blank :
    ∃ (t : Transcript) (blocks : List (List String)) (after : Store),
      runSession { keepVariables := true } ["x = 7;", " ", "Display x; y = x / 0;"] = .ok t ∧
      t.unread = 0 ∧ blocks.length = 3 ∧
      t.output { keepVariables := true } =
        blocks.flatMap (fun block => ({} : ShellSettings).prompt :: block) ++
          [({} : ShellSettings).prompt, "Interpreter closed."] ∧
      runSubmission { keepVariables := true } "x = 7;\n \nDisplay x; y = x / 0;" Store.empty =
        .ok (blocks.flatten, after) := by
  refine runSession_eq_runSubmission_joined rfl (by decide +kernel) fun line hline => ?_
  simp only [List.mem_cons, List.not_mem_nil, or_false] at hline
  rcases hline with rfl | rfl | rfl
  · exact ⟨[⟨.identifier, "x"⟩, ⟨.equal, "="⟩, ⟨.number, "7"⟩, ⟨.semicolon, ";"⟩],
      [.assign "x" [⟨.number, "7"⟩]], by decide +kernel, by decide +kernel, .inr ⟨_, rfl, rfl⟩⟩
  · exact ⟨[], [], by decide +kernel, by decide +kernel, .inl rfl⟩
  · exact ⟨[⟨.display, "Display"⟩, ⟨.identifier, "x"⟩, ⟨.semicolon, ";"⟩, ⟨.identifier, "y"⟩,
        ⟨.equal, "="⟩, ⟨.identifier, "x"⟩, ⟨.slash, "/"⟩, ⟨.number, "0"⟩, ⟨.semicolon, ";"⟩],
      [.display "x" "Display", .assign "y" [⟨.identifier, "x"⟩, ⟨.slash, "/"⟩, ⟨.number, "0"⟩]],
      by decide +kernel, by decide +kernel, .inr ⟨_, rfl, rfl⟩⟩

end CalcScript
