import CalcScript.Shell.Submission
import CalcScript.Proofs.Execution.Runs
import CalcScript.Proofs.Expression.Unguarded
import CalcScript.Proofs.Token.Visible

/-!
# Submissions return, and keep names legal

A submission is refused as a whole, with one message and an unchanged store, or all its statements
are executed; it never stops midway. The statements it executes are well spelled, so over any
sequence of submissions the store holds names only: words that are no keywords.
-/
namespace CalcScript
variable {settings : ShellSettings} {code : String} {store : Store} {ts : List Token}

/-! ### One submission -/

theorem runSubmission_of_scanAs_error {e : Scan.Error}
    (h : Token.scanAs settings.strictTokens code = .error e) :
    runSubmission settings code store = .ok ([e.message], store) := by
  rw [runSubmission, h]

theorem runSubmission_of_parse_error {e : ParseError}
    (hts : Token.scanAs settings.strictTokens code = .ok ts) (h : parse ts = .error e) :
    runSubmission settings code store = .ok ([e.message], store) := by
  rw [runSubmission, hts]
  dsimp only
  rw [h]

theorem runSubmission_of_parse {ss : List Statement}
    (hts : Token.scanAs settings.strictTokens code = .ok ts) (h : parse ts = .ok ss) :
    runSubmission settings code store = execute store ss := by
  rw [runSubmission, hts]
  dsimp only
  rw [h]

theorem wellSpelled_of_parse_scanAs {strict : Bool} {ss : List Statement}
    (hts : Token.scanAs strict code = .ok ts) (h : parse ts = .ok ss) :
    ∀ s ∈ ss, s.WellSpelled := by
  rw [← Token.scan_eq_of_scanAs hts] at h
  exact wellSpelled_of_parse_scan h

/-- All that a submission can do: report one message, or execute well-spelled statements. -/
theorem runSubmission_cases (settings : ShellSettings) (code : String) (store : Store) :
    (∃ message, runSubmission settings code store = .ok ([message], store)) ∨
      ∃ ss, (∀ s ∈ ss, s.WellSpelled) ∧ runSubmission settings code store = execute store ss := by
  cases hts : Token.scanAs settings.strictTokens code with
  | error e => exact .inl ⟨e.message, runSubmission_of_scanAs_error hts⟩
  | ok ts =>
    cases hss : parse ts with
    | error e => exact .inl ⟨e.message, runSubmission_of_parse_error hts hss⟩
    | ok ss =>
      exact .inr ⟨ss, wellSpelled_of_parse_scanAs hts hss, runSubmission_of_parse hts hss⟩

theorem exists_runSubmission_eq_ok (settings : ShellSettings) (code : String) (store : Store) :
    ∃ output after, runSubmission settings code store = .ok (output, after) := by
  rcases runSubmission_cases settings code store with ⟨message, h⟩ | ⟨ss, hss, h⟩
  · exact ⟨[message], store, h⟩
  · rw [h]
    exact exists_execute_eq_ok hss store

/-- Every submission returns. Refused by the scanner or by the grammar, it prints one message and
leaves the store as it was; otherwise its statements write or report, each in the store that those
before it left, and the output is made of the reports. No expression among them breaks down a
machine that pops its stacks and looks up operators unguarded. -/
theorem runSubmission_all_or_nothing (settings : ShellSettings) (code : String) (store : Store) :
    ∃ output after, runSubmission settings code store = .ok (output, after) ∧
      (∀ e, Token.scanAs settings.strictTokens code = .error e →
        output = [e.message] ∧ after = store) ∧
      (∀ ts e, Token.scanAs settings.strictTokens code = .ok ts → parse ts = .error e →
        output = [e.message] ∧ after = store) ∧
      (∀ ts ss, Token.scanAs settings.strictTokens code = .ok ts → parse ts = .ok ss →
        ∃ steps, Executes store steps after ∧ steps.map TraceStep.statement = ss ∧
          steps.filterMap TraceStep.line = output ∧
          ∀ name expression, .assign name expression ∈ ss → ∀ start,
            TokenStacks.evaluate start expression =
              (evaluate start expression).mapError .failure) := by
  obtain ⟨output, after, h⟩ := exists_runSubmission_eq_ok settings code store
  refine ⟨output, after, h, fun e he => ?_, fun ts e hts he => ?_, fun ts ss hts hss => ?_⟩
  · rw [runSubmission_of_scanAs_error he] at h
    cases h
    exact ⟨rfl, rfl⟩
  · rw [runSubmission_of_parse_error hts he] at h
    cases h
    exact ⟨rfl, rfl⟩
  · rw [runSubmission_of_parse hts hss] at h
    obtain ⟨steps, hsteps, hstatements, hlines⟩ := execute_eq_ok_iff.mp h
    exact ⟨steps, hsteps, hstatements, hlines,
      fun name expression _ start => TokenStacks.evaluate_tokens start expression⟩

/-! ### Names in the store -/

def Store.Named (store : Store) : Prop :=
  ∀ key ∈ store.keys, IsName key

theorem Store.Named.set {name : String} (h : store.Named) (hname : IsName name) (x : Float) :
    (store.set name x).Named := by
  intro key hkey
  rw [Store.keys_set] at hkey
  split at hkey
  · exact h key hkey
  · rcases List.mem_append.mp hkey with hkey | hkey
    · exact h key hkey
    · rw [List.mem_singleton.mp hkey]
      exact hname

theorem Statement.WellSpelled.isName {s : Statement} {name : String} {x : Float}
    (h : s.WellSpelled) (hwrites : s.Writes store name x) : IsName name := by
  cases hwrites with
  | read name => exact h
  | assign hx => exact h.1

theorem Executes.named {steps : List TraceStep} {last : Store} (h : Executes store steps last)
    (hsteps : ∀ step ∈ steps, step.statement.WellSpelled) (hstore : store.Named) : last.Named := by
  induction h with
  | nil store => exact hstore
  | writes hs hrest ih =>
    obtain ⟨hfirst, hothers⟩ := List.forall_mem_cons.mp hsteps
    exact ih hothers (hstore.set (hfirst.isName hs) _)
  | reports hs hrest ih => exact ih (List.forall_mem_cons.mp hsteps).2 hstore

theorem runSubmission_named {output : List String} {after : Store}
    (h : runSubmission settings code store = .ok (output, after)) (hstore : store.Named) :
    after.Named := by
  rcases runSubmission_cases settings code store with ⟨message, hrun⟩ | ⟨ss, hss, hrun⟩
  · rw [hrun] at h
    cases h
    exact hstore
  · rw [hrun] at h
    obtain ⟨steps, hsteps, rfl, -⟩ := execute_eq_ok_iff.mp h
    exact hsteps.named (fun step hstep => hss _ (List.mem_map_of_mem hstep)) hstore

/-- The store after submissions, each with its own settings, that share it one after the other. -/
def storeAfter (store : Store) (submissions : List (ShellSettings × String)) : Except Halt Store :=
  submissions.foldlM (fun store s => (runSubmission s.1 s.2 store).map Prod.snd) store

theorem exists_storeAfter_named (hstore : store.Named)
    (submissions : List (ShellSettings × String)) :
    ∃ last, storeAfter store submissions = .ok last ∧ last.Named := by
  induction submissions generalizing store with
  | nil => exact ⟨store, rfl, hstore⟩
  | cons s rest ih =>
    obtain ⟨output, after, hrun⟩ := exists_runSubmission_eq_ok s.1 s.2 store
    obtain ⟨last, hlast, hnamed⟩ := ih (runSubmission_named hrun hstore)
    refine ⟨last, ?_, hnamed⟩
    rw [storeAfter, List.foldlM_cons, hrun]
    exact hlast

/-- After any submissions from an empty store, every variable is a word and none is a keyword. The
scanner alone does not see to it: it does scan identifiers that are spelled like keywords. -/
theorem storeAfter_empty_named :
    (∀ submissions : List (ShellSettings × String), ∃ store,
      storeAfter Store.empty submissions = .ok store ∧
        ∀ key ∈ store.keys, isWord key.toList = true ∧ key ∉ ["Read", "Display", "Print"]) ∧
      ∀ word ∈ ["Read", "Display", "Print"],
        Token.scan ("2" ++ word) = [⟨.number, "2"⟩, ⟨.identifier, word⟩] := by
  constructor
  · intro submissions
    have hempty : Store.empty.Named := fun key hkey => by cases hkey
    exact exists_storeAfter_named hempty submissions
  · decide +kernel

end CalcScript
