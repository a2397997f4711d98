import CalcScript.Proofs.Statement.Scanned
import CalcScript.Proofs.Token.Rendering
import Mathlib.Data.List.Forall2

/-!
# Reading a printed program back

A program is printed as the texts of its statements with semicolons between them. Each text shows
the tokens of its statement, reserved words now as keywords, and the semicolons close the statements
before them. The printed program is therefore read as the same statements up to the kinds of the
reserved words in their expressions, and it is the same program exactly when there are none.
-/
namespace CalcScript
open Scan

/-- The texts of statements, a semicolon and a space apart. -/
def printed (ss : List Statement) : String :=
  "; ".intercalate (ss.map Statement.text)

namespace Statement

/-- The same kind of statement, with equal variables, display keywords and expression lexemes. -/
def SameSpelling : Statement → Statement → Prop
  | .read name, .read other => name = other
  | .display name keyword, .display other otherKeyword => name = other ∧ keyword = otherKeyword
  | .assign name expression, .assign other otherExpression =>
    name = other ∧ expression.map Token.lexeme = otherExpression.map Token.lexeme
  | _, _ => False

/-- The statement with the tokens of its expression read one by one. -/
def reread : Statement → Statement
  | .assign name expression => .assign name (expression.map Token.reread)
  | s => s

theorem WellSpelled.sameSpelling_reread {s : Statement} (h : s.WellSpelled) :
    s.reread.SameSpelling s := by
  cases s with
  | read name => rfl
  | display name keyword => exact ⟨rfl, rfl⟩
  | assign name expression => exact ⟨rfl, by simp⟩
  | unknown text => exact h.elim

end Statement

theorem map_reread_eq_self_iff {ss : List Statement} :
    ss.map Statement.reread = ss ↔ ∀ name expression, .assign name expression ∈ ss →
      ∀ t ∈ expression, t.isReserved = false := by
  rw [map_eq_self_iff]
  constructor
  · intro h name expression hmem t ht
    have hexpression := (Statement.assign.inj (h _ hmem)).2
    exact Token.map_reread_eq_self_iff.mp hexpression t ht
  · intro h s hs
    cases s with
    | assign name expression =>
      have hexpression : expression.map Token.reread = expression :=
        Token.map_reread_eq_self_iff.mpr (h name expression hs)
      rw [Statement.reread, hexpression]
    | _ => rfl

/-! ### The text of one statement -/

theorem visible_name {name : String} (h : IsName name) :
    visible name.toList = [.token ⟨.identifier, name⟩] := by
  have hspelled : Token.Spelled ⟨.identifier, name⟩ := .word h.1
  rw [Token.visible_lexeme hspelled, Token.reread, if_pos rfl, ofWord_eq_identifier_iff.mpr h.2]

theorem visible_keyword {word : String} {kind : TokenKind} (h : (word, kind) ∈ keywords) :
    visible word.toList = [.token ⟨kind, word⟩] := by
  have hspelled : Token.Spelled ⟨kind, word⟩ := .keyword h
  have hkind : kind ≠ .identifier := by
    rintro rfl
    simp [keywords] at h
  rw [Token.visible_lexeme hspelled, Token.reread, if_neg hkind]

theorem kind_reread_ne_semicolon {t : Token} (h : t.kind ≠ .semicolon) :
    t.reread.kind ≠ .semicolon := by
  unfold Token.reread
  dsimp only
  split
  · unfold TokenKind.ofWord
    split_ifs <;> decide
  · exact h

/-- The text of a statement shows the tokens of a phrase that spells it. -/
theorem Statement.WellSpelled.exists_phrase {s : Statement} (h : s.WellSpelled) :
    ∃ p : Phrase, p.Valid ∧ p.statement = s.reread ∧
      visible s.text.toList = p.tokens.map .token := by
  cases s with
  | read name =>
    refine ⟨.read ⟨.read, "Read"⟩ ⟨.identifier, name⟩, ⟨rfl, rfl⟩, rfl, ?_⟩
    have htext : (Statement.read name).text.toList = "Read".toList ++ ' ' :: name.toList :=
      String.toList_append
    have hkeyword : ("Read", .read) ∈ keywords := by decide
    rw [htext, visible_spaced, visible_name h, visible_keyword hkeyword]
    rfl
  | display name keyword =>
    obtain ⟨hname, hkeyword⟩ := h
    obtain ⟨kind, hkind, hmem⟩ : ∃ kind, (kind = .display ∨ kind = .print) ∧
        (keyword, kind) ∈ keywords := by
      rcases hkeyword with rfl | rfl
      · exact ⟨.display, .inl rfl, by decide⟩
      · exact ⟨.print, .inr rfl, by decide⟩
    refine ⟨.display ⟨kind, keyword⟩ ⟨.identifier, name⟩, ⟨hkind, rfl⟩, rfl, ?_⟩
    have htext : (Statement.display name keyword).text.toList =
        keyword.toList ++ ' ' :: name.toList := by
      simp [text]
    rw [htext, visible_spaced, visible_name hname, visible_keyword hmem]
    rfl
  | assign name expression =>
    obtain ⟨hname, hne, hexpression⟩ := h
    have hfree : ∀ t ∈ expression.map Token.reread, t.kind ≠ .semicolon := by
      intro t ht
      obtain ⟨u, hu, rfl⟩ := List.mem_map.mp ht
      exact kind_reread_ne_semicolon (hexpression u hu).2
    refine ⟨.assign ⟨.identifier, name⟩ ⟨.equal, "="⟩ (expression.map Token.reread),
      ⟨rfl, rfl, by simpa using hne, hfree⟩, rfl, ?_⟩
    have htext : (Statement.assign name expression).text.toList =
        name.toList ++ ' ' :: '=' :: ' ' :: Render.chars expression := by
      simp [text, Token.render]
    have hequal : TokenKind.ofSymbol? '=' = some .equal := rfl
    rw [htext, visible_spaced, visible_name hname, visible_symbol hequal, visible_space,
      Token.visible_chars_of_spelled fun t ht => (hexpression t ht).1]
    rfl
  | unknown text => exact h.elim

/-! ### Printed programs -/

theorem isSeparator_semicolon : IsSeparator "; ".toList [.token ⟨.semicolon, ";"⟩] := by
  have hsemicolon : TokenKind.ofSymbol? ';' = some .semicolon := rfl
  refine ⟨⟨';', [' '], rfl, separates_of_ofSymbol? hsemicolon⟩, fun cs => ?_⟩
  change visible (';' :: ' ' :: cs) = _
  rw [visible_symbol hsemicolon, visible_space]
  rfl

/-- A printed program shows the tokens of a program with the reread statements. -/
theorem exists_program_printed {ss : List Statement} (h : ∀ s ∈ ss, s.WellSpelled) :
    ∃ cs, IsProgram cs ∧ cs.map Clause.statement = ss.map Statement.reread ∧
      visible (printed ss).toList = (cs.flatMap Clause.tokens).map .token := by
  rw [printed, String.toList_intercalate, isSeparator_semicolon.visible_intercalate, List.map_map,
    List.map_map]
  induction ss with
  | nil => exact ⟨[], .nil, rfl, rfl⟩
  | cons s rest ih =>
    obtain ⟨hs, hrest⟩ := List.forall_mem_cons.mp h
    obtain ⟨p, hp, hstatement, hvisible⟩ := hs.exists_phrase
    -- The separator gives each clause its semicolon, so only the last one may do without.
    cases rest with
    | nil =>
      refine ⟨[⟨p, none⟩], .cons ⟨hp, by simp⟩ (fun _ _ => rfl) .nil, ?_, ?_⟩
      · simp [Clause.statement, hstatement]
      · simp [Clause.tokens, hvisible]
    | cons s' rest =>
      obtain ⟨cs, hcs, hstatements, htokens⟩ := ih hrest
      refine ⟨⟨p, some ⟨.semicolon, ";"⟩⟩ :: cs, .cons ⟨hp, by simp⟩ (by simp) hcs, ?_, ?_⟩
      · rw [List.map_cons, hstatements]
        exact congrArg (· :: _) hstatement
      · rw [List.map_cons] at htokens
        rw [List.map_cons, List.map_cons, List.intercalate_cons_cons, htokens]
        simp [Clause.tokens, hvisible]

/-- A scanned program is read back from its printed form, also by a strict scan: the statements have
the same spelling, and are the same exactly when no expression holds an identifier spelled like a
keyword. -/
theorem parse_scan_printed {code : String} {ss : List Statement}
    (h : parse (Token.scan code) = .ok ss) :
    ∃ ts ss', Token.scanStrict (printed ss) = .ok ts ∧ Token.scan (printed ss) = ts ∧
      parse ts = .ok ss' ∧ List.Forall₂ Statement.SameSpelling ss' ss ∧
      (ss' = ss ↔ ∀ name expression, .assign name expression ∈ ss → ∀ t ∈ expression,
        t.kind = .identifier → t.lexeme ∉ ["Read", "Display", "Print"]) := by
  have hspelled := wellSpelled_of_parse_scan h
  obtain ⟨cs, hcs, hstatements, hvisible⟩ := exists_program_printed hspelled
  refine ⟨cs.flatMap Clause.tokens, ss.map Statement.reread,
    Token.scanStrict_eq_ok_iff.mpr hvisible, Token.scan_of_visible hvisible, ?_, ?_, ?_⟩
  · rw [parse_eq_ok_iff, hcs.takeAll_eq_ok, hstatements]
  · rw [List.forall₂_map_left_iff, List.forall₂_same]
    exact fun s hs => (hspelled s hs).sameSpelling_reread
  · rw [map_reread_eq_self_iff]
    simp only [Token.isReserved_eq_false_iff]
    rfl

/-- A reserved word glued to a number is read back as a keyword, so the program differs. -/
theorem parse_scan_printed_glued :
    ∃ ss ts ss', parse (Token.scan "Read y z = 2Read(y)=; Print z") = .ok ss ∧
      Token.scanStrict (printed ss) = .ok ts ∧ Token.scan (printed ss) = ts ∧ parse ts = .ok ss' ∧
      List.Forall₂ Statement.SameSpelling ss' ss ∧ ss' ≠ ss := by
  have h : parse (Token.scan "Read y z = 2Read(y)=; Print z") = .ok [.read "y",
      .assign "z" [⟨.number, "2"⟩, ⟨.identifier, "Read"⟩, ⟨.bracketOpen, "("⟩, ⟨.identifier, "y"⟩,
        ⟨.bracketClose, ")"⟩, ⟨.equal, "="⟩],
      .display "z" "Print"] := by decide +kernel
  obtain ⟨ts, ss', hstrict, hscan, hparse, hsame, hiff⟩ := parse_scan_printed h
  refine ⟨_, ts, ss', h, hstrict, hscan, hparse, hsame, fun heq => ?_⟩
  have hassign := hiff.mp heq "z" _ (List.mem_cons_of_mem _ List.mem_cons_self)
  exact hassign ⟨.identifier, "Read"⟩ (by decide) rfl (by decide)

end CalcScript
