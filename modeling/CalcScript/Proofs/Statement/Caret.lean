import CalcScript.Proofs.Statement.Refusals
import CalcScript.Proofs.Text.Lines
import CalcScript.Proofs.Token.Spacing

/-!
# The caret below a refused token

The message of a refused program has three lines: the reason, the rendered tokens and a caret. The
caret's column is found from a rendering that ends with the faulty token. As a rendering is cut
before any of its tokens, that column is where the token stands in the whole line.
-/
namespace CalcScript
open Text

/-! ### Printable lines -/

theorem TokenKind.allPrintable_name (kind : TokenKind) : AllPrintable kind.name.toList := by
  cases kind <;> decide +kernel

/-- The wording of a fault stays on one line, whatever name it quotes. -/
theorem ParseFault.allPrintable_reason (fault : ParseFault) :
    AllPrintable fault.reason.toList := by
  cases fault with
  | identifierExpected found =>
    cases found with
    | none => decide +kernel
    | some kind =>
      change AllPrintable ("Expected IDENTIFIER, found " ++ kind.name).toList
      exact .append (by decide +kernel) kind.allPrintable_name
  | equalExpected name =>
    change AllPrintable ("Expected EQUAL after " ++ quoted name).toList
    exact .append (by decide +kernel) (allPrintable_quoted name)
  | expressionExpected name =>
    change AllPrintable ("Expected expression in assignment to " ++ quoted name).toList
    exact .append (by decide +kernel) (allPrintable_quoted name)

theorem TokenKind.Spells.allPrintable {kind : TokenKind} {l : List Char} (h : kind.Spells l) :
    AllPrintable l := by
  intro c hc
  apply isPrintable_of_toNat
  rcases h.mem_cases hc with hword | rfl | hsymbol
  · have hcode := toNat_of_isWordChar hword
    omega
  · decide
  · have hall : ∀ p ∈ symbols, 32 ≤ p.1.toNat ∧ p.1.toNat ≤ 126 := by decide
    exact hall _ hsymbol

theorem Token.allPrintable_render {ts : List Token} (h : ∀ t ∈ ts, t.Spelled) :
    AllPrintable (render ts).toList := by
  rw [toList_render h]
  intro c hc
  rcases mem_spaced hc with rfl | ⟨t, ht, hc⟩
  · exact isPrintable_of_toNat (by decide)
  · exact (h t ht).allPrintable c hc

namespace MarkedTokens

/-- A message about spelled tokens has three lines, all of them printable. -/
theorem splitOn_layout {reason : String} (hreason : AllPrintable reason.toList)
    {ts : List Token} (h : ∀ t ∈ ts, t.Spelled) (column : Nat) :
    (layout reason ts column).toList.splitOn '\n' = [("Parser error: " ++ reason).toList,
        (Token.render ts).toList, List.replicate column ' ' ++ ['^']] ∧
      ∀ line ∈ (layout reason ts column).toList.splitOn '\n', AllPrintable line := by
  have hfirst : AllPrintable ("Parser error: " ++ reason).toList :=
    .append (by decide +kernel) hreason
  have hrendered := Token.allPrintable_render h
  have hcaret := allPrintable_caret column
  have hlines := splitOn_between_lines hfirst hcaret (Token.render ts)
  rw [hrendered.splitOn_newline] at hlines
  constructor
  · rw [String.toList_ofList] at hlines
    exact hlines
  · intro line hline
    have hmem : line ∈ [_, _, _] := hlines ▸ hline
    simp only [List.mem_cons, List.not_mem_nil, or_false] at hmem
    rcases hmem with rfl | rfl | rfl
    · exact hfirst
    · exact hrendered
    · exact hcaret

/-! ### Columns -/

theorem column_append_cons {before after : List Token} {t : Token}
    (h : ∀ s ∈ before ++ t :: after, s.Spelled) :
    column (before ++ t :: after) before.length =
      (Token.spaced before ++ Token.spaceAfter before t).length := by
  have htake : (before ++ t :: after).take (before.length + 1) = before ++ [t] := by
    rw [List.append_cons, List.take_left' (by simp)]
  have hspelled : ∀ s ∈ before ++ [t], s.Spelled := by
    intro s hs
    apply h s
    rw [List.append_cons]
    exact List.mem_append_left _ hs
  have hlength := @String.length_toList t.lexeme
  simp only [column, List.getElem?_append_right (Nat.le_refl _), Nat.sub_self,
    List.getElem?_cons_zero, htake, Token.chars_eq_spaced hspelled, Token.spaced_concat,
    List.length_append]
  omega

theorem column_length {ts : List Token} (h : ∀ t ∈ ts, t.Spelled) (hne : ts ≠ []) :
    column ts ts.length = (Token.render ts).length + 1 := by
  obtain ⟨t, rest, rfl⟩ := List.exists_cons_of_ne_nil hne
  have hchars : Render.chars (t :: rest) ≠ [] := by
    obtain ⟨more, hmore⟩ := Token.exists_spaced_cons t rest
    rw [Token.chars_eq_spaced h, hmore]
    exact List.append_ne_nil_of_left_ne_nil (h t List.mem_cons_self).isSolid.1 more
  simp [column, hchars, Token.render]

end MarkedTokens

/-! ### Messages -/

theorem exists_append_of_parse_error {ts : List Token} {e : ParseError} (h : parse ts = .error e) :
    ts ≠ [] ∧ ∃ before after fault, ts = before ++ after ∧ e = ⟨fault, ts, before.length⟩ := by
  obtain ⟨r, hr, rfl⟩ := parse_eq_error_iff.mp h
  obtain ⟨before, rfl, -, -⟩ := takeAll_error_cases hr
  constructor
  · intro hnil
    rw [hnil, Statement.takeAll_nil] at hr
    cases hr
  · exact ⟨before, r.rest, r.fault, rfl, by simp⟩

/-- The message of a refused program has three printable lines: the reason, the rendered tokens, and
spaces before a caret. The caret stands below the first character of the faulty token, which is
rendered right after the tokens before it and the space they may leave; past the last token it
stands one column after the rendered tokens. -/
theorem message_caret_below_token {code : String} {e : ParseError}
    (h : parse (Token.scan code) = .error e) :
    ∃ column : Nat,
      e.message.toList.splitOn '\n' = [("Parser error: " ++ e.fault.reason).toList,
        (Token.render (Token.scan code)).toList, List.replicate column ' ' ++ ['^']] ∧
      (∀ line ∈ e.message.toList.splitOn '\n', AllPrintable line) ∧
      e.index ≤ (Token.scan code).length ∧
      (∀ hindex : e.index < (Token.scan code).length, ∃ before after : List Char,
        (Token.render (Token.scan code)).toList =
          before ++ (Token.scan code)[e.index].lexeme.toList ++ after ∧
        before.length = column ∧
        before.rdropWhile (· == ' ') =
          (Token.render ((Token.scan code).take e.index)).toList) ∧
      (e.index = (Token.scan code).length →
        column = (Token.render (Token.scan code)).length + 1) := by
  have hspelled : ∀ t ∈ Token.scan code, t.Spelled := fun t ht => Token.spelled_of_mem_scan ht
  generalize Token.scan code = ts at h hspelled ⊢
  obtain ⟨hne, before, after, fault, rfl, rfl⟩ := exists_append_of_parse_error h
  obtain ⟨hlines, hprintable⟩ := MarkedTokens.splitOn_layout fault.allPrintable_reason hspelled
    (MarkedTokens.column (before ++ after) before.length)
  refine ⟨_, hlines, hprintable, by simp, fun hindex => ?_, fun hend => ?_⟩
  · cases after with
    | nil => simp at hindex
    | cons t rest =>
      have hbefore : ∀ s ∈ before, s.Spelled :=
        fun s hs => hspelled s (List.mem_append_left _ hs)
      obtain ⟨more, hmore⟩ := Token.exists_spaced_cons t rest
      refine ⟨Token.spaced before ++ Token.spaceAfter before t, more, ?_,
        (MarkedTokens.column_append_cons hspelled).symm, ?_⟩
      · rw [Token.toList_render hspelled, Token.spaced_append_cons, hmore]
        simp
      · rw [Token.rdropWhile_spaced_append hbefore, List.take_left, Token.toList_render hbefore]
  · dsimp only at hend
    rw [hend]
    exact MarkedTokens.column_length hspelled hne

/-- The faulty token may be one that is rendered without a space before it. -/
theorem message_caret_below_semicolon :
    let ts := Token.scan "x=(1);Display ;y"
    let e : ParseError := ⟨.identifierExpected (some .semicolon), ts, 7⟩
    parse ts = .error e ∧ ∃ (column : Nat) (before after : List Char),
      e.message.toList.splitOn '\n' = [("Parser error: " ++ e.fault.reason).toList,
        (Token.render ts).toList, List.replicate column ' ' ++ ['^']] ∧
      (Token.render ts).toList = before ++ ";".toList ++ after ∧ before.length = column ∧
      before.rdropWhile (· == ' ') = (Token.render (ts.take 7)).toList := by
  intro ts e
  have h : parse ts = .error e := by decide +kernel
  obtain ⟨column, hlines, -, -, htoken, -⟩ := message_caret_below_token h
  obtain ⟨before, after, hrender, hlength, hdrop⟩ := htoken (by decide +kernel)
  have hlexeme : (ts.get ⟨7, by decide +kernel⟩).lexeme = ";" := by decide +kernel
  exact ⟨h, column, before, after, hlines, hlexeme ▸ hrender, hlength, hdrop⟩

example : (ParseError.mk (.equalExpected "x") (Token.scan "x (;") 1).message =
    "Parser error: Expected EQUAL after 'x'\nx (;\n  ^" := by
  decide +kernel

end CalcScript
