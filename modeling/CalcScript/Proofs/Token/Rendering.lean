import CalcScript.Token.Render
import CalcScript.Proofs.Token.Spelling
import CalcScript.Proofs.Token.Visible

/-!
# Reading rendered tokens back

Closing up removes blanks next to separating characters only, so it changes no visible segment of
any text. Rendered tokens therefore show what their lexemes show one by one, and a spelled token is
read back as it was, but for a reserved word: standing alone it is the keyword.
-/
namespace CalcScript
open Text Scan

namespace Render

/-! ### Closing up -/

theorem separates_of_head?_dropWhile_isBlank {mark : Char} (hmark : Separates mark)
    {rest : List Char} (h : (rest.dropWhile isBlank).head? = some mark) :
    ∃ c tail, rest = c :: tail ∧ Separates c := by
  cases rest with
  | nil => cases h
  | cons c tail =>
    refine ⟨c, tail, rfl, ?_⟩
    cases hblank : isBlank c with
    | true => exact separates_of_isBlank hblank
    | false =>
      rw [List.dropWhile_cons, if_neg (by simp [hblank]), List.head?_cons, Option.some.injEq] at h
      exact h ▸ hmark

/-- Blanks before a separating mark can be dropped, whatever was kept before them. -/
theorem visible_append_closeBefore {mark : Char} (hmark : Separates mark) (kept cs : List Char) :
    visible (kept ++ closeBefore mark cs) = visible (kept ++ cs) := by
  -- The pass goes character by character and may stop inside a lexeme, so the induction carries
  -- along all the characters kept so far.
  induction cs generalizing kept with
  | nil => rfl
  | cons c rest ih =>
    rw [closeBefore]
    split
    · next hdrop =>
      rw [Bool.and_eq_true, beq_iff_eq] at hdrop
      obtain ⟨d, tail, rfl, hd⟩ := separates_of_head?_dropWhile_isBlank hmark hdrop.2
      calc visible (kept ++ closeBefore mark (d :: tail))
          = visible kept ++ visible (d :: tail) := by rw [ih, visible_append hd]
        _ = visible kept ++ visible (c :: d :: tail) := by rw [visible_blank hdrop.1]
        _ = visible (kept ++ c :: d :: tail) :=
          (visible_append (separates_of_isBlank hdrop.1) kept _).symm
    · have hkeep := ih (kept ++ [c])
      rwa [List.append_assoc, List.append_assoc] at hkeep

/-- Blanks after a mark can be dropped; the mark itself is the last character kept. -/
theorem visible_append_closeAfter {mark : Char} {kind : TokenKind}
    (hmark : TokenKind.ofSymbol? mark = some kind) (behind : Bool) (kept cs : List Char)
    (hkept : behind = true → ∃ init, kept = init ++ [mark]) :
    visible (kept ++ closeAfter mark behind cs) = visible (kept ++ cs) := by
  induction cs generalizing kept behind with
  | nil => rfl
  | cons c rest ih =>
    rw [closeAfter]
    split
    · next hdrop =>
      rw [Bool.and_eq_true] at hdrop
      obtain ⟨init, rfl⟩ := hkept hdrop.1
      have hsplit (cs : List Char) : visible (init ++ [mark] ++ cs) =
          visible init ++ .token ⟨kind, String.singleton mark⟩ :: visible cs := by
        rw [List.append_assoc, List.singleton_append, visible_append (separates_of_ofSymbol? hmark),
          visible_symbol hmark]
      rw [ih true _ fun _ => ⟨init, rfl⟩, hsplit, hsplit, visible_blank hdrop.2]
    · have hkeep := ih (c == mark) (kept ++ [c]) fun hc => ⟨kept, by rw [beq_iff_eq.mp hc]⟩
      rwa [List.append_assoc, List.append_assoc] at hkeep

theorem visible_closeUp (cs : List Char) : visible (closeUp cs) = visible cs := by
  have hopen : TokenKind.ofSymbol? '(' = some .bracketOpen := rfl
  have hclose : TokenKind.ofSymbol? ')' = some .bracketClose := rfl
  have hsemicolon : TokenKind.ofSymbol? ';' = some .semicolon := rfl
  calc visible (closeUp cs)
      = visible (closeAfter '(' false (closeBefore ';' cs)) :=
        visible_append_closeBefore (separates_of_ofSymbol? hclose) [] _
    _ = visible (closeBefore ';' cs) := visible_append_closeAfter hopen false [] _ (by simp)
    _ = visible cs := visible_append_closeBefore (separates_of_ofSymbol? hsemicolon) [] cs

theorem joinSpaced_eq_intercalate (texts : List (List Char)) :
    joinSpaced texts = [' '].intercalate texts := by
  induction texts with
  | nil => rfl
  | cons cs texts ih =>
    cases texts with
    | nil => simp [joinSpaced]
    | cons ds texts => simp [joinSpaced, ih, List.intercalate_cons_cons]

theorem visible_chars (ts : List Token) :
    visible (chars ts) = ts.flatMap fun t => visible t.lexeme.toList := by
  have hspace : isBlank ' ' = true := by decide
  rw [chars, visible_closeUp, joinSpaced_eq_intercalate, visible_intercalate_blank hspace,
    List.flatMap_map]

end Render

theorem map_eq_self_iff {α : Type} {f : α → α} {l : List α} : l.map f = l ↔ ∀ a ∈ l, f a = a := by
  conv_lhs => rw [← List.map_id l, List.map_map]
  exact List.map_inj_left

/-! ### Reading a lexeme alone -/

theorem TokenKind.Spells.lexeme {kind : TokenKind} {l : List Char} (h : kind.Spells l) :
    Lexeme l [] := by
  cases h with
  | word hl => exact .word hl (avoids_nil isWordChar)
  | numeral hl =>
    cases hl with
    | whole hl => exact .whole hl (avoids_nil isDigit) fun rest hrest => by cases hrest
    | decimal hl hplaces => exact .decimal hl hplaces (avoids_nil isDigit)
  | @keyword word kind h =>
    have hword : word ∈ keywords.map Prod.fst := List.mem_map.mpr ⟨(word, kind), h, rfl⟩
    exact .word (isWord_of_mem_keywords hword) (avoids_nil isWordChar)
  | symbol h => exact .symbol h

theorem TokenKind.Spells.kindAt_none {kind : TokenKind} {l : List Char} (h : kind.Spells l) :
    kindAt none l = if kind = .identifier then .ofWord (String.ofList l) else kind := by
  cases h with
  | word hl => exact kindAt_of_isWord hl none
  | numeral hl => exact kindAt_of_isNumeral hl none
  | keyword h =>
    simp only [keywords, List.mem_cons, Prod.mk.injEq, List.not_mem_nil, or_false] at h
    rcases h with ⟨rfl, rfl⟩ | ⟨rfl, rfl⟩ | ⟨rfl, rfl⟩ <;> decide
  | symbol h =>
    have hkind : kind ≠ .identifier := by
      rintro rfl
      simp [symbols] at h
    rw [kindAt_of_mem_symbols h, if_neg hkind]

namespace Token

/-- The token that the lexeme is read as where it stands alone. -/
def reread (t : Token) : Token :=
  ⟨if t.kind = .identifier then .ofWord t.lexeme else t.kind, t.lexeme⟩

@[simp] theorem lexeme_reread (t : Token) : t.reread.lexeme = t.lexeme := rfl

theorem reread_eq_self_iff {t : Token} : t.reread = t ↔ t.isReserved = false := by
  rw [isReserved_eq_false_iff]
  obtain ⟨kind, lexeme⟩ := t
  by_cases hkind : kind = .identifier
  · simp [reread, hkind, ofWord_eq_identifier_iff]
  · simp [reread, hkind]

theorem map_reread_eq_self_iff {ts : List Token} :
    ts.map reread = ts ↔ ∀ t ∈ ts, t.isReserved = false := by
  simp only [map_eq_self_iff, reread_eq_self_iff]

theorem visible_lexeme {t : Token} (h : t.Spelled) :
    visible t.lexeme.toList = [.token t.reread] := by
  have hscan := h.lexeme.segmentsFrom_append []
  rw [List.append_nil, segmentsFrom_nil, List.getLast?_nil, TokenKind.Spells.kindAt_none h,
    String.ofList_toList] at hscan
  exact congrArg (List.filter Segment.isVisible) hscan

theorem visible_chars_of_spelled {ts : List Token} (h : ∀ t ∈ ts, t.Spelled) :
    visible (Render.chars ts) = (ts.map reread).map .token := by
  rw [Render.visible_chars, List.map_map]
  induction ts with
  | nil => rfl
  | cons t rest ih =>
    obtain ⟨ht, hrest⟩ := List.forall_mem_cons.mp h
    rw [List.flatMap_cons, visible_lexeme ht, ih hrest]
    rfl

/-! ### Scanning what was rendered -/

/-- Scanning rendered tokens, strictly or leniently, finds each of them as it reads alone. -/
theorem scanAs_render {ts : List Token} (h : ∀ t ∈ ts, t.Spelled) (strict : Bool) :
    scanAs strict (render ts) = .ok (ts.map reread) := by
  have hvisible : visible (render ts).toList = (ts.map reread).map .token := by
    rw [render, String.toList_ofList]
    exact visible_chars_of_spelled h
  cases strict with
  | true => exact scanStrict_eq_ok_iff.mpr hvisible
  | false => rw [scanAs_false, scan_of_visible hvisible]

theorem scan_render_of_spelled {ts : List Token} (h : ∀ t ∈ ts, t.Spelled) :
    scan (render ts) = ts.map reread :=
  scan_eq_of_scanAs (scanAs_render h false)

theorem render_congr {ts us : List Token} (h : ts.map lexeme = us.map lexeme) :
    render ts = render us := by
  have htexts : ts.map (·.lexeme.toList) = us.map (·.lexeme.toList) := by
    simpa [Function.comp_def] using congrArg (List.map String.toList) h
  rw [render, render, Render.chars, Render.chars, htexts]

/-- Scanning undoes rendering on tokens that are spelled by their kinds and hold no reserved word.
Rendering and scanning once more keeps the lexemes of any scanned text, changes its tokens exactly
where they hold a reserved word, and leaves the rendering as it is. -/
theorem scan_render :
    (∀ ts : List Token, (∀ t ∈ ts, t.Spelled ∧
        (t.kind = .identifier → t.lexeme ∉ ["Read", "Display", "Print"])) →
      scan (render ts) = ts ∧ scanStrict (render ts) = .ok ts) ∧
    ∀ code : String,
      (scan (render (scan code))).map lexeme = (scan code).map lexeme ∧
      (scan (render (scan code)) = scan code ↔ ∀ t ∈ scan code,
        t.kind = .identifier → t.lexeme ∉ ["Read", "Display", "Print"]) ∧
      render (scan (render (scan code))) = render (scan code) := by
  constructor
  · intro ts h
    have hspelled : ∀ t ∈ ts, t.Spelled := fun t ht => (h t ht).1
    have hself : ts.map reread = ts :=
      map_reread_eq_self_iff.mpr fun t ht => isReserved_eq_false_iff.mpr (h t ht).2
    have hstrict := scanAs_render hspelled true
    rw [hself] at hstrict
    exact ⟨(scan_render_of_spelled hspelled).trans hself, hstrict⟩
  · intro code
    have hagain : scan (render (scan code)) = (scan code).map reread :=
      scan_render_of_spelled fun t ht => spelled_of_mem_scan ht
    have hlexemes : (scan (render (scan code))).map lexeme = (scan code).map lexeme := by
      rw [hagain, List.map_map]
      rfl
    refine ⟨hlexemes, ?_, render_congr hlexemes⟩
    rw [hagain, map_reread_eq_self_iff]
    simp only [isReserved_eq_false_iff]
    rfl

/-- Brackets and semicolons next to each other lose their spaces and are read back; a word glued to
a number is rendered apart from it and is read back as a keyword. -/
theorem scan_render_brackets :
    (let ts := scan "x=((1.5+y2));;Read z;"
    render ts = "x = ((1.5 + y2));; Read z;" ∧ scan (render ts) = ts ∧
      scanStrict (render ts) = .ok ts) ∧
    scan (render (scan "2Print")) ≠ scan "2Print" := by
  constructor
  · intro ts
    refine ⟨by decide +kernel, scan_render.1 ts fun t ht => ⟨spelled_of_mem_scan ht, ?_⟩⟩
    have hwords : ∀ t ∈ ts, t.kind = .identifier → t.lexeme ∉ ["Read", "Display", "Print"] := by
      decide +kernel
    exact hwords t ht
  · intro heq
    have hnone := (scan_render.2 "2Print").2.1.mp heq
    exact hnone ⟨.identifier, "Print"⟩ (by decide +kernel) rfl (by decide)

end Token
end CalcScript
