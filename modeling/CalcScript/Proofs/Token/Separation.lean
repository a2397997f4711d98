import CalcScript.Proofs.Token.Strays

/-!
# Scanning across a separator

A blank or a semicolon ends the lexeme before it, and the text after it is scanned as if it stood at
the beginning. So a text with such a separator in it has the segments of its two parts, and that of
the separator in between. Its tokens are those of the parts, and the stray characters of the second
part stand further on by the length of all that is before it.
-/
namespace CalcScript
open Text Scan

def Stray.shift (offset : Nat) (s : Stray) : Stray :=
  { s with position := offset + s.position }

/-- The token of a separator: a semicolon is one, a blank is none. -/
def separatorTokens (c : Char) : List Token :=
  if c = ';' then [⟨.semicolon, ";"⟩] else []

namespace Scan

/-! ### Strays of joined segments -/

theorem straysFrom_append (position : Nat) (before after : List Segment) :
    straysFrom position (before ++ after) =
      straysFrom position before ++
        straysFrom (position + (before.flatMap Segment.chars).length) after := by
  induction before generalizing position with
  | nil => rfl
  | cons segment rest ih =>
    have hrest := ih (position + segment.chars.length)
    rw [Nat.add_assoc, ← List.length_append, ← List.flatMap_cons] at hrest
    cases segment with
    | token t => exact hrest
    | blank c => exact hrest
    | stray c => exact congrArg (⟨c, position⟩ :: ·) hrest

theorem straysFrom_add (offset position : Nat) (segments : List Segment) :
    straysFrom (offset + position) segments =
      (straysFrom position segments).map (Stray.shift offset) := by
  induction segments generalizing position with
  | nil => rfl
  | cons segment rest ih =>
    have hrest := ih (position + segment.chars.length)
    rw [← Nat.add_assoc] at hrest
    cases segment with
    | token t => exact hrest
    | blank c => exact hrest
    | stray c => exact congrArg (⟨c, offset + position⟩ :: ·) hrest

/-! ### Segments of a joined text -/

variable {c : Char}

theorem exists_segmentsFrom_separator (h : isBlank c = true ∨ c = ';') :
    ∃ segment : Segment, segment.chars = [c] ∧
      [segment].filterMap Segment.token? = separatorTokens c ∧ (∀ d, segment ≠ .stray d) ∧
      ∀ cs, segmentsFrom false (c :: cs) = segment :: segmentsFrom false cs := by
  rcases h with h | rfl
  · have hc : c ≠ ';' := by
      rintro rfl
      exact absurd h (by decide)
    refine ⟨.blank c, rfl, ?_, by simp, segmentsFrom_blank h false⟩
    rw [separatorTokens, if_neg hc]
    rfl
  · exact ⟨.token ⟨.semicolon, ";"⟩, rfl, rfl, by simp, segmentsFrom_symbol rfl false⟩

theorem separates_of_separator (h : isBlank c = true ∨ c = ';') : Separates c := by
  rcases h with h | rfl
  · exact separates_of_isBlank h
  · exact separates_of_ofSymbol? rfl

theorem segments_separated (h : isBlank c = true ∨ c = ';') (first second : String) :
    segments (first ++ String.singleton c ++ second) =
      segments first ++ segmentsFrom false (c :: second.toList) := by
  rw [segments, segments, ← segmentsFrom_append_separator (separates_of_separator h)]
  simp

/-- The strays of the first part stay, and those of the second part follow further on. -/
theorem strays_separated (h : isBlank c = true ∨ c = ';') (first second : String) :
    strays (first ++ String.singleton c ++ second) =
      strays first ++ (strays second).map (Stray.shift (first.length + 1)) := by
  obtain ⟨segment, hchars, -, hstray, hsegments⟩ := exists_segmentsFrom_separator h
  have hlength : ((segments first ++ [segment]).flatMap Segment.chars).length =
      first.length + 1 := by
    rw [List.flatMap_append, segments, flatMap_chars_segmentsFrom, List.flatMap_singleton, hchars]
    simp [String.length_toList]
  have hnone : straysFrom (0 + ((segments first).flatMap Segment.chars).length) [segment] = [] := by
    rw [straysFrom_eq_nil_iff]
    simpa using hstray
  calc strays (first ++ String.singleton c ++ second)
      = straysFrom 0 ((segments first ++ [segment]) ++ segments second) := by
        rw [strays, segments_separated h, hsegments, List.append_assoc]
        rfl
    _ = strays first ++ straysFrom (first.length + 1 + 0) (segments second) := by
        rw [straysFrom_append, hlength, straysFrom_append, hnone, List.append_nil, Nat.zero_add]
        rfl
    _ = strays first ++ (strays second).map (Stray.shift (first.length + 1)) := by
        rw [straysFrom_add]
        rfl

end Scan

namespace Token

theorem scan_separated {c : Char} (h : isBlank c = true ∨ c = ';') (first second : String) :
    scan (first ++ String.singleton c ++ second) =
      scan first ++ separatorTokens c ++ scan second := by
  obtain ⟨segment, -, htoken, -, hsegments⟩ := exists_segmentsFrom_separator h
  simp only [scan_eq_segments]
  rw [segments_separated h, hsegments, ← List.singleton_append, ← List.append_assoc,
    List.filterMap_append, List.filterMap_append, htoken]
  rfl

end Token

/-- A text with a blank or a semicolon in it is scanned part by part. Leniently it has the tokens of
the two parts, with a semicolon between them if that is the separator. A strict scan is refused
where the first part is, or else where the second part is, as far behind as it begins, and with the
same words; if neither is refused it has the tokens of the lenient one. -/
theorem scan_across_separator (first second : String) {c : Char}
    (h : isBlank c = true ∨ c = ';') :
    let code := first ++ String.singleton c ++ second
    Token.scan code = Token.scan first ++ separatorTokens c ++ Token.scan second ∧
    (∀ e, Token.scanStrict first = .error e →
      ∃ f, Token.scanStrict code = .error f ∧ f.code = code ∧
        f.stray.position = e.stray.position ∧ f.reason = e.reason) ∧
    (∀ ts e, Token.scanStrict first = .ok ts → Token.scanStrict second = .error e →
      ∃ f, Token.scanStrict code = .error f ∧ f.code = code ∧
        f.stray.position = first.length + 1 + e.stray.position ∧ f.reason = e.reason) ∧
    ∀ ts us, Token.scanStrict first = .ok ts → Token.scanStrict second = .ok us →
      Token.scanStrict code = .ok (ts ++ separatorTokens c ++ us) := by
  intro code
  have hstrays := strays_separated h first second
  have hscan := Token.scan_separated h first second
  refine ⟨hscan, fun e he => ?_, fun ts e hts he => ?_, fun ts us hts hus => ?_⟩
  · have hhead := (Token.scanStrict_eq_error_iff.mp he).1
    refine ⟨⟨code, e.stray⟩, Token.scanStrict_eq_error_iff.mpr ⟨?_, rfl⟩, rfl, rfl, rfl⟩
    rw [hstrays, List.head?_append, hhead, Option.some_or]
  · have hhead := (Token.scanStrict_eq_error_iff.mp he).1
    have hnil := (Token.scanStrict_eq_ok_iff_strays.mp hts).1
    refine ⟨⟨code, e.stray.shift (first.length + 1)⟩,
      Token.scanStrict_eq_error_iff.mpr ⟨?_, rfl⟩, rfl, rfl, rfl⟩
    rw [hstrays, hnil, List.nil_append, List.head?_map, hhead]
    rfl
  · obtain ⟨hnil, rfl⟩ := Token.scanStrict_eq_ok_iff_strays.mp hts
    obtain ⟨hnil', rfl⟩ := Token.scanStrict_eq_ok_iff_strays.mp hus
    refine Token.scanStrict_eq_ok_iff_strays.mpr ⟨?_, hscan⟩
    rw [hstrays, hnil, hnil']
    rfl

/-- A number and a fraction on two lines are no decimal: the point is stray, and a strict scan is
refused at it. -/
theorem scan_across_separator_point :
    let code := "x = 2\n.5Read"
    Token.scan code = Token.scan "x = 2" ++ Token.scan ".5Read" ∧
      ∃ f, Token.scanStrict code = .error f ∧ f.stray.position = 6 := by
  intro code
  have hblank : isBlank '\n' = true ∨ '\n' = ';' := .inl (by decide)
  obtain ⟨hscan, -, hsecond, -⟩ := scan_across_separator "x = 2" ".5Read" hblank
  have hfirst : Token.scanStrict "x = 2" =
      .ok [⟨.identifier, "x"⟩, ⟨.equal, "="⟩, ⟨.number, "2"⟩] := by decide +kernel
  have hpoint : Token.scanStrict ".5Read" = .error ⟨".5Read", ⟨'.', 0⟩⟩ := by decide +kernel
  obtain ⟨f, hf, -, hposition, -⟩ := hsecond _ _ hfirst hpoint
  have hcode : "x = 2" ++ String.singleton '\n' ++ ".5Read" = code := by decide
  rw [hcode] at hscan hf
  exact ⟨by simpa [separatorTokens] using hscan, f, hf, hposition⟩

end CalcScript
