import CalcScript.Proofs.Span
import CalcScript.Proofs.Token.Segments

/-!
# Lexical decomposition

Source text is a sequence of gaps and lexemes. A lexeme is a word that no word character follows, a
number that no further digit or fraction follows, or a symbol; a gap holds none of the characters
that lexemes begin with. Every text has exactly one such decomposition, and scanning returns its
lexemes, each with the kind that its spelling and the character before it give.
-/
namespace CalcScript
open Text

def symbols : List (Char × TokenKind) :=
  [('+', .plus), ('-', .minus), ('*', .star), ('/', .slash), ('(', .bracketOpen),
    (')', .bracketClose), (';', .semicolon), ('=', .equal)]

def keywords : List (String × TokenKind) :=
  [("Read", .read), ("Display", .display), ("Print", .print)]

/-- A letter or underscore, then letters, digits and underscores. -/
def isWord : List Char → Bool
  | [] => false
  | c :: rest => isWordStart c && rest.all isWordChar

def IsDigits (l : List Char) : Prop :=
  l ≠ [] ∧ ∀ c ∈ l, isDigit c = true

/-- `Lexeme l after` says that `l` is a lexeme where the text goes on with `after`. -/
inductive Lexeme : List Char → List Char → Prop where
  | word {l after : List Char} (hl : isWord l = true) (hafter : Avoids isWordChar after) :
      Lexeme l after
  | whole {l after : List Char} (hl : IsDigits l) (hdigit : Avoids isDigit after)
      (hpoint : ∀ rest, after = '.' :: rest → Avoids isDigit rest) : Lexeme l after
  | decimal {l places after : List Char} (hl : IsDigits l) (hplaces : IsDigits places)
      (hdigit : Avoids isDigit after) : Lexeme (l ++ '.' :: places) after
  | symbol {c : Char} {kind : TokenKind} {after : List Char} (hc : (c, kind) ∈ symbols) :
      Lexeme [c] after

/-- Characters that no lexeme holds, the point in a number apart. -/
def IsGap (gap : List Char) : Prop :=
  ∀ c ∈ gap, isWordChar c = false ∧ ∀ kind, (c, kind) ∉ symbols

/-- The kind of a lexeme; a keyword right after a word character is an identifier. -/
def kindAt (before : Option Char) (lexeme : List Char) : TokenKind :=
  if isWord lexeme then
    if before.any isWordChar then .identifier
    else (keywords.lookup (String.ofList lexeme)).getD .identifier
  else
    match lexeme with
    | [c] => (symbols.lookup c).getD .number
    | _ => .number

/-- Gaps and lexemes in turn; the gaps may be empty. -/
inductive Decomposition where
  | last (gap : List Char)
  | piece (gap lexeme : List Char) (rest : Decomposition)

namespace Decomposition

def text : Decomposition → List Char
  | .last gap => gap
  | .piece gap lexeme rest => gap ++ (lexeme ++ rest.text)

/-- Gaps are gaps, and each lexeme is one before the text that follows it. -/
def Valid : Decomposition → Prop
  | .last gap => IsGap gap
  | .piece gap lexeme rest => IsGap gap ∧ Lexeme lexeme rest.text ∧ rest.Valid

def Decomposes (d : Decomposition) (cs : List Char) : Prop :=
  d.text = cs ∧ d.Valid

/-- The tokens of a decomposition after the text `seen`. -/
def tokensAfter (seen : List Char) : Decomposition → List Token
  | .last _ => []
  | .piece gap lexeme rest =>
    ⟨kindAt (seen ++ gap).getLast? lexeme, String.ofList lexeme⟩ ::
      rest.tokensAfter (seen ++ gap ++ lexeme)

end Decomposition

/-! ### The tables -/

theorem lookup_symbols (c : Char) : symbols.lookup c = TokenKind.ofSymbol? c := by
  unfold TokenKind.ofSymbol?
  split
  case h_9 =>
    rw [List.lookup_eq_none_iff]
    simp_all [symbols]
  all_goals rfl

theorem mem_symbols_iff {c : Char} {kind : TokenKind} :
    (c, kind) ∈ symbols ↔ TokenKind.ofSymbol? c = some kind := by
  constructor
  · intro h
    simp only [symbols, List.mem_cons, Prod.mk.injEq, List.not_mem_nil, or_false] at h
    rcases h with ⟨rfl, rfl⟩ | ⟨rfl, rfl⟩ | ⟨rfl, rfl⟩ | ⟨rfl, rfl⟩ | ⟨rfl, rfl⟩ | ⟨rfl, rfl⟩ |
      ⟨rfl, rfl⟩ | ⟨rfl, rfl⟩ <;> rfl
  · intro h
    unfold TokenKind.ofSymbol? at h
    split at h <;> simp_all [symbols]

theorem lookup_keywords (word : String) :
    (keywords.lookup word).getD .identifier = TokenKind.ofWord word := by
  unfold TokenKind.ofWord
  split_ifs with hread hdisplay hprint
  · rw [hread]; rfl
  · rw [hdisplay]; rfl
  · rw [hprint]; rfl
  · have hnone : keywords.lookup word = none := by
      rw [List.lookup_eq_none_iff]
      simp [keywords, hread, hdisplay, hprint]
    rw [hnone]
    rfl

/-! ### Numbers -/

theorem isDigits_takeWhile {c : Char} (h : isDigit c = true) (rest : List Char) :
    IsDigits ((c :: rest).takeWhile isDigit) := by
  refine ⟨?_, fun d hd => List.mem_takeWhile_imp hd⟩
  simp [h]

/-- The number that is split off is the longest one. -/
theorem splitNumber_eq_of_whole {l after : List Char} (hl : IsDigits l)
    (hdigit : Avoids isDigit after)
    (hpoint : ∀ rest, after = '.' :: rest → Avoids isDigit rest) :
    Scan.splitNumber (l ++ after) = (l, after) := by
  unfold Scan.splitNumber
  rw [hdigit.takeWhile_append hl.2, hdigit.dropWhile_append hl.2]
  dsimp only
  split
  · next rest =>
    have hnot : rest.head?.any isDigit = false := by
      cases hr : rest.head? with
      | none => rfl
      | some c => simpa using hpoint rest rfl c hr
    rw [if_neg (by simp [hnot])]
  · rfl

theorem splitNumber_eq_of_decimal {l places after : List Char} (hl : IsDigits l)
    (hplaces : IsDigits places) (hdigit : Avoids isDigit after) :
    Scan.splitNumber (l ++ '.' :: places ++ after) = (l ++ '.' :: places, after) := by
  have havoid : Avoids isDigit ('.' :: (places ++ after)) := avoids_cons_iff.mpr rfl
  have hhead : (places ++ after).head?.any isDigit = true := by
    cases places with
    | nil => exact absurd rfl hplaces.1
    | cons c rest => simpa using hplaces.2 c List.mem_cons_self
  unfold Scan.splitNumber
  rw [List.append_assoc, List.cons_append, havoid.takeWhile_append hl.2,
    havoid.dropWhile_append hl.2]
  change (if (places ++ after).head?.any isDigit then _ else _) = _
  rw [if_pos hhead, hdigit.takeWhile_append hplaces.2, hdigit.dropWhile_append hplaces.2]

theorem lexeme_splitNumber {c : Char} (h : isDigit c = true) (rest : List Char) :
    Lexeme (Scan.splitNumber (c :: rest)).1 (Scan.splitNumber (c :: rest)).2 := by
  have hl := isDigits_takeWhile h rest
  have hdrop := avoids_dropWhile isDigit (c :: rest)
  unfold Scan.splitNumber
  dsimp only
  split
  · next tail htail =>
    split
    · next hhead =>
      cases tail with
      | nil => simp at hhead
      | cons d tail =>
        have hd : isDigit d = true := by simpa using hhead
        exact .decimal hl (isDigits_takeWhile hd tail) (avoids_dropWhile isDigit (d :: tail))
    · next hhead =>
      rw [htail] at hdrop
      refine .whole hl hdrop fun rest' hrest' d hd => ?_
      cases hrest'
      rw [Option.mem_def.mp hd] at hhead
      simpa using hhead
  · next hpoint => exact .whole hl hdrop fun tail htail => absurd htail (hpoint tail)

/-! ### Scanning a decomposed text -/

/-- A word character ends the text `seen`. -/
def glued (seen : List Char) : Bool :=
  seen.getLast?.any isWordChar

theorem glued_append {l : List Char} (hl : l ≠ []) (h : ∀ c ∈ l, isWordChar c = true)
    (seen : List Char) : glued (seen ++ l) = true := by
  have hlast : (seen ++ l).getLast? = some (l.getLast hl) := by
    rw [List.getLast?_append, List.getLast?_eq_some_getLast hl, Option.some_or]
  rw [glued, hlast]
  exact h _ (List.getLast_mem hl)

theorem glued_concat (seen : List Char) (c : Char) : glued (seen ++ [c]) = isWordChar c := by
  simp [glued]

theorem isWordChar_of_isWord {l : List Char} (h : isWord l = true) :
    l ≠ [] ∧ ∀ c ∈ l, isWordChar c = true := by
  cases l with
  | nil => simp [isWord] at h
  | cons c rest =>
    simp only [isWord, Bool.and_eq_true, List.all_eq_true] at h
    exact ⟨by simp, List.forall_mem_cons.mpr ⟨isWordChar_of_isWordStart h.1, h.2⟩⟩

theorem isWord_takeWhile {c : Char} (h : isWordStart c = true) (rest : List Char) :
    isWord (c :: rest.takeWhile isWordChar) = true := by
  simp only [isWord, h, Bool.true_and, List.all_eq_true]
  exact fun d hd => List.mem_takeWhile_imp hd

theorem kindAt_of_isWord {l : List Char} (h : isWord l = true) (before : Option Char) :
    kindAt before l = Scan.wordKind (before.any isWordChar) l := by
  unfold kindAt
  rw [if_pos h, lookup_keywords]
  rfl

theorem kindAt_of_isDigit {c : Char} (h : isDigit c = true) (before : Option Char)
    (rest : List Char) : kindAt before (c :: rest) = .number := by
  have hstart : isWordStart c = false := by
    rw [Bool.eq_false_iff]
    intro hs
    rw [isDigit_of_isWordStart hs] at h
    exact Bool.false_ne_true h
  have hsymbol : TokenKind.ofSymbol? c = none := by
    cases hs : TokenKind.ofSymbol? c with
    | none => rfl
    | some kind =>
      have hword := isWordChar_of_isDigit h
      rw [TokenKind.isWordChar_of_ofSymbol? hs] at hword
      exact absurd hword Bool.false_ne_true
  unfold kindAt
  rw [if_neg (by simp [isWord, hstart])]
  cases rest with
  | nil =>
    change (symbols.lookup c).getD .number = .number
    rw [lookup_symbols, hsymbol]
    rfl
  | cons d rest => rfl

theorem kindAt_of_mem_symbols {c : Char} {kind : TokenKind} (h : (c, kind) ∈ symbols)
    (before : Option Char) : kindAt before [c] = kind := by
  have hc := mem_symbols_iff.mp h
  have hword := TokenKind.isWordChar_of_ofSymbol? hc
  rw [isWordChar_iff, Bool.or_eq_false_iff] at hword
  unfold kindAt
  rw [if_neg (by simp [isWord, hword.1])]
  change (symbols.lookup c).getD .number = kind
  rw [lookup_symbols, hc]
  rfl

def gapSegment (c : Char) : Segment :=
  if isBlank c then .blank c else .stray c

theorem segmentsFrom_append_gap {gap : List Char} (h : IsGap gap) (seen after : List Char) :
    Scan.segmentsFrom (glued seen) (gap ++ after) =
      gap.map gapSegment ++ Scan.segmentsFrom (glued (seen ++ gap)) after := by
  induction gap generalizing seen with
  | nil => simp
  | cons c rest ih =>
    obtain ⟨⟨hword, hsymbols⟩, hrest⟩ := List.forall_mem_cons.mp h
    have hsymbol : TokenKind.ofSymbol? c = none := by
      rw [Option.eq_none_iff_forall_ne_some]
      exact fun kind hc => hsymbols kind (mem_symbols_iff.mpr hc)
    have htail := ih hrest (seen ++ [c])
    rw [glued_concat, hword, List.append_assoc, List.singleton_append] at htail
    rw [List.cons_append, List.map_cons, List.cons_append, gapSegment, ← htail]
    cases hblank : isBlank c with
    | true => rw [Scan.segmentsFrom_blank hblank]; rfl
    | false => rw [Scan.segmentsFrom_stray hword hsymbol hblank]; rfl

theorem segmentsFrom_append_number {digits l after : List Char} (hdigits : IsDigits digits)
    (hl : digits <+: l) (hsplit : Scan.splitNumber (l ++ after) = (l, after)) {seen : List Char}
    (hglued : glued (seen ++ l) = true) :
    Scan.segmentsFrom (glued seen) (l ++ after) =
      .token ⟨kindAt seen.getLast? l, String.ofList l⟩ ::
        Scan.segmentsFrom (glued (seen ++ l)) after := by
  obtain ⟨tail, rfl⟩ := hl
  cases digits with
  | nil => exact absurd rfl hdigits.1
  | cons c rest =>
    have hc := hdigits.2 c List.mem_cons_self
    simp only [List.cons_append] at hsplit hglued ⊢
    rw [Scan.segmentsFrom_number hc, hsplit, hglued, kindAt_of_isDigit hc]

theorem Lexeme.segmentsFrom_append {l after : List Char} (h : Lexeme l after)
    (seen : List Char) :
    Scan.segmentsFrom (glued seen) (l ++ after) =
      .token ⟨kindAt seen.getLast? l, String.ofList l⟩ ::
        Scan.segmentsFrom (glued (seen ++ l)) after := by
  cases h with
  | word hl hafter =>
    obtain ⟨hne, hchars⟩ := isWordChar_of_isWord hl
    rw [glued_append hne hchars, kindAt_of_isWord hl]
    cases l with
    | nil => exact absurd rfl hne
    | cons c rest =>
      simp only [isWord, Bool.and_eq_true, List.all_eq_true] at hl
      rw [List.cons_append, Scan.segmentsFrom_word hl.1, hafter.takeWhile_append hl.2,
        hafter.dropWhile_append hl.2]
      rfl
  | whole hl hdigit hpoint =>
    have hglued := glued_append hl.1 (fun c hc => isWordChar_of_isDigit (hl.2 c hc)) seen
    have hsplit := splitNumber_eq_of_whole hl hdigit hpoint
    exact segmentsFrom_append_number hl List.prefix_rfl hsplit hglued
  | @decimal l places after hl hplaces hdigit =>
    have hglued := glued_append hplaces.1 (fun c hc => isWordChar_of_isDigit (hplaces.2 c hc))
      (seen ++ l ++ ['.'])
    have hsplit := splitNumber_eq_of_decimal hl hplaces hdigit
    exact segmentsFrom_append_number hl (List.prefix_append l _) hsplit (by simpa using hglued)
  | symbol hc =>
    rw [kindAt_of_mem_symbols hc, List.singleton_append,
      Scan.segmentsFrom_symbol (mem_symbols_iff.mp hc), glued_concat,
      TokenKind.isWordChar_of_ofSymbol? (mem_symbols_iff.mp hc)]
    rfl

namespace Decomposition

def segmentsAfter (seen : List Char) : Decomposition → List Segment
  | .last gap => gap.map gapSegment
  | .piece gap lexeme rest =>
    gap.map gapSegment ++
      .token ⟨kindAt (seen ++ gap).getLast? lexeme, String.ofList lexeme⟩ ::
        rest.segmentsAfter (seen ++ gap ++ lexeme)

/-- Scanning finds the segments of any decomposition of the text. -/
theorem segmentsFrom_text {d : Decomposition} (h : d.Valid) (seen : List Char) :
    Scan.segmentsFrom (glued seen) d.text = d.segmentsAfter seen := by
  induction d generalizing seen with
  | last gap =>
    have hgap := segmentsFrom_append_gap h seen []
    simpa [text, segmentsAfter] using hgap
  | piece gap lexeme rest ih =>
    obtain ⟨hgap, hlexeme, hrest⟩ := h
    rw [text, segmentsFrom_append_gap hgap, hlexeme.segmentsFrom_append, ih hrest, segmentsAfter]

theorem filterMap_token?_gap (gap : List Char) :
    (gap.map gapSegment).filterMap Segment.token? = [] := by
  rw [List.filterMap_eq_nil_iff]
  intro s hs
  obtain ⟨c, -, rfl⟩ := List.mem_map.mp hs
  unfold gapSegment
  split <;> rfl

theorem filterMap_token?_segmentsAfter (d : Decomposition) (seen : List Char) :
    (d.segmentsAfter seen).filterMap Segment.token? = d.tokensAfter seen := by
  induction d generalizing seen with
  | last gap => exact filterMap_token?_gap gap
  | piece gap lexeme rest ih =>
    rw [segmentsAfter, List.filterMap_append, filterMap_token?_gap, List.nil_append,
      List.filterMap_cons, ih]
    rfl

/-- The decomposition that segments make after the gap so far. -/
def ofSegments (gap : List Char) : List Segment → Decomposition
  | [] => .last gap
  | .token t :: rest => .piece gap t.lexeme.toList (ofSegments [] rest)
  | .blank c :: rest => ofSegments (gap ++ [c]) rest
  | .stray c :: rest => ofSegments (gap ++ [c]) rest

theorem ofSegments_append_gap (seen gap : List Char) (segments : List Segment) :
    ofSegments seen (gap.map gapSegment ++ segments) = ofSegments (seen ++ gap) segments := by
  induction gap generalizing seen with
  | nil => simp
  | cons c rest ih =>
    have hcons : ofSegments seen (gapSegment c :: (rest.map gapSegment ++ segments)) =
        ofSegments (seen ++ [c]) (rest.map gapSegment ++ segments) := by
      unfold gapSegment
      split <;> rfl
    rw [List.map_cons, List.cons_append, hcons, ih, List.append_assoc, List.singleton_append]

theorem ofSegments_segmentsAfter (d : Decomposition) (seen : List Char) :
    ofSegments [] (d.segmentsAfter seen) = d := by
  induction d generalizing seen with
  | last gap =>
    have hgap := ofSegments_append_gap [] gap []
    simpa [segmentsAfter, ofSegments] using hgap
  | piece gap lexeme rest ih =>
    rw [segmentsAfter, ofSegments_append_gap, List.nil_append, ofSegments, ih, String.toList_ofList]

theorem Decomposes.unique {d e : Decomposition} {cs : List Char} (hd : d.Decomposes cs)
    (he : e.Decomposes cs) : d = e := by
  have hsegments : d.segmentsAfter [] = e.segmentsAfter [] := by
    rw [← segmentsFrom_text hd.2, ← segmentsFrom_text he.2, hd.1, he.1]
  rw [← ofSegments_segmentsAfter d [], hsegments, ofSegments_segmentsAfter]

theorem exists_cons_gap {c : Char} (hword : isWordChar c = false)
    (hsymbol : TokenKind.ofSymbol? c = none) {cs : List Char}
    (h : ∃ d, Decomposes d cs) : ∃ d, Decomposes d (c :: cs) := by
  have hc : isWordChar c = false ∧ ∀ kind, (c, kind) ∉ symbols := by
    refine ⟨hword, fun kind hmem => ?_⟩
    rw [mem_symbols_iff, hsymbol] at hmem
    cases hmem
  obtain ⟨d, rfl, hd⟩ := h
  cases d with
  | last gap => exact ⟨.last (c :: gap), rfl, List.forall_mem_cons.mpr ⟨hc, hd⟩⟩
  | piece gap lexeme rest =>
    exact ⟨.piece (c :: gap) lexeme rest, rfl, List.forall_mem_cons.mpr ⟨hc, hd.1⟩, hd.2⟩

theorem exists_append_lexeme {l after : List Char} (hl : Lexeme l after)
    (h : ∃ d, Decomposes d after) : ∃ d, Decomposes d (l ++ after) := by
  obtain ⟨d, rfl, hd⟩ := h
  exact ⟨.piece [] l d, rfl, by simp [IsGap], hl, hd⟩

/-- Every text has a decomposition, lexeme after lexeme as the scanner goes. -/
theorem exists_decomposes (cs : List Char) : ∃ d, Decomposes d cs := by
  -- The scanner's own induction; its flag says nothing about the text to come.
  obtain ⟨glued⟩ : Nonempty Bool := inferInstance
  induction glued, cs using Scan.segmentsFrom.induct with
  | case1 glued => exact ⟨.last [], rfl, by simp [Valid, IsGap]⟩
  | case2 glued c rest h ih =>
    have hlexeme := exists_append_lexeme
      (.word (isWord_takeWhile h rest) (avoids_dropWhile isWordChar rest)) ih
    rwa [List.cons_append, List.takeWhile_append_dropWhile] at hlexeme
  | case3 glued c rest hw h ih =>
    have hlexeme := exists_append_lexeme (lexeme_splitNumber h rest) ih
    rwa [Scan.splitNumber_append] at hlexeme
  | case4 glued c rest hw hd kind hk ih =>
    exact exists_append_lexeme (.symbol (mem_symbols_iff.mpr hk)) ih
  | case5 glued c rest hw hd hk hb ih =>
    exact exists_cons_gap (by simp [isWordChar_iff, hw, hd]) hk ih
  | case6 glued c rest hw hd hk hb ih =>
    exact exists_cons_gap (by simp [isWordChar_iff, hw, hd]) hk ih

theorem Decomposes.segments_eq {d : Decomposition} {code : String}
    (h : d.Decomposes code.toList) : Scan.segments code = d.segmentsAfter [] := by
  rw [Scan.segments, ← h.1]
  exact segmentsFrom_text h.2 []

theorem Decomposes.scan_eq {d : Decomposition} {code : String} (h : d.Decomposes code.toList) :
    Token.scan code = d.tokensAfter [] := by
  rw [Token.scan_eq_segments, h.segments_eq, filterMap_token?_segmentsAfter]

end Decomposition

/-- Every text has exactly one decomposition into gaps and lexemes, and the scanned tokens are its
lexemes with their kinds. -/
theorem scan_eq_tokens_of_decomposition (code : String) :
    (∃! d : Decomposition, d.Decomposes code.toList) ∧
      ∀ d : Decomposition, d.Decomposes code.toList → Token.scan code = d.tokensAfter [] := by
  constructor
  · obtain ⟨d, hd⟩ := Decomposition.exists_decomposes code.toList
    exact ⟨d, hd, fun e he => he.unique hd⟩
  · intro d hd
    exact hd.scan_eq

end CalcScript
