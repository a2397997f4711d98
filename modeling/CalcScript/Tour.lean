import CalcScript.Journal

/-!
# A tour of the language

Thirteen short programs, each shown at every stage: source, tokens, statements, output and the
variables at the end.
-/
namespace CalcScript.Tour

def samples : List String :=
  [ "Read x; Display x",
    "x = 5",
    "x = 2 + 3 * 4; Print x",
    "a = 10 / 5 / 2; b = a - 1 - 1; Display b",
    "Reading = 5; Display Reading",
    "x = 5 / 0; Display x",
    "y = z + 1; Display y",
    "x = -1",
    "x = (1 + 2)",
    "x = 1 $ 2",
    "Read",
    "x 5",
    "Display z" ]

/-- Statements one to a line, numbered from one in a column of two. -/
def numbered (statements : List Statement) : String :=
  "\n".intercalate <| statements.zipIdx.map fun (s, i) =>
    "  " ++ toString (i + 1) ++ ": " ++ s.text

/-- What a program shows after its tokens. -/
def results (tokens : List Token) : Except Halt (List String) :=
  match parse tokens with
  | .error e => .ok [e.message]
  | .ok statements =>
    match execute Store.empty statements with
    | .error halt => .error halt
    | .ok (lines, store) =>
      .ok [ "ast:\n" ++ numbered statements,
        "output:\n" ++ "\n".intercalate (lines.map (" " ++ ·)),
        "variables: " ++ store.text ]

def stop (code : String) : Except Halt (List String) :=
  (results (Token.scan code)).map fun shown =>
    [ "==========",
      "code: " ++ Text.quoted code,
      "tokens: " ++ Token.taggedAll (Token.scan code) ] ++ shown

def output : Except Halt (List String) :=
  (samples.mapM stop).map List.flatten

def journal : List JournalRecord :=
  samples.flatMap fun code =>
    Journal.scan false code ++ Journal.parse (Token.scan code) ++
      match parse (Token.scan code) with
      | .error _ => []
      | .ok statements => Journal.execute Store.empty statements

end CalcScript.Tour
