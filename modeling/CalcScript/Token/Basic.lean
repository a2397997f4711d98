import CalcScript.Number.Numeral
import CalcScript.Text.Quoted

/-!
# Tokens

A token is a kind together with the text it was read from, its lexeme. The kinds are words,
numbers, three keywords and eight symbols of one character each.
-/
namespace CalcScript

inductive TokenKind where
  | identifier
  | number
  | read
  | display
  | print
  | plus
  | minus
  | star
  | slash
  | equal
  | semicolon
  | bracketOpen
  | bracketClose
  deriving DecidableEq, Repr

namespace TokenKind

def all : List TokenKind :=
  [.identifier, .number, .read, .display, .print, .plus, .minus, .star, .slash, .equal, .semicolon,
    .bracketOpen, .bracketClose]

def name : TokenKind → String
  | .identifier => "IDENTIFIER"
  | .number => "NUMBER"
  | .read => "READ"
  | .display => "DISPLAY"
  | .print => "PRINT"
  | .plus => "PLUS"
  | .minus => "MINUS"
  | .star => "STAR"
  | .slash => "SLASH"
  | .equal => "EQUAL"
  | .semicolon => "SEMICOLON"
  | .bracketOpen => "BRACKET_OPEN"
  | .bracketClose => "BRACKET_CLOSE"

def ofName? (s : String) : Option TokenKind :=
  all.find? (·.name == s)

/-- The kind that a word has where keywords are recognised. -/
def ofWord (word : String) : TokenKind :=
  if word = "Read" then .read
  else if word = "Display" then .display
  else if word = "Print" then .print
  else .identifier

def ofSymbol? : Char → Option TokenKind
  | '+' => some .plus
  | '-' => some .minus
  | '*' => some .star
  | '/' => some .slash
  | '(' => some .bracketOpen
  | ')' => some .bracketClose
  | ';' => some .semicolon
  | '=' => some .equal
  | _ => none

theorem mem_all (k : TokenKind) : k ∈ all := by
  cases k <;> simp [all]

theorem mem_symbols_of_ofSymbol? {c : Char} {k : TokenKind} (h : ofSymbol? c = some k) :
    c ∈ ['+', '-', '*', '/', '(', ')', ';', '='] := by
  unfold ofSymbol? at h
  split at h <;> simp_all

theorem isWordChar_of_ofSymbol? {c : Char} {k : TokenKind} (h : ofSymbol? c = some k) :
    Text.isWordChar c = false := by
  have hm := mem_symbols_of_ofSymbol? h
  simp only [List.mem_cons, List.not_mem_nil, or_false] at hm
  rcases hm with rfl | rfl | rfl | rfl | rfl | rfl | rfl | rfl <;> decide

theorem isBlank_of_ofSymbol? {c : Char} {k : TokenKind} (h : ofSymbol? c = some k) :
    Text.isBlank c = false := by
  have hm := mem_symbols_of_ofSymbol? h
  simp only [List.mem_cons, List.not_mem_nil, or_false] at hm
  rcases hm with rfl | rfl | rfl | rfl | rfl | rfl | rfl | rfl <;> decide

end TokenKind

/-- A kind and the text it was read from. -/
structure Token where
  kind : TokenKind
  lexeme : String
  deriving DecidableEq, Repr

namespace Token

inductive ValueError where
  | notNumeric (kind : TokenKind)
  | unreadable (lexeme : String)
  deriving DecidableEq, Repr

def ValueError.message : ValueError → String
  | .notNumeric kind => kind.name ++ " token has no numeric value"
  | .unreadable lexeme => "could not convert string to float: " ++ Text.quoted lexeme

def value (t : Token) : Except ValueError Float :=
  if t.kind = .number then
    match Number.read? t.lexeme with
    | some x => .ok x
    | none => .error (.unreadable t.lexeme)
  else .error (.notNumeric t.kind)

def tagged (t : Token) : String :=
  "<" ++ t.kind.name ++ ">" ++ t.lexeme

def taggedAll (ts : List Token) : String :=
  " ".intercalate (ts.map tagged)

end Token
end CalcScript
