/-!
# UTF-8

Bytes are read strictly. A fault names the bytes it covers: a byte that begins no character, a
character broken off by a byte that does not continue it, or a character cut short by the end.
-/
namespace CalcScript.Text

inductive Utf8Reason where
  | invalidStart
  | invalidContinuation
  | unexpectedEnd
  deriving DecidableEq, Repr

def Utf8Reason.message : Utf8Reason → String
  | .invalidStart => "invalid start byte"
  | .invalidContinuation => "invalid continuation byte"
  | .unexpectedEnd => "unexpected end of data"

/-- The first place where bytes stop being UTF-8: `count` bytes from `position` on, which begin
with the byte `first`. -/
structure Utf8Fault where
  reason : Utf8Reason
  first : UInt8
  position : Nat
  count : Nat
  deriving DecidableEq, Repr

/-- What the first byte of a character of several bytes says: how many bytes follow, the least and
the greatest second byte, and the bits it gives to the code point. -/
structure Utf8Lead where
  following : Nat
  least : Nat
  greatest : Nat
  bits : Nat

/-- The first bytes of the characters of several bytes. The bounds of the second byte keep out
overlong forms, surrogates and values above the last code point. -/
def utf8Lead? (b : Nat) : Option Utf8Lead :=
  if 0xC2 ≤ b && b ≤ 0xDF then some ⟨1, 0x80, 0xBF, b - 0xC0⟩
  else if b == 0xE0 then some ⟨2, 0xA0, 0xBF, 0⟩
  else if b == 0xED then some ⟨2, 0x80, 0x9F, 0xD⟩
  else if 0xE1 ≤ b && b ≤ 0xEF then some ⟨2, 0x80, 0xBF, b - 0xE0⟩
  else if b == 0xF0 then some ⟨3, 0x90, 0xBF, 0⟩
  else if b == 0xF4 then some ⟨3, 0x80, 0x8F, 4⟩
  else if 0xF1 ≤ b && b ≤ 0xF3 then some ⟨3, 0x80, 0xBF, b - 0xF0⟩
  else none

/-- The bytes that continue a character: the first within its bounds, the others plain
continuation bytes, and no more than follow. -/
def Utf8Lead.tail (lead : Utf8Lead) : List UInt8 → List UInt8
  | [] => []
  | b :: rest =>
    if lead.least ≤ b.toNat && b.toNat ≤ lead.greatest then
      b :: (rest.take (lead.following - 1)).takeWhile fun c => 0x80 ≤ c.toNat && c.toNat ≤ 0xBF
    else []

def Utf8Lead.char (lead : Utf8Lead) (tail : List UInt8) : Char :=
  Char.ofNat (tail.foldl (fun n b => n * 64 + b.toNat % 64) lead.bits)

/-- The characters of the bytes that stand at `position` and after. -/
def decodeUtf8At (position : Nat) : List UInt8 → Except Utf8Fault (List Char)
  | [] => .ok []
  | b :: rest =>
    if b.toNat < 0x80 then
      (decodeUtf8At (position + 1) rest).map (Char.ofNat b.toNat :: ·)
    else
      match utf8Lead? b.toNat with
      | none => .error ⟨.invalidStart, b, position, 1⟩
      | some lead =>
        let tail := lead.tail rest
        if tail.length == lead.following then
          (decodeUtf8At (position + 1 + lead.following) (rest.drop lead.following)).map
            (lead.char tail :: ·)
        else if tail.length == rest.length then
          .error ⟨.unexpectedEnd, b, position, 1 + tail.length⟩
        else .error ⟨.invalidContinuation, b, position, 1 + tail.length⟩
termination_by bytes => bytes.length
decreasing_by
  all_goals simp only [List.length_cons, List.length_drop]; omega

def decodeUtf8 (bytes : List UInt8) : Except Utf8Fault String :=
  (decodeUtf8At 0 bytes).map String.ofList

end CalcScript.Text
