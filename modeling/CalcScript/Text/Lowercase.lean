import CalcScript.Text.CaseTable

/-!
# Lower case

Lower-casing maps each character on its own with one exception: a capital sigma at the end of a word
becomes the final sigma. It stands at the end when a cased letter comes before it and none after it,
marks that case ignores not counted.
-/
namespace CalcScript.Text

def inRanges (ranges : List (Nat × Nat)) (c : Char) : Bool :=
  ranges.any fun r => r.1 ≤ c.toNat && c.toNat ≤ r.2

def isCased (c : Char) : Bool :=
  inRanges casedRanges c

def isCaseIgnorable (c : Char) : Bool :=
  inRanges caseIgnorableRanges c

/-- The lower-case form of one character. The dotted capital I has two characters. -/
def lowerChar (c : Char) : List Char :=
  if c.toNat == 0x130 then ['i', Char.ofNat 0x307]
  else
    match capitalRuns.find? (·.covers c.toNat) with
    | some run => [Char.ofNat (c.toNat + run.shift).toNat]
    | none => [c]

/-- The nearest character that case does not ignore is a cased letter. -/
def meetsCased (cs : List Char) : Bool :=
  (cs.dropWhile isCaseIgnorable).head?.any isCased

/-- The lower-case form of a text, given the characters before it from the nearest on. -/
def lowerAfter (before : List Char) : List Char → List Char
  | [] => []
  | c :: rest =>
    let lowered :=
      if c == 'Σ' then
        if meetsCased before && !meetsCased rest then ['ς'] else ['σ']
      else lowerChar c
    lowered ++ lowerAfter (c :: before) rest

def lowercase (cs : List Char) : List Char :=
  lowerAfter [] cs

end CalcScript.Text
