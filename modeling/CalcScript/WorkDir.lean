import CalcScript.Text.Newline
import CalcScript.Text.Quoted
import CalcScript.Text.Utf8

/-!
# The working directory

Programs are read from a directory that holds at most one file. Paths are brought to a normal form
and walked one part at a time; every failure names the path in its normal form. Names and whole
paths have a greatest length, measured in bytes.
-/
namespace CalcScript

/-- A working directory with at most one file in it. -/
structure WorkDir where
  /-- The bytes of the file, if there is one. -/
  program : Option (List UInt8)

inductive FileError where
  | notFound (path : String)
  | isDirectory (path : String)
  | notDirectory (path : String)
  | nameTooLong (path : String)
  | nullCharacter
  | undecodable (fault : Text.Utf8Fault)
  deriving DecidableEq, Repr

def utf8FaultMessage (fault : Text.Utf8Fault) : String :=
  let bytes :=
    if fault.count == 1 then
      "byte 0x" ++ String.ofList (Text.hexDigits 2 fault.first.toNat) ++ " in position " ++
        toString fault.position
    else
      "bytes in position " ++ toString fault.position ++ "-" ++
        toString (fault.position + fault.count - 1)
  "'utf-8' codec can't decode " ++ bytes ++ ": " ++ fault.reason.message

def FileError.message : FileError → String
  | .notFound path => "[Errno 2] No such file or directory: " ++ Text.quoted path
  | .isDirectory path => "[Errno 21] Is a directory: " ++ Text.quoted path
  | .notDirectory path => "[Errno 20] Not a directory: " ++ Text.quoted path
  | .nameTooLong path => "[Errno 36] File name too long: " ++ Text.quoted path
  | .nullCharacter => "embedded null byte"
  | .undecodable fault => utf8FaultMessage fault

namespace WorkDir

def programName : String := "program.txt"

def maxNameSize : Nat := 255

def maxPathSize : Nat := 4095

/-- A path taken apart: the slashes it begins with and the names between slashes. -/
structure Path where
  root : String
  parts : List String
  deriving DecidableEq, Repr

/-- The names between slashes, given the start of the first one, last character first. -/
def splitSlashes (started : List Char) : List Char → List String
  | [] => [String.ofList started.reverse]
  | c :: rest =>
    if c == '/' then String.ofList started.reverse :: splitSlashes [] rest
    else splitSlashes (c :: started) rest

/-- A path in normal form: empty names and single dots are dropped, and of the slashes it begins
with one is kept, or two if there are exactly two. -/
def Path.ofString (s : String) : Path :=
  let slashes := (s.toList.takeWhile (· == '/')).length
  { root := if slashes == 0 then "" else if slashes == 2 then "//" else "/"
    parts := (splitSlashes [] s.toList).filter fun part => part != "" && part != "." }

/-- A path as text; the path without names is a dot. -/
def Path.text (p : Path) : String :=
  if p.root == "" && p.parts.isEmpty then "."
  else p.root ++ "/".intercalate p.parts

/-- Where a walk along a path stands: in the working directory, in a directory outside it, or at
the file. -/
inductive Place where
  | inside
  | outside
  | file (bytes : List UInt8)

def missing (path part : String) : FileError :=
  if part.utf8ByteSize > maxNameSize then .nameTooLong path else .notFound path

/-- The end of a walk along the names. Nothing is known of the directories outside except that
they are there. -/
def walk (dir : WorkDir) (path : String) : Place → List String → Except FileError Place
  | place, [] => .ok place
  | .file _, _ :: _ => .error (.notDirectory path)
  | .outside, part :: rest =>
    if part == ".." then walk dir path .outside rest else .error (missing path part)
  | .inside, part :: rest =>
    if part == ".." then walk dir path .outside rest
    else
      match dir.program with
      | some bytes =>
        if part == programName then walk dir path (.file bytes) rest
        else .error (missing path part)
      | none => .error (missing path part)

/-- The text of a file, its line ends unified. -/
def readText (dir : WorkDir) (path : String) : Except FileError String :=
  let normal := Path.ofString path
  if path.toList.contains (Char.ofNat 0) then .error .nullCharacter
  else if normal.text.utf8ByteSize > maxPathSize then .error (.nameTooLong normal.text)
  else
    match dir.walk normal.text (if normal.root == "" then .inside else .outside) normal.parts with
    | .error e => .error e
    | .ok (.file bytes) =>
      match Text.decodeUtf8 bytes with
      | .ok s => .ok (String.ofList (Text.unifyNewlines s.toList))
      | .error fault => .error (.undecodable fault)
    | .ok _ => .error (.isDirectory normal.text)

end WorkDir
end CalcScript
