/-!
# Paths

A path is a row of names with slashes between them, read from left to right. A
name may be empty. There are texts that are no paths: one with a null character
in it, one that is too long as a whole, and the empty text, which leads nowhere.
-/

namespace Vivarium

/-- What keeps a file from being reached. -/
inductive FileError where
  | missing
  | notDirectory
  | isDirectory
  | nameTooLong
  | nullInName
  | notText
  | other (cause : String)
  deriving DecidableEq, Repr

def FileError.message : FileError → String
  | .missing => "No such file or directory (os error 2)"
  | .notDirectory => "Not a directory (os error 20)"
  | .isDirectory => "Is a directory (os error 21)"
  | .nameTooLong => "File name too long (os error 36)"
  | .nullInName => "file name contained an unexpected NUL byte"
  | .notText => "stream did not contain valid UTF-8"
  | .other cause => cause

namespace Path

def longestPath : Nat := 4095

def longestName : Nat := 255

/-- Passes if a text is a path. -/
def check (path : String) : Except FileError Unit :=
  if path.toList.contains '\x00' then .error .nullInName
  else if path = "" then .error .missing
  else if longestPath < path.utf8ByteSize then .error .nameTooLong
  else .ok ()

def isAbsolute (path : String) : Bool :=
  path.toList.head? == some '/'

def names (path : String) : List String :=
  path.splitOn "/"

/-- The names that lead to the folder of what a path names. -/
def leading (path : String) : List String :=
  (names path).dropLast

def last (path : String) : String :=
  (names path).getLastD ""

/-- Whether a name stays in the folder where it is read. -/
def isHere (name : String) : Bool :=
  name == "" || name == "."

/-- Whether a name leads to the folder around. -/
def isUp (name : String) : Bool :=
  name == ".."

end Path

end Vivarium
