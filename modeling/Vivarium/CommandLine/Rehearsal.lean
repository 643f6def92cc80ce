import Vivarium.CommandLine
import Vivarium.Files.Tree

/-!
# Rehearsing a run

What a command line does in a fresh folder that holds a few files and nothing
else, while nobody observes anything. Time is left out: ticks follow one
another, and the line that tells how long they took is not said.

The folder stands with other temporary ones in a tree of the usual shape. Of
what else is in that tree only so much is known as every such tree has: the
folders at its root, the list of accounts, and a few devices.
-/

namespace Vivarium.CommandLine

/-- A fresh folder of files, and what standard input holds. -/
structure Directory where
  files : List (String × ByteArray)
  input : ByteArray := .empty

namespace Directory

/-- The folders at the root of a tree that hold nothing one could name beforehand. -/
def bareFolders : List String :=
  [ "bin", "boot", "home", "lib", "media", "mnt", "opt", "proc", "root", "run", "sbin", "srv",
    "sys", "usr", "var" ]

/-- The devices: one that takes everything and gives nothing, a full one, and standard input. -/
def devices (directory : Directory) : Folder :=
  [("null", .file .empty), ("full", .full), ("stdin", .file directory.input)]

/-- The list of accounts. -/
def accounts : ByteArray :=
  "root:x:0:0:root:/root:/bin/sh\n".toUTF8

/-- The root of the tree that a directory stands in, without the temporary folders. -/
def root (directory : Directory) : Folder :=
  ("dev", .folder directory.devices) :: ("etc", .folder [("passwd", .file accounts)]) ::
    bareFolders.map fun name => (name, .folder [])

/-- Where a directory stands: with the temporary folders, under a name that no path contains. -/
def location (directory : Directory) : Location :=
  { folder := directory.files.map fun (name, bytes) => (name, .file bytes)
    around := [("", []), ("tmp", directory.root)] }

end Directory

/-- Where the entries of a run go. -/
inductive Outlet where
  | absent
  | kept
  | full
  deriving DecidableEq, Repr

/-- Where the entries of a run go that asks for a log, or for none, at some location. -/
def Outlet.of (here : Location) (path : Option String) : Outlet :=
  match path.map here.openEnd with
  | some (.ok .full) => .full
  | some (.ok _) => .kept
  | _ => .absent

/-- What keeps entries out of the log at the end of a run that has come to this summary. -/
def Outlet.refusal? (outlet : Outlet) : Except RunError Summary → Option String
  | .ok summary =>
      if outlet = .full && summary.audit.any (·.written != 0) then some fullCause else none
  | .error _ => none

/-- What a run leaves behind. -/
structure Transcript where
  code : Nat
  said : List String := []
  complained : List String := []

/-- A run of a population, seen from its beginning to its end. -/
def perform (population : Population) (ticks : Nat) (log : Option ByteArray) (outlet : Outlet) :
    Transcript :=
  let now := Timestamp.epoch
  match prepare population ticks log (outlet != .absent) with
  | (before, .error fault) =>
      { code := faultCode, said := before, complained := [fault.message] }
  | (before, .ok field) =>
      let (during, field) := proceed now (turnsOf ticks) field
      let (summary, field) := field.stop .accepting now
      match settled (outlet.refusal? summary) summary with
      | .ok summary =>
          { code := 0, said := before ++ during ++ closing summary field.feed.dropped }
      | .error error => { code := 1, said := before ++ during, complained := [stopLine error] }

namespace Directory

/-- What becomes of a request in a directory. -/
def transcript (directory : Directory) : Request → Transcript
  | .usage => { code := 1, complained := usage }
  | .standard => { code := 0, said := standardConfig.toJson.pretty.splitOn "\n" }
  | .run path ticks =>
      let here := directory.location
      match configOf (here.read path) >>= populationOf with
      | .error error => { code := 1, complained := [error.message] }
      | .ok population =>
          let path := population.config.audit.path
          let log := path.bind fun path => (here.read path).toOption
          perform population ticks log (.of here path)

end Directory

end Vivarium.CommandLine
