import GraphLift.Files.Location
import GraphLift.Library

/-! # A tree of files

    The files that a run sees, and those it leaves behind.

    * **Walking** along a location needs every part but the last to be a directory.
    * **Reading** gives the text of a file in an encoding.
    * **Writing** makes the directories that are missing and replaces what the file held.
    * **Names** with the null character are refused before anything is done with them.
-/

namespace GraphLift

/-- What is at a place of the tree. -/
inductive Content where
  | file (bytes : List UInt8)
  | directory

/-- Files by their parts from the root. Directories that hold something need not be listed. -/
structure Files where
  /-- The parts of the working directory. -/
  here : List String
  entries : List (List String × Content)

namespace Files

/-- What is at a place, if anything. -/
def contentAt? (fs : Files) (place : List String) : Option Content :=
  match fs.entries.find? (·.1 == place) with
  | some (_, c) => some c
  | none =>
    if place.isEmpty || place.isPrefixOf fs.here || fs.entries.any (fun e => place.isPrefixOf e.1) then some .directory
    else none

/-- Goes along parts from a place. The result is the place that is reached. -/
def walk (fs : Files) (place : List String) : List String → Except FileCause (List String × Content)
  | [] => match fs.contentAt? place with
    | some c => .ok (place, c)
    | none => .error .missing
  | p :: rest => match fs.contentAt? place with
    | none => .error .missing
    | some (.file _) => .error .notDirectory
    | some .directory => walk fs (if p = ".." then place.dropLast else place ++ [p]) rest

/-- Goes to a location. -/
def reach (fs : Files) (l : Location) : Except FileCause (List String × Content) :=
  fs.walk (if l.isAbsolute then [] else fs.here) l.parts

/-- The place of a location, whether anything is there or not, without double points. -/
def resolve (fs : Files) (l : Location) : Location :=
  ⟨"/", Location.collapse (if l.isAbsolute then [] else fs.here) l.parts⟩

/-- The bytes of a file. -/
def readBytes (fs : Files) (l : Location) : Except Failure (List UInt8) :=
  if l.hasNull then .error (.value .nullInName)
  else match fs.reach l with
    | .ok (_, .file bytes) => .ok bytes
    | .ok (_, .directory) => .error (.file ⟨.isDirectory, l.text⟩)
    | .error cause => .error (.file ⟨cause, l.text⟩)

/-- The text of a file in the encoding with a given name. -/
def readText [Library] (fs : Files) (encoding : String) (l : Location) : Except Failure String := do
  let bytes ← fs.readBytes l
  match Library.codec? encoding with
  | none => throw (.encoding encoding)
  | some codec => (codec.read bytes).mapError .decode

/-- The JSON value in a file. -/
def readJson [Library] (fs : Files) (encoding : String) (l : Location) : Except Failure Json := do
  (Json.parse (← fs.readText encoding l)).mapError .ofJson

/-! ## Writing -/

/-- The tree with something else at a place. -/
def put (fs : Files) (place : List String) (c : Content) : Files :=
  { fs with entries := fs.entries.filter (·.1 != place) ++ [(place, c)] }

/-- Why there is no directory at a location, if there is none. -/
def directoryFault? (fs : Files) (l : Location) : Option FileError :=
  match fs.reach l with
  | .ok (_, .directory) => none
  | .ok (_, .file _) => some ⟨.inTheWay, l.text⟩
  | .error cause => some ⟨cause, l.text⟩

/-- Adds a directory below one that is there. -/
def addDirectory (fs : Files) (l : Location) : Files :=
  match fs.reach l.parent, l.parts.getLast? with
  | .ok (place, _), some name => if name = ".." then fs else fs.put (place ++ [name]) .directory
  | _, _ => fs

/-- Makes a directory and those above it, unless they are there; `room` is for as many as the location has parts. -/
def makeDirectory (fs : Files) (l : Location) (room : Nat) : Except FileError Files :=
  match fs.directoryFault? l with
  | none => .ok fs
  | some fault =>
    if fault.cause ≠ .missing then .error fault
    else match room with
      | 0 => .error fault
      | room + 1 => (makeDirectory fs l.parent room).map (·.addDirectory l)

/-- Writes a text to a file whose directory is there. -/
def writeText (fs : Files) (l : Location) (s : String) : Except FileError Files :=
  match fs.reach l with
  | .ok (place, .file _) => .ok (fs.put place (.file s.toUTF8.toList))
  | .ok (_, .directory) => .error ⟨.isDirectory, l.text⟩
  | .error .missing =>
    match fs.reach l.parent, l.parts.getLast? with
    | .ok (place, .directory), some name => .ok (fs.put (place ++ [name]) (.file s.toUTF8.toList))
    | _, _ => .error ⟨.missing, l.text⟩
  | .error cause => .error ⟨cause, l.text⟩

/-- Writes a text to a file, making its directory. -/
def save (fs : Files) (l : Location) (s : String) : Except Failure Files := do
  if l.parent.hasNull then throw (.value .nullInName)
  let fs ← (fs.makeDirectory l.parent l.parts.length).mapError .file
  if l.hasNull then throw (.value .nullInName)
  (fs.writeText l s).mapError .file

/-! ## Saving in two steps -/

/-- Makes the directory of a file. -/
def makeRoom (fs : Files) (l : Location) : Except Failure Files :=
  if l.parent.hasNull then .error (.value .nullInName)
  else (fs.makeDirectory l.parent l.parts.length).mapError .file

/-- Writes a text to a file whose directory was made. -/
def fill (fs : Files) (l : Location) (text : String) : Except Failure Files :=
  if l.hasNull then .error (.value .nullInName) else (fs.writeText l text).mapError .file

/-- A file is saved in two steps. -/
theorem save_eq (fs : Files) (l : Location) (text : String) :
    fs.save l text = fs.makeRoom l >>= fun made => made.fill l text := by
  unfold save makeRoom fill
  by_cases hparent : l.parent.hasNull = true
  · rw [if_pos hparent, if_pos hparent]
    rfl
  · rw [if_neg hparent, if_neg hparent]
    cases fs.makeDirectory l.parent l.parts.length with
    | error e => rfl
    | ok made =>
      by_cases hnull : l.hasNull = true
      · simp only [hnull, if_true]
        rfl
      · simp only [hnull]
        rfl

end Files

end GraphLift
