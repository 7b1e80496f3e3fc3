import TierCascade.Text.Lines
/-!
# Surroundings

The folders and files around a program. A path leads from the folder in which the program runs, or from
the root, to one of them, name by name: each name but the last has to be that of a folder. What lies
above the folder of the program is not known, but for the file that is always empty and that keeps
nothing.
-/

namespace TierCascade

/-- A place in the surroundings: the names on the way to it, the last one first. -/
abbrev Place := List String

namespace Place

def root : Place := ["/"]

/-- The file that keeps nothing. -/
def nowhere : Place := ["null", "dev", "/"]

/-- The place one step up. There is none above the root. -/
def above : Place → Place
  | [] => [".."]
  | name :: rest => if name = "/" then root else if name = ".." then ".." :: name :: rest else rest

end Place

/-- The folders and files that are there, by the names on the way to them, and what the files hold. -/
structure Surroundings where
  folders : List (List String)
  files : List (List String × List UInt8)

namespace Surroundings

def content? (s : Surroundings) (p : Place) : Option (List UInt8) :=
  if p = Place.nowhere then some [] else s.files.lookup p.reverse

def isFile (s : Surroundings) (p : Place) : Bool := (s.content? p).isSome

def isFolder (s : Surroundings) (p : Place) : Bool :=
  p = Place.nowhere.above || (p.all fun name => name == ".." || name == "/") || s.folders.contains p.reverse

def wayOf (path : String) : Place × List String :=
  let names := (splitAtEach '/' path.toList).map String.ofList
  (if path.startsWith "/" then Place.root else [], names)

def next (p : Place) (name : String) : Place :=
  if name = "" ∨ name = "." then p else if name = ".." then p.above else name :: p

/-- Goes on by a name. Only folders lead on, and only to what is there. -/
def step? (s : Surroundings) (p : Place) (name : String) : Option Place :=
  let p' := next p name
  if s.isFolder p && (s.isFolder p' || s.isFile p') then some p' else none

/-- Whether a path can be written down: names take up to 255 bytes and whole paths up to 4095, and
none of the bytes is zero. -/
def fits (path : String) : Bool :=
  path.utf8ByteSize ≤ 4095 && !path.toList.contains '\x00'
    && (wayOf path).2.all (·.utf8ByteSize ≤ 255)

def read? (s : Surroundings) (path : String) : Option (List UInt8) :=
  let (start, names) := wayOf path
  if path.isEmpty ∨ !fits path then none else (names.foldlM s.step? start).bind s.content?

/-- Goes on by a name, and makes a folder of that name where nothing is. -/
def makeStep? (way : Surroundings × Place) (name : String) : Option (Surroundings × Place) :=
  let (s, p) := way
  let p' := next p name
  if s.isFile p' then none
  else if s.isFolder p' then some (s, p')
  else some ({ s with folders := p'.reverse :: s.folders }, p')

/-- Opens the file at a path to append to it: the place where it is, and the surroundings with it. The
folders on the way there are made, but a file is in the way, and a folder is no file. -/
def open? (s : Surroundings) (path : String) : Option (Surroundings × Place) := do
  let (start, names) := wayOf path
  let leaf := names.getLast?.getD ""
  if !fits path ∨ ["", ".", ".."].contains leaf then none
  let (s, p) ← names.dropLast.foldlM makeStep? (s, start)
  let file := leaf :: p
  if s.isFolder file then none
  else if s.isFile file then some (s, file)
  else some ({ s with files := (file.reverse, []) :: s.files }, file)

end Surroundings

end TierCascade
