import ExactWord.Text

namespace ExactWord.Command

/-- The segments of a path between its slashes, innermost first. An empty segment comes from a slash at an end or from
two slashes in a row. -/
structure Path where
  segments : List String
deriving DecidableEq, Repr

namespace Path

def ofText (text : String) : Path := ⟨((Text.pieces '/' text.toList).map String.ofList).reverse⟩

def text (p : Path) : String := String.ofList (Text.join '/' (p.segments.reverse.map String.toList))

/-- Whether a segment names a step of its own. Empty segments do not, and a dot does only at the start of a path. -/
def isStep (segment : String) (outer : List String) : Bool :=
  segment != "" && (segment != "." || outer.isEmpty)

def leadsOf : List String → List Path
  | [] => []
  | segment :: outer => if isStep segment outer then ⟨segment :: outer⟩ :: leadsOf outer else leadsOf outer

def leads (p : Path) : List Path := leadsOf p.segments

def parents (p : Path) : List Path := p.leads.tail

def parentText (p : Path) : String := (p.parents.head?.map text).getD ""

def maxBytes : Nat := 4095

def isTooLong (p : Path) : Bool := maxBytes < p.text.utf8ByteSize

end Path

/-- A place in a tree: the names on the way to it, innermost first. The top directory is the empty list. -/
abbrev Location := List String

inductive Entry where
  | directory
  | file (text : String)
deriving DecidableEq, Repr

structure Tree where
  entries : List (Location × Entry)
deriving DecidableEq, Repr

inductive FileError where
  | missing
  | alreadyExists
  | notDirectory
  | isDirectory
  | nameTooLong
deriving DecidableEq, Repr

def FileError.message : FileError → String
  | .missing => "No such file or directory (os error 2)"
  | .alreadyExists => "File exists (os error 17)"
  | .notDirectory => "Not a directory (os error 20)"
  | .isDirectory => "Is a directory (os error 21)"
  | .nameTooLong => "File name too long (os error 36)"

def maxNameBytes : Nat := 255

def nameFits (name : String) : Bool := name.utf8ByteSize ≤ maxNameBytes

def isDots (segment : String) : Bool := segment == "." || segment == ".."

namespace Tree

def empty : Tree := ⟨[]⟩

def find? (t : Tree) : Location → Option Entry
  | [] => some .directory
  | place => t.entries.lookup place

def putEntry (place : Location) (entry : Entry) : List (Location × Entry) → List (Location × Entry)
  | [] => [(place, entry)]
  | (other, old) :: rest =>
    if other = place then (other, entry) :: rest else (other, old) :: putEntry place entry rest

def put (t : Tree) (place : Location) (entry : Entry) : Tree := ⟨putEntry place entry t.entries⟩

/-- One step down or up from a directory. The top directory is its own parent. -/
def step (t : Tree) (place : Location) (segment : String) : Except FileError Location :=
  if segment = "" ∨ segment = "." then
    .ok place
  else if segment = ".." then
    .ok place.tail
  else if nameFits segment then
    match t.find? (segment :: place) with
    | some .directory => .ok (segment :: place)
    | some (.file _) => .error .notDirectory
    | none => .error .missing
  else
    .error .nameTooLong

def enter (t : Tree) : List String → Except FileError Location
  | [] => .ok []
  | segment :: outer => do
    let place ← t.enter outer
    t.step place segment

def isDirectory (t : Tree) (p : Path) : Bool := !p.isTooLong && (t.enter p.segments).isOk

def makeAt (t : Tree) : List String → Except FileError Tree
  | [] => .error .alreadyExists
  | segment :: outer =>
    if segment = "" then
      t.makeAt outer
    else do
      let place ← t.enter outer
      if isDots segment then
        .error .alreadyExists
      else if nameFits segment then
        match t.find? (segment :: place) with
        | some _ => .error .alreadyExists
        | none => .ok (t.put (segment :: place) .directory)
      else
        .error .nameTooLong

def makeDirectory (t : Tree) (p : Path) : Except FileError Tree :=
  if p.isTooLong then .error .nameTooLong else t.makeAt p.segments

def ensureDirectory (t : Tree) (p : Path) : Except FileError Tree :=
  match t.makeDirectory p with
  | .ok made => .ok made
  | .error cause => if t.isDirectory p then .ok t else .error cause

/-- Makes the first directory of a list of leading parts, and the others as far as they are missing. What was made
before a failure stays. -/
def makeDirectories (t : Tree) : List Path → Except FileError Unit × Tree
  | [] => (.ok (), t)
  | p :: outer =>
    match t.ensureDirectory p with
    | .ok made => (.ok (), made)
    | .error .missing =>
      match t.makeDirectories outer with
      | (.error cause, left) => (.error cause, left)
      | (.ok (), left) =>
        match left.ensureDirectory p with
        | .ok made => (.ok (), made)
        | .error cause => (.error cause, left)
    | .error cause => (.error cause, t)

def writeAt (t : Tree) (text : String) (slashed : Bool) : List String → Except FileError Tree
  | [] => .error .isDirectory
  | segment :: outer =>
    if segment = "" then
      t.writeAt text true outer
    else do
      let place ← t.enter outer
      if slashed || isDots segment then
        .error .isDirectory
      else if nameFits segment then
        match t.find? (segment :: place) with
        | some .directory => .error .isDirectory
        | _ => .ok (t.put (segment :: place) (.file text))
      else
        .error .nameTooLong

/-- Writes a file, or replaces the whole of it. A path that ends in a slash can only mean a directory. -/
def writeFile (t : Tree) (p : Path) (text : String) : Except FileError Tree :=
  if p.isTooLong then .error .nameTooLong else t.writeAt text false p.segments

end Tree

end ExactWord.Command
