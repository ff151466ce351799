import SwitchDialects.Text

/-!
# Paths and directory trees

A path names its steps between slashes, from the root if it starts with one and else from the
working directory. Empty steps do not count, but a slash at the end asks for a directory, as a last
step to the directory itself does. Two paths to files that do not exist are compared by their steps,
where steps to the same directory do not count and steps to the directory above do.

A tree holds directories, files and symbolic links. Links are followed wherever they stand, up to
forty of them; a path whose last step leads nowhere names a place where a file can be made, also
when a link has led there. Writing changes the one file that a path leads to and nothing else.

What a command asks of the file system are four operations. A tree answers them as the system would;
there a command is a function from trees to trees.
-/

namespace SwitchDialects.Disk

def here : Text := ['.']

def above : Text := ['.', '.']

def isAbsolute (path : Text) : Bool := path.head? == some '/'

def parts (path : Text) : List Text := (path.splitOn '/').filter fun part => !part.isEmpty

/-- The steps of a path; a slash at the end is a step to the same directory. -/
def steps (path : Text) : List Text :=
  parts path ++ if path.getLast? = some '/' then [here] else []

/-- The parts by which paths are compared. -/
def components (path : Text) : List Text := (parts path).filter (· != here)

def ofParts (parts : List Text) : Text :=
  match parts with
  | [] => ['/']
  | parts => parts.flatMap ('/' :: ·)

def byteCount (t : Text) : Nat := (String.ofList t).utf8ByteSize

/-- The longest name, in bytes, that a file may have. -/
def longestName : Nat := 255

def isName (name : Text) : Bool := byteCount name ≤ longestName

/-- The longest path, in bytes, that the system follows. -/
def longestPath : Nat := 4095

/-- Whether a path is short enough to be followed, whatever it would lead to. -/
def isPath (path : Text) : Bool := byteCount path ≤ longestPath

inductive Fault where
  | missing
  | notDirectory
  | isDirectory
  | linkLoop
  | nameTooLong
  /-- The bytes of the file are not those of a text. -/
  | notText
  /-- A reason that the system gives. -/
  | other (reason : Text)
deriving DecidableEq, Repr

def Fault.message : Fault → Text
  | missing => "No such file or directory (os error 2)".toList
  | notDirectory => "Not a directory (os error 20)".toList
  | isDirectory => "Is a directory (os error 21)".toList
  | linkLoop => "Too many levels of symbolic links (os error 40)".toList
  | nameTooLong => "File name too long (os error 36)".toList
  | notText => "stream did not contain valid UTF-8".toList
  | other reason => reason

/-- What stands at a place of a tree. -/
inductive Node where
  | directory
  | file (content : ByteArray)
  | link (target : Text)

/-- A tree by the places of its nodes, each a list of names from the root. -/
structure Tree where
  nodes : List (List Text × Node)
  /-- The place of the working directory. -/
  working : List Text

namespace Tree

/-- The node at a place; the root is always a directory. -/
def lookup (tree : Tree) (place : List Text) : Option Node :=
  if place = [] then some .directory else tree.nodes.lookup place

/-- Put a node at a place, instead of what may be there. -/
def put (tree : Tree) (place : List Text) (node : Node) : Tree :=
  { tree with nodes := (place, node) :: tree.nodes.filter fun (p, _) => p != place }

end Tree

inductive Destination where
  /-- A directory or file. -/
  | found (place : List Text)
  /-- A name that is free in a directory. -/
  | vacant (directory : List Text) (name : Text)
  | fault (fault : Fault)
deriving DecidableEq, Repr

namespace Tree

/-- Follow steps from a directory, going on as told at the first link. -/
def followTo (tree : Tree) (next : List Text → List Text → Destination) :
    List Text → List Text → Destination
  | directory, [] => .found directory
  | directory, name :: rest =>
    if name = here then followTo tree next directory rest
    else if name = above then followTo tree next directory.dropLast rest
    else
      let place := directory ++ [name]
      match tree.lookup place with
      | some .directory => followTo tree next place rest
      | some (.file _) => if rest = [] then .found place else .fault .notDirectory
      | some (.link target) =>
        next (if isAbsolute target then [] else directory) (steps target ++ rest)
      | none =>
        if !isName name then .fault .nameTooLong
        else if rest = [] then .vacant directory name
        else .fault .missing

/-- Follow steps from a directory through at most the given number of links. -/
def follow (tree : Tree) : (links : Nat) → List Text → List Text → Destination
  | 0 => tree.followTo fun _ _ => .fault .linkLoop
  | links + 1 => tree.followTo (tree.follow links)

def maxLinks : Nat := 40

/-- What a path leads to; one that is too long is not followed at all. -/
def resolve (tree : Tree) (path : Text) : Destination :=
  if path = [] then .fault .missing
  else if !isPath path then .fault .nameTooLong
  else tree.follow maxLinks (if isAbsolute path then [] else tree.working) (steps path)

/-- The bytes of the file that a path leads to. -/
def read (tree : Tree) (path : Text) : Except Fault ByteArray :=
  match tree.resolve path with
  | .found place =>
    match tree.lookup place with
    | some (.file content) => .ok content
    | _ => .error .isDirectory
  | .vacant _ _ => .error .missing
  | .fault fault => .error fault

/-- Write the file that a path leads to, making it if its place is free. -/
def write (tree : Tree) (path : Text) (content : ByteArray) : Except Fault Tree :=
  match tree.resolve path with
  | .found place =>
    match tree.lookup place with
    | some (.file _) => .ok (tree.put place (.file content))
    | _ => .error .isDirectory
  | .vacant directory name => .ok (tree.put (directory ++ [name]) (.file content))
  | .fault fault => .error fault

/-- The place of the directory or file that a path leads to. -/
def place? (tree : Tree) (path : Text) : Option (List Text) :=
  match tree.resolve path with
  | .found place => some place
  | _ => none

theorem lookup_put {tree : Tree} {place : List Text} (h : place ≠ []) (node : Node)
    (other : List Text) :
    (tree.put place node).lookup other =
      if other = place then some node else tree.lookup other := by
  by_cases ho : other = place
  · subst ho
    simp [lookup, put, h]
  · have hb : (other == place) = false := by simpa using ho
    simp only [lookup, put, List.lookup_cons, hb, ho, if_false]
    congr 1
    induction tree.nodes with
    | nil => rfl
    | cons entry rest ih =>
      obtain ⟨p, n⟩ := entry
      by_cases he : p = place
      · subst he
        simp [List.lookup_cons, hb, ih]
      · have hk : (p != place) = true := by simpa using he
        rw [List.filter_cons_of_pos (by simpa using hk), List.lookup_cons, List.lookup_cons, ih]

end Tree

/-- The operations on files that commands use. -/
structure Access (m : Type → Type) where
  /-- The text of a file. -/
  read : Text → m (Except Fault Text)
  /-- Write a text to a file, making it if need be. -/
  write : Text → Text → m (Except Fault Unit)
  /-- The absolute path, free of links, to an existing file or directory. -/
  canonical? : Text → m (Option Text)
  /-- The absolute path to the working directory. -/
  workingDirectory : m Text

def encode (text : Text) : ByteArray := (String.ofList text).toUTF8

def decode (content : ByteArray) : Except Fault Text :=
  match String.fromUTF8? content with
  | some text => .ok text.toList
  | none => .error .notText

def Tree.access : Access (StateM Tree) where
  read path := do return ((← get).read path).bind decode
  write path text := do
    match (← get).write path (encode text) with
    | .ok tree => set tree; return .ok ()
    | .error fault => return .error fault
  canonical? path := do return ((← get).place? path).map ofParts
  workingDirectory := do return ofParts (← get).working

/-- A text is read back from its own bytes. -/
theorem decode_encode (text : Text) : decode (encode text) = .ok text := by
  have valid : (encode text).IsValidUTF8 := (String.ofList text).isValidUTF8
  have back : String.fromUTF8? (encode text) = some (String.ofList text) := by
    rw [String.fromUTF8?, dif_pos valid]
    rfl
  simp [decode, back]

end SwitchDialects.Disk
