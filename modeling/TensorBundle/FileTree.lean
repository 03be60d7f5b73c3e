import TensorBundle.Image.Png
/-!
Files of known contents, with decoders for three kinds of images among them: a table of files, and a
directory tree that answers for paths relative to its root. Programs run in any `Files`, whoever
decodes the images in them; these are the ones that a command may be given.
-/
namespace TensorBundle

def Image.decode (bytes : List UInt8) : Except (Refusal Problem) Image :=
  if Bitmap.isBitmap bytes then Bitmap.decode bytes
  else if Png.isPng bytes then Png.decode bytes
  else match Netpbm.kind? bytes with
    | some (kind, rest) => Netpbm.decode kind rest
    | none => refuse .unidentified

namespace Files

def ofContents (contents : Text → Except OpenError (List UInt8)) : Files where
  bytes := contents
  image path :=
    let image := match contents path with
      | .error e => Image.refuse (.unopened e)
      | .ok bytes => Image.decode bytes
    image.mapError (Image.Refusal.map (Image.Problem.reason path))

@[simp] theorem bytes_ofContents (contents : Text → Except OpenError (List UInt8)) :
    (ofContents contents).bytes = contents := rfl

def ofTable (table : List (Text × Except OpenError (List UInt8))) : Files :=
  .ofContents fun path => (table.lookup path).getD (.error .notFound)

end Files

inductive Node where
  | file (bytes : List UInt8)
  | directory
  deriving DecidableEq, Repr

/-- A directory tree: every file and directory below the root by the names on the way to it. -/
structure FileTree where
  nodes : List (List Text × Node) := []

namespace FileTree

def node? (tree : FileTree) (names : List Text) : Option Node :=
  if names = [] then some .directory else tree.nodes.lookup names

inductive Place where
  | inside (names : List Text)
  | outside

def here : Text := "."

def above : Text := ".."

/-- Follows the parts of a path. An empty part or a dot stays in a directory and two dots leave it;
outside of the tree nothing can be found. -/
def walk (tree : FileTree) : Place → List Text → Except OpenError Place
  | place, [] => .ok place
  | .outside, name :: rest =>
    if name = [] ∨ name = here ∨ name = above then walk tree .outside rest
    else if 255 < Path.byteCount name then .error .nameTooLong
    else .error .notFound
  | .inside names, name :: rest =>
    match tree.node? names with
    | none => .error .notFound
    | some (.file _) => .error .notDirectory
    | some .directory =>
      if name = [] ∨ name = here then walk tree (.inside names) rest
      else if name = above then
        walk tree (if names = [] then .outside else .inside names.dropLast) rest
      else if 255 < Path.byteCount name then .error .nameTooLong
      else match tree.node? (names ++ [name]) with
        | none => .error .notFound
        | some _ => walk tree (.inside (names ++ [name])) rest

/-- The bytes of the file at a path. A path takes fewer than 4096 bytes. -/
def contents (tree : FileTree) (path : Text) : Except OpenError (List UInt8) :=
  if path = [] then .error .notFound
  else if 4096 ≤ Path.byteCount path then .error .nameTooLong
  else
    let start := if path.head? = some (Code.ofChar '/') then .outside else .inside []
    match tree.walk start (Path.parts path) with
    | .error e => .error e
    | .ok .outside => .error .isDirectory
    | .ok (.inside names) => match tree.node? names with
      | some (.file bytes) => .ok bytes
      | some .directory => .error .isDirectory
      | none => .error .notFound

def read (tree : FileTree) : Files := .ofContents tree.contents

def put (tree : FileTree) (names : List Text) (node : Node) : FileTree :=
  ⟨(names, node) :: tree.nodes.filter (·.1 ≠ names)⟩

def namesOf (path : Text) : List Text := (Path.parts path).filter fun p => p ≠ [] ∧ p ≠ here

def ancestors (names : List Text) : List (List Text) :=
  (List.range (names.length - 1)).map fun n => names.take (n + 1)

def write (tree : FileTree) (path : Text) (node : Node) : FileTree :=
  let names := namesOf path
  ((ancestors names).foldl (fun tree way => tree.put way .directory) tree).put names node

def delete (tree : FileTree) (path : Text) : FileTree :=
  ⟨tree.nodes.filter fun entry => !(namesOf path).isPrefixOf entry.1⟩

end FileTree
end TensorBundle
