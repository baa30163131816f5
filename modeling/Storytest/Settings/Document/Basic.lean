import Storytest.Settings.Tree

/-!
# Settings documents

A document is built from headers and key-value lines. A table may be described once: by its own
header, by dotted keys, or inside braces, and a description of one kind is not continued by one of
another. Tables that only lead to others are open until a header describes them.
-/

namespace Storytest.Settings.Document

/-- A part of a document. -/
inductive Node where
  | leaf (tree : Tree)
  /-- A table: whether it is only on the way to others, and whether dotted keys describe it. -/
  | table (onTheWay dotted : Bool) (entries : List (String × Node))
  /-- Tables that a repeated header describes one after the other, the last one first. -/
  | tables (latest : Node) (earlier : List Node)

/-- The document in which nothing has been said. -/
def Node.start : Node := .table false false []

/-- Changes the table at the end of a path, and makes the tables on the way where they are not
there. Fails where the path leads through a value, and, for dotted keys, where it leads through a
table that is described already. -/
def Node.descend (dotted : Bool) (change : Node → Option Node) : List String → Node → Option Node
  | [], node => change node
  | key :: rest, .table onTheWay isDotted entries => do
    let child ← match Assoc.get? entries key with
      | none => Node.descend dotted change rest (.table true dotted [])
      | some (.leaf _) => none
      | some (.tables latest earlier) => do
        let latest ← Node.descend dotted change rest latest
        some (.tables latest earlier)
      | some (.table open_ isDotted' inner) =>
        if dotted && !open_ then none
        else Node.descend dotted change rest (.table open_ isDotted' inner)
    return .table onTheWay isDotted (Assoc.put entries key child)
  | _ :: _, _ => none

/-- Adds a key that the table does not have yet. -/
def Node.addNew (key : String) (child : Node) : Node → Option Node
  | .table onTheWay dotted entries =>
    if key ∈ Assoc.keys entries then none
    else some (.table onTheWay dotted (Assoc.put entries key child))
  | _ => none

/-- Describes a table by a header of its own. -/
def Node.openTable (key : String) : Node → Option Node
  | .table onTheWay dotted entries =>
    match Assoc.get? entries key with
    | none => some (.table onTheWay dotted (Assoc.put entries key .start))
    | some (.table true false inner) =>
      some (.table onTheWay dotted (Assoc.put entries key (.table false false inner)))
    | some _ => none
  | _ => none

/-- Describes one more table by a repeated header. -/
def Node.openItem (key : String) : Node → Option Node
  | .table onTheWay dotted entries =>
    match Assoc.get? entries key with
    | none => some (.table onTheWay dotted (Assoc.put entries key (.tables .start [])))
    | some (.tables latest earlier) =>
      some (.table onTheWay dotted
        (Assoc.put entries key (.tables .start (latest :: earlier))))
    | some _ => none
  | _ => none

/-- Adds a value under a dotted key to the table at hand. A plain key belongs to a table described
by a header, a dotted one to tables described by dotted keys. -/
def Node.assign (path : List String) (key : String) (tree : Tree) (node : Node) : Option Node :=
  node.descend true (fun
    | .table onTheWay dotted entries =>
      if dotted = path.isEmpty then none
      else Node.addNew key (.leaf tree) (.table onTheWay dotted entries)
    | _ => none) path

/-- The last segment of a path and those before it. -/
def splitLast? (path : List String) : Option (List String × String) :=
  match path.reverse with
  | [] => none
  | key :: rest => some (rest.reverse, key)

mutual

/-- The tree of a part. -/
def Node.tree : Node → Tree
  | .leaf tree => tree
  | .table _ _ entries => .table (Node.treeEntries entries)
  | .tables latest earlier => .list ((Node.trees earlier).reverse ++ [latest.tree])

/-- The trees of the entries of a table. -/
def Node.treeEntries : List (String × Node) → List (String × Tree)
  | [] => []
  | (key, node) :: rest => (key, node.tree) :: Node.treeEntries rest

/-- The trees of several parts. -/
def Node.trees : List Node → List Tree
  | [] => []
  | node :: rest => node.tree :: Node.trees rest

end

/-- The tables that are described without a header, by the pairs between braces. -/
def ofPairs? (pairs : List (List String × Tree)) : Option Tree := do
  let node ← pairs.foldl (fun node pair => do
    let node ← node
    let (path, key) ← splitLast? pair.1
    node.assign path key pair.2) (some Node.start)
  return node.tree

/-- A line of a document. -/
inductive Line where
  | blank
  | pair (path : List String) (tree : Tree)
  | header (path : List String)
  | item (path : List String)

/-- Adds a line, in the table that the last header described. -/
def addLine (current : List String) (node : Node) : Line → Option (List String × Node)
  | .blank => some (current, node)
  | .pair path tree => do
    let (way, key) ← splitLast? path
    let node ← node.descend false (fun table => table.assign way key tree) current
    return (current, node)
  | .header path => do
    let (way, key) ← splitLast? path
    let node ← node.descend false (Node.openTable key) way
    return (path, node)
  | .item path => do
    let (way, key) ← splitLast? path
    let node ← node.descend false (Node.openItem key) way
    return (path, node)

/-- The settings that the lines of a document describe. -/
def ofLines? (lines : List Line) : Option (List (String × Tree)) := do
  let (_, node) ← lines.foldl (fun state line => do
    let (current, node) ← state
    addLine current node line) (some ([], Node.start))
  match node.tree with
  | .table entries => some entries
  | _ => none

end Storytest.Settings.Document
