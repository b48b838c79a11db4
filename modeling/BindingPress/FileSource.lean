import BindingPress.Bytes
import BindingPress.Error
import BindingPress.Text.Parts

/-! Files: what a run may read, and file trees that are held in memory. -/

namespace BindingPress

structure FileSource where
  read : String → Except ReadFailure Bytes
  /-- The regular files that lie directly in a directory, by name. -/
  list : String → Except ReadFailure (List (String × Bytes))

def FileSource.readText (source : FileSource) (path : String) : Except ReadFailure String := do
  let bytes ← source.read path
  match bytes.text? with
  | some text => return text
  | none => throw .notText

inductive FileTree where
  | file (content : Bytes)
  | directory (entries : List (String × FileTree))

namespace FileTree

def empty : FileTree := directory []

/-- Puts a tree below another one; directories on the way are made. An empty directory leaves one
that is already there as it is. -/
def insert (content : FileTree) : List String → FileTree → FileTree
  | [], place =>
      match content, place with
      | directory [], directory entries => directory entries
      | content, _ => content
  | name :: rest, directory entries =>
      let below := (entries.lookup name).getD empty
      directory ((entries.filter (·.1 != name)) ++ [(name, insert content rest below)])
  | _ :: _, file bytes => file bytes

/-- Where a path leads from a place, which is given with the directories around it, innermost
first. -/
def walk : List String → FileTree → List FileTree → Except ReadFailure FileTree
  | [], place, _ => .ok place
  | _ :: _, file _, _ => .error .notDirectory
  | name :: rest, directory entries, around =>
      if name = "" || name = "." then walk rest (directory entries) around
      else if name = ".." then
        match around with
        | outer :: further => walk rest outer further
        | [] => .error .missing
      else
        match entries.lookup name with
        | some place => walk rest place (directory entries :: around)
        | none => .error .missing

def components (path : String) : List String :=
  (Text.split '/' path.toList).map String.ofList

/-- The components of a path without those that lead nowhere else. -/
def plainComponents (path : String) : List String :=
  (components path).foldl
    (fun kept name =>
      if name = "" || name = "." then kept
      else if name = ".." then kept.dropLast
      else kept ++ [name])
    []

def find (tree : FileTree) (path : String) : Except ReadFailure FileTree :=
  if path = "" || path.toList.head? = some '/' then .error .missing
  else walk (components path) tree []

def ofEntries (entries : List (String × FileTree)) : FileTree :=
  entries.foldl (fun tree (path, content) => insert content (plainComponents path) tree) empty

def source (tree : FileTree) : FileSource where
  read path := do
    match ← tree.find path with
    | file content => return content
    | directory _ => throw .isDirectory
  list path := do
    match ← tree.find path with
    | file _ => throw .notDirectory
    | directory entries =>
        return entries.filterMap fun (name, entry) =>
          match entry with
          | file content => some (name, content)
          | directory _ => none

end FileTree
end BindingPress
