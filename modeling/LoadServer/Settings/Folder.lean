import LoadServer.IoFault
import LoadServer.Text.Raw

/-! The folder that a program is started in, as far as its files are known. -/

namespace LoadServer

/-- The names that lead from a folder to something in it. -/
abbrev FolderPath := List RawText

/-- Files by their paths, and folders that are empty. -/
structure Folder where
  /-- Each file with its bytes, and each empty folder with none. -/
  contents : List (FolderPath × Option Bytes) := []

/-- What a path leads to. -/
inductive FolderEntry where
  | file (bytes : Bytes)
  | folder
  deriving DecidableEq, Repr

namespace Folder

/-- The longest name in bytes. -/
def longestName : Nat := 255

/-- The longest path in bytes. -/
def longestPath : Nat := 4095

/-- What is at a path without detours. -/
def entry? (folder : Folder) (path : FolderPath) : Option FolderEntry :=
  match folder.contents.find? (fun content => content.1 == path) with
  | some (_, some bytes) => some (.file bytes)
  | some (_, none) => some .folder
  | none =>
    if path.isEmpty || folder.contents.any (fun content => path.isPrefixOf content.1) then
      some .folder
    else none

/-- The parts of a path between its slashes. -/
def parts : RawText → FolderPath
  | [] => [[]]
  | piece :: rest =>
    match parts rest with
    | [] => [[piece]]
    | first :: others =>
      if piece = .char '/' then [] :: first :: others else (piece :: first) :: others

/-- Where a walk through folders has come to. -/
inductive Whereabouts where
  /-- At a path in the known folder. -/
  | inside (path : FolderPath)
  /-- In a folder of which nothing is known, where nothing is found. -/
  | outside
  deriving DecidableEq, Repr

/-- Follows one part of a path. -/
def follow (folder : Folder) (here : Whereabouts) (part : RawText) :
    Except SystemFault Whereabouts :=
  match here with
  | .outside =>
    if part = [] ∨ part = [.char '.'] ∨ part = [.char '.', .char '.'] then .ok .outside
    else if longestName < (RawText.bytes part).length then .error .nameTooLong
    else .error .noEntry
  | .inside path =>
    match folder.entry? path with
    | none => .error .noEntry
    | some (.file _) => .error .notDirectory
    | some .folder =>
      if part = [] ∨ part = [.char '.'] then .ok (.inside path)
      else if part = [.char '.', .char '.'] then
        .ok (if path = [] then .outside else .inside path.dropLast)
      else if longestName < (RawText.bytes part).length then .error .nameTooLong
      else if (folder.entry? (path ++ [part])).isSome then .ok (.inside (path ++ [part]))
      else .error .noEntry

/-- What a path leads to. -/
def locate (folder : Folder) (path : RawText) : Except SystemFault FolderEntry :=
  if path.isEmpty then .error .noEntry
  else if longestPath < path.bytes.length then .error .nameTooLong
  else do
    let start := if path.head? = some (.char '/') then Whereabouts.outside else .inside []
    match ← (parts path).foldlM (follow folder) start with
    | .outside => .ok .folder
    | .inside path =>
      match folder.entry? path with
      | some entry => .ok entry
      | none => .error .noEntry

/-- The failure of reading text that is not well-formed. -/
def illFormed : IoFault :=
  .worded .invalidData "stream did not contain valid UTF-8"

/-- The text of the file that a path leads to. -/
def readText (folder : Folder) (path : RawText) : Except IoFault String :=
  match folder.locate path with
  | .error fault => .error (.system fault)
  | .ok .folder => .error (.system .isDirectory)
  | .ok (.file bytes) =>
    match (RawText.decode bytes).text? with
    | none => .error illFormed
    | some text => .ok text

end Folder

end LoadServer
