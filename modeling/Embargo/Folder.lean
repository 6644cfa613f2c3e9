import Embargo.Rule.Source
import Embargo.Settings

namespace Embargo

inductive FileError where
  | openSource (path : String)
  | parseSource (path : String)
  | parseSourceText
  | createFolder (path : String)
  | createDraft (path : String)
  | writeDraft (path : String)
  | renameDraft (path : String)
  | saveSource (path : String)
  | noOrigin
  | readSettings (path : String)
  | loadSettings (path : String)
  | parseSettingsText
deriving DecidableEq, Repr, Inhabited

def quotedPath (path : String) : String :=
  "\"" ++ String.ofList (path.toList.flatMap fun c =>
    match c with
    | '"' => ['\\', '"']
    | '\\' => ['\\', '\\']
    | '\n' => ['\\', 'n']
    | '\r' => ['\\', 'r']
    | '\t' => ['\\', 't']
    | '\x00' => ['\\', '0']
    | c => [c]) ++ "\""

def FileError.message : FileError → String
  | openSource path => "Failed to open ban configuration: " ++ quotedPath path
  | parseSource path => "Failed to parse ban configuration: " ++ quotedPath path
  | parseSourceText => "Failed to parse ban configuration"
  | createFolder path => "Failed to create config directory: " ++ quotedPath path
  | createDraft path => "Failed to create temp file: " ++ quotedPath path
  | writeDraft path => "Failed to write ban configuration: " ++ quotedPath path
  | renameDraft path => "Failed to rename temp file to: " ++ quotedPath path
  | saveSource path => "Failed to save ban configuration: " ++ quotedPath path
  | noOrigin => "Ban configuration was not loaded from a file"
  | readSettings path => "Failed to read settings file: " ++ quotedPath path
  | loadSettings path => "Failed to load settings file: " ++ quotedPath path
  | parseSettingsText => "Failed to parse settings"

structure Folder where
  root : String
  files : Table (List String) String := ∅
  folders : List (List String) := []
deriving Inhabited

namespace Folder

def names (path : String) : List String :=
  ((path.toList.splitOn '/').map String.ofList).filter fun n => !(n.isEmpty || n == ".")

def shown (f : Folder) (path : List String) : String :=
  "/".intercalate (f.root :: path)

def isFolder (f : Folder) (path : List String) : Bool :=
  path.isEmpty || f.folders.contains path

def ancestors (path : List String) : List (List String) :=
  (List.range (path.length + 1)).map path.take

def write (f : Folder) (path text : String) : Folder :=
  let path := names path
  { f with
    files := f.files.insert path text
    folders := f.folders ++ ((ancestors path.dropLast).filter fun p => !f.isFolder p) }

def delete (f : Folder) (path : String) : Folder :=
  { f with files := f.files.erase (names path) }

def draftName (name : String) : String :=
  match Text.splitLast? '.' name.toList with
  | some (c :: stem, _) => String.ofList (c :: stem) ++ ".tmp"
  | _ => name ++ ".tmp"

def draftPath (path : List String) : List String :=
  match path.getLast? with
  | some name => path.dropLast ++ [draftName name]
  | none => path

def loadSource (f : Folder) (path : String) : Except FileError RuleSource :=
  let names := names path
  match f.files.get? names with
  | some text => match RuleSource.ofFile? text with
    | some source => .ok source
    | none => .error (.parseSource (f.shown names))
  | none => .error (if f.isFolder names then .parseSource (f.shown names)
      else .openSource (f.shown names))

/--
Replace a file by a configuration. First a draft is written next to it, which then takes its place.
-/
def saveSource (f : Folder) (path : String) (source : RuleSource) : Option FileError × Folder :=
  let path := names path
  let parent := path.dropLast
  let missing := (ancestors parent).filter fun p => !f.isFolder p
  if missing.any fun p => f.files.contains p then
    (some (.createFolder (f.shown parent)), f)
  else
    let f := { f with folders := f.folders ++ missing }
    let draft := draftPath path
    if f.isFolder draft then
      (some (.createDraft (f.shown draft)), f)
    else
      match source.toText? with
      | none => (some (.writeDraft (f.shown draft)), { f with files := f.files.insert draft "" })
      | some text =>
        if f.isFolder path then
          (some (.renameDraft (f.shown path)), { f with files := f.files.insert draft text })
        else
          (none, { f with files := (f.files.erase draft).insert path text })

def loadSettings (f : Folder) (path : String) : Except FileError Settings :=
  let names := names path
  match f.files.get? names with
  | some text => match Settings.ofText? text with
    | some settings => .ok settings
    | none => .error (.loadSettings (f.shown names))
  | none => .error (.readSettings (f.shown names))

end Folder

end Embargo
