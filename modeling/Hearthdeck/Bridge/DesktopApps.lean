import Hearthdeck.Bridge.ExecLines
import Hearthdeck.Foundation.Utf8
import Hearthdeck.Frontend.Library

/-!
# Desktop applications

Applications are found in the desktop entries of a list of directories, and one
is launched by the name of its file.  Discovery lists the directories and reads
what it finds there; a launch joins the name to one directory after another.

What stands outside is the file system, the variables of the session and what
`TryExec` finds.
-/

namespace Hearthdeck
namespace Bridge

open Foundation UnixPath ExecLine
open Frontend (isWhitespace splitOnce)

abbrev Text := List Char

/-- A string: bytes that are UTF-8. -/
structure Str where
  bytes : Bytes
  wellFormed : Utf8.WellFormed bytes
  deriving DecidableEq

/-- `to_string_lossy`. -/
def Str.lossy (bytes : Bytes) : Str :=
  ⟨Utf8.lossy bytes, Utf8.wellFormed_lossy bytes⟩

/-- The characters of a path as it is displayed. -/
def displayed (path : Bytes) : Text :=
  ((String.fromUTF8? ⟨(Utf8.lossy path).toArray⟩).getD "").toList

/-! ## What stands outside -/

/-- The file system. -/
structure FileSystem where
  /-- `Path::is_file`. -/
  isFile : Bytes → Bool
  /-- `read_to_string`. -/
  read : Bytes → Except String Text
  /-- The names that `read_dir` goes through, up to an error if there is one;
  none for a directory that is missing or cannot be read. -/
  names : Bytes → List Bytes
  /-- A directory lists names of its own. -/
  plain : ∀ directory, ∀ name ∈ names directory, Plain name
  /-- What ends with a slash, a dot or two dots is a directory. -/
  file : ∀ path, isFile path = true →
    ∃ last, (pieces slash path).getLast? = some last ∧ Plain last

/-- The variables of a session, and what `TryExec` finds. -/
structure Host where
  /-- `XDG_DATA_HOME`. -/
  dataHome : Option Bytes
  /-- `HOME`. -/
  home : Option Bytes
  /-- `XDG_DATA_DIRS`. -/
  dataDirs : Option Bytes
  /-- The parts of `XDG_CURRENT_DESKTOP`. -/
  currentDesktops : List Text
  /-- `executable_exists`. -/
  executableExists : Text → Bool

/-! ## Directories -/

/-- `xdg_data_home_from`. -/
def xdgDataHomeFrom (dataHome home : Option Bytes) : Option Bytes :=
  (dataHome.filter (· ≠ [])).or
    (home.map fun path => join path (ascii ".local/share"))

/-- `push_unique`: paths are the same when their components are. -/
def pushUnique (directories : List Bytes) (path : Bytes) : List Bytes :=
  if components path ∈ directories.map components then
    directories
  else
    directories ++ [path]

/-- `desktop_entry_directories_for`. -/
def desktopEntryDirectoriesFor
    (dataHome home dataDirs : Option Bytes) : List Bytes :=
  let dataHome := xdgDataHomeFrom dataHome home
  let dataDirs := (dataDirs.filter (· ≠ [])).getD
    (ascii "/usr/local/share:/usr/share")
  let users := match dataHome with
    | some dataHome =>
        [join dataHome (ascii "applications"),
          join dataHome (ascii "flatpak/exports/share/applications")]
    | none => []
  let systems := ((pieces 0x3A dataDirs).filter isAbsolute).map fun path =>
    join path (ascii "applications")
  (users ++ systems ++
    [ascii "/var/lib/flatpak/exports/share/applications"]).foldl
      pushUnique []

/-- `desktop_entry_directories`. -/
def desktopEntryDirectories (host : Host) : List Bytes :=
  desktopEntryDirectoriesFor host.dataHome host.home host.dataDirs

/-! ## Entries -/

/-- `str::trim`. -/
def trim (text : Text) : Text :=
  ((text.dropWhile isWhitespace).reverse.dropWhile isWhitespace).reverse

/-- The values of an entry, the last one of a key first. -/
abbrev Values := List (Text × Text)

/-- The value of a key. -/
def Values.get (values : Values) (key : String) : Option Text :=
  values.lookup key.toList

/-- The loop of `desktop_entry_values` over the lines. -/
def valuesOfLines (inDesktopEntry : Bool) (values : Values) :
    List Text → Values
  | [] => values
  | line :: later =>
      if line.head? = some '[' then
        if inDesktopEntry then
          values
        else
          valuesOfLines (line == "[Desktop Entry]".toList) values later
      else if inDesktopEntry ∧ line.head? ≠ some '#' then
        match splitOnce '=' line with
        | some (key, value) =>
            valuesOfLines inDesktopEntry ((trim key, trim value) :: values)
              later
        | none => valuesOfLines inDesktopEntry values later
      else
        valuesOfLines inDesktopEntry values later

/-- `desktop_entry_values`. -/
def desktopEntryValues (content : Text) : Values :=
  valuesOfLines false [] ((pieces (Char.ofNat 0x0A) content).map trim)

/-- `desktop_entry_boolean`. -/
def desktopEntryBoolean (values : Values) (key : String) : Bool :=
  values.get key == some "true".toList

/-- The parts of a list that are not empty. -/
def listed (value : Text) : List Text :=
  (pieces ';' value).filter (· ≠ [])

/-- `visible_in_desktop`. -/
def visibleInDesktop (desktops : Text) (currentDesktops : List Text) : Bool :=
  (listed desktops).any fun desktop => currentDesktops.contains desktop

/-- `validate_desktop_entry`. -/
def validateDesktopEntry (host : Host) (values : Values) :
    Except String Unit :=
  if values.get "Type" ≠ some "Application".toList then
    .error "not an application desktop entry"
  else if desktopEntryBoolean values "NoDisplay" ∨
      desktopEntryBoolean values "Hidden" then
    .error "not a visible application entry"
  else if (values.get "OnlyShowIn").any fun onlyShowIn =>
      !visibleInDesktop onlyShowIn host.currentDesktops then
    .error "desktop entry is hidden in the current desktop"
  else if (values.get "NotShowIn").any fun notShowIn =>
      visibleInDesktop notShowIn host.currentDesktops then
    .error "desktop entry is hidden in the current desktop"
  else
    .ok ()

/-- `DesktopLaunch`. -/
structure DesktopLaunch where
  command : List Text
  workingDirectory : Option Text

/-- `command_for_desktop_entry`. -/
def commandForDesktopEntry (fileSystem : FileSystem) (host : Host)
    (path : Bytes) : Except String DesktopLaunch := do
  let content ← fileSystem.read path
  let values := desktopEntryValues content
  validateDesktopEntry host values
  if desktopEntryBoolean values "Terminal" then
    .error "terminal desktop entries are not supported in Kiosk mode"
  else if desktopEntryBoolean values "DBusActivatable" then
    .error ("D-Bus-activated desktop entries are not supported in a " ++
      "managed session")
  else
    match values.get "Exec" with
    | none => .error "desktop entry has no Exec"
    | some exec => do
        let command ← parseExec exec
          { desktopPath := displayed path
            applicationName := values.get "Name"
            icon := values.get "Icon" }
        if command = [] then
          .error "desktop entry has an empty Exec command"
        else if (values.get "TryExec").any fun tryExec =>
            !host.executableExists tryExec then
          .error "desktop entry TryExec is not executable"
        else
          .ok
            { command := command
              workingDirectory := (values.get "Path").filter (· ≠ []) }

/-- `ApplicationSource`. -/
inductive ApplicationSource
  | system
  | local_
  | flatpak
  | snap
  | nix
  deriving DecidableEq

/-- `origin_of`. -/
def originOf (path : Bytes) (dataHome : Option Bytes) : ApplicationSource :=
  let location := displayed path
  if "/flatpak/".toList <:+: location then
    .flatpak
  else if "/var/lib/snapd".toList <+: location then
    .snap
  else if "/nix/store".toList <+: location ∨
      "/nix/var".toList <+: location ∨
      "/run/current-system".toList <+: location ∨
      "/run/system-manager".toList <+: location ∨
      "/etc/profiles/per-user".toList <+: location then
    .nix
  else if dataHome.any fun home => startsWith path home then
    .local_
  else
    .system

/-- `DiscoveredApplication`. -/
structure DiscoveredApplication where
  applicationId : Str
  name : Text
  comment : Option Text
  icon : Option Text
  categories : List Text
  launchScheme : Option String
  source : ApplicationSource

/-- `parse_desktop_entry`. -/
def parseDesktopEntry (fileSystem : FileSystem) (host : Host)
    (path : Bytes) : Except String DiscoveredApplication := do
  let content ← fileSystem.read path
  let values := desktopEntryValues content
  validateDesktopEntry host values
  let _ ← commandForDesktopEntry fileSystem host path
  match values.get "Name" with
  | none => .error "desktop entry has no Name"
  | some name =>
      match fileName path with
      | none => .error "desktop entry has no file name"
      | some file =>
          .ok
            { applicationId := .lossy file
              name := name
              comment := values.get "Comment"
              icon := values.get "Icon"
              categories := ((values.get "Categories").map listed).getD []
              launchScheme := (values.get "Exec").bind fun exec =>
                if "heroic://".toList <:+: exec then some "heroic" else none
              source := originOf path
                (xdgDataHomeFrom host.dataHome host.home) }

/-! ## Discovering and launching -/

/-- `DESKTOP_APPS_SOURCE`. -/
def desktopApps : String := "desktop-apps"

/-- An application, and the path it was parsed from. -/
structure Found where
  path : Bytes
  application : DiscoveredApplication

/-- What a file of a directory is listed as. -/
def candidate (fileSystem : FileSystem) (host : Host)
    (path : Bytes) : Option Found :=
  if extension path = some (ascii "desktop") then
    match parseDesktopEntry fileSystem host path with
    | .ok application => some ⟨path, application⟩
    | .error _ => none
  else
    none

/-- `entries.entry(application_id).or_insert(entry)`. -/
def orInsert (entries : Table Str Found) (found : Found) : Table Str Found :=
  if found.application.applicationId ∈ entries then
    entries
  else
    entries.insert found.application.applicationId found

/-- The applications of one directory, behind those of the ones before. -/
def discoverIn (fileSystem : FileSystem) (host : Host)
    (entries : Table Str Found) (directory : Bytes) : Table Str Found :=
  (fileSystem.names directory).foldl
    (fun entries name =>
      match candidate fileSystem host (join directory name) with
      | some found => orInsert entries found
      | none => entries)
    entries

/-- `discover_applications`, with the paths of the applications.  The list is
sorted by name. -/
def discoverApplications (fileSystem : FileSystem) (host : Host)
    (sourceId : String) : Except String (List Found) :=
  if sourceId = desktopApps then
    let entries := (desktopEntryDirectories host).foldl
      (discoverIn fileSystem host) ∅
    .ok ((entries.entries.map (·.2)).mergeSort fun left right =>
      decide (¬ right.application.name < left.application.name))
  else
    .error "unsupported application source"

/-- `is_bare_file_name`. -/
def isBareFileName (value : Bytes) : Bool :=
  value ≠ [] && value ≠ [dot] && value ≠ [dot, dot] &&
    (components value).length == 1

/-- `desktop_entry_path`. -/
def desktopEntryPath (fileSystem : FileSystem) (host : Host)
    (sourceId : String) (applicationId : Str) : Except String Bytes :=
  if sourceId ≠ desktopApps then
    .error "unsupported application source"
  else if isBareFileName applicationId.bytes then
    let paths := (desktopEntryDirectories host).map fun directory =>
      join directory applicationId.bytes
    match paths.find? fun path => fileSystem.isFile path &&
        (parseDesktopEntry fileSystem host path).toBool with
    | some path => .ok path
    | none => .error "desktop entry is not registered"
  else
    .error "invalid desktop entry id"

end Bridge
end Hearthdeck
