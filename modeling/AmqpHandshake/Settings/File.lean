import AmqpHandshake.Settings.Read
import AmqpHandshake.Settings.Write
import AmqpHandshake.Toml.Document

/-! Loading settings from a file and saving them to one. -/
namespace AmqpHandshake.Settings

/-- Load settings. Every fault is told with the path. -/
def load (read : FileReader) (path : String) : Except HandshakeError Settings :=
  match read path with
  | .error fault => .error (.settings (.unreadable path fault))
  | .ok bytes =>
    match Utf8.decode? bytes with
    | none => .error (.settings (.unreadable path .notText))
    | some text =>
      match Toml.read? text.toList with
      | none => .error (.settings (.notToml path))
      | some entries =>
        match ofEntries entries with
        | .ok settings => .ok settings
        | .error fault => .error (.settings (.wrongShape path fault))

/-- Save settings among some files: the fault, if there is one, beside the files as they are then.
Nothing is written when the settings have no text. -/
def saveIn (settings : Settings) (path : String) (files : FileTree) :
    Except HandshakeError Unit × FileTree :=
  match settings.fileText with
  | .error fault => (.error (.settings fault), files)
  | .ok text =>
    match files.write path text.toUTF8 with
    | .ok files => (.ok (), files)
    | .error fault => (.error (.settings (.unwritable fault)), files)

/-- Save settings and go on with the files as they are then. -/
def save (settings : Settings) (files : FileTree) (path : String) :
    Except HandshakeError FileTree :=
  match settings.saveIn path files with
  | (.ok (), files) => .ok files
  | (.error error, _) => .error error

end AmqpHandshake.Settings
