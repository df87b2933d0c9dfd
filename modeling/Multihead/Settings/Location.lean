import Multihead.Settings.Environment

/-! # Where settings are found
Settings are read from the first place where there is anything at all, two in the user's directory and one for all
users. What cannot be opened or read there gives the default settings, and later places are not looked at. Where the
user's directory is, what stands at a path and what a file says is for the host to tell. -/

set_option autoImplicit false

namespace Multihead

/-! ## Hosts -/

/-- What stands at a path. -/
inductive Entry (File : Type) where
  | nothing
  /-- Something that cannot be opened. -/
  | closed
  | file (f : File)

namespace Entry

variable {File : Type}

def isThere : Entry File → Bool
  | nothing => false
  | closed | file _ => true

/-- The defaults, unless something can be read as a whole. -/
def settings (read : File → Option Settings) : Entry File → Settings
  | nothing | closed => {}
  | file f => (read f).getD {}

end Entry

/-- What settings are loaded from. -/
structure Host (File : Type) where
  /-- The path of a file in the user's directory for settings, if there is such a directory. -/
  user : Option (String → String)
  look : String → Entry File
  /-- The settings that a file holds, if it can be read and is well formed. -/
  read : File → Option Settings

variable {File : Type}

namespace Host

/-- The settings at a path, if one is given. -/
def config (h : Host File) : Option String → Settings
  | none => {}
  | some path => (h.look path).settings h.read

def systemPath : String := "/etc/cosmic-mux/config.ron"

/-- The paths of settings, in the order in which they are tried. -/
def locations (h : Host File) : List String :=
  match h.user with
  | some inside => [inside "cosmic-mux.ron", inside "cosmic-mux/config.ron", systemPath]
  | none => [systemPath]

/-- The settings at the first path where there is something. -/
def firstOf (h : Host File) : List String → Settings
  | [] => {}
  | path :: paths => if (h.look path).isThere then h.config (some path) else h.firstOf paths

end Host

namespace Settings

/-- The settings in effect. -/
def load (h : Host File) (env : Environment) : Settings :=
  (Overrides.ofEnvironment env).apply (h.firstOf h.locations)

def allowsBypass (s : Settings) : Bool := s.bypass == .allowed

def compositeDuration (s : Settings) : Duration := .ofMillis s.compositeBudget

def bypassDuration (s : Settings) : Duration := .ofMillis s.bypassBudget

end Settings

end Multihead
