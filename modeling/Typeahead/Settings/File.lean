import Typeahead.Files
import Typeahead.Settings.Basic

/-!
# Settings files

A settings file is read as text and then as settings; the operating system's refusal to
read it is one way in which settings are unusable.
-/

namespace Typeahead.Settings

/-- The settings in a file, given what came of reading it. -/
def ofFile : Except Files.Refusal Text → Except Invalid Settings
  | .error refusal => .error (.unreadable refusal.message)
  | .ok text => ofText text

end Typeahead.Settings
