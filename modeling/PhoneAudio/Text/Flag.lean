/-!
# Flags

The written form of a truth value in reports and messages.
-/

namespace PhoneAudio.Text

def flag (value : Bool) : String := if value then "true" else "false"

end PhoneAudio.Text
