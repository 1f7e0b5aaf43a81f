/-!
# Occurrences

Whether a text occurs in another, and the replacement of every occurrence, from the left;
occurrences do not overlap.
-/

namespace LangServer.Text

/-- Whether the text `part` occurs in another. -/
def occursIn (part : List Char) : List Char → Bool
  | [] => part.isEmpty
  | c :: rest => part.isPrefixOf (c :: rest) || occursIn part rest

/-- Replaces `target`, after `skip` more characters that belong to an occurrence replaced before. -/
def replaceFrom (target new : List Char) : Nat → List Char → List Char
  | _, [] => []
  | 0, c :: rest =>
    if target.isPrefixOf (c :: rest) then
      new ++ replaceFrom target new (target.length - 1) rest
    else c :: replaceFrom target new 0 rest
  | skip + 1, _ :: rest => replaceFrom target new skip rest

/-- Replaces every occurrence of the non-empty text `target`. -/
def replaceAll (target new s : List Char) : List Char :=
  replaceFrom target new 0 s

end LangServer.Text
