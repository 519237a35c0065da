import RepoSurvey.Pattern.Search
import RepoSurvey.Text.Case
import RepoSurvey.Text.EmojiTable

/-!
# Codes of emoji

A code is the name of an emoji between two colons, in any case; behind the name may stand,
after a dash, whether the emoji is shown as a picture or as a text. `replaceEmojiCodes`
puts the emoji for the codes of a text. What looks like a code and has no known name stays,
and is passed over as a whole.
-/

namespace RepoSurvey.Text

open Pattern

/-- The emoji of a name. -/
def emoji? (name : List Char) : Option (List Char) :=
  (emojiTable.findSome? (·.lookup (String.ofList name))).map String.toList

/-- The word for an emoji that is shown as a picture. -/
def pictureWord : String := "emoji"

/-- The word for an emoji that is shown as a text. -/
def textWord : String := "text"

/-- The selector that a word stands for, which is written behind the emoji. -/
def selectorOf (word : List Char) : List Char :=
  if word = pictureWord.toList then ['\uFE0F']
  else if word = textWord.toList then ['\uFE0E']
  else []

/-- The shape of a code: the name is taken out under 1 and the word behind it under 2. -/
def emojiCode : Pattern :=
  ":" ++ part 1 (few fun c => !isBlank c) ++
    optional ("-" ++ part 2 (Pattern.words [pictureWord, textWord])) ++ ":"

/-- A text with the emoji for its codes. -/
def replaceEmojiCodes (s : List Char) : List Char :=
  emojiCode.replaceAll
    (fun m =>
      match emoji? (lower (m.part 1)) with
      | some emoji => emoji ++ selectorOf (m.part 2)
      | none => m.start.upTo m.stop)
    s

end RepoSurvey.Text
