import RepoSurvey.Proofs.Pattern.Replaced
import RepoSurvey.Proofs.Pattern.Words
import RepoSurvey.Text.Emoji

/-!
# Texts without codes of emoji

A code is a word between two colons, which has no blank (`exists_word_of_matchAt?`). Where no word
stands so, no emoji is put into the text (`replaceEmojiCodes_of_uncoded`).
-/

namespace RepoSurvey.Text

open Pattern

variable {s x y : List Char}

/-- A text in which no word stands between two colons. -/
def Uncoded (s : List Char) : Prop :=
  ∀ word, (∀ c, c ∈ word → isBlank c = false) → ¬ ':' :: (word ++ [':']) <:+: s

/-- What is found is a word between two colons, of which the end may say how the emoji is shown. -/
theorem exists_word_of_matchAt? {m : Match} (found : emojiCode.matchAt? ⟨y, x⟩ = some m) :
    ∃ word rest, x = ':' :: (word ++ [':']) ++ rest ∧ ∀ c, c ∈ word → isBlank c = false := by
  obtain ⟨u, rest, parts, rfl, cuts, -⟩ := exists_cuts_of_matchAt? found
  unfold emojiCode at cuts
  obtain ⟨_, _, _, _, rfl, rfl, front, rfl, rfl⟩ := cuts_append.mp cuts
  obtain ⟨_, shown, _, taken, rfl, rfl, front, word⟩ := cuts_append.mp front
  obtain ⟨_, name, _, _, rfl, rfl, ⟨rfl, rfl⟩, _, rfl, clear, rfl⟩ := cuts_append.mp front
  have solid : ∀ c, c ∈ name → isBlank c = false := fun c hc => by simpa using clear c hc
  have code {tail : List Char} (h : ∀ c, c ∈ tail → isBlank c = false) (c : Char)
      (hc : c ∈ name ++ tail) : isBlank c = false :=
    (List.mem_append.mp hc).elim (solid c) (h c)
  rcases word with word | ⟨rfl, rfl⟩
  · obtain ⟨_, _, _, _, rfl, rfl, ⟨rfl, rfl⟩, _, rfl, form⟩ := cuts_append.mp word
    rcases form with ⟨rfl, rfl⟩ | ⟨rfl, rfl⟩
    · exact ⟨name ++ "-emoji".toList, rest, by simp [pictureWord], code (by decide)⟩
    · exact ⟨name ++ "-text".toList, rest, by simp [textWord], code (by decide)⟩
  · exact ⟨name, rest, by simp, solid⟩

/-- **A text without codes stays as it is.** -/
theorem replaceEmojiCodes_of_uncoded (h : Uncoded s) : replaceEmojiCodes s = s := by
  refine replaceAll_eq_self fun u v m cut found => ?_
  obtain ⟨word, rest, rfl, solid⟩ := exists_word_of_matchAt? found
  exact absurd ⟨u, rest, by rw [cut, List.append_assoc]⟩ (h word solid)

end RepoSurvey.Text
