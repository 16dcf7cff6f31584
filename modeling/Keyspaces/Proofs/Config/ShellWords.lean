import Keyspaces.Config.ShellWords

/-
  Words that are written in quotes. Any words can be put on a
  line so that the line is divided into just these.

  Main declarations:
    * `ShellWords.inQuotes`
    * `ShellWords.line`
    * `ShellWords.split_line`
-/

------------------------------------------------------------
-- Writing Words
------------------------------------------------------------

namespace Keyspaces

namespace ShellWords

/- The quote that words are written in. -/
def quoteMark : Char := '\x27'

/-
  A character within quotes. The quote itself leaves them, and
  stands between quotes of the other kind.
-/
def writtenChar (c : Char) : List Char :=
  if c = quoteMark then
    [quoteMark, '\x22', quoteMark, '\x22', quoteMark]
  else
    [c]

/- A word in quotes. -/
def inQuotes (word : String) : List Char :=
  quoteMark :: word.toList.flatMap writtenChar ++ [quoteMark]

/- Words in quotes, with a space in front of each. -/
def tail (words : List String) : List Char :=
  words.flatMap fun word => ' ' :: inQuotes word

/- The line with words in quotes. -/
def line (words : List String) : String :=
  String.ofList (tail words)

end ShellWords

end Keyspaces

------------------------------------------------------------
-- Reading Them
------------------------------------------------------------

namespace Keyspaces

namespace ShellWords

/- Within quotes the characters of a word are read. -/
theorem readFrom_written
    (cs token rest : List Char) :
    readFrom (.quote quoteMark) token
        (cs.flatMap writtenChar ++ quoteMark :: rest) =
      readFrom .word (cs.reverse ++ token) rest := by
  induction cs generalizing token with
  | nil => simp [readFrom]
  | cons c cs ih =>
      rw [List.flatMap_cons, List.append_assoc,
        List.reverse_cons, List.append_assoc,
        List.singleton_append, ← ih]
      by_cases hQuote : c = quoteMark
      · subst c
        simp [writtenChar, quoteMark, readFrom, isSpace, enter,
          added, isQuote]
      · simp [writtenChar, quoteMark, readFrom,
          show ¬ c = '\x27' from hQuote]

/- A word in quotes is read where a word can start. -/
theorem readFrom_inQuotes
    (word : String)
    (rest : List Char) :
    readFrom .between [] (inQuotes word ++ rest) =
      readFrom .word word.toList.reverse rest := by
  have hWritten := readFrom_written word.toList [] rest
  have hText :
      inQuotes word ++ rest =
        quoteMark ::
          (word.toList.flatMap writtenChar ++
            quoteMark :: rest) := by
    simp [inQuotes]
  rw [List.append_nil] at hWritten
  rw [← hWritten, hText]
  simp [readFrom, quoteMark, isSpace, enter, added, isQuote]

theorem tail_cons
    (word : String)
    (words : List String) :
    tail (word :: words) =
      ' ' :: (inQuotes word ++ tail words) := by
  rw [tail, List.flatMap_cons, List.cons_append]
  rfl

/- A word ends where the next one or nothing follows. -/
theorem readFrom_word_tail
    (words : List String)
    (token : List Char) :
    readFrom .word token (tail words) =
      .ok (String.ofList token.reverse :: words) := by
  induction words generalizing token with
  | nil => rfl
  | cons word words ih =>
      rw [tail_cons, readFrom]
      simp only [isSpace, decide_true, Bool.true_or, if_true]
      rw [readFrom_inQuotes, ih, List.reverse_reverse,
        String.ofList_toList]
      rfl

/- A line is divided into the words that it is made of. -/
theorem split_line (words : List String) :
    split (line words) = .ok words := by
  rw [split, line, String.toList_ofList]
  cases words with
  | nil => rfl
  | cons word words =>
      rw [tail_cons, readFrom]
      simp only [isSpace, decide_true, Bool.true_or, if_true]
      rw [readFrom_inQuotes, readFrom_word_tail,
        List.reverse_reverse, String.ofList_toList]

end ShellWords

end Keyspaces
