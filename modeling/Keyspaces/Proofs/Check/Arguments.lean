import Keyspaces.Check.Arguments
import Mathlib.Data.List.Basic

/-
  A command line that lists a source, names and, behind the
  option for the configuration, further options, leads to a
  check with just these arguments, if none of its texts looks
  like an option of the command.

  Main declarations:
    * `Check.IsPlain`
    * `Check.Arguments.parse_commandLine`
-/

------------------------------------------------------------
-- Tokens
------------------------------------------------------------

namespace Keyspaces

namespace Check

/- A text does not look like an option of the command. -/
def IsPlain (text : String) : Prop :=
  text.toList.head? ≠ some '-'

namespace Token

/- The option for the configuration, as a text. -/
def configureText : String := String.ofList configureName

/- A text that is plain is a value. -/
theorem ofText_of_isPlain
    {text : String}
    (h : IsPlain text) : ofText text = .ok (.value text) := by
  unfold IsPlain at h
  unfold ofText
  cases hText : text.toList with
  | nil => rfl
  | cons c rest =>
      rw [hText] at h
      have hDash : c ≠ '-' := by simpa using h
      split
      case h_5 => rfl
      all_goals
        next hDashes =>
          cases hDashes
          contradiction

/- Texts that are plain are values in front of the rest. -/
theorem ofTexts_append
    {texts : List String}
    (hPlain : ∀ text ∈ texts, IsPlain text)
    {rest : List String}
    {tokens : List Token}
    (hRest : ofTexts rest = .ok tokens) :
    ofTexts (texts ++ rest) =
      .ok (texts.map .value ++ tokens) := by
  induction texts with
  | nil => exact hRest
  | cons text texts ih =>
      rw [List.forall_mem_cons] at hPlain
      rw [List.cons_append, ofTexts,
        ofText_of_isPlain hPlain.1, ih hPlain.2]
      rfl

/- The option for the configuration is one token. -/
theorem ofTexts_configure
    {texts : List String}
    {tokens : List Token}
    (hRest : ofTexts texts = .ok tokens) :
    ofTexts (configureText :: texts) =
      .ok (.configure none :: tokens) := by
  have hToken :
      ofText configureText = .ok (.configure none) := by
    rfl
  rw [ofTexts, hToken, hRest]
  rfl

end Token

end Check

end Keyspaces

------------------------------------------------------------
-- Reading Tokens
------------------------------------------------------------

namespace Keyspaces

namespace Check

namespace Progress

/- Values behind the first one are names. -/
theorem foldlM_names
    (source : String)
    (names more : List String) :
    (more.map Token.value).foldlM step
        ⟨.naming source names, [], false, false⟩ =
      .ok ⟨.naming source (names ++ more), [], false,
        false⟩ := by
  induction more generalizing names with
  | nil => rw [List.append_nil]; rfl
  | cons name more ih =>
      have hRest := ih (names ++ [name])
      rw [List.append_assoc] at hRest
      exact hRest

/- Values behind the option for the configuration are its. -/
theorem foldlM_options
    (stage : Stage)
    (options more : List String) :
    (more.map Token.value).foldlM step
        ⟨stage, options, true, false⟩ =
      .ok ⟨stage, options ++ more, true, false⟩ := by
  induction more generalizing options with
  | nil => rw [List.append_nil]; rfl
  | cons option more ih =>
      have hRest := ih (options ++ [option])
      rw [List.append_assoc] at hRest
      exact hRest

end Progress

namespace Arguments

/- The command line that lists arguments. -/
def commandLine (arguments : Arguments) : List String :=
  arguments.source :: arguments.names ++
    Token.configureText :: arguments.options

/- Arguments that are plain are read from a command line. -/
theorem parse_commandLine
    {arguments : Arguments}
    (hSource : IsPlain arguments.source)
    (hNames : ∀ name ∈ arguments.names, IsPlain name)
    (hOptions : ∀ option ∈ arguments.options, IsPlain option) :
    parse arguments.commandLine = .ok arguments := by
  rcases arguments with ⟨source, names, options⟩
  have hValues :
      Token.ofTexts options = .ok (options.map .value) := by
    have hAll :
        Token.ofTexts (options ++ []) =
          .ok (options.map .value ++ []) :=
      Token.ofTexts_append hOptions rfl
    simpa using hAll
  let tokens :=
    (source :: names).map Token.value ++
      Token.configure none :: options.map Token.value
  have hTokens :
      Token.ofTexts (commandLine ⟨source, names, options⟩) =
        .ok tokens := by
    apply Token.ofTexts_append
    · exact List.forall_mem_cons.mpr ⟨hSource, hNames⟩
    · exact Token.ofTexts_configure hValues
  have hRead :
      tokens.foldlM Progress.step Progress.start =
        .ok ⟨.closed source names, options, true, false⟩ := by
    have hFirst :
        ((source :: names).map Token.value).foldlM
            Progress.step Progress.start =
          .ok ⟨.naming source names, [], false, false⟩ :=
      Progress.foldlM_names source [] names
    rw [List.foldlM_append, hFirst]
    exact
      Progress.foldlM_options (.closed source names) []
        options
  have hSeparator : Token.separatorText ∉ names := by
    intro hMember
    exact hNames _ hMember rfl
  have hFinish :
      Progress.finish
          ⟨.closed source names, options, true, false⟩ =
        .ok ⟨source, names, options⟩ := by
    change
      Except.ok
          (⟨source, names.erase Token.separatorText,
            options⟩ : Arguments) =
        _
    rw [List.erase_of_not_mem hSeparator]
  unfold parse
  rw [hTokens]
  change
    (tokens.foldlM Progress.step Progress.start >>=
      Progress.finish) = _
  rw [hRead]
  exact hFinish

end Arguments

end Check

end Keyspaces
