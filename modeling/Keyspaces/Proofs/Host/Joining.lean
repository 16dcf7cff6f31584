import Keyspaces.Proofs.Host.Reading

/-
  Lists of hosts that are put together and taken apart. Two
  texts with a comma between them are read when both are, and
  a text is read like the sequence of its parts, although a
  sequence is trimmed after its entries are found to be
  filled and a text before.

  Main declarations:
    * `Host.entries_append`
    * `Host.parseAll_append_eq_ok_iff`
    * `Host.parseAll_sequence_eq_ok_iff`
    * `Host.Compositional`
    * `Host.compositional_parseAll`
-/

------------------------------------------------------------
-- Texts with a Comma Between Them
------------------------------------------------------------

namespace Keyspaces

namespace Host

open Text Outcome

section Pairs

variable {α β : Type}
variable {related : α → β → Prop}

/- Pairs of two lists in a row are those of each of them. -/
theorem forall₂_append_left_iff
    (first second : List α)
    (right : List β) :
    List.Forall₂ related (first ++ second) right ↔
      ∃ own other,
        List.Forall₂ related first own ∧
          List.Forall₂ related second other ∧
            right = own ++ other := by
  induction first generalizing right with
  | nil => simp
  | cons a first ih =>
      rw [List.cons_append, List.forall₂_cons_left_iff]
      constructor
      · rintro ⟨b, rest, hPair, hRest, rfl⟩
        rcases (ih rest).mp hRest with
          ⟨own, other, hOwn, hOther, rfl⟩
        exact
          ⟨b :: own, other, .cons hPair hOwn, hOther, rfl⟩
      · rintro ⟨_, other, hOwn, hOther, rfl⟩
        cases hOwn with
        | @cons _ b _ own hPair hRest =>
            have hBoth :=
              (ih (own ++ other)).mpr
                ⟨own, other, hRest, hOther, rfl⟩
            exact ⟨b, own ++ other, hPair, hBoth, rfl⟩

end Pairs

/- Two texts with a comma between them. -/
def joined (first second : String) : String :=
  first ++ "," ++ second

/- The entries of two texts are those of each of them. -/
theorem entries_append (first second : String) :
    entries (joined first second) =
      entries first ++ entries second := by
  have hText :
      (joined first second).toList =
        first.toList ++ ',' :: second.toList := by
    simp [joined]
  unfold entries
  rw [hText, List.splitOn_append_cons_self, List.map_append]

/-
  Two texts with a comma between them are read when both are,
  as the hosts of the first and then those of the second.
-/
theorem parseAll_append_eq_ok_iff
    (first second : String)
    (defaultPort : Int)
    (hosts : List Host) :
    parseAll (.text (joined first second))
          (.int defaultPort) =
        .ok hosts ↔
      ∃ own other,
        parseAll (.text first) (.int defaultPort) =
            .ok own ∧
          parseAll (.text second) (.int defaultPort) =
              .ok other ∧
            hosts = own ++ other := by
  simp only [parseAll_eq_ok_iff, entries_append,
    forall₂_append_left_iff]

end Host

end Keyspaces

------------------------------------------------------------
-- Sequences of Texts
------------------------------------------------------------

namespace Keyspaces

namespace Host

open Text Outcome

/- Texts as one sequence. -/
def sequence (texts : List (List Char)) : Value :=
  .list (textItems texts)

/- The parts of a text between commas, as they are written. -/
def parts (text : String) : List (List Char) :=
  text.toList.splitOn ','

/-
  A sequence is read when it is not empty and each of its
  texts, once it is trimmed, spells a host.
-/
theorem parseAll_sequence_eq_ok_iff
    (texts : List (List Char))
    (defaultPort : Int)
    (hosts : List Host) :
    parseAll (sequence texts) (.int defaultPort) =
        .ok hosts ↔
      texts ≠ [] ∧
        List.Forall₂ (Spells defaultPort)
          (texts.map trimChars) hosts := by
  cases texts with
  | nil =>
      exact
        iff_of_false (fun hParse => nomatch hParse)
          fun hSome => hSome.1 rfl
  | cons first rest =>
      rw [and_iff_right (List.cons_ne_nil first rest)]
      exact
        parseFilled_eq_ok_iff (first :: rest) defaultPort
          _ hosts

/- A sequence of texts can be shown. -/
theorem isWritable_sequence (texts : List (List Char)) :
    (sequence texts).isWritable = true := by
  unfold sequence textItems Value.isWritable
  induction texts with
  | nil => rfl
  | cons text texts ih => exact ih

/- A sequence of texts is refused for what they say. -/
theorem failsAs_parseAll_sequence
    (texts : List (List Char))
    (defaultPort : Int) :
    FailsAs (· = .configuration)
      (parseAll (sequence texts) (.int defaultPort)) := by
  unfold parseAll
  split
  · exact .error rfl
  · refine .bind (.ok _) ?_
    intro items hItems
    cases hItems
    split
    · apply failsAs_parseEntries
      intro entry hEntry
      obtain ⟨part, _, rfl⟩ := List.mem_map.mp hEntry
      exact ⟨_, rfl⟩
    · rw [Failure.showing_of_writable
        (isWritable_sequence texts)]
      exact .error rfl

end Host

end Keyspaces

------------------------------------------------------------
-- Reading Composes
------------------------------------------------------------

namespace Keyspaces

namespace Host

open Text Outcome

/- Hosts are refused as a fault in the configuration. -/
def IsRefused (outcome : Except Failure (List Host)) : Prop :=
  ∃ failure,
    outcome = .error failure ∧ failure.kind = .configuration

/- What is refused like this is refused if nothing is read. -/
theorem isRefused_of_not_ok
    {outcome : Except Failure (List Host)}
    (hFails : FailsAs (· = .configuration) outcome)
    (hNone : ∀ hosts, outcome ≠ .ok hosts) :
    IsRefused outcome := by
  cases outcome with
  | ok hosts => exact absurd rfl (hNone hosts)
  | error failure => exact ⟨failure, rfl, hFails failure rfl⟩

/-
  Reading hosts with a default port composes. Two texts with a
  comma between them are read exactly when both are, as the
  hosts of both in order, and refused otherwise. A text and
  the sequence of its parts are read as the same hosts, or
  both are refused.
-/
structure Compositional (defaultPort : Int) : Prop where
  read :
    ∀ first second hosts,
      parseAll (.text (joined first second))
            (.int defaultPort) =
          .ok hosts ↔
        ∃ own other,
          parseAll (.text first) (.int defaultPort) =
              .ok own ∧
            parseAll (.text second) (.int defaultPort) =
                .ok other ∧
              hosts = own ++ other
  refused :
    ∀ first second,
      ¬ (∃ own other,
          parseAll (.text first) (.int defaultPort) =
              .ok own ∧
            parseAll (.text second) (.int defaultPort) =
              .ok other) →
        IsRefused
          (parseAll (.text (joined first second))
            (.int defaultPort))
  alike :
    ∀ text,
      (∃ hosts,
          parseAll (.text text) (.int defaultPort) =
              .ok hosts ∧
            parseAll (sequence (parts text))
                (.int defaultPort) =
              .ok hosts) ∨
        IsRefused (parseAll (.text text) (.int defaultPort)) ∧
          IsRefused
            (parseAll (sequence (parts text))
              (.int defaultPort))

/- Reading hosts composes with every default port. -/
theorem compositional_parseAll (defaultPort : Int) :
    Compositional defaultPort := by
  constructor
  case read =>
    intro first second hosts
    exact
      parseAll_append_eq_ok_iff first second defaultPort hosts
  case refused =>
    intro first second hNot
    apply isRefused_of_not_ok (failsAs_parseAll _ _)
    intro hosts hRead
    rw [parseAll_append_eq_ok_iff] at hRead
    obtain ⟨own, other, hOwn, hOther, _⟩ := hRead
    exact hNot ⟨own, other, hOwn, hOther⟩
  case alike =>
    intro text
    have hSame : ∀ hosts,
        parseAll (sequence (parts text)) (.int defaultPort) =
            .ok hosts ↔
          parseAll (.text text) (.int defaultPort) =
            .ok hosts := by
      intro hosts
      have hSome : parts text ≠ [] := List.splitOn_ne_nil _ _
      rw [parseAll_sequence_eq_ok_iff, and_iff_right hSome,
        parseAll_eq_ok_iff, entries, parts]
    cases hText : parseAll (.text text) (.int defaultPort) with
    | ok hosts =>
        exact .inl ⟨hosts, rfl, (hSame hosts).mpr hText⟩
    | error failure =>
        have hRefused := failsAs_parseAll text defaultPort
        refine .inr ⟨?_, ?_⟩
        · exact ⟨failure, rfl, hRefused failure hText⟩
        · apply isRefused_of_not_ok
            (failsAs_parseAll_sequence _ _)
          intro hosts hRead
          have hBoth := (hSame hosts).mp hRead
          rw [hText] at hBoth
          contradiction

/- A blank entry is refused in a text and in a sequence. -/
example :
    (parseAll (.text "a, ,b") (.int 1)).toOption.isNone ∧
      (parseAll (sequence (parts "a, ,b"))
        (.int 1)).toOption.isNone := by
  decide +kernel

end Host

end Keyspaces
