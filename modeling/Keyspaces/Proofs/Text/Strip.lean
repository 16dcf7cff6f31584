import Keyspaces.Text.Blank
import Keyspaces.Text.Split
import Mathlib.Data.List.DropRight
import Mathlib.Data.List.TakeWhile

/-
  Texts that are stripped of characters on both sides, and
  texts that are divided at a separator: what remains of them,
  and what they are made of.

  Main declarations:
    * `Text.IsStripped`
    * `Text.exists_strip`
    * `Text.strip_append`
    * `Text.cutLast?_eq_some_iff`
    * `Text.pieces_eq_splitOn`
    * `Text.not_mem_of_mem_pieces`
-/

------------------------------------------------------------
-- Stripping
------------------------------------------------------------

namespace Keyspaces

namespace Text

/- Drop the characters of a sort on both sides. -/
def strip
    (sort : Char → Bool)
    (cs : List Char) : List Char :=
  (cs.dropWhile sort).rdropWhile sort

/- Trimming strips a text of blanks. -/
theorem trimChars_eq_strip (cs : List Char) :
    trimChars cs = strip isBlank cs :=
  rfl

/- Neither the first character nor the last is of a sort. -/
def IsStripped
    (sort : Char → Bool)
    (cs : List Char) : Prop :=
  (∀ c ∈ cs.head?, sort c = false) ∧
    ∀ c ∈ cs.getLast?, sort c = false

/- All characters are of a sort. -/
def IsAll
    (sort : Char → Bool)
    (cs : List Char) : Prop :=
  ∀ c ∈ cs, sort c = true

variable {sort : Char → Bool}
variable {left cs right : List Char}

instance : Decidable (IsAll sort cs) :=
  decidable_of_iff (cs.all sort = true) List.all_eq_true

instance : Decidable (IsStripped sort cs) :=
  decidable_of_iff
    (cs.head?.all (fun c => !sort c) = true ∧
      cs.getLast?.all (fun c => !sort c) = true)
    (by simp [IsStripped, Option.all_eq_true])

theorem isAll_nil : IsAll sort [] :=
  fun _ hMember => nomatch hMember

/- What is stripped has no such characters on its sides. -/
theorem isStripped_strip
    (sort : Char → Bool)
    (cs : List Char) : IsStripped sort (strip sort cs) := by
  constructor
  · intro c hFirst
    have hDropped := List.head?_dropWhile_not sort cs
    obtain ⟨rest, hRest⟩ :=
      List.rdropWhile_prefix sort (cs.dropWhile sort)
    have hOwn :
        ((cs.dropWhile sort).rdropWhile sort).head? =
          some c :=
      hFirst
    have hHead : (cs.dropWhile sort).head? = some c := by
      rw [← hRest, List.head?_append, hOwn, Option.some_or]
    rw [hHead] at hDropped
    exact hDropped
  · intro c hLast
    obtain ⟨hSome, rfl⟩ := List.mem_getLast?_eq_getLast hLast
    rw [← Bool.not_eq_true]
    exact List.rdropWhile_last_not sort _ hSome

/- A text is what is stripped and what is left of it. -/
theorem exists_strip
    (sort : Char → Bool)
    (cs : List Char) :
    ∃ left right,
      IsAll sort left ∧ IsAll sort right ∧
        cs = left ++ strip sort cs ++ right := by
  refine
    ⟨cs.takeWhile sort, (cs.dropWhile sort).rtakeWhile sort,
      fun _ => List.mem_takeWhile_imp,
      fun _ => List.mem_rtakeWhile_imp, ?_⟩
  rw [strip, List.append_assoc,
    List.rdropWhile_append_rtakeWhile,
    List.takeWhile_append_dropWhile]

/- Characters put on the sides are stripped again. -/
theorem strip_append
    (hLeft : IsAll sort left)
    (hRight : IsAll sort right)
    (hStripped : IsStripped sort cs) :
    strip sort (left ++ cs ++ right) = cs := by
  unfold strip
  rw [List.append_assoc, List.dropWhile_append_of_pos hLeft]
  cases cs with
  | nil =>
      rw [List.nil_append, List.dropWhile_eq_nil_iff.mpr hRight]
      rfl
  | cons c rest =>
      have hFirst : sort c = false := hStripped.1 c rfl
      have hReversed : IsAll sort right.reverse :=
        fun d hMember => hRight d (List.mem_reverse.mp hMember)
      have hKept :
          (c :: rest).rdropWhile sort = c :: rest := by
        rw [List.rdropWhile_eq_self_iff]
        intro hSome
        rw [Bool.not_eq_true]
        exact
          hStripped.2 _ (List.getLast?_eq_some_getLast hSome)
      have hStays :
          (c :: rest ++ right).dropWhile sort =
            c :: rest ++ right := by
        simp [hFirst]
      rw [hStays, List.rdropWhile, List.reverse_append,
        List.dropWhile_append_of_pos hReversed]
      exact hKept

/- A text without such sides stays as it is. -/
theorem strip_eq_self
    (hStripped : IsStripped sort cs) :
    strip sort cs = cs := by
  have hSame := strip_append isAll_nil isAll_nil hStripped
  rwa [List.nil_append, List.append_nil] at hSame

/- Stripping twice is stripping once. -/
theorem strip_strip
    (sort : Char → Bool)
    (cs : List Char) :
    strip sort (strip sort cs) = strip sort cs :=
  strip_eq_self (isStripped_strip sort cs)

/- A text that is trimmed stays as it is. -/
theorem trim_trim (s : String) : trim (trim s) = trim s := by
  unfold trim
  rw [String.toList_ofList, trimChars_eq_strip,
    trimChars_eq_strip, strip_strip]

end Text

end Keyspaces

------------------------------------------------------------
-- Dividing
------------------------------------------------------------

namespace Keyspaces

namespace Text

/- There is no last separator if there is none. -/
theorem cutLast?_eq_none_iff
    (separator : Char)
    (cs : List Char) :
    cutLast? separator cs = none ↔ separator ∉ cs := by
  induction cs with
  | nil => simp [cutLast?]
  | cons c rest ih =>
      rw [cutLast?, List.mem_cons, not_or, ← ih]
      cases cutLast? separator rest with
      | none =>
          by_cases hHere : c = separator
          · simp [hHere]
          · simp [hHere, Ne.symm hHere]
      | some halves => simp

/- No separator comes after the last one. -/
theorem cutLast?_append
    {separator : Char}
    (first : List Char)
    {rest : List Char}
    (hRest : separator ∉ rest) :
    cutLast? separator (first ++ separator :: rest) =
      some (first, rest) := by
  induction first with
  | nil =>
      have hNone := (cutLast?_eq_none_iff _ _).mpr hRest
      simp [cutLast?, hNone]
  | cons c first ih => simp [cutLast?, ih]

/- A text is cut at its last separator. -/
theorem cutLast?_eq_some_iff
    (separator : Char)
    (cs first rest : List Char) :
    cutLast? separator cs = some (first, rest) ↔
      cs = first ++ separator :: rest ∧
        separator ∉ rest := by
  constructor
  · intro hCut
    induction cs generalizing first with
    | nil => contradiction
    | cons c cs ih =>
        unfold cutLast? at hCut
        split at hCut
        case h_1 halves hLater =>
          cases hCut
          obtain ⟨rfl, hRest⟩ := ih halves.1 hLater
          exact ⟨rfl, hRest⟩
        case h_2 hNone =>
          split at hCut
          case isTrue hHere =>
            cases hCut
            refine ⟨by rw [hHere]; rfl, ?_⟩
            exact (cutLast?_eq_none_iff _ _).mp hNone
          case isFalse => contradiction
  · rintro ⟨rfl, hRest⟩
    exact cutLast?_append first hRest

/- The pieces of a text are what it is split into. -/
theorem pieces_eq_splitOn
    (separator : Char)
    (cs : List Char) :
    pieces separator cs = cs.splitOn separator := by
  induction cs with
  | nil => rfl
  | cons c rest ih =>
      rw [pieces, ih, List.splitOn_cons_eq_if_modifyHead]
      cases hParts : rest.splitOn separator with
      | nil => exact absurd hParts (List.splitOn_ne_nil _ _)
      | cons part parts => simp

/- There is no separator in a piece of a text. -/
theorem not_mem_of_mem_pieces
    {separator : Char}
    {part : List Char}
    (h : part ∈ pieces separator cs) : separator ∉ part := by
  induction cs generalizing part with
  | nil =>
      rw [pieces, List.mem_singleton] at h
      simp [h]
  | cons c rest ih =>
      cases hParts : pieces separator rest with
      | nil =>
          rw [pieces_eq_splitOn] at hParts
          exact absurd hParts (List.splitOn_ne_nil _ _)
      | cons first parts =>
          simp only [pieces, hParts] at h ih
          split at h
          case isTrue hHere =>
            rcases List.mem_cons.mp h with rfl | hLater
            · simp
            · exact ih hLater
          case isFalse hOther =>
            rcases List.mem_cons.mp h with rfl | hLater
            · rw [List.mem_cons, not_or]
              exact ⟨Ne.symm hOther, ih List.mem_cons_self⟩
            · exact ih (List.mem_cons_of_mem _ hLater)

end Text

end Keyspaces
