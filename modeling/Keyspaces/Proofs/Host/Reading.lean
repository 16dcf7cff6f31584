import Keyspaces.Proofs.Host
import Keyspaces.Proofs.Text.Strip
import Mathlib.Data.List.Forall2

/-
  What is read from the text of a list of hosts. A host has
  one of three forms: an address in brackets and a port, an
  address and a port, or an address alone. The address that
  is read is trimmed and without brackets unless the entry
  departs from how addresses are written.

  Main declarations:
    * `Host.Form`
    * `Host.Spells`
    * `Host.parseAll_eq_ok_iff`
    * `Host.Departs`
    * `Host.admitted_of_parseAll`
-/

------------------------------------------------------------
-- Forms of a Host
------------------------------------------------------------

namespace Keyspaces

namespace Host

open Text

/- An address between brackets. -/
def inBrackets (address : List Char) : List Char :=
  '[' :: address ++ [']']

/- A text that starts and ends with the two brackets. -/
def IsBracketed (cs : List Char) : Prop :=
  ∃ address, cs = inBrackets address

/-
  A text has no port when it has no colon, or when it has
  several and what is before the last is not in brackets.
-/
def IsPortless (cs : List Char) : Prop :=
  ':' ∉ cs ∨
    ∃ first rest,
      cs = first ++ ':' :: rest ∧ ':' ∉ rest ∧
        ':' ∈ first ∧ ¬ IsBracketed first

/-
  The forms of a host, with its address and the text of its
  port. All brackets are dropped around an address without a
  port, and one pair around any other.
-/
inductive Form :
    List Char → List Char → Option (List Char) → Prop
| bracketed
    {address port : List Char}
    (hPort : ':' ∉ port) :
    Form (inBrackets address ++ ':' :: port) address
      (some port)
| plain
    {address port : List Char}
    (hOpen : ¬ IsBracketed address)
    (hAddress : ':' ∉ address)
    (hPort : ':' ∉ port) :
    Form (address ++ ':' :: port) address (some port)
| bare
    {opening address closing : List Char}
    (hOpening : IsAll isBracket opening)
    (hClosing : IsAll isBracket closing)
    (hAddress : IsStripped isBracket address)
    (hPortless :
      IsPortless (opening ++ address ++ closing)) :
    Form (opening ++ address ++ closing) address none

theorem stripBrackets_eq_strip (cs : List Char) :
    stripBrackets cs = strip isBracket cs :=
  rfl

/- The text between brackets is found if there are two. -/
theorem bracketed?_eq_some_iff (cs address : List Char) :
    bracketed? cs = some address ↔
      cs = inBrackets address := by
  unfold bracketed? inBrackets
  constructor
  · intro hFound
    split at hFound
    case h_1 rest =>
      split at hFound
      case isTrue hLast =>
        cases hFound
        rw [List.cons_append,
          List.dropLast_append_getLast? _ hLast]
      case isFalse => contradiction
    case h_2 => contradiction
  · rintro rfl
    simp

theorem bracketed?_eq_none_iff (cs : List Char) :
    bracketed? cs = none ↔ ¬ IsBracketed cs := by
  unfold IsBracketed
  simp only [← bracketed?_eq_some_iff, not_exists]
  exact Option.eq_none_iff_forall_ne_some

/- A text without a port is an address without brackets. -/
theorem form_stripBrackets
    {cs : List Char}
    (hPortless : IsPortless cs) :
    Form cs (stripBrackets cs) none := by
  rw [stripBrackets_eq_strip]
  obtain ⟨opening, closing, hOpening, hClosing, hSplit⟩ :=
    exists_strip isBracket cs
  have hAddress := isStripped_strip isBracket cs
  generalize strip isBracket cs = address at *
  subst hSplit
  exact .bare hOpening hClosing hAddress hPortless

/- What a text is divided into is one of its forms. -/
theorem form_divide (cs : List Char) :
    Form cs (divide cs).1 (divide cs).2 := by
  unfold divide
  cases hCut : cutLast? ':' cs with
  | none =>
      have hNone := (cutLast?_eq_none_iff ':' cs).mp hCut
      exact form_stripBrackets (.inl hNone)
  | some halves =>
      obtain ⟨first, rest⟩ := halves
      obtain ⟨hSplit, hRest⟩ :=
        (cutLast?_eq_some_iff ':' cs first rest).mp hCut
      dsimp only
      cases hInner : bracketed? first with
      | some address =>
          have hFirst :=
            (bracketed?_eq_some_iff first address).mp hInner
          rw [hSplit, hFirst]
          exact .bracketed hRest
      | none =>
          have hOpen := (bracketed?_eq_none_iff first).mp hInner
          dsimp only
          split
          case isTrue hColon =>
            have hMember := List.contains_iff_mem.mp hColon
            apply form_stripBrackets
            exact
              .inr ⟨first, rest, hSplit, hRest, hMember, hOpen⟩
          case isFalse hColon =>
            rw [List.contains_iff_mem] at hColon
            rw [hSplit]
            exact .plain hOpen hColon hRest

/- A text that is portless is divided as an address. -/
theorem divide_of_isPortless
    {cs : List Char}
    (hPortless : IsPortless cs) :
    divide cs = (stripBrackets cs, none) := by
  unfold divide
  rcases hPortless with
    hNone | ⟨first, rest, rfl, hRest, hColon, hOpen⟩
  · rw [(cutLast?_eq_none_iff ':' cs).mpr hNone]
  · rw [cutLast?_append first hRest]
    dsimp only
    rw [(bracketed?_eq_none_iff first).mpr hOpen]
    dsimp only
    rw [if_pos (List.contains_iff_mem.mpr hColon)]

/- A text is divided as its form says. -/
theorem Form.divide_eq
    {cs address : List Char}
    {port : Option (List Char)}
    (h : Form cs address port) :
    divide cs = (address, port) := by
  cases h with
  | @bracketed _ port hPort =>
      unfold divide
      rw [cutLast?_append _ hPort]
      dsimp only
      rw [(bracketed?_eq_some_iff _ address).mpr rfl]
  | @plain _ port hOpen hAddress hPort =>
      unfold divide
      rw [cutLast?_append _ hPort]
      dsimp only
      rw [(bracketed?_eq_none_iff address).mpr hOpen]
      dsimp only
      rw [if_neg (mt List.contains_iff_mem.mp hAddress)]
  | bare hOpening hClosing hAddress hPortless =>
      rw [divide_of_isPortless hPortless,
        stripBrackets_eq_strip,
        strip_append hOpening hClosing hAddress]

/- A text has one form only. -/
theorem Form.unique
    {cs address other : List Char}
    {port found : Option (List Char)}
    (h : Form cs address port)
    (hOther : Form cs other found) :
    address = other ∧ port = found := by
  rw [← Prod.mk.injEq, ← h.divide_eq, hOther.divide_eq]

/- There is no address in an empty text. -/
theorem Form.ne_nil
    {cs address : List Char}
    {port : Option (List Char)}
    (h : Form cs address port)
    (hAddress : address ≠ []) : cs ≠ [] := by
  cases h with
  | bracketed hPort => simp [inBrackets]
  | plain hOpen hColon hPort => simp
  | bare hOpening hClosing hStripped hPortless =>
      simp [hAddress]

end Host

end Keyspaces

------------------------------------------------------------
-- Texts of Hosts
------------------------------------------------------------

namespace Keyspaces

namespace Host

open Text Number

/-
  The number of a port: what its text is read as, or else the
  default port.
-/
inductive HasPort (defaultPort : Int) :
    Option (List Char) → Int → Prop
| given
    {port : List Char}
    {n : Int}
    (hRead :
      Integer.readLiberal (String.ofList port) = .value n) :
    HasPort defaultPort (some port) n
| missing : HasPort defaultPort none defaultPort

/- A number that a port can have. -/
def IsPort (n : Int) : Prop :=
  1 ≤ n ∧ n ≤ 65535

instance (n : Int) : Decidable (IsPort n) :=
  inferInstanceAs (Decidable (1 ≤ n ∧ n ≤ 65535))

/-
  A text spells a host when it has a form with its address,
  which is not empty, and with its port.
-/
inductive Spells (defaultPort : Int) :
    List Char → Host → Prop
| intro
    {cs address : List Char}
    {port : Option (List Char)}
    {n : Int}
    (hForm : Form cs address port)
    (hAddress : address ≠ [])
    (hPort : HasPort defaultPort port n)
    (hRange : IsPort n) :
    Spells defaultPort cs ⟨String.ofList address, .int n⟩

/- The value of a port: its text, or else the default port. -/
def portValue
    (defaultPort : Int) : Option (List Char) → Value
| some port => .text (String.ofList port)
| none => .int defaultPort

/- The port of a host is read as a number. -/
theorem portNumber_eq_ok_iff
    (defaultPort : Int)
    (port : Option (List Char))
    (value : Value)
    (n : Int) :
    portNumber (portValue defaultPort port) =
        .ok (value, n) ↔
      HasPort defaultPort port n ∧ value = .int n := by
  constructor
  · intro hRead
    cases port with
    | none =>
        cases hRead
        exact ⟨.missing, rfl⟩
    | some cs =>
        obtain ⟨m, hNumber, hSame⟩ :=
          (Outcome.map_eq_ok_iff _ _ _).mp hRead
        cases hSame
        change
          Value.ofReading _
              (Integer.readLiberal (String.ofList cs)) =
            .ok n at hNumber
        unfold Value.ofReading at hNumber
        split at hNumber
        case h_1 found hFound =>
          cases hNumber
          exact ⟨.given hFound, rfl⟩
        case h_2 => contradiction
        case h_3 => contradiction
  · rintro ⟨hPort, rfl⟩
    cases hPort with
    | missing => rfl
    | @given cs _ hRead =>
        apply (Outcome.map_eq_ok_iff _ _ _).mpr
        refine ⟨n, ?_, rfl⟩
        change
          Value.ofReading _
              (Integer.readLiberal (String.ofList cs)) =
            .ok n
        rw [hRead]
        rfl

/- A text is read as the host that it spells. -/
theorem parseText_eq_ok_iff
    (text : String)
    (defaultPort : Int)
    (host : Host) :
    parseText text (.int defaultPort) = .ok host ↔
      Spells defaultPort text.toList host := by
  unfold parseText
  constructor
  · intro hParse
    have hForm := form_divide text.toList
    generalize divide text.toList = halves at hParse hForm
    obtain ⟨address, port⟩ := halves
    obtain ⟨⟨value, n⟩, hNumber, hHost⟩ :=
      (Outcome.bind_eq_ok_iff _ _ _).mp hParse
    obtain ⟨hPort, rfl⟩ :=
      (portNumber_eq_ok_iff defaultPort port value n).mp
        ((Outcome.mapError_eq_ok_iff _ _ _).mp hNumber)
    dsimp only at hHost
    split at hHost
    case isTrue => contradiction
    case isFalse hAddress =>
      split at hHost
      case isTrue hRange =>
        cases hHost
        rw [List.isEmpty_iff] at hAddress
        simp only [Bool.and_eq_true, decide_eq_true_eq]
          at hRange
        refine .intro hForm hAddress hPort ⟨?_, ?_⟩ <;> omega
      case isFalse => contradiction
  · intro hSpells
    cases hSpells with
    | @intro address port n hForm hAddress hPort hRange =>
        rw [hForm.divide_eq]
        apply (Outcome.bind_eq_ok_iff _ _ _).mpr
        refine ⟨(.int n, n), ?_, ?_⟩
        · apply (Outcome.mapError_eq_ok_iff _ _ _).mpr
          apply
            (portNumber_eq_ok_iff defaultPort port _ n).mpr
          exact ⟨hPort, rfl⟩
        · obtain ⟨hLow, hHigh⟩ := hRange
          have hFilled : ¬ address.isEmpty = true := by
            rwa [List.isEmpty_iff]
          dsimp only
          rw [if_neg hFilled, if_pos]
          simp only [Bool.and_eq_true, decide_eq_true_eq]
          omega

end Host

end Keyspaces

------------------------------------------------------------
-- Lists of Hosts
------------------------------------------------------------

namespace Keyspaces

namespace Host

open Text

section Pairs

variable {α β : Type}
variable {related : α → β → Prop}
variable {left : List α}
variable {right : List β}

/- What is on the left of a pair is related to something. -/
theorem exists_right
    (h : List.Forall₂ related left right) :
    ∀ a ∈ left, ∃ b, related a b := by
  have hBoth :
      List.Forall₂
        (fun a b => (∃ other, related a other) ∧ related a b)
        left right :=
    h.imp fun _ b hPair => ⟨⟨b, hPair⟩, hPair⟩
  exact ((List.forall₂_and_left _ _).mp hBoth).1

/- Something is related to what is on the right of a pair. -/
theorem exists_left
    (h : List.Forall₂ related left right) :
    ∀ b ∈ right, ∃ a, related a b := by
  have hFlipped : List.Forall₂ (flip related) right left :=
    .flip h
  exact exists_right hFlipped

end Pairs

/- The entries of a text, which are separated by commas. -/
def entries (text : String) : List (List Char) :=
  (text.toList.splitOn ',').map trimChars

/- Entries are read when each of them is. -/
theorem parseEntries_eq_ok_iff
    (defaultPort : Value)
    (items : List Value)
    (hosts : List Host) :
    parseEntries defaultPort items = .ok hosts ↔
      List.Forall₂
        (fun item host =>
          parseEntry defaultPort item = .ok host)
        items hosts := by
  induction items generalizing hosts with
  | nil =>
      rw [List.forall₂_nil_left_iff]
      constructor
      · intro hParse
        cases hParse
        rfl
      · rintro rfl
        rfl
  | cons item items ih =>
      unfold parseEntries
      simp only [Outcome.bind_eq_ok_iff, ih,
        List.forall₂_cons_left_iff, Except.ok.injEq]
      constructor
      · rintro ⟨host, hHost, rest, hRest, rfl⟩
        exact ⟨host, rest, hHost, hRest, rfl⟩
      · rintro ⟨host, rest, hHost, hRest, rfl⟩
        exact ⟨host, hHost, rest, hRest, rfl⟩

/- An entry is read as the host that it spells when trimmed. -/
theorem parseEntry_text_eq_ok_iff
    (defaultPort : Int)
    (part : List Char)
    (host : Host) :
    parseEntry (.int defaultPort)
        (.text (String.ofList part)) = .ok host ↔
      Spells defaultPort (trimChars part) host := by
  have hTrimmed :
      (trim (String.ofList part)).toList =
        trimChars part := by
    rw [trim, String.toList_ofList, String.toList_ofList]
  rw [← hTrimmed, ← parseText_eq_ok_iff]
  rfl

/- What spells a host is not empty. -/
theorem Spells.ne_nil
    {defaultPort : Int}
    {cs : List Char}
    {host : Host}
    (h : Spells defaultPort cs host) : cs ≠ [] := by
  cases h with
  | intro hForm hAddress hPort hRange =>
      exact hForm.ne_nil hAddress

/- Parts of a text as values. -/
def textItems (parts : List (List Char)) : List Value :=
  parts.map fun part => .text (String.ofList part)

/-
  Parts are read when each of them spells a host, and to
  refuse empty ones before makes no difference to this.
-/
theorem parseFilled_eq_ok_iff
    (parts : List (List Char))
    (defaultPort : Int)
    (failure : Failure)
    (hosts : List Host) :
    (if (textItems parts).all Value.isTruthy then
          parseEntries (.int defaultPort) (textItems parts)
        else .error failure) =
        .ok hosts ↔
      List.Forall₂ (Spells defaultPort)
        (parts.map trimChars) hosts := by
  have hParsed :
      parseEntries (.int defaultPort) (textItems parts) =
          .ok hosts ↔
        List.Forall₂ (Spells defaultPort)
          (parts.map trimChars) hosts := by
    rw [parseEntries_eq_ok_iff, textItems,
      List.forall₂_map_left_iff, List.forall₂_map_left_iff]
    simp only [parseEntry_text_eq_ok_iff]
  have hFilled :
      List.Forall₂ (Spells defaultPort)
          (parts.map trimChars) hosts →
        (textItems parts).all Value.isTruthy = true := by
    intro hSpells
    rw [List.all_eq_true]
    intro item hItem
    obtain ⟨part, hPart, rfl⟩ := List.mem_map.mp hItem
    obtain ⟨host, hHost⟩ :=
      exists_right hSpells _ (List.mem_map_of_mem hPart)
    have hSome : part ≠ [] := by
      rintro rfl
      exact hHost.ne_nil rfl
    simpa [Value.isTruthy] using hSome
  split
  case isTrue => exact hParsed
  case isFalse hEmpty =>
    exact
      iff_of_false (fun hParse => nomatch hParse)
        (mt hFilled hEmpty)

/- A text is read as the hosts that its entries spell. -/
theorem parseAll_eq_ok_iff
    (text : String)
    (defaultPort : Int)
    (hosts : List Host) :
    parseAll (.text text) (.int defaultPort) = .ok hosts ↔
      List.Forall₂ (Spells defaultPort) (entries text)
        hosts := by
  have hItems :
      Value.commaSeparated text = textItems (entries text) := by
    rw [Value.commaSeparated, pieces_eq_splitOn, textItems,
      entries, List.map_map]
    rfl
  have hTrimmed :
      (entries text).map trimChars = entries text := by
    rw [entries, List.map_map]
    apply List.map_congr_left
    intro part _
    exact strip_strip isBlank part
  by_cases hEmpty : text = ""
  · subst hEmpty
    refine iff_of_false (fun hParse => nomatch hParse) ?_
    intro hSpells
    obtain ⟨host, hHost⟩ :=
      exists_right hSpells [] List.mem_cons_self
    exact hHost.ne_nil rfl
  · have hParse :
        parseAll (.text text) (.int defaultPort) =
          if (Value.commaSeparated text).all
              Value.isTruthy then
            parseEntries (.int defaultPort)
              (Value.commaSeparated text)
          else .error (.emptyHost (.text text)) := by
      unfold parseAll
      rw [if_neg (by simpa [Value.isTruthy] using hEmpty)]
      rfl
    rw [hParse, hItems, parseFilled_eq_ok_iff, hTrimmed]

end Host

end Keyspaces

------------------------------------------------------------
-- Well-Formed Hosts
------------------------------------------------------------

namespace Keyspaces

namespace Host

open Text

/- An address without blanks around it and without brackets. -/
def IsClean (address : List Char) : Prop :=
  IsStripped isBlank address ∧
    ∀ c ∈ address, isBracket c = false

/-
  A host is well formed if it has an address that is clean and
  a port in range.
-/
structure WellFormed (host : Host) : Prop where
  address : host.address ≠ ""
  clean : IsClean host.address.toList
  port : ∃ n, host.port = .int n ∧ IsPort n

/-
  An entry departs from how addresses are written if blanks or
  brackets are left in the address: next to the brackets that
  are dropped, in front of the colon of a port, or inside.
-/
inductive Departs : List Char → Prop
| bracketed
    {address port : List Char}
    (hPort : ':' ∉ port)
    (hUnclean : ¬ IsClean address) :
    Departs (inBrackets address ++ ':' :: port)
| plain
    {address port : List Char}
    (hOpen : ¬ IsBracketed address)
    (hAddress : ':' ∉ address)
    (hPort : ':' ∉ port)
    (hUnclean :
      (∃ c ∈ address.getLast?, isBlank c = true) ∨
        ∃ c ∈ address, isBracket c = true) :
    Departs (address ++ ':' :: port)
| bare
    {opening address closing : List Char}
    (hOpening : IsAll isBracket opening)
    (hClosing : IsAll isBracket closing)
    (hAddress : IsStripped isBracket address)
    (hPortless : IsPortless (opening ++ address ++ closing))
    (hUnclean : ¬ IsClean address) :
    Departs (opening ++ address ++ closing)

/- An entry that departs has an address that is not clean. -/
theorem Departs.exists_form
    {entry : List Char}
    (h : Departs entry) :
    ∃ address port,
      Form entry address port ∧ ¬ IsClean address := by
  cases h with
  | @bracketed address port hPort hUnclean =>
      exact ⟨address, some port, .bracketed hPort, hUnclean⟩
  | @plain address port hOpen hAddress hPort hUnclean =>
      refine
        ⟨address, some port, .plain hOpen hAddress hPort, ?_⟩
      rintro ⟨⟨_, hLast⟩, hBrackets⟩
      rcases hUnclean with
        ⟨c, hMember, hBlank⟩ | ⟨c, hMember, hBracket⟩
      · rw [hLast c hMember] at hBlank
        contradiction
      · rw [hBrackets c hMember] at hBracket
        contradiction
  | @bare opening address closing hOpening hClosing hAddress
      hPortless hUnclean =>
      exact
        ⟨address, none,
          .bare hOpening hClosing hAddress hPortless,
          hUnclean⟩

/-
  The address of a trimmed entry is clean if the entry does
  not depart.
-/
theorem isClean_iff_not_departs
    {entry address : List Char}
    {port : Option (List Char)}
    (hForm : Form entry address port)
    (hTrimmed : IsStripped isBlank entry) :
    IsClean address ↔ ¬ Departs entry := by
  constructor
  · intro hClean hDeparts
    obtain ⟨other, found, hOther, hUnclean⟩ :=
      hDeparts.exists_form
    obtain ⟨rfl, _⟩ := hForm.unique hOther
    exact hUnclean hClean
  · intro hNot
    by_contra hUnclean
    apply hNot
    cases hForm with
    | bracketed hPort => exact .bracketed hPort hUnclean
    | bare hOpening hClosing hAddress hPortless =>
        exact
          .bare hOpening hClosing hAddress hPortless hUnclean
    | plain hOpen hAddress hPort =>
        refine .plain hOpen hAddress hPort ?_
        by_contra hNone
        simp only [not_or, not_exists, not_and,
          Bool.not_eq_true] at hNone
        refine hUnclean ⟨⟨?_, hNone.1⟩, hNone.2⟩
        -- The entry starts with the address.
        intro c hFirst
        apply hTrimmed.1 c
        rw [List.head?_append, Option.mem_def.mp hFirst]
        rfl

/-
  The hosts that are read from a text: one for each entry, in
  order, with an address that is not empty and a port in
  range. They are well formed unless their entries depart.
-/
structure Admitted
    (defaultPort : Int)
    (text : String)
    (hosts : List Host) : Prop where
  spelled :
    List.Forall₂ (Spells defaultPort) (entries text) hosts
  address : ∀ host ∈ hosts, host.address ≠ ""
  port :
    ∀ host ∈ hosts, ∃ n, host.port = .int n ∧ IsPort n
  wellFormed_iff :
    List.Forall₂
      (fun entry host => WellFormed host ↔ ¬ Departs entry)
      (entries text) hosts

/- What a text spells has an address and a port in range. -/
theorem Spells.address_ne
    {defaultPort : Int}
    {cs : List Char}
    {host : Host}
    (h : Spells defaultPort cs host) :
    host.address ≠ "" := by
  cases h with
  | @intro address _ _ _ hAddress _ _ =>
      intro hEmpty
      apply hAddress
      have hText : String.ofList address = "" := hEmpty
      rw [← String.toList_ofList (l := address), hText]
      rfl

theorem Spells.exists_port
    {defaultPort : Int}
    {cs : List Char}
    {host : Host}
    (h : Spells defaultPort cs host) :
    ∃ n, host.port = .int n ∧ IsPort n := by
  cases h with
  | intro _ _ _ hRange => exact ⟨_, rfl, hRange⟩

/- What a trimmed text spells is well formed or it departs. -/
theorem Spells.wellFormed_iff
    {defaultPort : Int}
    {entry : List Char}
    {host : Host}
    (h : Spells defaultPort entry host)
    (hTrimmed : IsStripped isBlank entry) :
    WellFormed host ↔ ¬ Departs entry := by
  have hAddress := h.address_ne
  have hPort := h.exists_port
  cases h with
  | @intro address port n hForm _ _ _ =>
      rw [← isClean_iff_not_departs hForm hTrimmed]
      constructor
      · intro hWellFormed
        have hClean := hWellFormed.clean
        rwa [String.toList_ofList] at hClean
      · intro hClean
        refine ⟨hAddress, ?_, hPort⟩
        rwa [String.toList_ofList]

/- The hosts of every text that is read are admitted. -/
theorem admitted_of_parseAll
    {defaultPort : Int}
    {text : String}
    {hosts : List Host}
    (h :
      parseAll (.text text) (.int defaultPort) = .ok hosts) :
    Admitted defaultPort text hosts := by
  have hSpelled :=
    (parseAll_eq_ok_iff text defaultPort hosts).mp h
  constructor
  case spelled => exact hSpelled
  case address =>
    intro host hHost
    obtain ⟨entry, hSpells⟩ := exists_left hSpelled host hHost
    exact hSpells.address_ne
  case port =>
    intro host hHost
    obtain ⟨entry, hSpells⟩ := exists_left hSpelled host hHost
    exact hSpells.exists_port
  case wellFormed_iff =>
    rw [entries, List.forall₂_map_left_iff] at hSpelled ⊢
    apply hSpelled.imp
    intro part host hSpells
    apply hSpells.wellFormed_iff
    rw [trimChars_eq_strip]
    exact isStripped_strip isBlank part

/- An address in brackets, one with a port, and one alone. -/
theorem admitted_sample :
    ∃ hosts,
      parseAll (.text " [::1]:9160, a : 1 ,fe80::2 ")
            (.int 9042) =
          .ok hosts ∧
        Admitted 9042 " [::1]:9160, a : 1 ,fe80::2 " hosts :=
  ⟨[⟨"::1", .int 9160⟩, ⟨"a ", .int 1⟩,
      ⟨"fe80::2", .int 9042⟩],
    rfl, admitted_of_parseAll rfl⟩

/- A blank in front of the colon stays in the address. -/
theorem not_wellFormed_blankAddress :
    ¬ ∀ hosts,
      parseAll (.text "a :9042") (.int 9042) = .ok hosts →
        ∀ host ∈ hosts, WellFormed host := by
  intro hAll
  have hHost :=
    hAll [⟨"a ", .int 9042⟩] rfl _ List.mem_cons_self
  have hLast := hHost.clean.1.2 ' ' rfl
  contradiction

end Host

end Keyspaces
