import Keyspaces.Proofs.Host.Reading
import Keyspaces.Proofs.Number.Integer

/-
  The ways to write a host in a list of hosts: with its port,
  in brackets or without them, and without its port if this is
  the default port. However hosts are written, they are read
  back.

  Main declarations:
    * `Host.Writes`
    * `Host.Writes.spells`
    * `Host.Represents`
    * `Host.parseAll_join`
-/

------------------------------------------------------------
-- Ports
------------------------------------------------------------

namespace Keyspaces

namespace Host

open Text Number

/- The decimal text of a port. -/
def portText (port : Int) : List Char :=
  (toString port).toList

/- It is a row of digits. -/
theorem isNumeral_portText
    {port : Int}
    (hRange : IsPort port) :
    Integer.IsNumeral (portText port) := by
  obtain ⟨hLow, _⟩ := hRange
  have hPositive : ¬ port < 0 := by omega
  rw [portText, Integer.toList_toString, if_neg hPositive]
  exact Integer.isNumeral_toDigits _

/- It is read as the port. -/
theorem hasPort_portText
    (defaultPort : Int)
    {port : Int}
    (hRange : IsPort port) :
    HasPort defaultPort (some (portText port)) port := by
  obtain ⟨hLow, hHigh⟩ := hRange
  have hSize : port.natAbs < 2 ^ 64 := by omega
  have hShort := Integer.isShort_toString hSize
  have hDenotes := Integer.denotes_toString port
  exact .given (hDenotes.readLiberal hShort)

/- A character that is no digit is not part of it. -/
theorem not_mem_portText
    {port : Int}
    (hRange : IsPort port)
    {c : Char}
    (hOther : isAsciiDigit c = false) :
    c ∉ portText port := by
  intro hMember
  have hDigit := (isNumeral_portText hRange).2 c hMember
  rw [hOther] at hDigit
  contradiction

/- A digit is no blank. -/
theorem isBlank_of_isAsciiDigit
    {c : Char}
    (hDigit : isAsciiDigit c = true) : isBlank c = false := by
  obtain ⟨hLow, hHigh⟩ := Integer.toNat_of_isAsciiDigit hDigit
  simp only [isBlank, Bool.or_eq_false_iff,
    Bool.and_eq_false_iff, decide_eq_false_iff_not,
    beq_eq_false_iff_ne]
  omega

/- A text with a port behind it does not end with a blank. -/
theorem isStripped_portText
    {first : List Char}
    (hSome : first ≠ [])
    (hFirst : ∀ c ∈ first.head?, isBlank c = false)
    {port : Int}
    (hRange : IsPort port) :
    IsStripped isBlank (first ++ ':' :: portText port) := by
  obtain ⟨hDigits, hDecimal⟩ := isNumeral_portText hRange
  constructor
  · intro c hHead
    apply hFirst
    rwa [List.head?_append_of_ne_nil _ hSome] at hHead
  · intro c hLast
    apply isBlank_of_isAsciiDigit
    apply hDecimal
    apply List.mem_of_getLast?
    rwa [List.append_cons,
      List.getLast?_append_of_ne_nil _ hDigits] at hLast

end Host

end Keyspaces

------------------------------------------------------------
-- Single Hosts
------------------------------------------------------------

namespace Keyspaces

namespace Host

open Text Number

/-
  A text that writes a host with an address and a port. Any
  address may stand in brackets. Without them a port may
  follow an address without colons, and the default port is
  left out after an address that has no colon or several.
-/
inductive Writes
    (defaultPort : Int)
    (address : List Char)
    (port : Int) : List Char → Prop
| bracketed :
    Writes defaultPort address port
      (inBrackets address ++ ':' :: portText port)
| plain
    (hColon : ':' ∉ address)
    (hBlanks : IsStripped isBlank address)
    (hFirst : address.head? ≠ some '[')
    (hLast : address.getLast? ≠ some ']') :
    Writes defaultPort address port
      (address ++ ':' :: portText port)
| bare
    (hDefault : port = defaultPort)
    (hColons : ':' ∉ address ∨ 2 ≤ address.count ':')
    (hBlanks : IsStripped isBlank address)
    (hBrackets : IsStripped isBracket address) :
    Writes defaultPort address port address

variable {defaultPort port : Int}
variable {address cs : List Char}

/- Brackets are seen at the front. -/
theorem IsBracketed.head?_eq
    {first : List Char}
    (h : IsBracketed first)
    (rest : List Char) :
    (first ++ rest).head? = some '[' := by
  obtain ⟨inner, rfl⟩ := h
  rfl

/- An address alone is no address with a port. -/
theorem isPortless_of_count
    (hColons : ':' ∉ address ∨ 2 ≤ address.count ':')
    (hBrackets : IsStripped isBracket address) :
    IsPortless address := by
  rcases hColons with hNone | hSeveral
  · exact .inl hNone
  · right
    cases hCut : cutLast? ':' address with
    | none =>
        have hAbsent := (cutLast?_eq_none_iff _ _).mp hCut
        rw [List.count_eq_zero_of_not_mem hAbsent] at hSeveral
        omega
    | some halves =>
        obtain ⟨first, rest⟩ := halves
        obtain ⟨rfl, hRest⟩ :=
          (cutLast?_eq_some_iff ':' address first rest).mp
            hCut
        refine ⟨first, rest, rfl, hRest, ?_, ?_⟩
        · rw [List.count_append, List.count_cons_self,
            List.count_eq_zero_of_not_mem hRest] at hSeveral
          apply List.count_pos_iff.mp
          omega
        · intro hOpen
          have hFirst := hBrackets.1 '[' (hOpen.head?_eq _)
          contradiction

/- What writes a host spells it. -/
theorem Writes.spells
    (h : Writes defaultPort address port cs)
    (hAddress : address ≠ [])
    (hRange : IsPort port) :
    Spells defaultPort cs
      ⟨String.ofList address, .int port⟩ := by
  have hColon : ':' ∉ portText port :=
    not_mem_portText hRange rfl
  cases h with
  | bracketed =>
      exact
        .intro (.bracketed hColon) hAddress
          (hasPort_portText defaultPort hRange) hRange
  | plain hNoColon hBlanks hFirst hLast =>
      have hOpen : ¬ IsBracketed address := by
        intro hBracketed
        apply hFirst
        simpa using hBracketed.head?_eq []
      exact
        .intro (.plain hOpen hNoColon hColon) hAddress
          (hasPort_portText defaultPort hRange) hRange
  | bare hDefault hColons hBlanks hBrackets =>
      have hForm :
          Form ([] ++ address ++ []) address none := by
        apply Form.bare isAll_nil isAll_nil hBrackets
        rw [List.nil_append, List.append_nil]
        exact isPortless_of_count hColons hBrackets
      rw [List.nil_append, List.append_nil] at hForm
      rw [hDefault] at hRange ⊢
      exact .intro hForm hAddress .missing hRange

/- What writes a host has no blanks around it. -/
theorem Writes.isStripped
    (h : Writes defaultPort address port cs)
    (hAddress : address ≠ [])
    (hRange : IsPort port) : IsStripped isBlank cs := by
  cases h with
  | bracketed =>
      apply isStripped_portText (by simp [inBrackets]) _ hRange
      intro c hFirst
      cases hFirst
      decide
  | plain hNoColon hBlanks hFirst hLast =>
      exact isStripped_portText hAddress hBlanks.1 hRange
  | bare hDefault hColons hBlanks hBrackets => exact hBlanks

/- What writes a host with no comma in its address has none. -/
theorem Writes.comma_not_mem
    (h : Writes defaultPort address port cs)
    (hComma : ',' ∉ address)
    (hRange : IsPort port) : ',' ∉ cs := by
  have hPort : ',' ∉ portText port :=
    not_mem_portText hRange rfl
  cases h with
  | bracketed => simp [inBrackets, hComma, hPort]
  | plain hNoColon hBlanks hFirst hLast =>
      simp [hComma, hPort]
  | bare hDefault hColons hBlanks hBrackets => exact hComma

end Host

end Keyspaces

------------------------------------------------------------
-- Lists of Hosts
------------------------------------------------------------

namespace Keyspaces

namespace Host

open Text

/-
  A text represents a host when it writes it with any blanks
  around. The address is not empty and has no comma, and the
  port is in range.
-/
inductive Represents (defaultPort : Int) :
    String → Host → Prop
| intro
    {address : String}
    {port : Int}
    {left written right : List Char}
    (hAddress : address ≠ "")
    (hComma : ',' ∉ address.toList)
    (hPort : IsPort port)
    (hLeft : IsAll isBlank left)
    (hRight : IsAll isBlank right)
    (hWrites :
      Writes defaultPort address.toList port written) :
    Represents defaultPort
      (String.ofList (left ++ written ++ right))
      ⟨address, .int port⟩

variable {defaultPort : Int}

/- A text that represents a host spells it when trimmed. -/
theorem Represents.spells
    {text : String}
    {host : Host}
    (h : Represents defaultPort text host) :
    Spells defaultPort (trimChars text.toList) host := by
  cases h with
  | @intro address port left written right hAddress hComma
      hPort hLeft hRight hWrites =>
      have hSome : address.toList ≠ [] := by
        rwa [ne_eq, String.toList_eq_nil_iff]
      have hStripped := hWrites.isStripped hSome hPort
      have hSpells := hWrites.spells hSome hPort
      rw [String.ofList_toList] at hSpells
      rw [String.toList_ofList, trimChars_eq_strip,
        strip_append hLeft hRight hStripped]
      exact hSpells

/- A text that represents a host has no comma. -/
theorem Represents.comma_not_mem
    {text : String}
    {host : Host}
    (h : Represents defaultPort text host) :
    ',' ∉ text.toList := by
  have hBlank : ∀ cs, IsAll isBlank cs → ',' ∉ cs := by
    intro cs hAll hMember
    exact absurd (hAll _ hMember) (by decide)
  cases h with
  | intro hAddress hComma hPort hLeft hRight hWrites =>
      rw [String.toList_ofList, List.mem_append,
        List.mem_append, not_or, not_or]
      exact
        ⟨⟨hBlank _ hLeft, hWrites.comma_not_mem hComma hPort⟩,
          hBlank _ hRight⟩

/- The entries of a text that is joined are its parts. -/
theorem entries_join
    {texts : List String}
    (hSome : texts ≠ [])
    (hComma : ∀ text ∈ texts, ',' ∉ text.toList) :
    entries (Text.join "," texts) =
      texts.map fun text => trimChars text.toList := by
  have hParts :
      ∀ part ∈ texts.map String.toList, ',' ∉ part := by
    intro part hPart
    obtain ⟨text, hText, rfl⟩ := List.mem_map.mp hPart
    exact hComma text hText
  have hJoined :
      (Text.join "," texts).toList =
        [','].intercalate (texts.map String.toList) :=
    String.toList_intercalate
  rw [entries, hJoined,
    List.splitOn_intercalate ',' hParts (by simpa using hSome),
    List.map_map]
  rfl

/- Hosts that are written are read back in their order. -/
theorem parseAll_join
    {texts : List String}
    {hosts : List Host}
    (hSome : hosts ≠ [])
    (hTexts :
      List.Forall₂ (Represents defaultPort) texts hosts) :
    parseAll (.text (Text.join "," texts))
        (.int defaultPort) =
      .ok hosts := by
  have hFilled : texts ≠ [] := by
    rintro rfl
    exact hSome (List.forall₂_nil_left_iff.mp hTexts)
  have hComma : ∀ text ∈ texts, ',' ∉ text.toList := by
    intro text hText
    obtain ⟨host, hHost⟩ := exists_right hTexts text hText
    exact hHost.comma_not_mem
  rw [parseAll_eq_ok_iff, entries_join hFilled hComma,
    List.forall₂_map_left_iff]
  exact hTexts.imp fun _ _ hText => hText.spells

namespace Sample

/- Hosts of all three kinds. -/
def hosts : List Host :=
  [⟨"a[b ", .int 80⟩, ⟨"::1", .int 9042⟩,
    ⟨"cass1", .int 9160⟩]

/- Texts that represent them. -/
def texts : List String :=
  [" [a[b ]:80", "::1\t ", "cass1:9160"]

theorem represents_bracketed :
    Represents 9042 " [a[b ]:80" ⟨"a[b ", .int 80⟩ := by
  have hWrites :
      Writes 9042 "a[b ".toList 80 "[a[b ]:80".toList :=
    .bracketed
  have hLeft : IsAll isBlank [' '] := by decide
  exact
    .intro (by decide) (by decide) (by decide) hLeft isAll_nil
      hWrites

theorem represents_bare :
    Represents 9042 "::1\t " ⟨"::1", .int 9042⟩ := by
  have hWrites :
      Writes 9042 "::1".toList 9042 "::1".toList :=
    .bare rfl (.inr (by decide)) (by decide) (by decide)
  have hRight : IsAll isBlank ['\t', ' '] := by decide
  exact
    .intro (by decide) (by decide) (by decide) isAll_nil hRight
      hWrites

theorem represents_plain :
    Represents 9042 "cass1:9160" ⟨"cass1", .int 9160⟩ := by
  have hWrites :
      Writes 9042 "cass1".toList 9160 "cass1:9160".toList :=
    .plain (by decide) (by decide) (by decide) (by decide)
  exact
    .intro (by decide) (by decide) (by decide) isAll_nil
      isAll_nil hWrites

end Sample

/- A blank and a bracket are read back from brackets. -/
theorem parseAll_join_sample :
    Sample.hosts ≠ [] ∧
      List.Forall₂ (Represents 9042) Sample.texts
          Sample.hosts ∧
        parseAll (.text " [a[b ]:80,::1\t ,cass1:9160")
            (.int 9042) =
          .ok Sample.hosts := by
  have hSome : Sample.hosts ≠ [] := List.cons_ne_nil _ _
  have hTexts :
      List.Forall₂ (Represents 9042) Sample.texts
        Sample.hosts :=
    .cons Sample.represents_bracketed
      (.cons Sample.represents_bare
        (.cons Sample.represents_plain .nil))
  exact ⟨hSome, hTexts, parseAll_join hSome hTexts⟩

end Host

end Keyspaces
