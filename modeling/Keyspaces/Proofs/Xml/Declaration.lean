import Mathlib.Data.Bool.AllAny
import Keyspaces.Proofs.Xml.Prolog

/-
  Documents that start with a declaration of an encoding. What
  is written as the name of the encoding is the name that the
  document is read to have, whatever comes after it.

  Main declarations:
    * `Xml.Encoding.decode_utf8_append`
    * `Xml.Version.setting_written`
    * `Xml.Version.read_settings`
    * `Xml.Document.names_declaration`
-/

------------------------------------------------------------
-- Plain Characters
------------------------------------------------------------

namespace Keyspaces

open Text

namespace Xml

/- An ASCII character that a document can have. -/
def IsPlain (c : Char) : Prop :=
  c.toNat < 0x80 ∧ isXmlChar c = true

instance (c : Char) : Decidable (IsPlain c) := by
  unfold IsPlain
  infer_instance

namespace Encoding

/- A plain character takes one byte. -/
theorem encodeChar_of_isPlain
    {c : Char}
    (h : IsPlain c) :
    Utf8.encodeChar c = [c.toNat.toUInt8] :=
  if_pos h.1

/- A plain character is read from its byte. -/
theorem nextUtf8_of_isPlain
    {c : Char}
    (h : IsPlain c)
    (rest : List UInt8) :
    nextUtf8 (c.toNat.toUInt8 :: rest) =
      (.ofChar c, rest) := by
  have hByte : c.toNat.toUInt8.toNat = c.toNat := by
    rw [Nat.toUInt8_eq, UInt8.toNat_ofNat']
    exact Nat.mod_eq_of_lt (Nat.lt_trans h.1 (by decide))
  have hAnnounced : announced c.toNat = 1 :=
    if_pos (Nat.lt_trans h.1 (by decide))
  have hNext :
      Utf8.next (c.toNat.toUInt8 :: rest) =
        .char c 1 rest := by
    have hOne : Utf8.announced? c.toNat = some 1 :=
      if_pos h.1
    unfold Utf8.next
    simp only [hByte, hOne, Char.ofNat_toNat]
  have hSymbol : ∀ kind,
      symbolOf c 1 kind = .char c 1 kind :=
    fun kind => if_pos h.2
  unfold nextUtf8
  dsimp only
  rw [hByte, hAnnounced, hNext, if_neg (by simp)]
  dsimp only
  rw [hSymbol, Symbol.ofChar, encodeChar_of_isPlain h]
  rfl

/- A plain character is the symbol of its byte. -/
theorem decode_utf8_cons
    {c : Char}
    (h : IsPlain c)
    (rest : List UInt8) :
    decode .utf8 (c.toNat.toUInt8 :: rest) =
      .ofChar c :: decode .utf8 rest := by
  have hNext := nextUtf8_of_isPlain h (rest.take 3)
  have hOne :
      (rest.take 3).length + 1 - (rest.take 3).length = 1 :=
    Nat.add_sub_cancel_left _ 1
  unfold decode
  dsimp only
  rw [List.length_cons, readUtf8]
  · rw [List.take_succ_cons, hNext]
    dsimp only
    rw [List.length_cons, hOne]
    rfl
  · simp

/- Plain characters are the symbols of their bytes. -/
theorem decode_utf8_append
    {chars : List Char}
    (hPlain : ∀ c ∈ chars, IsPlain c)
    (rest : List UInt8) :
    decode .utf8 (chars.flatMap Utf8.encodeChar ++ rest) =
      chars.map Symbol.ofChar ++ decode .utf8 rest := by
  induction chars with
  | nil => rfl
  | cons c chars ih =>
      rw [List.forall_mem_cons] at hPlain
      rcases hPlain with ⟨hFirst, hChars⟩
      rw [List.flatMap_cons, encodeChar_of_isPlain hFirst,
        List.append_assoc, List.singleton_append,
        decode_utf8_cons hFirst, ih hChars]
      rfl

end Encoding

/- Symbols of characters have these characters. -/
theorem charsOf_map_ofChar (chars : List Char) :
    charsOf (chars.map Symbol.ofChar) = chars := by
  rw [charsOf, List.filterMap_map]
  exact List.filterMap_some

end Xml

end Keyspaces

------------------------------------------------------------
-- The Token of a Declaration
------------------------------------------------------------

namespace Keyspaces

namespace Xml

namespace Cursor

variable {p : Symbol → Bool}
variable {next : Symbol}

/- Symbols with a property are taken up to one without it. -/
theorem span_append
    {taken : List Symbol}
    (hTaken : ∀ symbol ∈ taken, p symbol = true)
    (hNext : p next = false)
    (position bound : Nat)
    (rest : List Symbol) :
    span ⟨position, taken ++ next :: rest, bound⟩ p =
      (taken,
        ⟨position + taken.length, next :: rest, bound⟩) := by
  have hTakes :
      (taken ++ next :: rest).takeWhile p = taken := by
    rw [List.takeWhile_append_of_pos hTaken,
      List.takeWhile_cons_of_neg (by simp [hNext]),
      List.append_nil]
  unfold span skip
  dsimp only
  rw [hTakes, List.drop_left]

/- Nothing is skipped before a symbol without the property. -/
theorem skipWhile_cons
    (hNext : p next = false)
    (position bound : Nat)
    (rest : List Symbol) :
    skipWhile ⟨position, next :: rest, bound⟩ p =
      ⟨position, next :: rest, bound⟩ := by
  unfold skipWhile span
  rw [List.takeWhile_cons_of_neg (by simp [hNext])]
  rfl

/- An instruction is read up to the signs that end it. -/
theorem instructionBody_append
    {chars : List Char}
    (hMark : '?' ∉ chars)
    {fuel : Nat}
    (hFuel : chars.length < fuel)
    (position bound : Nat)
    (tail : List Symbol) :
    instructionBody fuel
        ⟨position,
          chars.map Symbol.ofChar ++
            .ofChar '?' :: .ofChar '>' :: tail, bound⟩ =
      .ok ⟨position + chars.length + 2, tail, bound⟩ := by
  induction chars generalizing fuel position with
  | nil =>
      cases fuel with
      | zero => contradiction
      | succ fuel => rfl
  | cons c chars ih =>
      cases fuel with
      | zero => contradiction
      | succ fuel =>
          rw [List.mem_cons, not_or] at hMark
          rcases hMark with ⟨hFirst, hRest⟩
          have hLater :=
            ih hRest (Nat.lt_of_succ_lt_succ hFuel)
              (position + 1)
          have hStep :
              instructionBody (fuel + 1)
                  ⟨position,
                    .ofChar c ::
                      (chars.map Symbol.ofChar ++
                        .ofChar '?' :: .ofChar '>' :: tail),
                    bound⟩ =
                instructionBody fuel
                  ⟨position + 1,
                    chars.map Symbol.ofChar ++
                      .ofChar '?' :: .ofChar '>' :: tail,
                    bound⟩ :=
            if_neg (Ne.symm hFirst)
          rw [List.map_cons, List.cons_append, hStep, hLater,
            List.length_cons]
          congr 2
          omega

/- The symbols of a declaration and of what follows it. -/
def declared
    (chars : List Char)
    (tail : List Symbol) : List Symbol :=
  "<?xml ".toList.map Symbol.ofChar ++
    (chars.map Symbol.ofChar ++
      .ofChar '?' :: .ofChar '>' :: tail)

theorem length_declared
    (chars : List Char)
    (tail : List Symbol) :
    (declared chars tail).length =
      8 + chars.length + tail.length := by
  have hStart :
      ("<?xml ".toList.map Symbol.ofChar).length = 6 :=
    rfl
  unfold declared
  rw [List.length_append, List.length_append, hStart,
    List.length_map, List.length_cons, List.length_cons]
  omega

/- A declaration is read as its token. -/
theorem token_declared
    {chars : List Char}
    (hMark : '?' ∉ chars)
    {bound : Nat}
    (hBound : chars.length ≤ bound)
    (tail : List Symbol) :
    token ⟨0, declared chars tail, bound⟩ =
      .ok
        (.xmlDeclaration,
          ⟨6 + chars.length + 2, tail, bound⟩) := by
  have hBody :=
    instructionBody_append hMark
      (Nat.lt_succ_of_le hBound) 6 bound tail
  -- What comes before the body is known and read as such.
  change
    Except.map _
        (Except.map _
          (instructionBody bound.succ
            ⟨6,
              chars.map Symbol.ofChar ++
                .ofChar '?' :: .ofChar '>' :: tail,
              bound⟩)) =
      _
  rw [hBody]
  rfl

end Cursor

namespace Version

/- What is inside of a declaration are its settings. -/
theorem inside_declared
    (chars : List Char)
    (tail : List Symbol)
    (bound : Nat) :
    inside ⟨0, Cursor.declared chars tail, bound⟩
        ⟨6 + chars.length + 2, tail, bound⟩ =
      ⟨5, (' ' :: chars).map Symbol.ofChar, bound⟩ := by
  have hCount :
      6 + chars.length + 2 - 0 - 5 - 2 =
        ((' ' :: chars).map Symbol.ofChar).length := by
    rw [List.length_map, List.length_cons]
    omega
  unfold inside Cursor.skip
  dsimp only
  rw [hCount]
  change
    (⟨5,
        ((' ' :: chars).map Symbol.ofChar ++
          .ofChar '?' :: .ofChar '>' :: tail).take _,
        bound⟩ : Cursor) =
      _
  rw [List.take_left]

end Version

end Xml

end Keyspaces

------------------------------------------------------------
-- Settings
------------------------------------------------------------

namespace Keyspaces

namespace Xml

namespace Version

open Cursor

/- A value between quotes with what follows it. -/
def quoted
    (value : List Char)
    (rest : List Symbol) : List Symbol :=
  .ofChar '\x27' ::
    (value.map Symbol.ofChar ++ .ofChar '\x27' :: rest)

/- A setting as it is written, with a space before it. -/
def written (key value : List Char) : List Char :=
  ' ' :: (key ++ '=' :: '\x27' :: (value ++ ['\x27']))

variable {key value : List Char}

/- The symbols of a setting. -/
theorem map_written
    (key value : List Char)
    (rest : List Symbol) :
    (written key value).map Symbol.ofChar ++ rest =
      .ofChar ' ' ::
        (key.map Symbol.ofChar ++
          .ofChar '=' :: quoted value rest) := by
  simp [written, quoted]

/- The name of a setting is what comes before its sign. -/
theorem span_name
    (hKey : ∀ c ∈ key, isNameSymbol (.ofChar c) = true)
    (position bound : Nat)
    (rest : List Symbol) :
    span
        ⟨position,
          key.map Symbol.ofChar ++ .ofChar '=' :: rest,
          bound⟩ isNameSymbol =
      (key.map Symbol.ofChar,
        ⟨position + key.length, .ofChar '=' :: rest,
          bound⟩) := by
  have hNames : ∀ symbol ∈ key.map Symbol.ofChar,
      isNameSymbol symbol = true := by
    simpa using hKey
  have hSpan :=
    span_append hNames
      (rfl : isNameSymbol (.ofChar '=') = false) position
      bound rest
  rwa [List.length_map] at hSpan

/- The value of a setting is what comes before its quote. -/
theorem span_value
    (hValue : ∀ c ∈ value, isValueSymbol (.ofChar c) = true)
    (position bound : Nat)
    (rest : List Symbol) :
    (next ⟨position, quoted value rest, bound⟩).span
        isValueSymbol =
      (value.map Symbol.ofChar,
        ⟨position + 1 + value.length, .ofChar '\x27' :: rest,
          bound⟩) := by
  have hValues : ∀ symbol ∈ value.map Symbol.ofChar,
      isValueSymbol symbol = true := by
    simpa using hValue
  have hSpan :=
    span_append hValues
      (rfl : isValueSymbol (.ofChar '\x27') = false)
      (position + 1) bound rest
  rwa [List.length_map] at hSpan

/- The space before the name of a setting is skipped. -/
theorem skipWhile_space
    (hFilled : key ≠ [])
    (hKey : ∀ c ∈ key, isNameSymbol (.ofChar c) = true)
    (position bound : Nat)
    (rest : List Symbol) :
    skipWhile
        ⟨position,
          .ofChar ' ' :: (key.map Symbol.ofChar ++ rest),
          bound⟩ Symbol.isSpace =
      ⟨position + 1, key.map Symbol.ofChar ++ rest,
        bound⟩ := by
  rcases List.exists_cons_of_ne_nil hFilled with
    ⟨c, more, rfl⟩
  have hName : (Symbol.ofChar c).isSpace = false := by
    have hFirst := hKey c List.mem_cons_self
    simp only [isNameSymbol, Symbol.ofChar, Bool.and_eq_true,
      Bool.not_eq_true'] at hFirst
    exact hFirst.2
  have hSpace : ∀ symbol ∈ [Symbol.ofChar ' '],
      symbol.isSpace = true := by
    decide
  exact
    congrArg Prod.snd
      (span_append hSpace hName position bound
        (more.map Symbol.ofChar ++ rest))

/- A setting is read from how it is written. -/
theorem setting_written
    (hFilled : key ≠ [])
    (hKey : ∀ c ∈ key, isNameSymbol (.ofChar c) = true)
    (hValue : ∀ c ∈ value, isValueSymbol (.ofChar c) = true)
    (position bound : Nat)
    (rest : List Symbol) :
    setting
        ⟨position,
          (written key value).map Symbol.ofChar ++ rest,
          bound⟩ =
      .ok (some
        (⟨key, position + 1, value,
            position + 1 + key.length + 1 + 1⟩,
          ⟨position + 1 + key.length + 1 + 1 +
              value.length + 1, rest, bound⟩)) := by
  have hSign : ∀ place,
      skipWhile
          ⟨place, .ofChar '=' :: quoted value rest, bound⟩
          Symbol.isSpace =
        ⟨place, .ofChar '=' :: quoted value rest, bound⟩ :=
    fun place => skipWhile_cons rfl _ _ _
  have hOpening : ∀ place,
      (next ⟨place, .ofChar '=' :: quoted value rest,
          bound⟩).skipWhile Symbol.isSpace =
        ⟨place + 1, quoted value rest, bound⟩ :=
    fun place => skipWhile_cons rfl _ _ _
  have hEqual : ∀ place,
      ascii? ⟨place, .ofChar '=' :: quoted value rest,
          bound⟩ =
        some '=' :=
    fun _ => rfl
  have hQuote : ∀ place,
      ascii? ⟨place, quoted value rest, bound⟩ =
        some '\x27' :=
    fun _ => rfl
  have hClosing : ∀ place,
      ascii? ⟨place, .ofChar '\x27' :: rest, bound⟩ =
        some '\x27' :=
    fun _ => rfl
  rw [map_written]
  unfold setting
  dsimp only
  rw [skipWhile_space hFilled hKey]
  dsimp only
  rw [span_name hKey]
  dsimp only
  rw [hSign, hEqual, hOpening, hQuote, span_value hValue,
    hClosing, charsOf_map_ofChar, charsOf_map_ofChar]
  simp [hFilled, Cursor.next]

/- The version comes first, and then what is read as the rest. -/
theorem read_eq_readRest
    {cursor after last : Cursor}
    {version entry : Setting}
    (hVersion : setting cursor = .ok (some (version, after)))
    (hName : version.name = "version".toList)
    (hEntry : setting after = .ok (some (entry, last))) :
    read cursor = readRest entry last := by
  unfold read
  simp only [hVersion, hEntry, hName, bind, Except.bind,
    bne_self_eq_false, Bool.false_eq_true, if_false]

/- An encoding is all of the rest if nothing follows it. -/
theorem readRest_encoding
    {entry : Setting}
    {last : Cursor}
    (hName : entry.name = "encoding".toList)
    (hFirst :
      (entry.value.head?.map Char.isAlpha).getD false = true)
    (hLast : last.rest = []) :
    readRest entry last =
      .ok
        ⟨some (String.ofList entry.value, entry.valuePosition),
          false⟩ := by
  have hNone : setting last = .ok none := by
    unfold setting
    simp only [hLast, List.isEmpty_nil, if_true]
  unfold readRest
  simp only [hName, hFirst, hNone, if_true, bind, Except.bind]

end Version

end Xml

end Keyspaces

------------------------------------------------------------
-- Names of Encodings
------------------------------------------------------------

namespace Keyspaces

open Text

namespace Xml

namespace Version

/-
  A name that an encoding can have in a declaration: a letter
  with letters, digits and some marks after it.
-/
structure IsEncodingName (name : List Char) : Prop where
  first : (name.head?.map Char.isAlpha).getD false = true
  rest : ∀ c ∈ name, isValueSymbol (.ofChar c) = true

/- The settings of a declaration that names an encoding. -/
def settings (name : List Char) : List Char :=
  written "version".toList "1.0".toList ++
    written "encoding".toList name

theorem settings_eq (name : List Char) :
    settings name =
      " version='1.0' encoding='".toList ++
        (name ++ ['\x27']) :=
  rfl

/- The encoding that the settings name is read from them. -/
theorem read_settings
    {name : List Char}
    (hName : IsEncodingName name)
    (bound : Nat) :
    read ⟨5, (settings name).map Symbol.ofChar, bound⟩ =
      .ok ⟨some (String.ofList name, 30), false⟩ := by
  have hVersionName : ∀ c ∈ "version".toList,
      isNameSymbol (.ofChar c) = true :=
    List.all_eq_true.mp rfl
  have hNumber : ∀ c ∈ "1.0".toList,
      isValueSymbol (.ofChar c) = true :=
    List.all_eq_true.mp rfl
  have hEncodingName : ∀ c ∈ "encoding".toList,
      isNameSymbol (.ofChar c) = true :=
    List.all_eq_true.mp rfl
  have hVersion :=
    setting_written (by simp) hVersionName hNumber 5 bound
      ((written "encoding".toList name).map Symbol.ofChar)
  have hEncoding :=
    setting_written (by simp) hEncodingName hName.rest 19
      bound []
  rw [← List.map_append] at hVersion
  rw [List.append_nil] at hEncoding
  rw [settings, read_eq_readRest hVersion rfl hEncoding]
  exact readRest_encoding rfl hName.first rfl

/- Letters and digits are in a range of the plain characters. -/
theorem toNat_of_isAlphanum
    {c : Char}
    (h : c.isAlphanum = true) :
    0x30 ≤ c.toNat ∧ c.toNat ≤ 0x7A := by
  rcases Bool.or_eq_true_iff.mp h with hAlpha | hDigit
  · rcases Bool.or_eq_true_iff.mp hAlpha with
      hUpper | hLower
    · rcases of_decide_eq_true hUpper with ⟨hLeast, hMost⟩
      exact
        ⟨Nat.le_trans (by decide) hLeast,
          Nat.le_trans hMost (by decide)⟩
    · rcases Bool.and_eq_true_iff.mp hLower with
        ⟨hLeast, hMost⟩
      exact
        ⟨Nat.le_trans (by decide) (of_decide_eq_true hLeast),
          of_decide_eq_true hMost⟩
  · rcases Bool.and_eq_true_iff.mp hDigit with
      ⟨hLeast, hMost⟩
    exact
      ⟨of_decide_eq_true hLeast,
        Nat.le_trans (of_decide_eq_true hMost) (by decide)⟩

/- What can stand in a value is plain, and ends nothing. -/
theorem isPlain_of_isValueSymbol
    {c : Char}
    (h : isValueSymbol (.ofChar c) = true) :
    IsPlain c ∧ c ≠ '?' := by
  have hCode : 0x20 ≤ c.toNat ∧ c.toNat < 0x80 := by
    simp only [isValueSymbol, Symbol.ofChar, Bool.or_eq_true,
      decide_eq_true_eq] at h
    rcases h with ((hAlphanum | rfl) | rfl) | rfl
    · have hRange := toNat_of_isAlphanum hAlphanum
      omega
    all_goals decide
  have hXml : isXmlChar c = true := by
    simp [isXmlChar]
    omega
  have hMark : c ≠ '?' := by
    rintro rfl
    exact absurd h (by decide)
  exact ⟨⟨hCode.2, hXml⟩, hMark⟩

/- The settings are plain, and end nothing. -/
theorem isPlain_settings
    {name : List Char}
    (hName : IsEncodingName name) :
    ∀ c ∈ settings name, IsPlain c ∧ c ≠ '?' := by
  have hPlain : ∀ c ∈ name, IsPlain c ∧ c ≠ '?' :=
    fun c hMember =>
      isPlain_of_isValueSymbol (hName.rest c hMember)
  have hBefore :
      ∀ c ∈ " version='1.0' encoding='".toList,
        IsPlain c ∧ c ≠ '?' :=
    List.all_iff_forall_prop.mp rfl
  have hQuote : IsPlain '\x27' ∧ '\x27' ≠ '?' := by
    decide
  rw [settings_eq, List.forall_mem_append,
    List.forall_mem_append, List.forall_mem_singleton]
  exact ⟨hBefore, hPlain, hQuote⟩

end Version

namespace Document

/- The text of a declaration that names an encoding. -/
def declaration (name : String) : String :=
  "<?xml version='1.0' encoding='" ++ name ++ "'?>"

/- It has the settings inside of it. -/
theorem toList_declaration (name : String) :
    (declaration name).toList =
      "<?xml".toList ++
        (Version.settings name.toList ++ "?>".toList) := by
  have hParts :
      (declaration name).toList =
        "<?xml version='1.0' encoding='".toList ++
          name.toList ++ "'?>".toList := by
    unfold declaration
    rw [String.toList_append, String.toList_append]
  rw [hParts, Version.settings_eq]
  simp only [List.append_assoc]
  rfl

/- It is plain. -/
theorem isPlain_declaration
    {name : String}
    (hName : Version.IsEncodingName name.toList) :
    ∀ c ∈ (declaration name).toList, IsPlain c := by
  have hSettings :
      ∀ c ∈ Version.settings name.toList, IsPlain c :=
    fun c hMember =>
      (Version.isPlain_settings hName c hMember).1
  have hStart : ∀ c ∈ "<?xml".toList, IsPlain c :=
    List.all_iff_forall_prop.mp rfl
  have hEnd : ∀ c ∈ "?>".toList, IsPlain c :=
    List.all_iff_forall_prop.mp rfl
  rw [toList_declaration, List.forall_mem_append,
    List.forall_mem_append]
  exact ⟨hStart, hSettings, hEnd⟩

/- What a document names is told by its symbols. -/
theorem Names.of_decoded
    {bytes : List UInt8}
    {name : String}
    {encoding : Encoding}
    {symbols : List Symbol}
    {marked : Bool}
    {after : Cursor}
    (hDetected :
      Encoding.detect bytes = .encoding encoding marked)
    (hDecoded : encoding.decode bytes = symbols)
    (hToken :
      (first symbols marked).token =
        .ok (.xmlDeclaration, after))
    (hNames :
      Version.Names (first symbols marked) after name) :
    Names bytes name := by
  subst hDecoded
  exact .declared hDetected hToken hNames

/-
  A document names an encoding if its first bytes are those of
  such a declaration.
-/
theorem names_declaration
    {name : String}
    (hName : Version.IsEncodingName name.toList)
    (rest : List UInt8) :
    Names (Utf8.encode (declaration name) ++ rest) name := by
  let chars := (Version.settings name.toList).tail
  let tail := Encoding.utf8.decode rest
  have hMark : '?' ∉ chars := by
    intro hMember
    have hSigns := Version.isPlain_settings hName
    exact (hSigns '?' (List.mem_of_mem_tail hMember)).2 rfl
  have hDetected :
      Encoding.detect
          (Utf8.encode (declaration name) ++ rest) =
        .encoding .utf8 false := by
    rw [Utf8.encode, toList_declaration]
    rfl
  have hDecoded :
      Encoding.utf8.decode
          (Utf8.encode (declaration name) ++ rest) =
        Cursor.declared chars tail := by
    have hText :
        (declaration name).toList =
          "<?xml ".toList ++ (chars ++ ['?', '>']) :=
      toList_declaration name
    rw [Utf8.encode,
      Encoding.decode_utf8_append (isPlain_declaration hName),
      hText, List.map_append, List.map_append,
      List.append_assoc, List.append_assoc]
    rfl
  have hBound :
      chars.length ≤ (Cursor.declared chars tail).length := by
    rw [Cursor.length_declared]
    omega
  have hToken := Cursor.token_declared hMark hBound tail
  have hInside :=
    Version.inside_declared chars tail
      (Cursor.declared chars tail).length
  have hRead :=
    (congrArg Version.read hInside).trans
      (Version.read_settings hName _)
  have hNamed :
      some (String.ofList name.toList, 30) =
        some (name, 30) := by
    rw [String.ofList_toList]
  exact
    .of_decoded hDetected hDecoded hToken
      ⟨_, 30, hRead, hNamed⟩

end Document

end Xml

end Keyspaces
