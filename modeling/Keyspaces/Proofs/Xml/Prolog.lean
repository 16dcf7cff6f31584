import Keyspaces.Proofs.Outcome
import Keyspaces.Xml.Prolog

/-
  How the reading of a document fails before its root. Every
  fault in the document is reported as one, with one
  exception: a declaration at the very start can name an
  encoding whose codec fails in a way of its own.

  Main declarations:
    * `Xml.Codec.Fails`
    * `Xml.Expected.movesOn_accept?`
    * `Xml.Prolog.performed_perform`
    * `Xml.Document.Names`
    * `Xml.Prolog.failure_of_read`
    * `Xml.Prolog.read_of_names`
-/

------------------------------------------------------------
-- Codecs That Fail
------------------------------------------------------------

namespace Keyspaces

namespace Xml

namespace Codec

/-
  A name stands for no encoding that is built in, and the
  codec it stands for fails, or there is none.
-/
def Fails
    (name : String)
    (failure : Failure) : Prop :=
  builtIn? name = none ∧ find name = .failure failure

/- The kinds of the failures of codecs. -/
def IsCodecFault (kind : Failure.Kind) : Prop :=
  kind ∈
    [Failure.Kind.unknownName, .wrongValue, .unicode,
      .undecodable]

/- The codecs with failures of their own fail as codecs do. -/
theorem isCodecFault_failing
    {codec : String}
    {failure : Failure}
    (h : failing.lookup codec = some failure) :
    IsCodecFault failure.kind := by
  have hAll :
      ∀ entry ∈ failing, IsCodecFault entry.2.kind := by
    simp [failing, IsCodecFault, Failure.kind]
  rcases List.lookup_eq_some_iff.mp h with
    ⟨before, after, hEntries, _⟩
  refine hAll (codec, failure) ?_
  rw [hEntries]
  exact List.mem_append_right before List.mem_cons_self

/- So does every codec that fails. -/
theorem isCodecFault_outcome?
    {name codec : String}
    {failure : Failure}
    (h : outcome? name codec = some (.failure failure)) :
    IsCodecFault failure.kind := by
  unfold outcome? at h
  split at h
  · simp at h
  split at h
  · simp at h
  split at h
  · cases h
    simp [IsCodecFault, Failure.kind]
  split at h
  · cases h
    simp [IsCodecFault, Failure.kind]
  split at h
  · rename_i found hFound
    cases h
    exact isCodecFault_failing hFound
  · simp at h

/- And so does a name without a codec. -/
theorem Fails.isCodecFault
    {name : String}
    {failure : Failure}
    (h : Fails name failure) :
    IsCodecFault failure.kind := by
  have hFound := h.2
  unfold find at hFound
  cases hOutcome :
      (candidates name).findSome? (outcome? name) with
  | none =>
      rw [hOutcome] at hFound
      cases hFound
      simp [IsCodecFault, Failure.kind]
  | some outcome =>
      rw [hOutcome] at hFound
      cases hFound
      rcases List.exists_of_findSome?_eq_some hOutcome with
        ⟨codec, _, hCodec⟩
      exact isCodecFault_outcome? hCodec

/- No codec fails as a configuration or a system does. -/
theorem IsCodecFault.ne
    {kind : Failure.Kind}
    (h : IsCodecFault kind) :
    kind.isResource = false ∧ kind.isSystem = false := by
  simp only [IsCodecFault, List.mem_cons, List.not_mem_nil,
    or_false] at h
  rcases h with rfl | rfl | rfl | rfl <;> exact ⟨rfl, rfl⟩

end Codec

end Xml

end Keyspaces

------------------------------------------------------------
-- The Order of Tokens
------------------------------------------------------------

namespace Keyspaces

namespace Xml

namespace Expected

/-
  If a token is accepted, it is no declaration of the version,
  and the start of the document is not expected next.
-/
def MovesOn (accepted : Accepted) : Prop :=
  ∀ step, accepted = some step →
    step.1 ≠ .declareXml ∧ step.2 ≠ .documentStart

@[simp]
theorem movesOn_none : MovesOn none := by
  intro step h
  contradiction

@[simp]
theorem movesOn_some (step : Action × Expected) :
    MovesOn (some step) ↔
      step.1 ≠ .declareXml ∧ step.2 ≠ .documentStart := by
  simp [MovesOn]

@[simp]
theorem movesOn_goTo (next : Expected) :
    MovesOn (goTo next) ↔ next ≠ .documentStart := by
  simp [goTo]

theorem movesOn_map
    {α : Type}
    (found : Option α)
    (step : α → Action × Expected)
    (hStep :
      ∀ item,
        (step item).1 ≠ .declareXml ∧
          (step item).2 ≠ .documentStart) :
    MovesOn (found.map step) := by
  cases found with
  | none => exact movesOn_none
  | some item => exact (movesOn_some _).mpr (hStep item)

theorem movesOn_bind
    {α : Type}
    (found : Option α)
    (next : α → Accepted)
    (hNext : ∀ item, MovesOn (next item)) :
    MovesOn (found.bind next) := by
  cases found with
  | none => exact movesOn_none
  | some item => exact hNext item

theorem movesOn_acceptLiteral
    {action : Nat → List Symbol → Action}
    {next : Expected}
    (hAction :
      ∀ position content,
        action position content ≠ .declareXml)
    (hNext : next ≠ .documentStart)
    (token : Token) :
    MovesOn (acceptLiteral action next token) := by
  unfold acceptLiteral
  split <;> simp [hAction, hNext]

theorem movesOn_acceptEnd
    {next : Expected}
    (hNext : next ≠ .documentStart)
    (token : Token) : MovesOn (acceptEnd next token) := by
  unfold acceptEnd
  split <;> simp [hNext]

variable {publicId systemId : Expected}

theorem movesOn_acceptOutside
    (hPublic : publicId ≠ .documentStart)
    (hSystem : systemId ≠ .documentStart)
    (token : Token) :
    MovesOn (acceptOutside token publicId systemId) := by
  unfold acceptOutside
  split
  · exact (movesOn_goTo _).mpr hSystem
  · split
    · exact (movesOn_goTo _).mpr hPublic
    · exact movesOn_none

theorem movesOn_acceptDefinition
    (hPublic : publicId ≠ .documentStart)
    (hSystem : systemId ≠ .documentStart)
    (token : Token) :
    MovesOn (acceptDefinition publicId systemId token) := by
  unfold acceptDefinition
  split
  · simp
  · exact movesOn_acceptOutside hPublic hSystem token

theorem movesOn_acceptListedRest
    {again : Expected}
    (hAgain : again ≠ .documentStart)
    (token : Token) :
    MovesOn (acceptListedRest again token) := by
  unfold acceptListedRest
  split <;> simp [hAgain]

theorem movesOn_acceptItem
    (groups : List (Option Char))
    (token : Token) : MovesOn (acceptItem groups token) := by
  unfold acceptItem
  split <;> simp

theorem movesOn_joinGroup
    (groups : List (Option Char))
    (sign : Char) : MovesOn (joinGroup groups sign) := by
  unfold joinGroup
  repeat' split
  all_goals simp

/- Only at the start of a document a version is declared. -/
theorem movesOn_acceptToken
    {expected : Expected}
    (hExpected : expected ≠ .documentStart)
    (token : Token) : MovesOn (acceptToken expected token) := by
  cases expected with
  | documentStart => contradiction
  | doctype =>
      dsimp only [acceptToken, acceptStart]
      repeat' split
      case h_2.isTrue hFirst =>
        exact absurd hFirst Bool.false_ne_true
      all_goals simp
  | doctypeRest =>
      dsimp only [acceptToken, acceptDoctypeRest]
      split
      case h_3 =>
        exact movesOn_acceptOutside (by simp) (by simp) token
      all_goals simp
  | entityName =>
      dsimp only [acceptToken, acceptEntityName]
      split
      · simp
      · exact movesOn_map _ _ fun _ => by simp
  | notationRest =>
      dsimp only [acceptToken]
      split
      · simp
      · exact movesOn_acceptLiteral (by simp) (by simp) token
  | attributeName =>
      dsimp only [acceptToken, acceptAttributeName]
      split
      · simp
      · exact movesOn_map _ _ fun _ => by simp
  | attributeType =>
      dsimp only [acceptToken, acceptType]
      split
      · simp
      · split
        · simp
        · exact movesOn_map _ _ fun _ => by simp
  | groupStart =>
      dsimp only [acceptToken, acceptGroupStart]
      split
      · split <;> simp
      · exact movesOn_acceptItem _ token
  | groupItem groups => exact movesOn_acceptItem groups token
  | groupRest groups =>
      dsimp only [acceptToken, acceptGroupRest]
      split
      · split <;> simp
      · exact movesOn_joinGroup groups _
      · exact movesOn_joinGroup groups _
      · simp
  | doctypeName | notationName | elementName | mixedName =>
      exact movesOn_bind _ _ fun _ => by simp
  | parameterName | entityNotation | attributesElement
  | notationsValue =>
      exact movesOn_map _ _ fun _ => by simp
  | doctypePublicId | doctypeSystemId | entityPublicId
  | entitySystemId | parameterPublicId | parameterSystemId
  | notationPublicId | notationSystemId | attributeFixed =>
      exact movesOn_acceptLiteral (by simp) (by simp) token
  | doctypeEnd | parameterEnd | declarationEnd =>
      exact movesOn_acceptEnd (by simp) token
  | entityDefinition | parameterDefinition =>
      exact movesOn_acceptDefinition (by simp) (by simp) token
  | notationDefinition =>
      exact movesOn_acceptOutside (by simp) (by simp) token
  | listedRest | notationsRest =>
      exact movesOn_acceptListedRest (by simp) token
  | _ =>
      dsimp only [acceptToken, acceptRoot,
        acceptDoctypeSubset, acceptSubset, acceptEntityRest,
        acceptListed, acceptDefault, acceptContent,
        acceptMixedRest, acceptMixedNext]
      repeat' split
      all_goals simp

/-
  What is accepted leads away from the start of the document.
  A version is declared by the token for it, at the start.
-/
theorem accepted_cases
    {expected next : Expected}
    {token : Token}
    {action : Action}
    (h : expected.accept? token = some (action, next)) :
    next ≠ .documentStart ∧
      (action = .declareXml →
        expected = .documentStart ∧
          token = .xmlDeclaration) := by
  by_cases hStart : expected = .documentStart
  · subst hStart
    change acceptStart true token = some (action, next) at h
    unfold acceptStart at h
    repeat' split at h
    all_goals cases h
    all_goals simp
  · have hMoves : MovesOn (expected.accept? token) := by
      unfold accept?
      split
      · simpa using hStart
      · exact movesOn_acceptToken hStart _
    rcases hMoves _ h with ⟨hAction, hNext⟩
    exact ⟨hNext, fun hDeclares => absurd hDeclares hAction⟩

end Expected

end Xml

end Keyspaces

------------------------------------------------------------
-- What Tokens Do
------------------------------------------------------------

namespace Keyspaces

namespace Xml

namespace Prolog

/-
  How a token that was accepted is performed: what is expected
  stays, or the document is malformed.
-/
inductive Performed
    (expected : Expected) : Except Failure Prolog → Prop
| done
    {prolog : Prolog}
    (hExpected : prolog.expected = expected) :
    Performed expected (.ok prolog)
| malformed
    {fault : Fault} :
    Performed expected (.error (.malformedDocument fault))

variable (prolog : Prolog)

theorem performed_checkPublicId
    (position : Nat)
    (literal : List Symbol) :
    Performed prolog.expected
      (prolog.checkPublicId position literal) := by
  unfold checkPublicId
  split
  · exact .malformed
  · exact .done rfl

theorem expected_nameEntity (name : List Char) :
    (prolog.nameEntity name).expected = prolog.expected := by
  unfold nameEntity
  dsimp only
  split <;> rfl

theorem expected_defineEntity (entity : Entity) :
    (prolog.defineEntity entity).expected =
      prolog.expected := by
  unfold defineEntity
  split <;> rfl

theorem performed_defineText
    (start position : Nat)
    (literal : List Symbol) :
    Performed prolog.expected
      (prolog.defineText start position literal) := by
  unfold defineText
  split
  · split
    · exact .done (prolog.expected_defineEntity _)
    · exact .malformed
  · exact .done rfl

theorem performed_defineDefault
    (start position : Nat)
    (literal : List Symbol) :
    Performed prolog.expected
      (prolog.defineDefault start position literal) := by
  unfold defineDefault
  split
  · split
    · exact .done rfl
    · exact .malformed
  · exact .done rfl

/- What a token does is done, or the document is malformed. -/
theorem performed_perform
    (start : Nat)
    (action : Action) :
    Performed prolog.expected
      (prolog.perform start action) := by
  cases action with
  | doctypePublicId position literal =>
      exact
        performed_checkPublicId (prolog.declare _) position
          literal
  | nameEntity name =>
      exact .done (prolog.expected_nameEntity name)
  | valueEntity position literal =>
      exact prolog.performed_defineText start position literal
  | publicId position literal =>
      exact prolog.performed_checkPublicId position literal
  | systemId | binaryEntity _ =>
      exact .done (prolog.expected_defineEntity _)
  | noDefault =>
      unfold perform
      dsimp only
      split <;> exact .done rfl
  | setDefault position literal =>
      exact
        prolog.performed_defineDefault start position literal
  | _ => exact .done rfl

end Prolog

end Xml

end Keyspaces

------------------------------------------------------------
-- Declared Encodings
------------------------------------------------------------

namespace Keyspaces

namespace Xml

namespace Version

/- The symbols inside of a declaration between two places. -/
def inside (start after : Cursor) : Cursor :=
  let first := start.skip 5
  { first with
    rest :=
      first.rest.take
        (after.position - start.position - 5 - 2) }

/- The declaration between two places names an encoding. -/
def Names
    (start after : Cursor)
    (name : String) : Prop :=
  ∃ version position,
    read (inside start after) = .ok version ∧
      version.encoding = some (name, position)

end Version

namespace Document

/- The place of the first token of a document. -/
def first
    (symbols : List Symbol)
    (marked : Bool) : Cursor :=
  if marked then (Cursor.start symbols).next
  else .start symbols

/-
  A document starts with a declaration of its version, which
  names an encoding.
-/
inductive Names
    (bytes : List UInt8)
    (name : String) : Prop
| declared
    {encoding : Encoding}
    {marked : Bool}
    {after : Cursor}
    (hDetected :
      Encoding.detect bytes = .encoding encoding marked)
    (hToken :
      (first (encoding.decode bytes) marked).token =
        .ok (.xmlDeclaration, after))
    (hNames :
      Version.Names (first (encoding.decode bytes) marked)
        after name) :
    Names bytes name

/-
  Following the name of an encoding fails as its codec does,
  or because the document is malformed.
-/
theorem failure_of_follow
    {document : Document}
    {name : String}
    {position : Nat}
    {cursor : Cursor}
    {failure : Failure}
    (h :
      document.follow name position cursor =
        .error failure) :
    failure.kind = .configuration ∨
      Codec.Fails name failure := by
  unfold follow at h
  dsimp only at h
  split at h
  · repeat' split at h
    all_goals cases h
    all_goals exact Or.inl rfl
  · rename_i hNone
    split at h
    · cases h
    · cases h
      exact Or.inl rfl
    · rename_i found hFound
      cases h
      exact Or.inr ⟨hNone, hFound⟩

/- A codec that fails is the reason that it is not followed. -/
theorem follow_of_fails
    {name : String}
    {failure : Failure}
    (hFails : Codec.Fails name failure)
    (document : Document)
    (position : Nat)
    (cursor : Cursor) :
    document.follow name position cursor =
      .error failure := by
  unfold follow
  dsimp only
  rw [hFails.1]
  dsimp only
  rw [hFails.2]

end Document

namespace Prolog

variable {prolog : Prolog}
variable {start after : Cursor}

/-
  Declaring the version fails as the codec of the encoding
  does that is named, or because the document is malformed.
-/
theorem failure_of_declareVersion
    {failure : Failure}
    (h :
      prolog.declareVersion start after = .error failure) :
    failure.kind = .configuration ∨
      prolog.document.fixed = false ∧
        ∃ name,
          Version.Names start after name ∧
            Codec.Fails name failure := by
  unfold declareVersion at h
  dsimp only [versionMargins] at h
  split at h
  · cases h
    exact Or.inl rfl
  · rename_i version hVersion
    split at h
    · rename_i name position hEncoding hFree
      cases hFollow :
          prolog.document.follow name position after with
      | ok followed =>
          rw [hFollow] at h
          cases h
      | error found =>
          rw [hFollow] at h
          cases h
          refine (Document.failure_of_follow hFollow).imp id ?_
          intro hFails
          exact
            ⟨hFree, name,
              ⟨version, position, hVersion, hEncoding⟩,
              hFails⟩
    · cases h

/- What is expected stays when the version is declared. -/
theorem expected_of_declareVersion
    {next : Prolog}
    {cursor : Cursor}
    (h :
      prolog.declareVersion start after =
        .ok (next, cursor)) :
    next.expected = prolog.expected := by
  unfold declareVersion at h
  dsimp only at h
  split at h
  · cases h
  · split at h
    · rw [Outcome.map_eq_ok_iff] at h
      rcases h with ⟨_, _, hNext⟩
      cases hNext
      rfl
    · cases h
      rfl

/- A codec that fails is the reason for it not to be. -/
theorem declareVersion_of_names
    {name : String}
    {failure : Failure}
    (hFree : prolog.document.fixed = false)
    (hNames : Version.Names start after name)
    (hFails : Codec.Fails name failure) :
    prolog.declareVersion start after = .error failure := by
  rcases hNames with ⟨version, position, hVersion, hEncoding⟩
  unfold declareVersion
  dsimp only [versionMargins]
  unfold Version.inside at hVersion
  dsimp only at hVersion
  rw [hVersion]
  dsimp only
  rw [hEncoding, hFree]
  dsimp only
  rw [Document.follow_of_fails hFails]
  rfl

/-
  Reading tokens fails as the codec of the encoding does that
  the first of them names, or because the document is
  malformed.
-/
theorem failure_of_readFrom
    {fuel : Nat}
    {cursor : Cursor}
    {failure : Failure}
    (h : readFrom fuel prolog cursor = .error failure) :
    failure.kind = .configuration ∨
      prolog.expected = .documentStart ∧
        prolog.document.fixed = false ∧
          ∃ after name,
            cursor.token = .ok (.xmlDeclaration, after) ∧
              Version.Names cursor after name ∧
                Codec.Fails name failure := by
  induction fuel generalizing prolog cursor with
  | zero =>
      cases h
      exact Or.inl rfl
  | succ fuel ih =>
      -- Only the first token is read at the start, so what
      -- comes after it fails with a malformed document.
      have hLater : ∀ {later : Prolog} {place : Cursor},
          later.expected ≠ .documentStart →
            readFrom fuel later place = .error failure →
              failure.kind = .configuration := by
        intro later place hExpected hRead
        rcases ih hRead with hKind | ⟨hStart, _⟩
        · exact hKind
        · exact absurd hStart hExpected
      unfold readFrom at h
      dsimp only at h
      split at h
      · cases h
        exact Or.inl rfl
      split at h
      · cases h
        exact Or.inl rfl
      rename_i token after hToken
      split at h
      · cases h
        exact Or.inl rfl
      rename_i action next hAccepted
      rcases Expected.accepted_cases hAccepted with
        ⟨hNext, hDeclares⟩
      split at h
      · cases h
      · rcases hDeclares rfl with ⟨hStart, hDeclaration⟩
        subst hDeclaration
        split at h
        · rename_i declared place hVersion
          have hExpected :=
            expected_of_declareVersion hVersion
          refine Or.inl (hLater ?_ h)
          rw [hExpected]
          exact hNext
        · rename_i found hVersion
          cases h
          refine (failure_of_declareVersion hVersion).imp id ?_
          rintro ⟨hFree, name, hNames, hFails⟩
          exact
            ⟨hStart, hFree, after, name, hToken, hNames,
              hFails⟩
      · have hPerformed :=
          performed_perform
            { prolog with expected := next } cursor.position
            action
        split at h
        · rename_i later hPerform
          rw [hPerform] at hPerformed
          cases hPerformed with
          | done hExpected =>
              refine Or.inl (hLater ?_ h)
              rw [hExpected]
              exact hNext
        · rename_i found hPerform
          rw [hPerform] at hPerformed
          cases h
          cases hPerformed with
          | malformed => exact Or.inl rfl

/-
  A document that cannot be read up to its root is malformed,
  or the codec of the encoding that it names fails.
-/
theorem failure_of_read
    {bytes : List UInt8}
    {fixed : Bool}
    {failure : Failure}
    (h : read bytes fixed = .error failure) :
    failure.kind = .configuration ∨
      fixed = false ∧
        ∃ name,
          Document.Names bytes name ∧
            Codec.Fails name failure := by
  unfold read at h
  split at h
  · cases h
    exact Or.inl rfl
  · rename_i encoding marked hDetected
    dsimp only at h
    refine (failure_of_readFrom h).imp id ?_
    rintro ⟨_, hFree, after, name, hToken, hNames, hFails⟩
    exact
      ⟨hFree, name, .declared hDetected hToken hNames, hFails⟩

/- Where there is a token, something is left to be read. -/
theorem isEmpty_eq_false_of_token
    {cursor : Cursor}
    {token : Token}
    (hToken : cursor.token = .ok (token, after)) :
    cursor.rest.isEmpty = false := by
  cases hRest : cursor.rest with
  | cons symbol rest => rfl
  | nil =>
      have hLook : cursor.look = .error .unclosed := by
        rw [Cursor.look, hRest]
      rw [Cursor.token, hLook] at hToken
      contradiction

/- If the codec of the first token fails, so does the reading. -/
theorem readFrom_of_names
    {cursor : Cursor}
    {name : String}
    {failure : Failure}
    (hStart : prolog.expected = .documentStart)
    (hFree : prolog.document.fixed = false)
    (hToken : cursor.token = .ok (.xmlDeclaration, after))
    (hNames : Version.Names cursor after name)
    (hFails : Codec.Fails name failure)
    (fuel : Nat) :
    readFrom (fuel + 1) prolog cursor = .error failure := by
  have hVersion :
      declareVersion { prolog with expected := .doctype }
          cursor after =
        .error failure :=
    declareVersion_of_names hFree hNames hFails
  have hAccepted :
      prolog.expected.accept? .xmlDeclaration =
        some (.declareXml, .doctype) := by
    rw [hStart]
    rfl
  unfold readFrom
  simp only [isEmpty_eq_false_of_token hToken, hToken,
    hAccepted, hVersion, Bool.false_eq_true, if_false]

/- If that codec fails, so does the reading of the document. -/
theorem read_of_names
    {bytes : List UInt8}
    {name : String}
    {failure : Failure}
    (hNames : Document.Names bytes name)
    (hFails : Codec.Fails name failure) :
    read bytes false = .error failure := by
  cases hNames with
  | declared hDetected hToken hVersion =>
      unfold read
      rw [hDetected]
      exact
        readFrom_of_names rfl rfl hToken hVersion hFails _

end Prolog

end Xml

end Keyspaces
