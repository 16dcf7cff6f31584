import Keyspaces.Proofs.Declarations.Acceptance
import Keyspaces.Proofs.Xml.Document

/-
  Why the declarations in a file cannot be read. A fault of
  the document or a report of the system is the reason, unless
  there is a null character in the path or the document names
  an encoding whose codec fails.

  Main declarations:
    * `FileTree.followed_read`
    * `Declarations.Escapes`
    * `Declarations.failure_of_ofSource`
    * `Declarations.ofSource_of_escapes`
-/

------------------------------------------------------------
-- Reading Files
------------------------------------------------------------

namespace Keyspaces

namespace FileTree

/-
  How reading a path ends: it has a null character, the system
  reports that there is no file, or there is one.
-/
inductive Followed
    (path : String) : Except Failure (List UInt8) → Prop
| null
    (hNull : '\x00' ∈ path.toList) :
    Followed path (.error .nullInPath)
| refused
    {failure : Failure}
    (hSystem : failure.kind.isSystem = true) :
    Followed path (.error failure)
| file
    {content : List UInt8} :
    Followed path (.ok content)

/- Reading a path ends in one of these ways. -/
theorem followed_read
    (tree : FileTree)
    (path : String) :
    Followed path (tree.read (.text path)) := by
  unfold read readPath
  dsimp only
  split
  · rename_i hNull
    exact .null (List.contains_iff_mem.mp hNull)
  · split
    · exact .file
    all_goals exact .refused rfl

/- A path with a null character is not followed. -/
theorem read_of_null
    (tree : FileTree)
    {path : String}
    (hNull : '\x00' ∈ path.toList) :
    tree.read (.text path) = .error .nullInPath :=
  if_pos (List.contains_iff_mem.mpr hNull)

end FileTree

end Keyspaces

------------------------------------------------------------
-- Reading Declarations
------------------------------------------------------------

namespace Keyspaces

namespace Declarations

/-
  Reading the declarations in a file fails for a reason that
  is neither a fault of the document nor a report of the
  system: the path has a null character, or the document names
  an encoding whose codec fails.
-/
inductive Escapes
    (tree : FileTree)
    (path : String) : Failure → Prop
| null
    (hNull : '\x00' ∈ path.toList) :
    Escapes tree path .nullInPath
| encoding
    {content : List UInt8}
    {failure : Failure}
    (hRead : tree.read (.text path) = .ok content)
    (hEscapes : Xml.Document.Escapes content failure) :
    Escapes tree path failure

variable {tree : FileTree}
variable {source : String}
variable {failure : Failure}

/- It is not one of the failures that a check reports. -/
theorem Escapes.unreported
    (h : Escapes tree source failure) :
    failure.kind.isResource = false ∧
      failure.kind.isSystem = false := by
  cases h with
  | null _ => exact ⟨rfl, rfl⟩
  | encoding _ hEscapes =>
      rcases hEscapes with ⟨name, _, hFails⟩
      exact hFails.isCodecFault.ne

/-
  Declarations that cannot be read are those of a document
  with a fault, or the system reports that there is no file to
  read, or the reason escapes. The text of a document given as
  such never lets one escape.
-/
theorem failure_of_ofSource
    (h :
      ofSource tree.read (.value (.text source)) =
        .error failure) :
    failure.kind = .configuration ∨
      failure.kind.isSystem = true ∨
        isDocument source = false ∧
          Escapes tree source failure := by
  have hRoot :
      rootOf tree.read (.value (.text source)) =
          .error failure ∨
        failure.kind = .configuration := by
    unfold ofSource at h
    cases hParsed :
        rootOf tree.read (.value (.text source)) with
    | ok root =>
        rw [hParsed] at h
        exact Or.inr (failsAs_ofElement root failure h)
    | error found =>
        rw [hParsed] at h
        cases h
        exact Or.inl rfl
  rcases hRoot with hRoot | hKind
  case inr => exact Or.inl hKind
  case inl =>
    unfold rootOf at hRoot
    dsimp only at hRoot
    split at hRoot
    · exact
        Or.inl
          (Xml.Document.failsAs_parse_fixed _ failure hRoot)
    · rename_i hPath
      rw [Bool.not_eq_true] at hPath
      have hFollowed := tree.followed_read source
      cases hRead : tree.read (.text source) with
      | ok content =>
          rw [hRead] at hRoot
          rcases Xml.Document.failure_of_parse hRoot with
            hKind | ⟨_, hEscapes⟩
          · exact Or.inl hKind
          · exact
              Or.inr (Or.inr
                ⟨hPath, .encoding hRead hEscapes⟩)
      | error found =>
          rw [hRead] at hRoot hFollowed
          cases hRoot
          cases hFollowed with
          | null hNull =>
              exact Or.inr (Or.inr ⟨hPath, .null hNull⟩)
          | refused hSystem =>
              exact Or.inr (Or.inl hSystem)

/- A reason that escapes is why they cannot be read. -/
theorem ofSource_of_escapes
    (hPath : isDocument source = false)
    (h : Escapes tree source failure) :
    ofSource tree.read (.value (.text source)) =
      .error failure := by
  have hRoot :
      rootOf tree.read (.value (.text source)) =
        .error failure := by
    unfold rootOf
    dsimp only
    rw [if_neg (by simp [hPath])]
    cases h with
    | null hNull =>
        rw [tree.read_of_null hNull]
        rfl
    | encoding hRead hEscapes =>
        rw [hRead]
        exact Xml.Document.parse_of_escapes hEscapes
  unfold ofSource
  rw [hRoot]
  rfl

end Declarations

end Keyspaces
