import Keyspaces.Cluster.Options
import Keyspaces.Proofs.Host.Reading
import Keyspaces.Proofs.Number.Integer
import Keyspaces.Proofs.Resource.Reading

/-
  The diagnostic record of a configuration tells it from all
  others that are read from references. Hosts and options are
  recorded with commas between them and nothing around them,
  and none of them has a comma of its own: an address is part
  of what stands between two commas, and an option is an
  integer or a truth value. Each of these configurations has
  such a record.

  Main declarations:
    * `Host.Legible`
    * `Host.Legible.eq_of_record_eq`
    * `Host.legible_of_parseAll`
    * `Configurator.Legible`
    * `Configurator.Legible.eq_of_record_eq`
    * `Resource.written_of_ofReference`
    * `Resource.same_of_record_eq`
-/

------------------------------------------------------------
-- Lists with Separators
------------------------------------------------------------

namespace Keyspaces

namespace Text

variable {first second parts : List (List Char)}

/- Two lists with a separator between them are one list. -/
theorem intercalate_append
    (separator : List Char)
    (hFirst : first ≠ [])
    (hSecond : second ≠ []) :
    separator.intercalate (first ++ second) =
      separator.intercalate first ++ separator ++
        separator.intercalate second := by
  induction first with
  | nil => contradiction
  | cons part first ih =>
      cases first with
      | nil =>
          rw [List.singleton_append,
            List.intercalate_cons_of_ne_nil hSecond,
            List.intercalate_singleton]
      | cons next first =>
          have hRest := ih (List.cons_ne_nil _ _)
          rw [List.cons_append] at hRest
          rw [List.cons_append, List.cons_append,
            List.intercalate_cons_cons, hRest,
            List.intercalate_cons_cons]
          simp only [List.append_assoc]

/- What ends a separator may start each part instead. -/
theorem append_intercalate
    (separator lead : List Char)
    (hParts : parts ≠ []) :
    lead ++ (separator ++ lead).intercalate parts =
      separator.intercalate (parts.map (lead ++ ·)) := by
  induction parts with
  | nil => contradiction
  | cons part parts ih =>
      cases parts with
      | nil => simp [List.intercalate_singleton]
      | cons next parts =>
          have hRest := ih (List.cons_ne_nil _ _)
          rw [List.map_cons] at hRest
          rw [List.map_cons, List.map_cons,
            List.intercalate_cons_cons,
            List.intercalate_cons_cons, ← hRest]
          simp only [List.append_assoc]

end Text

end Keyspaces

------------------------------------------------------------
-- Records of Hosts
------------------------------------------------------------

namespace Keyspaces

namespace Host

open Text Number

/- The record of a host can be told from others in a list. -/
structure Legible (host : Host) : Prop where
  address : ',' ∉ host.address.toList
  port : ∃ n, host.port = .int n ∧ IsPort n

variable {host other : Host}

/- A record is an address, a colon and the text of a port. -/
theorem toList_record
    {n : Int}
    (hPort : host.port = .int n) :
    host.record.toList =
      host.address.toList ++ ':' :: (toString n).toList := by
  have hPlain : host.port.plain = toString n := by
    rw [hPort]
    rfl
  have hColon : ":".toList = [':'] := String.toList_ofList
  rw [record, hPlain, String.toList_append,
    String.toList_append, hColon, List.append_assoc]
  rfl

/- Such a host has a text. -/
theorem Legible.isWritable
    (h : host.Legible) : host.isWritable = true := by
  rcases h.port with ⟨n, hPort, hRange⟩
  have hFits : Setting.fits 32 n = true := by
    unfold IsPort at hRange
    simp [Setting.fits]
    omega
  unfold Host.isWritable Value.isWritable
  rw [hPort]
  exact Setting.isWritable_of_fits (by decide) hFits

/- There is no colon in the text of a port. -/
theorem colon_not_mem_toString (n : Int) :
    ':' ∉ (toString n).toList :=
  (Integer.denotes_toString n).not_mem rfl (by decide)

/- There is no comma in the record of such a host. -/
theorem Legible.comma_not_mem
    (h : host.Legible) : ',' ∉ host.record.toList := by
  rcases h.port with ⟨n, hPort, _⟩
  have hDigits : ',' ∉ (toString n).toList :=
    (Integer.denotes_toString n).not_mem rfl (by decide)
  rw [toList_record hPort, List.mem_append, List.mem_cons,
    not_or, not_or]
  exact ⟨h.address, by decide, hDigits⟩

/-
  The record of such a host determines it: whatever colons are
  in the address, the last one is in front of the port.
-/
theorem Legible.eq_of_record_eq
    (h : host.Legible)
    (hOther : other.Legible)
    (hRecord : host.record = other.record) :
    host = other := by
  rcases h.port with ⟨n, hPort, _⟩
  rcases hOther.port with ⟨m, hFound, _⟩
  have hCut :=
    cutLast?_append host.address.toList
      (colon_not_mem_toString n)
  rw [← toList_record hPort, hRecord, toList_record hFound,
    cutLast?_append _ (colon_not_mem_toString m)] at hCut
  simp only [Option.some.injEq, Prod.mk.injEq,
    String.toList_inj] at hCut
  rcases hCut with ⟨hAddress, hText⟩
  have hNumber := Integer.eq_of_toString_eq hText
  rcases host with ⟨_, _⟩
  rcases other with ⟨_, _⟩
  cases hPort
  cases hFound
  cases hAddress
  cases hNumber
  rfl

------------------------------------------------------------
-- Hosts That Are Read
------------------------------------------------------------

/- The address of a host is part of its text. -/
theorem Form.subset
    {cs address : List Char}
    {port : Option (List Char)}
    (h : Form cs address port) : address ⊆ cs := by
  intro c hMember
  cases h with
  | bracketed hPort => simp [inBrackets, hMember]
  | plain hOpen hAddress hPort => simp [hMember]
  | bare hOpening hClosing hAddress hPortless =>
      simp [hMember]

/- A text without a comma spells a host that is legible. -/
theorem Spells.legible
    {defaultPort : Int}
    {cs : List Char}
    (h : Spells defaultPort cs host)
    (hComma : ',' ∉ cs) : host.Legible := by
  have hPort := h.exists_port
  cases h with
  | @intro address port n hForm _ _ _ =>
      refine ⟨?_, hPort⟩
      rw [String.toList_ofList]
      exact mt (hForm.subset ·) hComma

/- There is no comma in an entry of a list of hosts. -/
theorem comma_not_mem_of_mem_entries
    {text : String}
    {entry : List Char}
    (hEntry : entry ∈ entries text) : ',' ∉ entry := by
  rw [entries, ← pieces_eq_splitOn] at hEntry
  rcases List.mem_map.mp hEntry with ⟨part, hPart, rfl⟩
  have hComma := not_mem_of_mem_pieces hPart
  rcases exists_strip isBlank part with
    ⟨left, right, _, _, hSplit⟩
  intro hMember
  rw [trimChars_eq_strip] at hMember
  apply hComma
  rw [hSplit]
  simp [hMember]

/- Hosts that are read are legible, and there are some. -/
theorem legible_of_parseAll
    {defaultPort : Int}
    {text : String}
    {hosts : List Host}
    (hHosts :
      parseAll (.text text) (.int defaultPort) = .ok hosts) :
    hosts ≠ [] ∧ ∀ host ∈ hosts, host.Legible := by
  rw [parseAll_eq_ok_iff] at hHosts
  constructor
  · rintro rfl
    rw [List.forall₂_nil_right_iff, entries,
      List.map_eq_nil_iff] at hHosts
    exact List.splitOn_ne_nil _ _ hHosts
  · intro host hHost
    have hMembers :
        List.Forall₂
          (fun entry host =>
            entry ∈ entries text ∧
              Spells defaultPort entry host)
          (entries text) hosts :=
      (List.forall₂_and_left _ _).mpr
        ⟨fun _ hEntry => hEntry, hHosts⟩
    rcases exists_left hMembers host hHost with
      ⟨entry, hEntry, hSpells⟩
    exact
      hSpells.legible (comma_not_mem_of_mem_entries hEntry)

end Host

end Keyspaces

------------------------------------------------------------
-- Records of Options
------------------------------------------------------------

namespace Keyspaces

namespace HostOption

open Number

variable {option : HostOption}
variable {value other : Value}

/- There is no comma in the record of an option's value. -/
theorem Admits.comma_not_mem
    (h : option.Admits value) :
    ',' ∉ value.record.toList := by
  unfold Admits at h
  split at h
  · rcases h with ⟨b, rfl⟩
    cases b <;> decide
  · rcases h with ⟨n, rfl, _⟩
    exact
      (Integer.denotes_toString n).not_mem rfl (by decide)
  · contradiction

/- The record of an option's value determines it. -/
theorem Admits.eq_of_record_eq
    (h : option.Admits value)
    (hOther : option.Admits other)
    (hRecord : value.record = other.record) :
    value = other := by
  unfold Admits at h hOther
  split at h
  case h_1 hDomain =>
    rw [hDomain] at hOther
    rcases h with ⟨a, rfl⟩
    rcases hOther with ⟨b, rfl⟩
    cases a <;> cases b <;>
      first
        | rfl
        | exact absurd hRecord (by decide)
  case h_2 bits hDomain =>
    rw [hDomain] at hOther
    rcases h with ⟨n, rfl, _⟩
    rcases hOther with ⟨m, rfl, _⟩
    exact congrArg Value.int (Integer.eq_of_toString_eq hRecord)
  case h_3 => contradiction

/- There is no comma in the name of an option. -/
theorem comma_not_mem_name (option : HostOption) :
    ',' ∉ option.name.toList := by
  cases option <;> simp [name]

end HostOption

end Keyspaces

------------------------------------------------------------
-- Records of Configurations
------------------------------------------------------------

namespace Keyspaces

namespace Configurator

/-
  The record of a configuration can be taken apart: there are
  hosts, these are legible, and each option is something that
  it can be.
-/
structure Legible (configurator : Configurator) : Prop where
  some : configurator.hosts ≠ []
  hosts : ∀ host ∈ configurator.hosts, host.Legible
  options :
    ∀ option : HostOption,
      option.Admits (configurator.option option)

/- The records of the hosts. -/
def hostParts
    (configurator : Configurator) : List (List Char) :=
  configurator.hosts.map fun host => host.record.toList

/- The records of the options, with a blank before each. -/
def optionParts
    (configurator : Configurator) : List (List Char) :=
  HostOption.all.map fun option =>
    [' '] ++ (configurator.optionRecord option).toList

/- The records that commas separate. -/
def parts (configurator : Configurator) : List (List Char) :=
  configurator.hostParts ++ configurator.optionParts

variable {configurator first second : Configurator}

theorem optionParts_ne_nil (configurator : Configurator) :
    configurator.optionParts ≠ [] :=
  List.cons_ne_nil _ _

theorem parts_ne_nil (configurator : Configurator) :
    configurator.parts ≠ [] :=
  List.append_ne_nil_of_right_ne_nil _
    configurator.optionParts_ne_nil

/- Hosts are recorded as their parts. -/
theorem toList_join_hosts (configurator : Configurator) :
    (Text.join ","
        (configurator.hosts.map Host.record)).toList =
      [','].intercalate configurator.hostParts := by
  have hComma : ",".toList = [','] := String.toList_ofList
  rw [Text.join, String.toList_intercalate, hComma,
    List.map_map]
  rfl

/- Options are recorded as their parts. -/
theorem toList_join_options (configurator : Configurator) :
    ' ' ::
        (Text.join ", "
          (HostOption.all.map
            configurator.optionRecord)).toList =
      [','].intercalate configurator.optionParts := by
  have hComma : ", ".toList = [','] ++ [' '] :=
    String.toList_ofList
  have hSome :
      (HostOption.all.map configurator.optionRecord).map
          String.toList ≠ [] :=
    List.cons_ne_nil _ _
  have hBlanks := Text.append_intercalate [','] [' '] hSome
  rw [List.map_map, List.map_map] at hBlanks
  rw [Text.join, String.toList_intercalate, hComma,
    List.map_map]
  exact hBlanks

/- A record is made of its parts and of what is around them. -/
theorem toList_record
    (hSome : configurator.hosts ≠ []) :
    configurator.record.toList =
      "HostConfigurator<hosts=".toList ++
        [','].intercalate configurator.parts ++ ['>'] := by
  have hComma : ", ".toList = [',', ' '] :=
    String.toList_ofList
  have hEnd : ">".toList = ['>'] := String.toList_ofList
  have hHosts : configurator.hostParts ≠ [] := by
    rwa [hostParts, ne_eq, List.map_eq_nil_iff]
  have hText : ∀ lead hosts options : String,
      (lead ++ hosts ++ ", " ++ options ++ ">").toList =
        lead.toList ++
          (hosts.toList ++ [','] ++ ' ' :: options.toList) ++
            ['>'] := by
    intro lead hosts options
    simp only [String.toList_append, hComma, hEnd,
      List.append_assoc, List.cons_append, List.nil_append]
  rw [parts,
    Text.intercalate_append _ hHosts
      configurator.optionParts_ne_nil,
    ← toList_join_options, ← toList_join_hosts]
  exact hText _ _ _

/- There is no comma in a part. -/
theorem Legible.comma_not_mem
    (h : configurator.Legible) :
    ∀ part ∈ configurator.parts, ',' ∉ part := by
  intro part hPart
  rcases List.mem_append.mp hPart with hHost | hOption
  · rcases List.mem_map.mp hHost with ⟨host, hOwn, rfl⟩
    exact (h.hosts host hOwn).comma_not_mem
  · rcases List.mem_map.mp hOption with ⟨option, _, rfl⟩
    have hName := HostOption.comma_not_mem_name option
    have hValue := (h.options option).comma_not_mem
    simp [optionRecord, hName, hValue]

/- Such a configuration has a record. -/
theorem Legible.isWritable
    (h : configurator.Legible) :
    configurator.isWritable = true := by
  unfold Configurator.isWritable
  rw [Bool.and_eq_true, List.all_eq_true, List.all_eq_true]
  constructor
  · intro host hHost
    exact (h.hosts host hHost).isWritable
  · intro option _
    exact (h.options option).isWritable

/- Legible hosts with the same records are the same. -/
theorem hosts_eq_of_map_record_eq
    {hosts others : List Host}
    (hHosts : ∀ host ∈ hosts, host.Legible)
    (hOthers : ∀ other ∈ others, other.Legible)
    (hRecords :
      hosts.map (fun host => host.record.toList) =
        others.map fun host => host.record.toList) :
    hosts = others := by
  induction hosts generalizing others with
  | nil =>
      rw [List.map_nil, eq_comm, List.map_eq_nil_iff]
        at hRecords
      rw [hRecords]
  | cons host hosts ih =>
      cases others with
      | nil => contradiction
      | cons other others =>
          rw [List.forall_mem_cons] at hHosts hOthers
          simp only [List.map_cons, List.cons.injEq,
            String.toList_inj] at hRecords
          rcases hRecords with ⟨hHead, hTail⟩
          rw [hHosts.1.eq_of_record_eq hOthers.1 hHead,
            ih hHosts.2 hOthers.2 hTail]

/- The record of a configuration determines it. -/
theorem Legible.eq_of_record_eq
    (hFirst : first.Legible)
    (hSecond : second.Legible)
    (hRecord : first.record = second.record) :
    first = second := by
  have hText := congrArg String.toList hRecord
  rw [toList_record hFirst.some, toList_record hSecond.some,
    List.append_left_inj, List.append_right_inj] at hText
  have hParts : first.parts = second.parts := by
    rw [← List.splitOn_intercalate ',' hFirst.comma_not_mem
        first.parts_ne_nil,
      hText,
      List.splitOn_intercalate ',' hSecond.comma_not_mem
        second.parts_ne_nil]
  have hLength :
      first.optionParts.length = second.optionParts.length := by
    rw [optionParts, optionParts, List.length_map,
      List.length_map]
  rcases List.append_inj' hParts hLength with
    ⟨hHosts, hOptions⟩
  have hSame :=
    hosts_eq_of_map_record_eq hFirst.hosts hSecond.hosts
      hHosts
  have hOption : first.option = second.option := by
    funext option
    have hOwn :=
      List.map_inj_left.mp hOptions option
        (HostOption.mem_all option)
    apply (hFirst.options option).eq_of_record_eq
      (hSecond.options option)
    simpa [optionRecord, String.toList_inj] using hOwn
  rcases first with ⟨_, _⟩
  rcases second with ⟨_, _⟩
  cases hSame
  cases hOption
  rfl

end Configurator

end Keyspaces

------------------------------------------------------------
-- Records of Resources
------------------------------------------------------------

namespace Keyspaces

namespace Resource

/- The configuration of a resource that is read is legible. -/
theorem legible_of_ofReference
    {conf : Config}
    {reference : Reference}
    {resource : Resource}
    (hResource : ofReference conf reference = .ok resource) :
    resource.configurator.Legible := by
  rcases exists_readAs hResource with
    ⟨text, port, _, hRead⟩
  rcases Config.read_defaultPort hRead.defaultPort with
    ⟨n, rfl⟩
  rcases Host.legible_of_parseAll hRead.hosts with
    ⟨hSome, hHosts⟩
  exact ⟨hSome, hHosts, hRead.admits⟩

/- The configuration of a resource has a record. -/
theorem written_of_ofReference
    {conf : Config}
    {reference : Reference}
    {resource : Resource}
    (hResource : ofReference conf reference = .ok resource) :
    resource.configurator.written =
      .ok resource.configurator.record :=
  if_pos (legible_of_ofReference hResource).isWritable

/-
  Resources whose configurations have the same record have the
  same hosts in the same order and the same options, and so
  the same options of clusters.
-/
theorem same_of_record_eq
    {conf settings : Config}
    {first second : Reference}
    {resource other : Resource}
    (hFirst : parse conf first.toValue = .ok resource)
    (hSecond : parse settings second.toValue = .ok other)
    (hRecord :
      resource.configurator.record =
        other.configurator.record) :
    resource.configurator.hosts = other.configurator.hosts ∧
      (∀ option,
        resource.configurator.option option =
          other.configurator.option option) ∧
        ∀ used : Config,
          ClusterOptions.ofConfigurator used
              resource.configurator =
            ClusterOptions.ofConfigurator used
              other.configurator := by
  have hSame :=
    (legible_of_ofReference hFirst).eq_of_record_eq
      (legible_of_ofReference hSecond) hRecord
  rw [hSame]
  exact ⟨rfl, fun _ => rfl, fun _ => rfl⟩

namespace Sample

/- A reference with some hosts. -/
def withHosts (hosts : String) : Reference :=
  ⟨none, none,
    [("hosts", .text hosts),
     ("clusterName", .text "C"),
     ("keyspace", .text "K")]⟩

/- The record of what is read from it. -/
def record (hosts : String) : String :=
  match parse .empty (withHosts hosts).toValue with
  | .ok resource => resource.configurator.record
  | .error _ => ""

theorem record_eq :
    record "a =>, ::1" = record "a =>:9042,[::1]:9042" := by
  decide +kernel

end Sample

/- Ports that are given are recorded as those that are not. -/
theorem same_of_record_eq_sample :
    ∃ resource other,
      parse .empty
            (Sample.withHosts "a =>, ::1").toValue =
          .ok resource ∧
        parse .empty
              (Sample.withHosts
                "a =>:9042,[::1]:9042").toValue =
            .ok other ∧
          resource.configurator.record =
              other.configurator.record ∧
            resource.configurator.hosts =
              other.configurator.hosts := by
  have hRead :
      ∃ resource other,
        parse .empty
              (Sample.withHosts "a =>, ::1").toValue =
            .ok resource ∧
          parse .empty
                (Sample.withHosts
                  "a =>:9042,[::1]:9042").toValue =
              .ok other :=
    ⟨_, _, rfl, rfl⟩
  rcases hRead with ⟨resource, other, hFirst, hSecond⟩
  have hRecord := Sample.record_eq
  rw [Sample.record, hFirst, Sample.record, hSecond]
    at hRecord
  exact
    ⟨resource, other, hFirst, hSecond, hRecord,
      (same_of_record_eq hFirst hSecond hRecord).1⟩

end Resource

end Keyspaces
