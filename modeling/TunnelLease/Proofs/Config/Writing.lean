import TunnelLease.Config.Load
import TunnelLease.Proofs.Settings.Writing
import TunnelLease.Proofs.Text.Integer

/-!
# Writing configurations

A configuration is written as the settings of its section.  It is loaded from there again,
with every character of its texts, as long as these fit into a line: no line end and no
blank at the ends, no comma in a reserved entry, and a limit that is not too long to be
read.
-/

namespace TunnelLease

namespace Config

/-- Reserved entries as they are written, with a comma and a blank between. -/
def joined (entries : List String) : List Char :=
  [',', ' '].intercalate (entries.map String.toList)

/-- The settings of a configuration, their values with every percent sign doubled. -/
def settings (config : Config) : List (List Char × List Char) := [
  ("ipv4_addr".toList, Settings.escape config.ipv4.toList),
  ("ipv6_addr".toList, Settings.escape config.ipv6.toList),
  ("reserved".toList, Settings.escape (joined config.reserved)),
  ("max_prefix_size".toList, Settings.escape (toString config.limit).toList)]

/-- The bytes of a settings file that says what a configuration says. -/
def written (config : Config) (lineEnd : List Char) (closed : Bool) : List UInt8 :=
  Settings.writtenFile lineEnd closed sectionName config.settings

/-- Whether an entry can stand in a list with commas between. -/
@[mk_iff]
structure IsEntry (entry : String) : Prop where
  occupied : entry ≠ ""
  writable : Settings.IsWritable entry.toList
  whole : ',' ∉ entry.toList

instance (entry : String) : Decidable (IsEntry entry) :=
  decidable_of_iff' _ (isEntry_iff entry)

/-- A configuration that can be written: its blocks fit into a line, its reserved entries
into a list, and its limit is not too long to be read. -/
@[mk_iff]
structure IsWritable (config : Config) : Prop where
  ipv4 : Settings.IsWritable config.ipv4.toList
  ipv6 : Settings.IsWritable config.ipv6.toList
  reserved : ∀ entry ∈ config.reserved, IsEntry entry
  limit : (Nat.toDigits 10 config.limit.natAbs).length ≤ Text.numeralLimit

instance (config : Config) : Decidable config.IsWritable :=
  decidable_of_iff' _ (isWritable_iff config)

theorem joined_cons_cons (first next : String) (later : List String) :
    joined (first :: next :: later) = first.toList ++ [',', ' '] ++ joined (next :: later) :=
  List.intercalate_cons_cons

theorem joined_ne_nil {first : String} (occupied : first ≠ "") (later : List String) :
    joined (first :: later) ≠ [] := by
  have written : first.toList ≠ [] := by simpa using occupied
  cases later with
  | nil => simpa [joined] using written
  | cons next later => simp [joined_cons_cons, written]

theorem isWritable_joined {reserved : List String}
    (isEntry : ∀ entry ∈ reserved, IsEntry entry) : Settings.IsWritable (joined reserved) := by
  induction reserved with
  | nil => decide
  | cons first later ih =>
      obtain ⟨isFirst, isLater⟩ := List.forall_mem_cons.mp isEntry
      cases later with
      | nil => simpa [joined] using isFirst.writable
      | cons next later =>
          have rest := ih isLater
          have comma : Settings.IsOneLine [',', ' '] := by decide
          have occupied : first.toList ≠ [] := by simpa using isFirst.occupied
          have following := joined_ne_nil (isLater next List.mem_cons_self).occupied later
          rw [joined_cons_cons]
          exact ⟨(isFirst.writable.single.append comma).append rest.single,
            isFirst.writable.trimmed.join rest.trimmed occupied following [',', ' ']⟩

/-- The blanks behind the commas belong to the entries that follow. -/
theorem joined_eq_intercalate (first : String) (later : List String) :
    joined (first :: later) =
      [','].intercalate (first.toList :: later.map fun entry => ' ' :: entry.toList) := by
  induction later generalizing first with
  | nil => rfl
  | cons next later ih =>
      rw [joined_cons_cons, ih, List.map_cons, List.intercalate_cons_cons]
      cases later <;> simp

/-- Parted at its commas and trimmed, the list gives back the entries. -/
theorem trim_splitOn_joined {first : String} {later : List String}
    (isEntry : ∀ entry ∈ first :: later, IsEntry entry) :
    ((joined (first :: later)).splitOn ',').map Text.trim = (first :: later).map String.toList := by
  obtain ⟨isFirst, isLater⟩ := List.forall_mem_cons.mp isEntry
  rw [joined_eq_intercalate, List.splitOn_intercalate ',' ?_ (List.cons_ne_nil _ _), List.map_cons,
    List.map_cons, isFirst.writable.trimmed.trim_eq, List.map_map]
  · congr 1
    refine List.map_congr_left fun entry member => ?_
    exact (isLater entry member).writable.trimmed.trim_blanks_append Text.isBlankText_space
  · rw [List.forall_mem_cons, List.forall_mem_map]
    exact ⟨isFirst.whole, fun entry member => by simp [(isLater entry member).whole]⟩

theorem entries_joined {reserved : List String} (isEntry : ∀ entry ∈ reserved, IsEntry entry) :
    entries (joined reserved) = reserved := by
  cases reserved with
  | nil => rfl
  | cons first later =>
      have kept : ∀ entry ∈ first :: later,
          (if entry.toList.isEmpty then none else some (String.ofList entry.toList)) =
            some entry := by
        intro entry member
        simp [(isEntry entry member).occupied]
      rw [entries, trim_splitOn_joined isEntry, List.filterMap_map]
      exact (List.filterMap_congr kept).trans List.filterMap_some

/-- The keys of a configuration. -/
def keys : List (List Char) :=
  ["ipv4_addr".toList, "ipv6_addr".toList, "reserved".toList, "max_prefix_size".toList]

theorem isKey_of_mem : ∀ key ∈ keys, Settings.IsKey key := by
  decide +kernel

theorem isWritable_toString (number : Int) :
    Settings.IsWritable (toString number).toList := by
  have visible {c : Char} (blank : Text.isBlank c = true) : c ∉ (toString number).toList := by
    intro member
    rw [Text.isBlank_of_mem_toString member] at blank
    cases blank
  exact ⟨⟨visible (by decide), visible (by decide)⟩,
    .of_none fun _ => Text.isBlank_of_mem_toString⟩

theorem IsWritable.isSection {config : Config} (writable : config.IsWritable) :
    Settings.IsSection sectionName config.settings where
  occupied := by decide
  single := by decide
  special := by decide
  keys setting member := isKey_of_mem setting.1 (List.mem_map_of_mem member)
  values := by
    simp only [settings, List.forall_mem_cons]
    exact ⟨writable.ipv4.escape, writable.ipv6.escape,
      (isWritable_joined writable.reserved).escape, (isWritable_toString config.limit).escape,
      fun _ member => absurd member List.not_mem_nil⟩
  distinct := (by decide : keys.Nodup)

/-- The document that a written configuration is read as. -/
def document (config : Config) : Settings.Document :=
  ⟨[sectionName], config.settings.map (Settings.Entry.ofSetting sectionName)⟩

theorem field_document {config : Config} (writable : config.IsWritable) {key : String}
    {value : List Char} (isValue : Settings.IsWritable value)
    (member : (key.toList, Settings.escape value) ∈ config.settings) (fallback : String) :
    field config.document key fallback = .ok value := by
  rw [field, document, Settings.value?_of_mem writable.isSection.distinct isValue member]
  exact congrArg Except.ok isValue.trimmed.trim_eq

/-- The document gives the configuration back. -/
theorem ofDocument_document {config : Config} (writable : config.IsWritable) :
    ofDocument config.document = .ok config := by
  have reserved : field config.document "reserved" "" = .ok (joined config.reserved) :=
    field_document writable (isWritable_joined writable.reserved) (by simp [settings]) ""
  have ipv4 : field config.document "ipv4_addr" default.ipv4 = .ok config.ipv4.toList :=
    field_document writable writable.ipv4 (by simp [settings]) default.ipv4
  have ipv6 : field config.document "ipv6_addr" default.ipv6 = .ok config.ipv6.toList :=
    field_document writable writable.ipv6 (by simp [settings]) default.ipv6
  have limit : field config.document "max_prefix_size" (toString default.limit) =
      .ok (toString config.limit).toList :=
    field_document writable (isWritable_toString config.limit) (by simp [settings]) _
  have present : config.document.hasSection sectionName = true := by
    simp [document, Settings.Document.hasSection]
  rw [ofDocument, if_pos present, ofSection, reserved, ipv4, ipv6, limit]
  simp only [bind, Except.bind, pure, Except.pure, String.ofList_toList,
    entries_joined writable.reserved, Text.readInteger?_toString writable.limit,
    Option.getD_some]

/-- A configuration that was written is loaded again, whatever characters its texts have and
in whichever way the lines of the file end. -/
theorem load_written {config : Config} (writable : config.IsWritable) {lineEnd : List Char}
    (ends : Settings.IsLineEnd lineEnd) (closed : Bool) {source : Source} {asked : Option String}
    (file : source.lookup (source.path asked) = .file (config.written lineEnd closed)) :
    load source asked = .ok config := by
  have read := Settings.readFile_writtenFile ends closed writable.isSection
  have said : ofBytes (config.written lineEnd closed) = .ok config := by
    rw [ofBytes, written, read]
    exact ofDocument_document writable
  rw [load, file]
  simp only [said]
  rfl

/-- Texts with delimiters, marks of comments and sections, references, blanks inside and
scalars of every width. -/
def punctuatedConfig : Config :=
  ⟨"[ipam] = #1; %(key)s: ü", "", ["fe80::1%eth0", "𝔘 = 100%", "; ]"], -4300⟩

example : (Settings.writtenLines sectionName punctuatedConfig.settings).map String.ofList =
    ["[ipam]", "ipv4_addr = [ipam] = #1; %%(key)s: ü", "ipv6_addr = ",
      "reserved = fe80::1%%eth0, 𝔘 = 100%%, ; ]", "max_prefix_size = -4300"] := by
  decide

theorem load_written_punctuated :
    let bytes := punctuatedConfig.written ['\r', '\n'] false
    let source : Source := ⟨fun _ => .file bytes, none, "ipam.conf"⟩
    punctuatedConfig.IsWritable ∧ Settings.IsLineEnd ['\r', '\n'] ∧
      source.lookup (source.path none) = .file bytes ∧
      load source none = .ok punctuatedConfig := by
  intro bytes source
  have writable : punctuatedConfig.IsWritable := by decide
  have file : source.lookup (source.path none) = .file bytes := rfl
  exact ⟨writable, .both, file, load_written writable .both false file⟩

end Config

end TunnelLease
