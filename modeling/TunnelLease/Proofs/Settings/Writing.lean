import Mathlib.Data.List.Forall2
import Mathlib.Tactic.SplitIfs
import TunnelLease.Proofs.Settings.Escape
import TunnelLease.Proofs.Settings.Lines
import TunnelLease.Proofs.Text.Utf8
import TunnelLease.Settings.Reader

/-!
# Writing settings

A section with keys and values is written as a line with its name in brackets and one line
for each key.  The file is read as a document with this section and these entries, and a
key whose value was escaped has the text that was meant, whatever characters it has inside.
-/

namespace TunnelLease

namespace Settings

/-- A name or a value that a line can hold: on one line, without blanks at its ends. -/
@[mk_iff]
structure IsWritable (text : List Char) : Prop where
  single : IsOneLine text
  trimmed : Text.IsTrimmed text

instance (text : List Char) : Decidable (IsWritable text) :=
  decidable_of_iff' _ (isWritable_iff text)

theorem IsWritable.escape {text : List Char} (writable : IsWritable text) :
    IsWritable (escape text) where
  single := ⟨fun member => writable.single.noReturn (mem_escape member),
    fun member => writable.single.noFeed (mem_escape member)⟩
  trimmed := ⟨by rw [head?_escape]; exact writable.trimmed.first,
    by rw [getLast?_escape]; exact writable.trimmed.last⟩

/-- A key as it is read: in lower case, with no delimiter, and starting neither a comment
nor a section. -/
@[mk_iff]
structure IsKey (key : List Char) : Prop where
  occupied : key ≠ []
  writable : IsWritable key
  undivided : '=' ∉ key ∧ ':' ∉ key
  small : Text.toLower key = key
  noComment : key.head? ≠ some '#' ∧ key.head? ≠ some ';'
  noSection : key.head? ≠ some '['

instance (key : List Char) : Decidable (IsKey key) :=
  decidable_of_iff' _ (isKey_iff key)

def sectionLine (sectionName : List Char) : List Char :=
  '[' :: sectionName ++ [']']

/-- The line of a key and a value. -/
def settingLine (setting : List Char × List Char) : List Char :=
  setting.1 ++ [' ', '=', ' '] ++ setting.2

section Setting

variable {key value line : List Char}

/-- What stands behind the delimiter once the line is trimmed: the blank before an empty
value is gone. -/
def behindDelimiter (value : List Char) : List Char :=
  if value = [] then [] else ' ' :: value

/-- What is read on the line of a setting. -/
def settingContent (key value : List Char) : List Char :=
  key ++ [' '] ++ '=' :: behindDelimiter value

theorem trim_behindDelimiter (writable : IsWritable value) :
    Text.trim (behindDelimiter value) = value := by
  unfold behindDelimiter
  split_ifs with empty
  · rw [empty]
    rfl
  · exact writable.trimmed.trim_blanks_append Text.isBlankText_space

theorem isTrimmed_settingContent (isKey : IsKey key) (writable : IsWritable value) :
    Text.IsTrimmed (settingContent key value) := by
  unfold settingContent behindDelimiter
  split_ifs with empty
  · have sign : Text.IsTrimmed ['='] := by decide
    exact isKey.writable.trimmed.join sign isKey.occupied (List.cons_ne_nil _ _) [' ']
  · simpa using isKey.writable.trimmed.join writable.trimmed isKey.occupied empty [' ', '=', ' ']

theorem trim_settingLine (isKey : IsKey key) (writable : IsWritable value)
    (read : IsReadAs (settingLine (key, value)) line) :
    Text.trim line = settingContent key value := by
  obtain ⟨blanks, blank, rfl⟩ := read
  have trimmed := isTrimmed_settingContent isKey writable
  by_cases empty : value = []
  · have spaced : Text.IsBlankText (' ' :: blanks) :=
      List.forall_mem_cons.mpr ⟨by decide, blank⟩
    rw [← trimmed.trim_append_blanks spaced]
    simp [settingLine, settingContent, behindDelimiter, empty]
  · rw [← trimmed.trim_append_blanks blank]
    simp [settingLine, settingContent, behindDelimiter, empty]

theorem setting?_settingContent (isKey : IsKey key) (writable : IsWritable value) :
    setting? (settingContent key value) = some (key, value) := by
  have undivided : ∀ c ∈ key ++ [' '], (!isDelimiter c) = true := by
    intro c member
    rcases List.mem_append.mp member with inKey | isSpace
    · have noEquals : c ≠ '=' := ne_of_mem_of_not_mem inKey isKey.undivided.1
      have noColon : c ≠ ':' := ne_of_mem_of_not_mem inKey isKey.undivided.2
      simp [isDelimiter, noEquals, noColon]
    · rw [List.mem_singleton.mp isSpace]
      rfl
  have back : (settingContent key value).dropWhile (!isDelimiter ·) =
      '=' :: behindDelimiter value :=
    List.dropWhile_append_of_pos undivided
  have front : (settingContent key value).takeWhile (!isDelimiter ·) = key ++ [' '] := by
    rw [settingContent, List.takeWhile_append_of_pos undivided, List.takeWhile_cons_of_neg,
      List.append_nil]
    decide
  rw [setting?, back, front]
  simp only [Text.trimEnd_append_blanks key Text.isBlankText_space,
    isKey.writable.trimmed.trimEnd_eq, isKey.small, trim_behindDelimiter writable]

theorem sectionName?_of_isKey (isKey : IsKey key) (rest : List Char) :
    sectionName? (key ++ rest) = none := by
  obtain ⟨first, later, rfl⟩ := List.exists_cons_of_ne_nil isKey.occupied
  rw [List.cons_append, sectionName?]
  rintro text same
  exact isKey.noSection (congrArg some (List.cons.inj same).1)

end Setting

/-- The entry that is read from a setting. -/
def Entry.ofSetting (sectionName : List Char) (setting : List Char × List Char) : Entry :=
  ⟨sectionName, setting.1, [setting.2]⟩

/-- A line that starts with a character other than a blank, and with no comment, continues
no value. -/
theorem readLine_flush {line : List Char} {first : Char} (starts : line.head? = some first)
    (visible : Text.isBlank first = false) (noComment : first ≠ '#' ∧ first ≠ ';')
    (reading : Reading) (number : Nat) :
    readLine reading number line =
      readContent { reading with indent := 0 } number line (Text.trim line) := by
  obtain ⟨rest, rfl⟩ := List.head?_eq_some_iff.mp starts
  have flush : (first :: rest).takeWhile Text.isBlank = [] :=
    List.takeWhile_cons_of_neg (by simp [visible])
  have noMark := not_or.mpr noComment
  simp only [readLine, Text.trim_cons visible, flush, List.length_nil, Nat.not_lt_zero, and_false,
    if_false]
  rw [if_neg noMark]

theorem readContent_setting {reading : Reading} {sectionName key value content : List Char}
    (noSection : sectionName? content = none) (inside : reading.current = some sectionName)
    (parts : setting? content = some (key, value)) (occupied : key ≠ [])
    (fresh : ∀ entry ∈ reading.entries, entry.key ≠ key) (number : Nat) (line : List Char) :
    readContent reading number line content = .ok { reading with
      entries := reading.entries ++ [Entry.ofSetting sectionName (key, value)]
      continues := true } := by
  have named : key.isEmpty = false := by simpa using occupied
  have new : ¬ reading.entries.any fun entry =>
      entry.sectionName == sectionName && entry.key == key := by
    simp only [List.any_eq_true, Bool.and_eq_true, beq_iff_eq]
    rintro ⟨entry, member, _, same⟩
    exact fresh entry member same
  simp only [readContent, noSection, inside, parts, named, Bool.false_eq_true, if_false,
    Reading.add]
  rw [if_neg new]
  rfl

/-- A setting is read as an entry of the current section, which must not have its key yet. -/
theorem readLine_setting {reading : Reading} {sectionName key value line : List Char}
    (isKey : IsKey key) (writable : IsWritable value)
    (read : IsReadAs (settingLine (key, value)) line)
    (inside : reading.current = some sectionName)
    (fresh : ∀ entry ∈ reading.entries, entry.key ≠ key) (number : Nat) :
    readLine reading number line = .ok { reading with
      entries := reading.entries ++ [Entry.ofSetting sectionName (key, value)]
      continues := true
      indent := 0 } := by
  have trimmed := trim_settingLine isKey writable read
  have noSection : sectionName? (settingContent key value) = none := by
    rw [settingContent, List.append_assoc]
    exact sectionName?_of_isKey isKey _
  have parts := setting?_settingContent isKey writable
  obtain ⟨first, starts⟩ := Option.isSome_iff_exists.mp (List.isSome_head?.mpr isKey.occupied)
  have noComment : first ≠ '#' ∧ first ≠ ';' := by simpa [starts] using isKey.noComment
  have lineStarts : line.head? = some first := by
    obtain ⟨blanks, _, rfl⟩ := read
    simp [settingLine, List.head?_append, starts]
  rw [readLine_flush lineStarts (isKey.writable.trimmed.first first starts) noComment, trimmed]
  refine readContent_setting noSection ?_ parts isKey.occupied ?_ number line
  · exact inside
  · exact fresh

theorem sectionName?_sectionLine {sectionName : List Char} (occupied : sectionName ≠ []) :
    sectionName? (sectionLine sectionName) = some sectionName := by
  rw [sectionLine, List.cons_append, sectionName?, List.reverse_append, List.reverse_singleton,
    List.singleton_append, List.dropWhile_cons_of_neg (by decide)]
  simp [occupied]

/-- What has been read once a section has started. -/
def Reading.started (sectionName : List Char) : Reading :=
  { start with sections := [sectionName], current := some sectionName }

/-- The name in brackets starts a section. -/
theorem readLine_section {sectionName line : List Char} (occupied : sectionName ≠ [])
    (special : sectionName ≠ defaultSection) (read : IsReadAs (sectionLine sectionName) line)
    (number : Nat) :
    readLine Reading.start number line = .ok (.started sectionName) := by
  obtain ⟨blanks, blank, rfl⟩ := read
  have opening : Text.IsTrimmed ['['] := by decide
  have closing : Text.IsTrimmed [']'] := by decide
  have trimmed := (opening.join closing (List.cons_ne_nil _ _) (List.cons_ne_nil _ _)
    sectionName).trim_append_blanks blank
  change Text.trim (sectionLine sectionName ++ blanks) = sectionLine sectionName at trimmed
  rw [readLine_flush rfl (by decide) (by decide), trimmed, readContent,
    sectionName?_sectionLine occupied]
  simp [Reading.enter, Reading.start, Reading.started, special]

/-- Settings with distinct keys are read as entries, one after the other. -/
theorem readLines_settings {sectionName : List Char} {settings : List (List Char × List Char)}
    {lines : List (List Char)} (keys : ∀ setting ∈ settings, IsKey setting.1)
    (writable : ∀ setting ∈ settings, IsWritable setting.2)
    (distinct : (settings.map Prod.fst).Nodup)
    (read : List.Forall₂ (fun setting line => IsReadAs (settingLine setting) line) settings lines)
    {reading : Reading} (inside : reading.current = some sectionName)
    (fresh : ∀ entry ∈ reading.entries, entry.key ∉ settings.map Prod.fst) (number : Nat) :
    ∃ next, readLines reading number lines = .ok next ∧ next.sections = reading.sections ∧
      next.entries = reading.entries ++ settings.map (Entry.ofSetting sectionName) ∧
      next.flawed = reading.flawed := by
  induction read generalizing reading number with
  | nil => exact ⟨reading, rfl, rfl, (List.append_nil _).symm, rfl⟩
  | @cons setting line settings lines isRead _ ih =>
      obtain ⟨isKey, keys⟩ := List.forall_mem_cons.mp keys
      obtain ⟨isWritable, writable⟩ := List.forall_mem_cons.mp writable
      rw [List.map_cons] at distinct fresh
      obtain ⟨absent, distinct⟩ := List.nodup_cons.mp distinct
      obtain ⟨next, step, current, sections, entries, flawed⟩ : ∃ next,
          readLine reading number line = .ok next ∧ next.current = reading.current ∧
            next.sections = reading.sections ∧
            next.entries = reading.entries ++ [Entry.ofSetting sectionName setting] ∧
            next.flawed = reading.flawed :=
        ⟨_, readLine_setting isKey isWritable isRead inside
          (fun entry member same => fresh entry member (same ▸ List.mem_cons_self)) number,
          rfl, rfl, rfl, rfl⟩
      have stillFresh : ∀ entry ∈ next.entries, entry.key ∉ settings.map Prod.fst := by
        intro entry member
        rw [entries] at member
        rcases List.mem_append.mp member with old | new
        · exact fun repeated => fresh entry old (List.mem_cons_of_mem _ repeated)
        · rw [List.mem_singleton.mp new]
          exact absent
      obtain ⟨last, readOn, lastSections, lastEntries, lastFlawed⟩ :=
        ih keys writable distinct (current.trans inside) stillFresh (number + 1)
      refine ⟨last, ?_, lastSections.trans sections, ?_, lastFlawed.trans flawed⟩
      · rw [readLines, step]
        exact readOn
      · rw [lastEntries, entries, List.append_assoc]
        rfl

/-- The lines of a section with its settings. -/
def writtenLines (sectionName : List Char) (settings : List (List Char × List Char)) :
    List (List Char) :=
  sectionLine sectionName :: settings.map settingLine

/-- The bytes of a settings file with one section. -/
def writtenFile (lineEnd : List Char) (closed : Bool) (sectionName : List Char)
    (settings : List (List Char × List Char)) : List UInt8 :=
  Text.Utf8.encode (fileText lineEnd closed (writtenLines sectionName settings))

/-- A section that can be written: it has a name on one line, which is not that of the
default section, and distinct keys with values that a line can hold. -/
structure IsSection (sectionName : List Char) (settings : List (List Char × List Char)) :
    Prop where
  occupied : sectionName ≠ []
  single : IsOneLine sectionName
  special : sectionName ≠ defaultSection
  keys : ∀ setting ∈ settings, IsKey setting.1
  values : ∀ setting ∈ settings, IsWritable setting.2
  distinct : (settings.map Prod.fst).Nodup

theorem isOneLine_writtenLines {sectionName : List Char}
    {settings : List (List Char × List Char)} (isSection : IsSection sectionName settings) :
    ∀ line ∈ writtenLines sectionName settings, IsOneLine line ∧ line ≠ [] := by
  rw [writtenLines, List.forall_mem_cons, List.forall_mem_map]
  refine ⟨⟨?_, List.cons_ne_nil _ _⟩, fun setting member => ?_⟩
  · have opening : IsOneLine ['['] := by decide
    have closing : IsOneLine [']'] := by decide
    exact (opening.append isSection.single).append closing
  · have isKey := isSection.keys setting member
    have sign : IsOneLine [' ', '=', ' '] := by decide
    have isValue := isSection.values setting member
    refine ⟨(isKey.writable.single.append sign).append isValue.single, ?_⟩
    simp [settingLine]

/-- A written file is read as a document with the section and, in the order in which they
were written, the settings. -/
theorem readFile_writtenFile {lineEnd sectionName : List Char}
    {settings : List (List Char × List Char)} (ends : IsLineEnd lineEnd) (closed : Bool)
    (isSection : IsSection sectionName settings) :
    readFile (writtenFile lineEnd closed sectionName settings) =
      .ok ⟨[sectionName], settings.map (Entry.ofSetting sectionName)⟩ := by
  have lines := allLines_fileText ends closed (isOneLine_writtenLines isSection)
  obtain ⟨line, later, isLine, isLater, read⟩ := List.forall₂_cons_left_iff.mp lines
  rw [List.forall₂_map_left_iff] at isLater
  have inside : (Reading.started sectionName).current = some sectionName := rfl
  obtain ⟨last, readOn, sections, entries, flawed⟩ :=
    readLines_settings isSection.keys isSection.values isSection.distinct isLater inside
      (fun entry member => absurd member List.not_mem_nil) 2
  have readAll : readLines Reading.start 1 (line :: later) = .ok last := by
    rw [readLines, readLine_section isSection.occupied isSection.special isLine]
    exact readOn
  simp only [readFile, fileLines, writtenFile, Text.Utf8.decodeFile_encode, read, readAll, flawed,
    sections, entries]
  rfl

theorem value_ofSetting {setting : List Char × List Char} (writable : IsWritable setting.2)
    (sectionName : List Char) : (Entry.ofSetting sectionName setting).value = setting.2 := by
  rw [Entry.value, Entry.ofSetting, List.intercalate_singleton, writable.trimmed.trimEnd_eq]

/-- The document of a section has the value of each key. -/
theorem ownValue?_of_mem {sectionName key value : List Char}
    {settings : List (List Char × List Char)} (distinct : (settings.map Prod.fst).Nodup)
    (writable : IsWritable value) (member : (key, value) ∈ settings) :
    Document.ownValue? ⟨[sectionName], settings.map (Entry.ofSetting sectionName)⟩ sectionName
      key = some value := by
  have found : (settings.map (Entry.ofSetting sectionName)).find? (fun entry =>
      entry.sectionName == sectionName && entry.key == key) =
      some (Entry.ofSetting sectionName (key, value)) := by
    induction settings with
    | nil => cases member
    | cons setting settings ih =>
        obtain ⟨absent, distinct⟩ := List.nodup_cons.mp distinct
        rcases List.mem_cons.mp member with rfl | later
        · simp [Entry.ofSetting]
        · have other : setting.1 ≠ key := by
            rintro rfl
            exact absent (List.mem_map.mpr ⟨_, later, rfl⟩)
          rw [List.map_cons, List.find?_cons_of_neg (by simp [Entry.ofSetting, other])]
          exact ih distinct later
  rw [Document.ownValue?, found, Option.map_some, value_ofSetting writable]

/-- The value of a key is the text whose escaped form was written. -/
theorem value?_of_mem {sectionName key value : List Char}
    {settings : List (List Char × List Char)} (distinct : (settings.map Prod.fst).Nodup)
    (writable : IsWritable value) (member : (key, escape value) ∈ settings) :
    Document.value? ⟨[sectionName], settings.map (Entry.ofSetting sectionName)⟩ sectionName
      key = .ok (some value) := by
  rw [Document.value?, Document.rawValue?, ownValue?_of_mem distinct writable.escape member]
  simp only [Option.some_or]
  rw [referenceDepth, resolve_escape]
  rfl

end Settings

end TunnelLease
