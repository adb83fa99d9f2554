import Mathlib.Tactic.Choose
import Amalgam.Proofs.Acceptance

namespace Amalgam.Toml.Value

mutual

def same : Value → Value → Bool
  | string text, string text' => text = text'
  | integer n, integer n' => n = n'
  | real x, real x' => x = x'
  | unreadable, unreadable => true
  | boolean b, boolean b' => b = b'
  | moment m, moment m' => m = m'
  | array ofHeaders items, array ofHeaders' items' => ofHeaders = ofHeaders' && sameItems items items'
  | table origin entries, table origin' entries' => origin = origin' && sameEntries entries entries'
  | _, _ => false

def sameItems : List Value → List Value → Bool
  | [], [] => true
  | item :: items, item' :: items' => item.same item' && sameItems items items'
  | _, _ => false

def sameEntries : List (String × Value) → List (String × Value) → Bool
  | [], [] => true
  | (key, value) :: entries, (key', value') :: entries' =>
    key = key' && value.same value' && sameEntries entries entries'
  | _, _ => false

end

mutual

theorem eq_of_same : ∀ {value value' : Value}, value.same value' = true → value = value'
  | array _ _, array _ _, found => by
    simp only [same, Bool.and_eq_true, decide_eq_true_eq] at found
    rw [found.1, eq_of_sameItems found.2]
  | table _ _, table _ _, found => by
    simp only [same, Bool.and_eq_true, decide_eq_true_eq] at found
    rw [found.1, eq_of_sameEntries found.2]
  | unreadable, value', found => by cases value' <;> first | rfl | cases found
  | string _, value', found | integer _, value', found | real _, value', found | boolean _, value', found
  | moment _, value', found => by
    cases value' <;> first | cases found | exact congrArg _ (of_decide_eq_true found)

theorem eq_of_sameItems : ∀ {items items' : List Value}, sameItems items items' = true → items = items'
  | [], [], _ => rfl
  | item :: items, item' :: items', found => by
    simp only [sameItems, Bool.and_eq_true] at found
    rw [eq_of_same found.1, eq_of_sameItems found.2]

theorem eq_of_sameEntries : ∀ {entries entries' : List (String × Value)},
    sameEntries entries entries' = true → entries = entries'
  | [], [], _ => rfl
  | (key, value) :: entries, (key', value') :: entries', found => by
    simp only [sameEntries, Bool.and_eq_true, decide_eq_true_eq] at found
    rw [found.1.1, eq_of_same found.1.2, eq_of_sameEntries found.2]

end

end Amalgam.Toml.Value

namespace Amalgam.Toml

/-- What a given text is parsed to is found by comparing. -/
theorem parse?_of_same {text : String} {entries : Entries}
    (found : (parse? text).any (Value.sameEntries · entries) = true) : parse? text = some entries := by
  cases parsed : parse? text with
  | none => simp [parsed] at found
  | some entries' =>
    rw [parsed, Option.any_some] at found
    rw [Value.eq_of_sameEntries found]

end Amalgam.Toml

namespace Amalgam.Settings

/-- What the value of a key has to be. -/
inductive Kind where
  | text
  | path
  | texts
  | terminator
  | offset

namespace Kind

def Content : Kind → Type
  | text => String
  | path => Path
  | texts => List String
  | terminator => Terminator
  | offset => Nat

/-- The value stands for this content. An offset has at most 64 bits. -/
def Denotes : (kind : Kind) → Toml.Value → kind.Content → Prop
  | text, value, content => value = .string content
  | path, value, content => ∃ text, value = .string text ∧ Path.ofString text = content
  | texts, value, content => ∃ ofHeaders, value = .array ofHeaders (List.map .string content)
  | terminator, value, content => value = .string (Terminator.name content)
  | offset, value, content => ∃ n : Nat, n < 18446744073709551616 ∧ value = .integer n ∧ n = content

def decode? : (kind : Kind) → Toml.Value → Option kind.Content
  | text => Toml.Value.string?
  | path => Toml.Value.path?
  | texts => Toml.Value.strings?
  | terminator => Terminator.ofValue?
  | offset => Toml.Value.offset?

end Kind

/-- The keys that are known, those of both sections with the section that they stand in. -/
inductive Key where
  | baseVariable
  | formatsDir
  | outputDir
  | subdir (role : Role)
  | files (role : Role)
  | output (role : Role)
  | dropIncludePrefixes (role : Role)
  | dropPatterns (role : Role)
  | dropMarkers
  | systemIncludes
  | throwPattern
  | diagnostic
  | raise
  | terminator
  | terminatorOffset

namespace Key

/-- The section of a key, if it stands in one. -/
def section? : Key → Option Role
  | baseVariable | formatsDir | outputDir => none
  | subdir role | files role | output role | dropIncludePrefixes role | dropPatterns role => some role
  | dropMarkers => some .header
  | systemIncludes | throwPattern | diagnostic | raise | terminator | terminatorOffset => some .implementation

/-- The key as it is written. Words are joined by hyphens at the top, and by underscores in the sections. -/
def name : Key → String
  | baseVariable => "base-env-var"
  | formatsDir => "formats-dir"
  | outputDir => "output-dir"
  | subdir _ => "subdir"
  | files _ => "files"
  | output _ => "output"
  | dropIncludePrefixes _ => "drop_include_prefixes"
  | dropPatterns _ => "drop_patterns"
  | dropMarkers => "drop_markers"
  | systemIncludes => "system_includes"
  | throwPattern => "throw_pattern"
  | diagnostic => "diagnostic"
  | raise => "raise"
  | terminator => "terminator"
  | terminatorOffset => "terminator_offset"

def kind : Key → Kind
  | baseVariable | output _ | throwPattern | diagnostic | raise => .text
  | formatsDir | outputDir | subdir _ => .path
  | files _ | dropIncludePrefixes _ | dropPatterns _ | dropMarkers | systemIncludes => .texts
  | terminator => .terminator
  | terminatorOffset => .offset

/-- What the settings have for a key. -/
def get : (key : Key) → Settings → key.kind.Content
  | baseVariable, settings => settings.baseVariable
  | formatsDir, settings => settings.formatsDir
  | outputDir, settings => settings.outputDir
  | subdir .header, settings => settings.header.subdir
  | subdir .implementation, settings => settings.implementation.subdir
  | files .header, settings => settings.header.files
  | files .implementation, settings => settings.implementation.files
  | output .header, settings => settings.header.output
  | output .implementation, settings => settings.implementation.output
  | dropIncludePrefixes .header, settings => settings.header.dropIncludePrefixes
  | dropIncludePrefixes .implementation, settings => settings.implementation.dropIncludePrefixes
  | dropPatterns .header, settings => settings.header.dropPatterns
  | dropPatterns .implementation, settings => settings.implementation.dropPatterns
  | dropMarkers, settings => settings.header.dropMarkers
  | systemIncludes, settings => settings.implementation.systemIncludes
  | throwPattern, settings => settings.implementation.throwPattern
  | diagnostic, settings => settings.implementation.diagnostic
  | raise, settings => settings.implementation.raise
  | terminator, settings => settings.implementation.terminator
  | terminatorOffset, settings => settings.implementation.terminatorOffset

end Key

/-- Settings from what they have for each key. -/
def ofContents (contents : (key : Key) → key.kind.Content) : Settings where
  baseVariable := contents .baseVariable
  formatsDir := contents .formatsDir
  outputDir := contents .outputDir
  header := {
    subdir := contents (.subdir .header)
    files := contents (.files .header)
    output := contents (.output .header)
    dropIncludePrefixes := contents (.dropIncludePrefixes .header)
    dropMarkers := contents .dropMarkers
    dropPatterns := contents (.dropPatterns .header) }
  implementation := {
    subdir := contents (.subdir .implementation)
    files := contents (.files .implementation)
    output := contents (.output .implementation)
    dropIncludePrefixes := contents (.dropIncludePrefixes .implementation)
    dropPatterns := contents (.dropPatterns .implementation)
    systemIncludes := contents .systemIncludes
    throwPattern := contents .throwPattern
    diagnostic := contents .diagnostic
    raise := contents .raise
    terminator := contents .terminator
    terminatorOffset := contents .terminatorOffset }

theorem get_ofContents (contents : (key : Key) → key.kind.Content) (key : Key) :
    key.get (ofContents contents) = contents key := by
  cases key with
  | subdir role | files role | output role | dropIncludePrefixes role | dropPatterns role => cases role <;> rfl
  | _ => rfl

/-- The entries of a section, or of the document itself. -/
def entriesOf (entries : Toml.Entries) : Option Role → Toml.Entries
  | none => entries
  | some role =>
    match entries.lookup role.name with
    | some (.table _ inner) => inner
    | _ => []

/-- The value that a document has for a key. -/
def Key.value? (key : Key) (entries : Toml.Entries) : Option Toml.Value :=
  (entriesOf entries key.section?).lookup key.name

/-- What the table of a document is taken to be. There is no such table if some number in it cannot be read,
whatever the key is. The two sections are tables, and the end of a throw is not given by a table. -/
structure IsPlain (entries : Toml.Entries) : Prop where
  readable : Toml.Value.entriesAreReadable entries = true
  sections : ∀ role value, entries.lookup (Role.name role) = some value →
    ∃ origin inner, value = .table origin inner
  terminator : ∀ origin inner, Key.terminator.value? entries ≠ some (.table origin inner)

namespace Key

/-- The settings have for the key what the document says, and the default if it says nothing. -/
def Holds (key : Key) (entries : Toml.Entries) (settings : Settings) : Prop :=
  match key.value? entries with
  | none => key.get settings = key.get {}
  | some value => key.kind.Denotes value (key.get settings)

/-- The document has a value for the key, and it stands for nothing. -/
def IsWrong (key : Key) (entries : Toml.Entries) : Prop :=
  ∃ value, key.value? entries = some value ∧ ∀ content, ¬ key.kind.Denotes value content

/-- How the key is read from a document. -/
def read? (key : Key) (entries : Toml.Entries) : Option key.kind.Content :=
  match key.value? entries with
  | none => some (key.get {})
  | some value => key.kind.decode? value

end Key

section Decoding

variable {entries : Toml.Entries}

theorem isReadable_of_mem (readable : Toml.Value.entriesAreReadable entries = true) {entry : String × Toml.Value}
    (member : entry ∈ entries) : entry.2.isReadable = true := by
  induction entries with
  | nil => cases member
  | cons first rest ih =>
    rw [Toml.Value.entriesAreReadable, Bool.and_eq_true] at readable
    rcases List.mem_cons.mp member with rfl | later
    · exact readable.1
    · exact ih readable.2 later

/-- A table that can be read stands for any structure. -/
theorem ofValue?_table (fields : List String) (origin : Toml.Origin)
    (readable : Toml.Value.entriesAreReadable entries = true) :
    Toml.Entries.ofValue? fields (.table origin entries) = some entries := by
  refine if_pos (List.all_eq_true.mpr fun entry member => ?_)
  obtain ⟨key, value⟩ := entry
  simp only [isReadable_of_mem readable member, Bool.or_true]

theorem IsPlain.entriesOf_readable (plain : IsPlain entries) (section? : Option Role) :
    Toml.Value.entriesAreReadable (entriesOf entries section?) = true := by
  cases section? with
  | none => exact plain.readable
  | some role =>
    cases found : entries.lookup role.name with
    | none => simp only [entriesOf, found, Toml.Value.entriesAreReadable]
    | some value =>
      obtain ⟨origin, inner, rfl⟩ := plain.sections role value found
      obtain ⟨before, behind, split, _⟩ := List.lookup_eq_some_iff.mp found
      have member : (role.name, Toml.Value.table origin inner) ∈ entries := by simp [split]
      have readable := isReadable_of_mem plain.readable member
      simpa only [entriesOf, found, Toml.Value.isReadable] using readable

/-- A section that is missing is read like an empty one. -/
theorem IsPlain.read_section {α : Type} (plain : IsPlain entries) (role : Role) {default : α}
    (decode : Toml.Value → Option α) (empty : decode (.table .header []) = some default) :
    ∃ origin, Toml.Entries.read entries role.name default decode =
      decode (.table origin (entriesOf entries (some role))) := by
  cases found : entries.lookup role.name with
  | none => exact ⟨.header, by simp only [Toml.Entries.read, entriesOf, found, empty]⟩
  | some value =>
    obtain ⟨origin, inner, rfl⟩ := plain.sections role value found
    exact ⟨origin, by simp only [Toml.Entries.read, entriesOf, found]⟩

theorem string?_eq_some_iff {value : Toml.Value} {text : String} :
    value.string? = some text ↔ value = .string text := by
  cases value <;> simp [Toml.Value.string?]

theorem path?_eq_some_iff {value : Toml.Value} {path : Path} :
    value.path? = some path ↔ ∃ text, value = .string text ∧ Path.ofString text = path := by
  simp only [Toml.Value.path?, Option.map_eq_some_iff, string?_eq_some_iff]

theorem strings?_eq_some_iff {value : Toml.Value} {texts : List String} :
    value.strings? = some texts ↔ ∃ ofHeaders, value = .array ofHeaders (texts.map .string) := by
  have all {items : List Toml.Value} : items.mapM Toml.Value.string? = some texts ↔ items = texts.map .string := by
    induction items generalizing texts with
    | nil => cases texts <;> simp
    | cons item items ih =>
      simp only [List.mapM_cons, Option.bind_eq_bind, Option.bind_eq_some_iff, string?_eq_some_iff, ih,
        Option.pure_def, Option.some.injEq]
      constructor
      · rintro ⟨text, rfl, rest, rfl, rfl⟩
        rfl
      · intro split
        cases texts with
        | nil => cases split
        | cons text texts =>
          cases split
          exact ⟨text, rfl, texts, rfl, rfl⟩
  cases value with
  | array ofHeaders items => simp [Toml.Value.strings?, all]
  | _ => simp [Toml.Value.strings?]

theorem offset?_eq_some_iff {value : Toml.Value} {offset : Nat} :
    value.offset? = some offset ↔ ∃ n : Nat, n < 18446744073709551616 ∧ value = .integer n ∧ n = offset := by
  cases value with
  | integer n =>
    simp only [Toml.Value.offset?, Option.ite_none_right_eq_some, Option.some.injEq, Toml.Value.integer.injEq]
    constructor
    · rintro ⟨bounds, same⟩
      exact ⟨offset, by omega, by omega, rfl⟩
    · rintro ⟨_, small, rfl, rfl⟩
      exact ⟨by omega, by omega⟩
  | _ => simp [Toml.Value.offset?]

theorem ofName?_eq_some_iff {name : String} {terminator : Terminator} :
    Terminator.ofName? name = some terminator ↔ name = terminator.name := by
  unfold Terminator.ofName?
  cases terminator with
  | lineOffset => simp
  | statementEnd =>
    have apart : Terminator.statementEnd.name ≠ Terminator.lineOffset.name := by decide
    simp only [ite_eq_iff, Option.some.injEq, reduceCtorEq, and_false, and_true, or_false, false_or,
      and_iff_right_iff_imp]
    rintro rfl
    exact apart

theorem Kind.decode?_eq_some_iff {kind : Kind} {value : Toml.Value} {content : kind.Content}
    (byName : kind = .terminator → ∀ origin inner, value ≠ .table origin inner) :
    kind.decode? value = some content ↔ kind.Denotes value content := by
  cases kind with
  | text => exact string?_eq_some_iff
  | path => exact path?_eq_some_iff
  | texts => exact strings?_eq_some_iff
  | offset => exact offset?_eq_some_iff
  | terminator =>
    cases value with
    | string name => exact ofName?_eq_some_iff.trans (Iff.of_eq (Toml.Value.string.injEq _ _)).symm
    | table origin inner => exact absurd rfl (byName rfl origin inner)
    | _ => simp [decode?, Denotes, Terminator.ofValue?]

/-- Only the end of a throw could be given by a table, and it is not. -/
theorem IsPlain.byName (plain : IsPlain entries) {key : Key} {value : Toml.Value}
    (found : key.value? entries = some value) :
    key.kind = .terminator → ∀ origin inner, value ≠ .table origin inner := by
  rintro isTerminator origin inner rfl
  cases key with
  | terminator => exact plain.terminator origin inner found
  | _ => cases isTerminator

theorem Key.read?_eq_some_iff (plain : IsPlain entries) {key : Key} {settings : Settings} :
    key.read? entries = some (key.get settings) ↔ key.Holds entries settings := by
  unfold read? Holds
  cases found : key.value? entries with
  | none => exact (Option.some.injEq _ _).to_iff.trans eq_comm
  | some value => exact Kind.decode?_eq_some_iff (plain.byName found)

theorem Key.read?_eq_none_iff (plain : IsPlain entries) {key : Key} :
    key.read? entries = none ↔ key.IsWrong entries := by
  unfold read? IsWrong
  cases found : key.value? entries with
  | none => simp
  | some value =>
    simp only [Option.some.injEq, exists_eq_left', Option.eq_none_iff_forall_ne_some, ne_eq,
      Kind.decode?_eq_some_iff (plain.byName found)]

theorem headerSettings_eq_some_iff (plain : IsPlain entries) (origin : Toml.Origin) {settings : Settings} :
    HeaderSettings.ofValue? (.table origin (entriesOf entries (some .header))) = some settings.header ↔
      ∀ key : Key, key.section? = some .header → key.read? entries = some (key.get settings) := by
  have readable := plain.entriesOf_readable (some .header)
  simp only [HeaderSettings.ofValue?, ofValue?_table _ _ readable, Option.bind_eq_bind, Option.bind_some,
    Option.bind_eq_some_iff, Option.pure_def, Option.some.injEq]
  constructor
  -- the chain of reads has one link for each key of the section, in the order of the fields
  · rintro ⟨_, subdir, _, files, _, output, _, prefixes, _, markers, _, patterns, same⟩ key inSection
    obtain ⟨_, _, _, header, implementation⟩ := settings
    cases same
    cases key with
    | subdir role => cases inSection; exact subdir
    | files role => cases inSection; exact files
    | output role => cases inSection; exact output
    | dropIncludePrefixes role => cases inSection; exact prefixes
    | dropMarkers => exact markers
    | dropPatterns role => cases inSection; exact patterns
    | _ => cases inSection
  · intro reads
    exact ⟨_, reads (.subdir .header) rfl, _, reads (.files .header) rfl, _, reads (.output .header) rfl,
      _, reads (.dropIncludePrefixes .header) rfl, _, reads .dropMarkers rfl,
      _, reads (.dropPatterns .header) rfl, rfl⟩

theorem implementationSettings_eq_some_iff (plain : IsPlain entries) (origin : Toml.Origin) {settings : Settings} :
    ImplementationSettings.ofValue? (.table origin (entriesOf entries (some .implementation))) =
        some settings.implementation ↔
      ∀ key : Key, key.section? = some .implementation → key.read? entries = some (key.get settings) := by
  have readable := plain.entriesOf_readable (some .implementation)
  simp only [ImplementationSettings.ofValue?, ofValue?_table _ _ readable, Option.bind_eq_bind, Option.bind_some,
    Option.bind_eq_some_iff, Option.pure_def, Option.some.injEq]
  constructor
  · rintro ⟨_, subdir, _, files, _, output, _, prefixes, _, patterns, _, includes, _, throwPattern, _, diagnostic,
      _, raise, _, terminator, _, offset, same⟩ key inSection
    obtain ⟨_, _, _, header, implementation⟩ := settings
    cases same
    cases key with
    | subdir role => cases inSection; exact subdir
    | files role => cases inSection; exact files
    | output role => cases inSection; exact output
    | dropIncludePrefixes role => cases inSection; exact prefixes
    | dropPatterns role => cases inSection; exact patterns
    | systemIncludes => exact includes
    | throwPattern => exact throwPattern
    | diagnostic => exact diagnostic
    | raise => exact raise
    | terminator => exact terminator
    | terminatorOffset => exact offset
    | _ => cases inSection
  · intro reads
    exact ⟨_, reads (.subdir .implementation) rfl, _, reads (.files .implementation) rfl,
      _, reads (.output .implementation) rfl, _, reads (.dropIncludePrefixes .implementation) rfl,
      _, reads (.dropPatterns .implementation) rfl, _, reads .systemIncludes rfl, _, reads .throwPattern rfl,
      _, reads .diagnostic rfl, _, reads .raise rfl, _, reads .terminator rfl, _, reads .terminatorOffset rfl, rfl⟩

/-- A document gives the settings that have for each key what is read for it. -/
theorem ofEntries?_eq_some_iff (plain : IsPlain entries) {settings : Settings} :
    ofEntries? entries = some settings ↔ ∀ key : Key, key.read? entries = some (key.get settings) := by
  obtain ⟨origin, readHeader⟩ := plain.read_section .header HeaderSettings.ofValue? rfl
  obtain ⟨origin', readImplementation⟩ := plain.read_section .implementation ImplementationSettings.ofValue? rfl
  simp only [ofEntries?, ofValue?_table _ _ plain.readable, Option.bind_eq_bind, Option.bind_some,
    Option.bind_eq_some_iff, Option.pure_def, Option.some.injEq]
  constructor
  · rintro ⟨_, base, _, formats, _, output, _, header, _, implementation, rfl⟩ key
    cases inSection : key.section? with
    | none =>
      cases key with
      | baseVariable => exact base
      | formatsDir => exact formats
      | outputDir => exact output
      | _ => cases inSection
    | some role =>
      cases role with
      | header =>
        refine (headerSettings_eq_some_iff plain origin).mp ?_ key inSection
        exact readHeader.symm.trans header
      | implementation =>
        refine (implementationSettings_eq_some_iff plain origin').mp ?_ key inSection
        exact readImplementation.symm.trans implementation
  · intro reads
    have header := (headerSettings_eq_some_iff plain origin).mpr fun key _ => reads key
    have implementation := (implementationSettings_eq_some_iff plain origin').mpr fun key _ => reads key
    exact ⟨_, reads .baseVariable, _, reads .formatsDir, _, reads .outputDir, _, readHeader.trans header,
      _, readImplementation.trans implementation, rfl⟩

theorem ofEntries?_eq_some_of_right (plain : IsPlain entries) (right : ∀ key : Key, ¬ key.IsWrong entries) :
    ∃ settings, ofEntries? entries = some settings := by
  have reads (key : Key) : ∃ content, key.read? entries = some content :=
    Option.ne_none_iff_exists'.mp fun unread => right key ((Key.read?_eq_none_iff plain).mp unread)
  -- the contents depend on their keys in type, so they are chosen all at once and put together after that
  choose contents reads using reads
  exact ⟨ofContents contents, (ofEntries?_eq_some_iff plain).mpr fun key => by rw [get_ofContents, reads]⟩

theorem ofEntries?_eq_none_of_wrong (plain : IsPlain entries) {key : Key} (wrong : key.IsWrong entries) :
    ofEntries? entries = none := by
  refine Option.eq_none_iff_forall_ne_some.mpr fun settings found => ?_
  have read := (ofEntries?_eq_some_iff plain).mp found key
  rw [(Key.read?_eq_none_iff plain).mpr wrong] at read
  cases read

/-- Documents of which the same is read for every key give the same settings. -/
theorem ofEntries?_congr {entries' : Toml.Entries} (plain : IsPlain entries) (plain' : IsPlain entries')
    (same : ∀ key : Key, key.read? entries' = key.read? entries) : ofEntries? entries' = ofEntries? entries := by
  refine Option.ext fun settings => ?_
  rw [ofEntries?_eq_some_iff plain, ofEntries?_eq_some_iff plain']
  simp only [same]

end Decoding

/-- Two documents have the same values, in any order, apart from one key of one section, or of the document itself.
The sections are compared by what stands in them. -/
def AgreeApart (section? : Option Role) (name : String) (entries entries' : Toml.Entries) : Prop :=
  ∀ other otherName, (other, otherName) ≠ (section?, name) →
    (∀ role, (other, otherName) ≠ (none, Role.name role)) →
    (entriesOf entries' other).lookup otherName = (entriesOf entries other).lookup otherName

theorem Key.eq_of_name {key other : Key} (sameSection : key.section? = other.section?)
    (sameName : key.name = other.name) : key = other := by
  cases key <;> cases other <;> simp_all [section?, name]

theorem Key.value?_of_agreeApart {section? : Option Role} {name : String} {entries entries' : Toml.Entries}
    (agree : AgreeApart section? name entries entries') {key : Key}
    (apart : (key.section?, key.name) ≠ (section?, name)) : key.value? entries' = key.value? entries := by
  -- no known key has the name of a section
  refine agree key.section? key.name apart fun role => ?_
  cases key <;> cases role <;> simp [Key.section?, Key.name, Role.name]

section Outcome

variable (path : Path) {text text' : String} {entries entries' : Toml.Entries}

theorem parse_of_parsed (parsed : Toml.parse? text = some entries) :
    parse path text = match ofEntries? entries with
      | none => .error (.parseSettings path)
      | some settings =>
        match settings.fault? with
        | none => .ok settings
        | some fault => .error (.invalidSetting fault) := by
  rw [parse, parsed, Option.bind_some]
  cases ofEntries? entries with
  | none => rfl
  | some settings => cases faulty : settings.fault? <;> simp only [faulty]

theorem parse_of_wrong (parsed : Toml.parse? text = some entries) (plain : IsPlain entries) {key : Key}
    (wrong : key.IsWrong entries) : parse path text = .error (.parseSettings path) := by
  rw [parse_of_parsed path parsed, ofEntries?_eq_none_of_wrong plain wrong]

/-- Without a wrong value, the text gives the defaults with the document over them, if these pass every check. -/
theorem parse_of_right (parsed : Toml.parse? text = some entries) (plain : IsPlain entries)
    (right : ∀ key : Key, ¬ key.IsWrong entries) :
    ∃ settings : Settings, (∀ other, (∀ key : Key, key.Holds entries other) ↔ other = settings) ∧
      parse path text = match settings.fault? with
        | none => .ok settings
        | some fault => .error (.invalidSetting fault) := by
  obtain ⟨settings, found⟩ := ofEntries?_eq_some_of_right plain right
  refine ⟨settings, fun other => ?_, ?_⟩
  · simp only [← Key.read?_eq_some_iff plain, ← ofEntries?_eq_some_iff plain, found, Option.some.injEq, eq_comm]
  · rw [parse_of_parsed path parsed, found]

theorem parse_congr (parsed : Toml.parse? text = some entries) (plain : IsPlain entries)
    (parsed' : Toml.parse? text' = some entries') (plain' : IsPlain entries')
    (same : ∀ key : Key, key.read? entries' = key.read? entries) : parse path text' = parse path text := by
  rw [parse_of_parsed path parsed, parse_of_parsed path parsed', ofEntries?_congr plain plain' same]

end Outcome

/-- A document fails to be decoded exactly if a known key has a wrong value. If none has, there are settings that have
for each key what the document says, or the default if it says nothing, and these are the only ones. They are the
outcome, if they pass every check. So the outcome stays the same if a key that is not known comes in or goes, and if a
key goes whose value is the default. -/
theorem parse_overlay (path : Path) {text : String} {entries : Toml.Entries} (parsed : Toml.parse? text = some entries)
    (plain : IsPlain entries) :
    (parse path text = .error (.parseSettings path) ↔ ∃ key : Key, key.IsWrong entries) ∧
    ((∀ key : Key, ¬ key.IsWrong entries) → ∃ settings : Settings,
      (∀ other, (∀ key : Key, key.Holds entries other) ↔ other = settings) ∧
      parse path text = match settings.fault? with
        | none => .ok settings
        | some fault => .error (.invalidSetting fault)) ∧
    ∀ text' entries', Toml.parse? text' = some entries' → IsPlain entries' →
      (∀ section? name, (∀ key : Key, (key.section?, key.name) ≠ (section?, name)) →
        AgreeApart section? name entries entries' → parse path text' = parse path text) ∧
      ∀ key : Key, key.Holds entries {} → key.value? entries' = none →
        AgreeApart key.section? key.name entries entries' → parse path text' = parse path text := by
  refine ⟨⟨fun failed => ?_, fun ⟨key, wrong⟩ => parse_of_wrong path parsed plain wrong⟩,
    parse_of_right path parsed plain,
    fun text' entries' parsed' plain' =>
      ⟨fun section? name unknown agree => ?_, fun key isDefault gone agree => ?_⟩⟩
  · refine not_forall_not.mp fun right => ?_
    obtain ⟨settings, _, outcome⟩ := parse_of_right path parsed plain right
    rw [failed] at outcome
    cases faulty : settings.fault? <;> simp [faulty] at outcome
  · refine parse_congr path parsed plain parsed' plain' fun key => ?_
    rw [Key.read?, Key.value?_of_agreeApart agree (unknown key), Key.read?]
  · refine parse_congr path parsed plain parsed' plain' fun other => ?_
    by_cases same : (other.section?, other.name) = (key.section?, key.name)
    · obtain rfl := Key.eq_of_name (congrArg Prod.fst same) (congrArg Prod.snd same)
      rw [(Key.read?_eq_some_iff plain).mpr isDefault, Key.read?, gone]
    · rw [Key.read?, Key.value?_of_agreeApart agree same, Key.read?]

def storedPath : Path := .ofString ".standalone.toml"

/-- A text that spells out a default. -/
def storedText : String :=
  "output-dir = \"out\"\n[implementation]\nterminator_offset = 2\n"

/-- A document with these entries behind the output directory in its section of the implementation. -/
def documentOf (inner : Toml.Entries) : Toml.Entries :=
  [("output-dir", .string "out"), ("implementation", .table .header inner)]

theorem isPlain_documentOf {inner : Toml.Entries} (readable : Toml.Value.entriesAreReadable inner = true)
    (missing : inner.lookup "terminator" = none) : IsPlain (documentOf inner) where
  readable := by simp [documentOf, Toml.Value.entriesAreReadable, Toml.Value.isReadable, readable]
  sections := by
    rintro (_ | _) value found
    · cases found
    · cases found
      exact ⟨_, _, rfl⟩
  terminator := by
    have unset : Key.terminator.value? (documentOf inner) = none := missing
    intro origin inner'
    rw [unset]
    exact nofun

theorem agreeApart_documentOf {name : String} {inner inner' : Toml.Entries}
    (same : ∀ other, other ≠ name → inner'.lookup other = inner.lookup other) :
    AgreeApart (some .implementation) name (documentOf inner) (documentOf inner') := by
  intro other otherName apart noSection
  cases other with
  | none =>
    have noImplementation : (otherName == "implementation") = false := by
      refine beq_eq_false_iff_ne.mpr fun same => noSection .implementation ?_
      rw [same, Role.name]
    simp only [entriesOf, documentOf, List.lookup_cons, noImplementation, List.lookup_nil]
  | some role =>
    cases role with
    | header => rfl
    | implementation => exact same otherName fun isName => apart (by rw [isName])

/-- The settings are the document over the defaults. The default may go, and an unknown key may come in. -/
theorem parse_overlay_stored :
    Toml.parse? storedText = some (documentOf [("terminator_offset", .integer 2)]) ∧
      (∀ key : Key, key.Holds (documentOf [("terminator_offset", .integer 2)]) { outputDir := .ofString "out" }) ∧
      parse storedPath storedText = .ok { outputDir := .ofString "out" } ∧
      parse storedPath "output-dir = \"out\"\n[implementation]\n" = parse storedPath storedText ∧
      parse storedPath (storedText ++ "extra = true\n") = parse storedPath storedText := by
  have parsed : Toml.parse? storedText = some (documentOf [("terminator_offset", .integer 2)]) :=
    Toml.parse?_of_same (by decide +kernel)
  have loaded : parse storedPath storedText = .ok { outputDir := .ofString "out" } :=
    parse_eq_ok_iff.mpr ⟨by decide +kernel, by decide⟩
  obtain ⟨failing, taken, unchanged⟩ := parse_overlay storedPath parsed (isPlain_documentOf rfl rfl)
  refine ⟨parsed, ?_, loaded, ?_, ?_⟩
  · have right (key : Key) : ¬ key.IsWrong (documentOf [("terminator_offset", .integer 2)]) := by
      intro wrong
      cases loaded.symm.trans (failing.mpr ⟨key, wrong⟩)
    obtain ⟨settings, only, outcome⟩ := taken right
    rw [loaded] at outcome
    cases faulty : settings.fault? with
    | none =>
      rw [faulty] at outcome
      exact (only _).mpr (Except.ok.inj outcome)
    | some fault =>
      rw [faulty] at outcome
      cases outcome
  · have parsed' : Toml.parse? "output-dir = \"out\"\n[implementation]\n" = some (documentOf []) :=
      Toml.parse?_of_same (by decide +kernel)
    refine (unchanged _ _ parsed' (isPlain_documentOf rfl rfl)).2 .terminatorOffset ⟨2, by decide, rfl, rfl⟩ rfl
      (agreeApart_documentOf fun other apart => ?_)
    have different : (other == "terminator_offset") = false := beq_eq_false_iff_ne.mpr apart
    rw [List.lookup_nil, List.lookup_cons, different, List.lookup_nil]
  · have parsed' : Toml.parse? (storedText ++ "extra = true\n") =
        some (documentOf [("terminator_offset", .integer 2), ("extra", .boolean true)]) :=
      Toml.parse?_of_same (by decide +kernel)
    refine (unchanged _ _ parsed' (isPlain_documentOf rfl rfl)).1 (some .implementation) "extra" (fun key same => ?_)
      (agreeApart_documentOf fun other apart => ?_)
    · cases key <;> simp [Key.name] at same
    · have different : (other == "extra") = false := beq_eq_false_iff_ne.mpr apart
      rw [List.lookup_cons, List.lookup_cons, different, List.lookup_cons]

end Amalgam.Settings
