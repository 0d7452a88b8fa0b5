import FillInStory.Proofs.Configuration
import FillInStory.Proofs.TomlLines
import FillInStory.Proofs.TomlWriting
import Mathlib.Data.Finset.Basic

/-! # Configurations that name some of the settings

A configuration may name any of the settings, in any order and among lines with unknown keys. It is read as the
settings that it names, merged with the standard ones. A value of the wrong kind for one of them makes it none,
whatever the other lines say.
-/

namespace FillInStory

/-- The settings that a configuration may name. -/
inductive Setting where
  | title
  | address
  | port
  | storiesDirectory
  | requireFields
  | skipStart
  | tls
  deriving DecidableEq, Repr

inductive Toml.Kind where
  | string
  | integer
  | boolean
  | float
  | dateTime
  | array
  | table
  deriving DecidableEq, Repr

def Toml.Value.kind : Toml.Value → Toml.Kind
  | .string _ => .string
  | .integer _ => .integer
  | .boolean _ => .boolean
  | .float => .float
  | .dateTime => .dateTime
  | .array => .array
  | .inlineTable => .table

namespace Setting

def key : Setting → Text
  | .title => "title"
  | .address => "http_addr"
  | .port => "http_port"
  | .storiesDirectory => "stories_dir"
  | .requireFields => "require_fields"
  | .skipStart => "skip_prefix"
  | .tls => "enable_tls"

def kind : Setting → Toml.Kind
  | .title | .address | .storiesDirectory | .skipStart => .string
  | .port => .integer
  | .requireFields | .tls => .boolean

def value? (config : Config) : Setting → Option Toml.Value
  | .title => some (.string config.title)
  | .address => some (.string config.httpAddress)
  | .port => some (.integer config.httpPort)
  | .storiesDirectory => config.storiesDirectory.map .string
  | .requireFields => some (.boolean config.requireFields)
  | .skipStart => some (.string config.skipStart)
  | .tls => some (.boolean config.enableTls)

theorem key_injective : Function.Injective key := by
  intro r s same
  cases r <;> cases s <;> first | rfl | (exact absurd same (by decide))

end Setting

namespace Config

/-- The chosen settings of a configuration, with the standard ones for the others. -/
def merged (config : Config) (chosen : Finset Setting) : Config where
  title := if .title ∈ chosen then config.title else standard.title
  httpAddress := if .address ∈ chosen then config.httpAddress else standard.httpAddress
  httpPort := if .port ∈ chosen then config.httpPort else standard.httpPort
  storiesDirectory := if .storiesDirectory ∈ chosen then config.storiesDirectory else standard.storiesDirectory
  requireFields := if .requireFields ∈ chosen then config.requireFields else standard.requireFields
  skipStart := if .skipStart ∈ chosen then config.skipStart else standard.skipStart
  enableTls := if .tls ∈ chosen then config.enableTls else standard.enableTls

/-- A line of a document that describes a configuration, with the name that its key begins with: it writes the
value of a setting, or it is any well-formed line with an unknown key. -/
inductive DescribingLine (config : Config) : Text → Text → Prop where
  | setting {s : Setting} {v : Toml.Value} {t : Text} (value : s.value? config = some v) (written : Toml.Written v t) :
      DescribingLine config s.key (s.key ++ " = " ++ t)
  | unknown {a : Toml.Assignment} {line : Text} (entry : Toml.Entry line a) (unknown : ∀ s : Setting, a.name ≠ s.key) :
      DescribingLine config a.name line

/-- A document describes the chosen settings of a configuration: it names each of them once, in any order, and
names none of the others. -/
def Describes (config : Config) (chosen : Finset Setting) (t : Text) : Prop :=
  ∃ names lines, List.Forall₂ (DescribingLine config) names lines ∧ names.Nodup ∧
    (∀ s : Setting, s ∈ chosen ↔ s.key ∈ names) ∧ Toml.Lines lines t

/-- A line gives a setting a value of the wrong kind, or the port a number that is no port. -/
inductive Misfit : Text → Prop where
  | kind {s : Setting} {v : Toml.Value} {line : Text} (entry : Toml.Entry line ⟨s.key, [], v⟩)
      (wrong : v.kind ≠ s.kind) : Misfit line
  | table {s : Setting} {first : Text} {others : List Text} {v : Toml.Value} {line : Text}
      (entry : Toml.Entry line ⟨s.key, first :: others, v⟩) : Misfit line
  | port {z : Int} {line : Text} (entry : Toml.Entry line ⟨Setting.port.key, [], .integer z⟩)
      (outside : z < 0 ∨ 65535 < z) : Misfit line
  | decimalPort {z : Int} (outside : z < 0 ∨ 65535 < z) :
      Misfit (Setting.port.key ++ " = " ++ Toml.integerText z)

/-! ## Lines that write a setting -/

theorem exists_cons_of_written {v : Toml.Value} {t : Text} (written : Toml.Written v t) :
    ∃ c rest, t = c :: rest ∧ c ≠ ' ' ∧ c ≠ '\t' := by
  cases written with
  | string spelled => exact ⟨'"', _, rfl, by decide, by decide⟩
  | integer z =>
    obtain ⟨c, rest, begins, number⟩ := Toml.exists_integerText_eq_cons z
    refine ⟨c, rest, begins, ?_, ?_⟩ <;> rintro rfl <;> revert number <;> decide
  | boolean b => cases b <;> exact ⟨_, _, rfl, by decide, by decide⟩

/-- A key without quotes is read up to the equals sign. -/
theorem readKey_of_bare {name : Text} (filled : name ≠ []) (bare : ∀ c ∈ name, Toml.isBareChar c) (t : Text) :
    Toml.readKey (name ++ ' ' :: '=' :: t) = some ([name], '=' :: t) := by
  have taken : (name ++ ' ' :: '=' :: t).takeWhile Toml.isBareChar = name := by
    rw [List.takeWhile_append_of_pos bare, List.takeWhile_cons_of_neg (by decide), List.append_nil]
  have dropped : (name ++ ' ' :: '=' :: t).dropWhile Toml.isBareChar = ' ' :: '=' :: t := by
    rw [List.dropWhile_append_of_pos bare, List.dropWhile_cons_of_neg (by decide)]
  obtain ⟨c, rest, rfl⟩ := List.exists_cons_of_ne_nil filled
  have first := bare c List.mem_cons_self
  have other {d : Char} (special : Toml.isBareChar d = false) : c ≠ d := by
    rintro rfl
    rw [special] at first
    cases first
  have unpadded : Toml.skipSpace (c :: rest ++ ' ' :: '=' :: t) = c :: rest ++ ' ' :: '=' :: t :=
    List.dropWhile_cons_of_neg (by simp [other (d := ' ') rfl, other (d := '\t') rfl])
  have part : Toml.simpleKey (c :: rest ++ ' ' :: '=' :: t) = some (c :: rest, ' ' :: '=' :: t) := by
    rw [Toml.simpleKey, if_pos (by simpa using first), taken, dropped]
    · exact fun _ same => other rfl (List.cons.inj same).1
    · exact fun _ same => other rfl (List.cons.inj same).1
  have parts : Toml.keyParts ((c :: rest ++ ' ' :: '=' :: t).length + 1) (c :: rest ++ ' ' :: '=' :: t) =
      some ([c :: rest], '=' :: t) := by
    rw [Toml.keyParts, unpadded, part]
    rfl
  rw [Toml.readKey, parts]
  rfl

theorem key_bare (s : Setting) : s.key ≠ [] ∧ ∀ c ∈ s.key, Toml.isBareChar c := by
  rw [← List.all_eq_true]
  cases s <;> decide

/-- The key of a setting is read up to the equals sign of its line. -/
theorem readKey_key (s : Setting) (t : Text) :
    Toml.readKey (Toml.skipSpace (s.key ++ " = " ++ t)) = some ([s.key], '=' :: ' ' :: t) := by
  obtain ⟨filled, bare⟩ := key_bare s
  have unpadded : Toml.skipSpace (s.key ++ " = " ++ t) = s.key ++ ' ' :: '=' :: ' ' :: t := by cases s <;> rfl
  rw [unpadded, readKey_of_bare filled bare]

/-- A line that writes a value for a setting is a well-formed line. -/
theorem entry_of_written (s : Setting) {v : Toml.Value} {t : Text} (written : Toml.Written v t)
    (fits : ∀ z, v = .integer z → Toml.InRange z) : Toml.Entry (s.key ++ " = " ++ t) ⟨s.key, [], v⟩ := by
  obtain ⟨c, rest, rfl, noSpace, noTab⟩ := exists_cons_of_written written
  have unpadded : Toml.skipSpace (' ' :: c :: rest) = c :: rest := by simp [Toml.skipSpace, noSpace, noTab]
  refine ⟨'=' :: ' ' :: c :: rest, ' ' :: c :: rest, [], readKey_key s _, rfl, ?_, [], [], rfl, by simp, Or.inl rfl⟩
  rw [unpadded]
  exact Toml.readValue_of_written written fits _

/-- A line with a number of more than 64 bits for a setting is refused, also before more lines. -/
theorem keyLine_eq_none (s : Setting) {z : Int} (large : ¬ Toml.InRange z) {after : List Text} {t : Text}
    (written : Toml.Lines ((s.key ++ " = " ++ Toml.integerText z) :: after) t) (document : Toml.Document) :
    Toml.keyLine document [] (Toml.skipSpace t) = none := by
  obtain ⟨c, rest, begins, noSpace, noTab⟩ := exists_cons_of_written (.integer z)
  have unpadded : Toml.skipSpace (' ' :: Toml.integerText z) = Toml.integerText z := by
    simp [begins, Toml.skipSpace, noSpace, noTab]
  have key := readKey_key s (Toml.integerText z)
  cases written with
  | last =>
    have refused : Toml.readValue Toml.nestingLimit (Toml.integerText z) = none :=
      (Toml.readValue_integerText_eq_none large _ []).1
    rw [Toml.keyLine, key]
    simp [Toml.afterChar, unpadded, refused]
  | @next _ _ more others =>
    have refused : Toml.readValue Toml.nestingLimit (Toml.integerText z ++ '\n' :: more) = none :=
      (Toml.readValue_integerText_eq_none large _ more).2
    rw [Toml.keyLine, Toml.skipSpace_append_newline, Toml.leavesLines_readKey key]
    have unpadded_ahead :
        Toml.skipSpace (' ' :: (Toml.integerText z ++ '\n' :: more)) = Toml.integerText z ++ '\n' :: more := by
      rw [← List.cons_append, Toml.skipSpace_append_newline, unpadded]
    simp [Toml.afterChar, unpadded_ahead, refused]

theorem inRange_of_value? {config : Config} (fits : config.httpPort ≤ 65535) {s : Setting} {z : Int}
    (value : s.value? config = some (.integer z)) : Toml.InRange z := by
  have large : 65535 ≤ Toml.integerLimit := by decide
  cases s <;> simp [Setting.value?] at value
  subst value
  unfold Toml.InRange
  omega

/-- A line that describes a configuration is well-formed, and if its name is the key of a setting, it gives that the
value of the configuration. -/
theorem DescribingLine.exists_entry {config : Config} (fits : config.httpPort ≤ 65535) {name line : Text}
    (describes : DescribingLine config name line) :
    ∃ a, Toml.Entry line a ∧ a.name = name ∧
      ∀ s : Setting, s.key = name → a.inner = [] ∧ s.value? config = some a.value := by
  cases describes with
  | @setting s v t value written =>
    refine ⟨_, entry_of_written s written ?_, rfl, fun r same => ?_⟩
    · rintro z rfl
      exact inRange_of_value? fits value
    · rw [Setting.key_injective same]
      exact ⟨rfl, value⟩
  | @unknown a line entry unknown => exact ⟨a, entry, rfl, fun s same => absurd same.symm (unknown s)⟩

theorem exists_entries {config : Config} (fits : config.httpPort ≤ 65535) {names lines : List Text}
    (describing : List.Forall₂ (DescribingLine config) names lines) :
    ∃ assignments, List.Forall₂ Toml.Entry lines assignments ∧ assignments.map Toml.Assignment.name = names ∧
      ∀ a ∈ assignments, ∀ s : Setting, s.key = a.name → a.inner = [] ∧ s.value? config = some a.value := by
  induction describing with
  | nil => exact ⟨[], .nil, rfl, by simp⟩
  | cons first _ ih =>
    obtain ⟨a, entry, named, value⟩ := first.exists_entry fits
    obtain ⟨assignments, entries, others, values⟩ := ih
    subst named
    exact ⟨a :: assignments, .cons entry entries, by rw [List.map_cons, others],
      List.forall_mem_cons.mpr ⟨value, values⟩⟩

/-- A document that describes the chosen settings has their values in it, and none for the other settings. -/
theorem Describes.exists_document {config : Config} (fits : config.httpPort ≤ 65535) {chosen : Finset Setting}
    {t : Text} (describes : Describes config chosen t) :
    ∃ document, Toml.parse? t = some document ∧
      ∀ s : Setting, if s ∈ chosen then ∃ v, s.value? config = some v ∧ document.root? s.key = some (.value v)
        else document.root? s.key = none := by
  obtain ⟨names, lines, describing, distinct, named, written⟩ := describes
  obtain ⟨assignments, entries, rfl, values⟩ := exists_entries fits describing
  obtain ⟨document, defined, given, others⟩ :=
    Toml.Document.exists_defineAll Dictionary.empty (fun _ _ _ => rfl) distinct
  refine ⟨document, by rw [Toml.parse?_of_lines written entries, defined], fun s => ?_⟩
  split_ifs with chosen
  · obtain ⟨a, member, same⟩ := List.mem_map.mp ((named s).mp chosen)
    obtain ⟨plain, value⟩ := values a member s same.symm
    exact ⟨a.value, value, same ▸ given a member plain⟩
  · rw [others s.key fun member => chosen ((named s).mpr member)]
    rfl

/-! ## Reading the settings -/

/-- A setting is its value in the document, or the standard one if it is not there. -/
theorem setting_eq {config : Config} {chosen : Finset Setting} {document : Toml.Document} {s : Setting}
    (root : if s ∈ chosen then ∃ v, s.value? config = some v ∧ document.root? s.key = some (.value v)
      else document.root? s.key = none)
    {α : Type} {kind : Toml.Value → Option α} {value : α}
    (reads : ∀ v, s.value? config = some v → kind v = some value) (otherwise : α) :
    setting document s.key kind otherwise = some (if s ∈ chosen then value else otherwise) := by
  unfold setting
  split_ifs at root ⊢
  · obtain ⟨v, present, defined⟩ := root
    rw [defined]
    exact reads v present
  · rw [root]

theorem portKind_natCast {port : Nat} (fits : port ≤ 65535) : portKind (.integer port) = some port := by
  have small : (port : Int) ≤ 65535 := by omega
  simp [portKind, portLimit, small]

/-- A document that describes the chosen settings is read as those, merged with the standard ones. -/
theorem parse?_of_describes {config : Config} (fits : config.httpPort ≤ 65535) {chosen : Finset Setting} {t : Text}
    (describes : Describes config chosen t) : parse? t = some (config.merged chosen) := by
  obtain ⟨document, parsed, roots⟩ := describes.exists_document fits
  have title : setting document "title" textKind standard.title =
      some (if .title ∈ chosen then config.title else standard.title) :=
    setting_eq (roots .title) (by rintro v ⟨⟩; rfl) _
  have address : setting document "http_addr" textKind standard.httpAddress =
      some (if .address ∈ chosen then config.httpAddress else standard.httpAddress) :=
    setting_eq (roots .address) (by rintro v ⟨⟩; rfl) _
  have port : setting document "http_port" portKind standard.httpPort =
      some (if .port ∈ chosen then config.httpPort else standard.httpPort) :=
    setting_eq (roots .port) (by rintro v ⟨⟩; exact portKind_natCast fits) _
  have directory : setting document "stories_dir" (fun v => (textKind v).map some) standard.storiesDirectory =
      some (if .storiesDirectory ∈ chosen then config.storiesDirectory else standard.storiesDirectory) := by
    refine setting_eq (roots .storiesDirectory) (fun v present => ?_) _
    obtain ⟨directory, named, rfl⟩ := Option.map_eq_some_iff.mp present
    rw [named]
    rfl
  have require : setting document "require_fields" truthKind standard.requireFields =
      some (if .requireFields ∈ chosen then config.requireFields else standard.requireFields) :=
    setting_eq (roots .requireFields) (by rintro v ⟨⟩; rfl) _
  have skip : setting document "skip_prefix" textKind standard.skipStart =
      some (if .skipStart ∈ chosen then config.skipStart else standard.skipStart) :=
    setting_eq (roots .skipStart) (by rintro v ⟨⟩; rfl) _
  have tls : setting document "enable_tls" truthKind standard.enableTls =
      some (if .tls ∈ chosen then config.enableTls else standard.enableTls) :=
    setting_eq (roots .tls) (by rintro v ⟨⟩; rfl) _
  rw [parse?, parsed, Option.bind_some, ofDocument?, title, address, port, directory, require, skip, tls]
  rfl

/-! ## Misfits -/

/-- What a document has for a setting that it makes fits the setting. -/
theorem exists_of_setting {document : Toml.Document} {key : Text} {α : Type} {kind : Toml.Value → Option α}
    {otherwise made : α} (reads : setting document key kind otherwise = some made) {d : Toml.Definition}
    (present : document.root? key = some d) : ∃ v, d = .value v ∧ kind v = some made := by
  unfold setting at reads
  rw [present] at reads
  cases d with
  | value v => exact ⟨v, rfl, reads⟩
  | table => cases reads
  | tables => cases reads

theorem kind_of_textKind {v : Toml.Value} {t : Text} (reads : textKind v = some t) : v.kind = .string := by
  cases v <;> first | rfl | cases reads

theorem kind_of_truthKind {v : Toml.Value} {b : Bool} (reads : truthKind v = some b) : v.kind = .boolean := by
  cases v <;> first | rfl | cases reads

theorem exists_of_portKind {v : Toml.Value} {n : Nat} (reads : portKind v = some n) :
    ∃ z, v = .integer z ∧ 0 ≤ z ∧ z ≤ 65535 := by
  cases v with
  | integer z =>
    dsimp only [portKind] at reads
    split_ifs at reads with within
    obtain ⟨low, high⟩ := Bool.and_eq_true_iff.mp within
    exact ⟨z, rfl, of_decide_eq_true low, of_decide_eq_true high⟩
  | _ => cases reads

/-- A document that makes settings has for each of them a value of its kind, and a port for the port. -/
theorem exists_of_ofDocument? {document : Toml.Document} {made : Config} (reads : ofDocument? document = some made)
    (s : Setting) {d : Toml.Definition} (present : document.root? s.key = some d) :
    ∃ v, d = .value v ∧ v.kind = s.kind ∧ ∀ z, v = .integer z → 0 ≤ z ∧ z ≤ 65535 := by
  unfold ofDocument? at reads
  obtain ⟨_, title, reads⟩ := Option.bind_eq_some_iff.mp reads
  obtain ⟨_, address, reads⟩ := Option.bind_eq_some_iff.mp reads
  obtain ⟨_, port, reads⟩ := Option.bind_eq_some_iff.mp reads
  obtain ⟨_, directory, reads⟩ := Option.bind_eq_some_iff.mp reads
  obtain ⟨_, require, reads⟩ := Option.bind_eq_some_iff.mp reads
  obtain ⟨_, skip, reads⟩ := Option.bind_eq_some_iff.mp reads
  obtain ⟨_, tls, -⟩ := Option.bind_eq_some_iff.mp reads
  have text {key otherwise made : Text} (reads : setting document key textKind otherwise = some made)
      (present : document.root? key = some d) :
      ∃ v, d = .value v ∧ v.kind = .string ∧ ∀ z, v = .integer z → 0 ≤ z ∧ z ≤ 65535 := by
    obtain ⟨v, rfl, accepted⟩ := exists_of_setting reads present
    exact ⟨v, rfl, kind_of_textKind accepted, by rintro z rfl; cases accepted⟩
  have truth {key : Text} {otherwise made : Bool} (reads : setting document key truthKind otherwise = some made)
      (present : document.root? key = some d) :
      ∃ v, d = .value v ∧ v.kind = .boolean ∧ ∀ z, v = .integer z → 0 ≤ z ∧ z ≤ 65535 := by
    obtain ⟨v, rfl, accepted⟩ := exists_of_setting reads present
    exact ⟨v, rfl, kind_of_truthKind accepted, by rintro z rfl; cases accepted⟩
  cases s with
  | title => exact text title present
  | address => exact text address present
  | port =>
    obtain ⟨v, rfl, accepted⟩ := exists_of_setting port present
    obtain ⟨z, rfl, within⟩ := exists_of_portKind accepted
    exact ⟨_, rfl, rfl, by rintro _ ⟨⟩; exact within⟩
  | storiesDirectory =>
    obtain ⟨v, rfl, accepted⟩ := exists_of_setting directory present
    obtain ⟨t, accepted, -⟩ := Option.map_eq_some_iff.mp accepted
    exact ⟨v, rfl, kind_of_textKind accepted, by rintro z rfl; cases accepted⟩
  | requireFields => exact truth require present
  | skipStart => exact text skip present
  | tls => exact truth tls present

section Misfits

variable {before after : List Text} {line t : Text}

/-- A line that gives a setting a table, a value of the wrong kind or no port makes no settings, whatever the other
lines say. -/
theorem parse?_eq_none_of_entry {s : Setting} {inner : List Text} {v : Toml.Value}
    (entry : Toml.Entry line ⟨s.key, inner, v⟩)
    (wrong : inner = [] → v.kind = s.kind → ∃ z, v = .integer z ∧ (z < 0 ∨ 65535 < z))
    (entries : ∀ other ∈ before, ∃ a, Toml.Entry other a) (written : Toml.Lines (before ++ line :: after) t) :
    parse? t = none := by
  refine Option.eq_none_iff_forall_ne_some.mpr fun made reads => ?_
  obtain ⟨document, parsed, reads⟩ := Option.bind_eq_some_iff.mp reads
  obtain ⟨d, present, value⟩ := entry.root?_of_parse? written entries parsed
  obtain ⟨w, rfl, kind, range⟩ := exists_of_ofDocument? reads s present
  dsimp only [Toml.Definition.value?] at value
  split_ifs at value with plain
  obtain rfl := Option.some.inj value
  obtain ⟨z, rfl, outside⟩ := wrong plain kind
  have within := range z rfl
  omega

/-- A misfit makes no settings, whatever the other lines say. -/
theorem parse?_eq_none_of_misfit (misfit : Misfit line) (entries : ∀ other ∈ before, ∃ a, Toml.Entry other a)
    (written : Toml.Lines (before ++ line :: after) t) : parse? t = none := by
  cases misfit with
  | kind entry wrong => exact parse?_eq_none_of_entry entry (fun _ right => absurd right wrong) entries written
  | table entry => exact parse?_eq_none_of_entry entry nofun entries written
  | port entry outside => exact parse?_eq_none_of_entry entry (fun _ _ => ⟨_, rfl, outside⟩) entries written
  | @decimalPort z outside =>
    by_cases small : Toml.InRange z
    · have entry := entry_of_written .port (.integer z) (by rintro _ ⟨⟩; exact small)
      exact parse?_eq_none_of_entry entry (fun _ _ => ⟨_, rfl, outside⟩) entries written
    · have begins : Toml.Begins (Setting.port.key ++ " = " ++ Toml.integerText z) := ⟨'h', _, rfl, by decide⟩
      have refused := Toml.parse?_eq_none begins written entries fun _ => keyLine_eq_none .port small
      rw [parse?, refused, Option.bind_none]

end Misfits

/-- A document that describes some settings of a configuration is read as those, with the standard ones for the
others and without a record, whatever lines with unknown names stand among them; the rules for loading stories are
the two settings for them. A line with a misfit among well-formed lines before it and any lines behind it makes
an error with the explanation of what is wrong. -/
theorem read_describes_or_misfit (explain : Text → Text) (config : Config) (fits : config.httpPort ≤ 65535)
    (chosen : Finset Setting) (t file : Text) :
    (Describes config chosen t →
      read explain t file = pure (.ok (config.merged chosen)) ∧
        (config.merged chosen).loadPolicy = ⟨(config.merged chosen).requireFields, (config.merged chosen).skipStart⟩) ∧
      ∀ before line after, (∀ other ∈ before, ∃ a, Toml.Entry other a) → Misfit line →
        Toml.Lines (before ++ line :: after) t →
          (read explain t file).value = .error (parseError file (explain t)) := by
  refine ⟨fun describes => ⟨?_, rfl⟩, fun before line after entries misfit written => ?_⟩
  · rw [read, parse?_of_describes fits describes]
  · rw [read, parse?_eq_none_of_misfit misfit entries written]
    rfl

/-- A configuration with a quote and a line feed in its title. -/
def quoting : Config := { standard with title := "a\"\n", httpPort := 9090 }

def quotingLines : List Text :=
  ["http_port = 9090", "extra.deep = [1, \"x\"] # note", "title = \"a\\\"\\u000A\""]

theorem entry_extra : Toml.Entry "extra.deep = [1, \"x\"] # note" ⟨"extra", ["deep"], .array⟩ :=
  ⟨"= [1, \"x\"] # note", " [1, \"x\"] # note", " # note", by decide +kernel, by decide +kernel, by decide +kernel,
    " ", "# note", rfl, by simp, Or.inr ⟨" note", rfl, List.all_eq_true.mp (by decide)⟩⟩

theorem spells_title : Toml.Spells quoting.title "a\\\"\\u000A" := by
  have small : Toml.HexDigit 0 '0' := ⟨by decide, Or.inl (by decide)⟩
  have large : Toml.HexDigit 10 'A' := ⟨by decide, Or.inr (by decide)⟩
  have lineFeed : Toml.HexNumber '\n'.toNat "000A" :=
    ⟨[0, 0, 0, 10], .cons small (.cons small (.cons small (.cons large .nil))), rfl⟩
  refine .cons (.plain (Or.inr (by decide)) (by decide) (by decide)) (.cons (.letter (by decide)) ?_)
  exact .cons (.short lineFeed rfl) .nil

theorem describes_quotingLines {t : Text} (written : Toml.Lines quotingLines t) :
    Describes quoting {.port, .title} t := by
  have decimal : ("http_port = 9090" : Text) = Setting.port.key ++ " = " ++ Toml.integerText 9090 := by decide +kernel
  have port : DescribingLine quoting "http_port" "http_port = 9090" := by
    rw [decimal]
    exact .setting (s := .port) rfl (.integer 9090)
  have extra : DescribingLine quoting "extra" "extra.deep = [1, \"x\"] # note" :=
    .unknown entry_extra fun s => by cases s <;> decide
  have title : DescribingLine quoting "title" "title = \"a\\\"\\u000A\"" :=
    .setting (s := .title) rfl (.string spells_title)
  exact ⟨["http_port", "extra", "title"], quotingLines, .cons port (.cons extra (.cons title .nil)), by decide,
    fun s => by cases s <;> decide, written⟩

/-- Two settings are named besides an unknown key, and one of them with a number that is no port. -/
theorem read_describes_or_misfit_quoting :
    quoting.httpPort ≤ 65535 ∧
      read vague "http_port = 9090\nextra.deep = [1, \"x\"] # note\ntitle = \"a\\\"\\u000A\"" "story.toml" =
        pure (.ok { standard with title := "a\"\n", httpPort := 9090 }) ∧
      (read vague "extra.deep = [1, \"x\"] # note\nhttp_port = 65536\n[" "story.toml").value =
        .error (parseError "story.toml" "no configuration") := by
  have fits : quoting.httpPort ≤ 65535 := by decide
  have reads (t : Text) := read_describes_or_misfit vague quoting fits {.port, .title} t "story.toml"
  refine ⟨fits, ?_, ?_⟩
  · exact ((reads _).1 (describes_quotingLines (.next _ (.next _ (.last _))))).1
  · have decimal : ("http_port = 65536" : Text) = Setting.port.key ++ " = " ++ Toml.integerText 65536 := by
      decide +kernel
    have misfit : Misfit "http_port = 65536" := by
      rw [decimal]
      exact .decimalPort (Or.inr (by decide))
    exact (reads _).2 ["extra.deep = [1, \"x\"] # note"] _ ["["] (List.forall_mem_singleton.mpr ⟨_, entry_extra⟩)
      misfit (.next _ (.next _ (.last _)))

end Config

end FillInStory
